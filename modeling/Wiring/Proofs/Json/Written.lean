import Wiring.Json.Writer
import Wiring.Proofs.Json.Documents
set_option autoImplicit false

namespace Wiring

theorem Digits.exists_lead (b : Nat) (hb : 1 < b) {n : Nat} (hn : n ≠ 0) :
    ∃ (d : Fin b) (ds : List (Fin b)), ofNat b hb n = d :: ds ∧ d.val ≠ 0 := by
  induction n using Nat.strongRecOn with
  | ind n ih =>
    rw [ofNat]
    split
    · exact ⟨_, _, rfl, hn⟩
    · next hl =>
      have hq : n / b ≠ 0 := Nat.ne_of_gt (Nat.div_pos (Nat.not_lt.mp hl) (by omega))
      obtain ⟨d, ds, h, hd⟩ := ih (n / b) (Nat.div_lt_self (by omega) hb) hq
      rw [h]
      exact ⟨d, _, rfl, hd⟩

namespace JsonSymbol

theorem spelled_unit {s : JsonSymbol} (h : s.rank < 0x10000) : s.Spelled (unit s.rank) := by
  refine .unit (Digits.hex?_char _) (Digits.hex?_char _) (Digits.hex?_char _)
    (Digits.hex?_char _) ?_
  simp only [Digits.value, List.foldl_cons, List.foldl_nil, Fin.val_ofNat]
  omega

theorem spelled_wire (s : JsonSymbol) : s.Spelled s.wire := by
  unfold wire
  split
  case h_8 c quote slash _ _ _ _ _ =>
    split
    · exact spelled_unit (s := .scalar c) (by simp only [rank]; omega)
    · exact .plain quote slash (by omega)
  case h_9 b => exact spelled_unit (s := .high b) (by simp only [rank]; omega)
  case h_10 b => exact spelled_unit (s := .low b) (by simp only [rank]; omega)
  all_goals exact .short (by decide)

theorem quoted_quote (s : List JsonSymbol) : Quoted s (quote s) := by
  refine ⟨s.flatMap wire, ?_, rfl⟩
  induction s with
  | nil => exact .nil
  | cons s ss ih => exact .cons s.spelled_wire ih

end JsonSymbol

theorem JsonNumber.whole_decimal (n : Nat) : Whole (Digits.decimal n) := by
  by_cases hn : n = 0
  · rw [hn, Digits.decimal, Digits.ofNat]
    exact .zero
  · obtain ⟨d, ds, h, hd⟩ := Digits.exists_lead 10 (by decide) hn
    rw [Digits.decimal, h]
    exact .cons fun h0 => hd (congrArg Fin.val h0)

theorem JsonNumber.spelled_ofNat (n : Nat) : (ofNat n).Spelled (ofNat n).wire := by
  simpa [ofNat, wire, sign] using Spelled.mk false (whole_decimal n) .absent .absent

namespace Json

theorem spelled_ofText (t : String) : (ofText t).Spelled (ofText t).wire :=
  .string (JsonSymbol.quoted_quote _)

theorem spelled_ofWord (n : UInt32) : (ofWord n).Spelled (ofWord n).wire :=
  .number (JsonNumber.spelled_ofNat _)

theorem isJsonGap_nil : IsJsonGap [] := nofun

theorem spelledName_quote (n : List JsonSymbol) :
    SpelledName n (JsonSymbol.quote n ++ [':']) :=
  .mk (JsonSymbol.quoted_quote n) isJsonGap_nil isJsonGap_nil

theorem spelledMembers_wire {ms : List (List JsonSymbol × Json)}
    (h : ∀ m ∈ ms, m.2.Spelled m.2.wire) : SpelledMembers ms (wireMembers ms) := by
  induction ms with
  | nil => exact .close
  | cons m ms ih =>
    obtain ⟨n, x⟩ := m
    have hx := h (n, x) List.mem_cons_self
    have hms := ih fun m hm => h m (List.mem_cons_of_mem _ hm)
    simpa [wireMembers] using
      SpelledMembers.next isJsonGap_nil (spelledName_quote n) hx isJsonGap_nil hms

theorem spelled_object {ms : List (List JsonSymbol × Json)}
    (h : ∀ m ∈ ms, m.2.Spelled m.2.wire) : (object ms).Spelled (object ms).wire := by
  cases ms with
  | nil => exact .emptyObject isJsonGap_nil
  | cons m ms =>
    obtain ⟨n, x⟩ := m
    have hx := h (n, x) List.mem_cons_self
    have hms := spelledMembers_wire fun m hm => h m (List.mem_cons_of_mem _ hm)
    simpa [wire] using Spelled.object isJsonGap_nil (spelledName_quote n) hx isJsonGap_nil hms

theorem spelled_ofFields {fs : List (String × Json)} (h : ∀ f ∈ fs, f.2.Spelled f.2.wire) :
    (ofFields fs).Spelled (ofFields fs).wire := by
  refine spelled_object fun m hm => ?_
  obtain ⟨f, hf, rfl⟩ := List.mem_map.mp hm
  exact h f hf

theorem read?_text {j : Json} (h : j.Spelled j.wire) : read? j.text = some j := by
  rw [read?_eq_some_iff, text, String.toList_ofList]
  simpa using Document.mk isJsonGap_nil h isJsonGap_nil

end Json
end Wiring
