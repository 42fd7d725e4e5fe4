import Wiring.Json.Limits
import Wiring.Proofs.Json.Values
set_option autoImplicit false

namespace Wiring

/-- A significand has 53 bits. -/
theorem nearestDouble_of_lt {n : Nat} (h : n < Nat.pow 2 53) : nearestDouble n = n := by
  have hl : n.log2 - 52 = 0 := by
    rcases Nat.eq_zero_or_pos n with rfl | hn
    · rfl
    · have := (Nat.log2_lt (Nat.ne_of_gt hn)).mpr h
      omega
  simp [nearestDouble, hl, Nat.mod_one]

namespace JsonNumber

theorem le_foldl_digits (n : Nat) (ds : List (Fin 10)) :
    n ≤ ds.foldl (fun n d => n * 10 + d.val) n := by
  induction ds generalizing n with
  | nil => exact Nat.le_refl n
  | cons d ds ih =>
    have := ih (n * 10 + d.val)
    rw [List.foldl_cons]
    omega

theorem accumulate_of_fits {n : Nat} {ds : List (Fin 10)}
    (h : ds.foldl (fun n d => n * 10 + d.val) n < UInt64.size) :
    accumulate n ds = (ds.foldl (fun n d => n * 10 + d.val) n, 0) := by
  induction ds generalizing n with
  | nil => rfl
  | cons d ds ih =>
    rw [List.foldl_cons] at h ⊢
    have hd : n * 10 + d.val < UInt64.size := Nat.lt_of_le_of_lt (le_foldl_digits _ ds) h
    rw [accumulate, if_pos hd, ih h]

theorem isFinite_of_lt {ds : List (Fin 10)} (h : Digits.value ds < Nat.pow 2 53) :
    isFinite ⟨false, ds, [], none⟩ = true := by
  have ha : accumulate 0 ds = (Digits.value ds, 0) :=
    accumulate_of_fits (Nat.lt_trans h (by decide))
  have hs : scientific ⟨false, ds, [], none⟩ = (Digits.value ds, 0) := by
    simp [scientific, ha, accumulate]
  have hb : Digits.value ds < doubleBound := Nat.lt_trans h (by decide +kernel)
  have h1 : nearestDouble 1 = 1 := nearestDouble_of_lt (by decide)
  simp [isFinite, hs, nearestDouble_of_lt h, h1, hb]

end JsonNumber

namespace Json

theorem IsText.isWithin {t : String} {x : Json} (h : IsText t x) (depth : Nat) :
    x.isWithin depth = true := by
  obtain ⟨text⟩ := h
  rw [Json.isWithin, JsonSymbol.decode?_eq_some_iff.mpr text]
  rfl

theorem IsWord.isWithin {w : UInt32} {x : Json} (h : IsWord w x) (depth : Nat) :
    x.isWithin depth = true := by
  obtain @⟨ds, value⟩ := h
  have hw : w.toNat < Nat.pow 2 53 := Nat.lt_trans w.toNat_lt (by decide)
  rw [Json.isWithin]
  exact JsonNumber.isFinite_of_lt (value ▸ hw)

theorem Named.areMembersWithin_iff {ms : List (List JsonSymbol × Json)} {fs : Fields}
    (h : Named ms fs) {depth : Nat} :
    areMembersWithin depth ms = true ↔ ∀ f ∈ fs, f.2.isWithin depth = true := by
  induction h with
  | nil => simp [areMembersWithin]
  | cons text _ ih => simp [areMembersWithin, JsonSymbol.decode?_eq_some_iff.mpr text, ih]

end Json
end Wiring
