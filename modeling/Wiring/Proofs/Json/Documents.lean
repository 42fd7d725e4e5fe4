import Wiring.Proofs.Json.Numbers
import Wiring.Proofs.Json.Symbols
set_option autoImplicit false

namespace Wiring

theorem skipSpace_gap {b : List Char} (h : IsJsonGap b) (cs : List Char) :
    skipSpace (b ++ cs) = skipSpace cs :=
  List.dropWhile_append_of_pos h

theorem skipSpace_cons {c : Char} (h : isJsonSpace c = false) (cs : List Char) :
    skipSpace (c :: cs) = c :: cs :=
  List.dropWhile_cons_of_neg (Bool.eq_false_iff.mp h)

theorem exists_gap (cs : List Char) : ∃ b, IsJsonGap b ∧ cs = b ++ skipSpace cs :=
  ⟨cs.takeWhile isJsonSpace, List.all_eq_true.mp List.all_takeWhile,
    List.takeWhile_append_dropWhile.symm⟩

theorem isDelimited_gap {b : List Char} (h : IsJsonGap b) {r : List Char} (hr : IsDelimited r) :
    IsDelimited (b ++ r) := by
  cases b with
  | nil => exact hr
  | cons c b =>
    rintro c' ⟨⟩
    exact .inl (h c List.mem_cons_self)

namespace Json

theorem Spelled.exists_cons {j : Json} {t : List Char} (h : j.Spelled t) :
    ∃ c t', t = c :: t' ∧ isJsonSpace c = false ∧ c ≠ ']' := by
  cases h with
  | number number =>
    obtain ⟨negative, whole, -, -⟩ := number
    cases negative with
    | true => exact ⟨'-', _, rfl, by decide, by decide⟩
    | false =>
      obtain ⟨d, r, hd⟩ := whole.exists_char _
      have space : ∀ d : Fin 10, isJsonSpace (Digits.char d) = false := by decide
      exact ⟨_, r, hd, space d, Digits.char_ne_of_decimal? (by decide) d⟩
  | string quoted =>
    obtain ⟨u, -, rfl⟩ := quoted
    exact ⟨_, _, rfl, by decide, by decide⟩
  | _ => exact ⟨_, _, rfl, by decide, by decide⟩

theorem Spelled.skipSpace_append {j : Json} {t : List Char} (h : j.Spelled t) (r : List Char) :
    skipSpace (t ++ r) = t ++ r := by
  obtain ⟨c, t', rfl, hc, -⟩ := h.exists_cons
  exact skipSpace_cons hc _

theorem SpelledName.skipSpace_append {n : List JsonSymbol} {s : List Char} (h : SpelledName n s)
    (r : List Char) : skipSpace (s ++ r) = s ++ r := by
  obtain ⟨⟨u, -, rfl⟩, -, -⟩ := h
  exact skipSpace_cons (by decide) _

/-- After a value inside a container comes white space, and then a character that ends the value. -/
theorem gap_follows {c : List Char} (hc : IsJsonGap c) {d : Char}
    (hd : d = ',' ∨ d = ']' ∨ d = '\x7d') (r : List Char) :
    IsDelimited (c ++ d :: r) ∧ skipSpace (c ++ d :: r) = d :: r := by
  constructor
  · exact isDelimited_gap hc fun _ e => .inr (Option.some.inj e ▸ hd)
  · rw [skipSpace_gap hc]
    exact skipSpace_cons (by rcases hd with rfl | rfl | rfl <;> decide) r

theorem SpelledItems.follows {xs : List Json} {c u : List Char} (h : SpelledItems xs u)
    (hc : IsJsonGap c) (r : List Char) :
    IsDelimited (c ++ (u ++ r)) ∧ skipSpace (c ++ (u ++ r)) = u ++ r := by
  cases h <;> exact gap_follows hc (by simp) _

theorem SpelledMembers.follows {ms : List (List JsonSymbol × Json)} {c u : List Char}
    (h : SpelledMembers ms u) (hc : IsJsonGap c) (r : List Char) :
    IsDelimited (c ++ (u ++ r)) ∧ skipSpace (c ++ (u ++ r)) = u ++ r := by
  cases h <;> exact gap_follows hc (by simp) _

theorem readName?_spelled {n : List JsonSymbol} {s : List Char} (h : SpelledName n s)
    (r : List Char) : readName? (s ++ r) = some (n, skipSpace r) := by
  obtain ⟨⟨u, hu, rfl⟩, before, after⟩ := h
  simp only [List.append_assoc, List.cons_append, List.nil_append, readName?,
    JsonSymbol.unquote?_spelledAll hu, Option.bind_eq_bind, Option.bind_some]
  rw [skipSpace_gap before, skipSpace_cons (by decide), ← skipSpace_gap after r]
  rfl

theorem takesOnly_name : TakesOnly readName? SpelledName := by
  intro cs r n h
  unfold readName? at h
  split at h
  · obtain ⟨⟨n', r₁⟩, hn, h⟩ := Option.bind_eq_some_iff.mp h
    dsimp only at h
    split at h
    · next r₂ hc =>
      cases h
      obtain ⟨u, hu, rfl⟩ := JsonSymbol.unquote?_eq_some_iff.mp hn
      obtain ⟨b, hb, e₁⟩ := exists_gap r₁
      obtain ⟨c, hc', e₂⟩ := exists_gap r₂
      refine ⟨_, .mk ⟨u, hu, rfl⟩ hb hc', ?_⟩
      rw [hc] at e₁
      simp [e₁, ← e₂]
    · cases h
  · cases h

theorem readValue?_number {fuel : Nat} {cs r : List Char} {n : JsonNumber}
    (h : JsonNumber.read? cs = some (n, r)) :
    readValue? (fuel + 1) cs = some (.number n, r) := by
  unfold readValue?
  split
  case h_7 => rw [h]; rfl
  all_goals cases h

theorem readValue?_array {fuel : Nat} {r r₁ r₂ : List Char} {x : Json} {xs : List Json}
    (hn : ∀ r', skipSpace r ≠ ']' :: r') (hx : readValue? fuel (skipSpace r) = some (x, r₁))
    (hxs : readItems? fuel (skipSpace r₁) = some (xs, r₂)) :
    readValue? (fuel + 1) ('[' :: r) = some (.array (x :: xs), r₂) := by
  rw [readValue?]
  split
  · next r' e => exact absurd e (hn r')
  · simp [hx, hxs]

theorem readValue?_object {fuel : Nat} {r r₁ r₂ r₃ : List Char} {n : List JsonSymbol} {x : Json}
    {ms : List (List JsonSymbol × Json)} (hn : readName? (skipSpace r) = some (n, r₁))
    (hx : readValue? fuel r₁ = some (x, r₂))
    (hms : readMembers? fuel (skipSpace r₂) = some (ms, r₃)) :
    readValue? (fuel + 1) ('\x7b' :: r) = some (.object ((n, x) :: ms), r₃) := by
  rw [readValue?]
  split
  · next r' e => rw [e] at hn; cases hn
  · simp [hn, hx, hms]

section
variable {fuel : Nat} (hv : TakesOnly (readValue? fuel) Spelled)
  (hi : TakesOnly (readItems? fuel) SpelledItems)
  (hm : TakesOnly (readMembers? fuel) SpelledMembers)
include hv

include hi in
theorem takesOnly_items : TakesOnly (readItems? (fuel + 1)) SpelledItems := by
  intro cs r xs h
  unfold readItems? at h
  split at h
  · cases h
    exact ⟨_, .close, rfl⟩
  · next r₁ =>
    obtain ⟨⟨x, r₂⟩, hx, h⟩ := Option.bind_eq_some_iff.mp h
    obtain ⟨⟨xs, r₃⟩, hxs, h⟩ := Option.bind_eq_some_iff.mp h
    cases h
    obtain ⟨b, hb, e⟩ := exists_gap r₁
    obtain ⟨t, ht, e₁⟩ := hv hx
    obtain ⟨c, hc, e₂⟩ := exists_gap r₂
    obtain ⟨u, hu, e₃⟩ := hi hxs
    rw [e, e₁, e₂, e₃]
    exact ⟨_, .next hb ht hc hu, by simp⟩
  · cases h

include hm in
theorem takesOnly_members : TakesOnly (readMembers? (fuel + 1)) SpelledMembers := by
  intro cs r ms h
  unfold readMembers? at h
  split at h
  · cases h
    exact ⟨_, .close, rfl⟩
  · next r₁ =>
    obtain ⟨⟨n, r₂⟩, hn, h⟩ := Option.bind_eq_some_iff.mp h
    obtain ⟨⟨x, r₃⟩, hx, h⟩ := Option.bind_eq_some_iff.mp h
    obtain ⟨⟨ms, r₄⟩, hms, h⟩ := Option.bind_eq_some_iff.mp h
    cases h
    obtain ⟨b, hb, e⟩ := exists_gap r₁
    obtain ⟨s, hs, e₁⟩ := takesOnly_name hn
    obtain ⟨t, ht, e₂⟩ := hv hx
    obtain ⟨c, hc, e₃⟩ := exists_gap r₃
    obtain ⟨u, hu, e₄⟩ := hm hms
    rw [e, e₁, e₂, e₃, e₄]
    exact ⟨_, .next hb hs ht hc hu, by simp⟩
  · cases h

include hi hm in
theorem takesOnly_value : TakesOnly (readValue? (fuel + 1)) Spelled := by
  intro cs r j h
  unfold readValue? at h
  -- by what the text starts with, in the reader's order
  split at h
  · cases h
    exact ⟨_, .null, rfl⟩
  · cases h
    exact ⟨_, .yes, rfl⟩
  · cases h
    exact ⟨_, .no, rfl⟩
  · obtain ⟨⟨s, r'⟩, hs, h⟩ := Option.bind_eq_some_iff.mp h
    cases h
    obtain ⟨t, ht, rfl⟩ := JsonSymbol.unquote?_eq_some_iff.mp hs
    exact ⟨_, .string ⟨t, ht, rfl⟩, by simp⟩
  · next r₁ =>
    obtain ⟨b, hb, e⟩ := exists_gap r₁
    split at h
    · next r₂ he =>
      cases h
      rw [e, he]
      exact ⟨_, .emptyArray hb, by simp⟩
    · obtain ⟨⟨x, r₂⟩, hx, h⟩ := Option.bind_eq_some_iff.mp h
      obtain ⟨⟨xs, r₃⟩, hxs, h⟩ := Option.bind_eq_some_iff.mp h
      cases h
      obtain ⟨t, ht, e₁⟩ := hv hx
      obtain ⟨c, hc, e₂⟩ := exists_gap r₂
      obtain ⟨u, hu, e₃⟩ := hi hxs
      rw [e, e₁, e₂, e₃]
      exact ⟨_, .array hb ht hc hu, by simp⟩
  · next r₁ =>
    obtain ⟨b, hb, e⟩ := exists_gap r₁
    split at h
    · next r₂ he =>
      cases h
      rw [e, he]
      exact ⟨_, .emptyObject hb, by simp⟩
    · obtain ⟨⟨n, r₂⟩, hn, h⟩ := Option.bind_eq_some_iff.mp h
      obtain ⟨⟨x, r₃⟩, hx, h⟩ := Option.bind_eq_some_iff.mp h
      obtain ⟨⟨ms, r₄⟩, hms, h⟩ := Option.bind_eq_some_iff.mp h
      cases h
      obtain ⟨s, hs, e₁⟩ := takesOnly_name hn
      obtain ⟨t, ht, e₂⟩ := hv hx
      obtain ⟨c, hc, e₃⟩ := exists_gap r₃
      obtain ⟨u, hu, e₄⟩ := hm hms
      rw [e, e₁, e₂, e₃, e₄]
      exact ⟨_, .object hb hs ht hc hu, by simp⟩
  · obtain ⟨⟨n, r'⟩, hn, h⟩ := Option.bind_eq_some_iff.mp h
    cases h
    obtain ⟨t, ht, rfl⟩ := JsonNumber.takesOnly_read hn
    exact ⟨_, .number ht, rfl⟩

end

/-- Soundness, by induction on the fuel: each reader calls the others with less. -/
theorem takesOnly (fuel : Nat) :
    TakesOnly (readValue? fuel) Spelled ∧ TakesOnly (readItems? fuel) SpelledItems ∧
      TakesOnly (readMembers? fuel) SpelledMembers := by
  induction fuel with
  | zero => exact ⟨nofun, nofun, nofun⟩
  | succ fuel ih =>
    obtain ⟨hv, hi, hm⟩ := ih
    exact ⟨takesOnly_value hv hi hm, takesOnly_items hv hi, takesOnly_members hv hm⟩

/-- Every spelling of at most `n` characters is read, when nothing follows that could belong
to it. -/
def TakesAll {α : Type} (n : Nat) (read : List Char → Option (α × List Char))
    (Spelled : α → List Char → Prop) : Prop :=
  ∀ ⦃a t r⦄, Spelled a t → t.length ≤ n → IsDelimited r → read (t ++ r) = some (a, r)

section
variable {fuel : Nat} (hv : TakesAll fuel (readValue? fuel) Spelled)
  (hi : TakesAll fuel (readItems? fuel) SpelledItems)
  (hm : TakesAll fuel (readMembers? fuel) SpelledMembers)
include hv

include hi in
theorem takesAll_items : TakesAll (fuel + 1) (readItems? (fuel + 1)) SpelledItems := by
  intro xs u r h hl hr
  cases h with
  | close => rfl
  | next before item after others =>
    simp only [List.length_cons, List.length_append] at hl
    obtain ⟨hd, hs⟩ := others.follows after r
    simp only [List.cons_append, List.append_assoc, readItems?, skipSpace_gap before,
      item.skipSpace_append, hv item (by omega) hd, hs, hi others (by omega) hr,
      Option.bind_eq_bind, Option.bind_some, Option.pure_def]

include hm in
theorem takesAll_members : TakesAll (fuel + 1) (readMembers? (fuel + 1)) SpelledMembers := by
  intro ms u r h hl hr
  cases h with
  | close => rfl
  | next before name value after others =>
    simp only [List.length_cons, List.length_append] at hl
    obtain ⟨hd, hs⟩ := others.follows after r
    simp only [List.cons_append, List.append_assoc, readMembers?, skipSpace_gap before,
      name.skipSpace_append, readName?_spelled name, value.skipSpace_append,
      hv value (by omega) hd, hs, hm others (by omega) hr, Option.bind_eq_bind, Option.bind_some,
      Option.pure_def]

include hi hm in
theorem takesAll_value : TakesAll (fuel + 1) (readValue? (fuel + 1)) Spelled := by
  intro j t r h hl hr
  cases h with
  | null | yes | no => rfl
  | number number => exact readValue?_number (JsonNumber.read?_spelled number hr)
  | string quoted =>
    obtain ⟨u, hu, rfl⟩ := quoted
    simp only [List.cons_append, List.append_assoc, List.nil_append, readValue?,
      JsonSymbol.unquote?_spelledAll hu, Option.bind_eq_bind, Option.bind_some, Option.pure_def]
  | emptyArray gap =>
    simp only [List.cons_append, List.append_assoc, List.nil_append, readValue?]
    rw [skipSpace_gap gap]
    rfl
  | array before first after others =>
    simp only [List.length_cons, List.length_append] at hl
    obtain ⟨hd, hs⟩ := others.follows after r
    have hx := hv first (by omega) hd
    have hxs := hi others (by omega) hr
    rw [← first.skipSpace_append, ← skipSpace_gap before] at hx
    rw [← hs] at hxs
    simp only [List.cons_append, List.append_assoc]
    refine readValue?_array (fun r' e => ?_) hx hxs
    -- an array that has an item does not look like the empty one
    rw [skipSpace_gap before, first.skipSpace_append] at e
    obtain ⟨c, t', rfl, -, hc⟩ := first.exists_cons
    exact hc (List.cons.inj e).1
  | emptyObject gap =>
    simp only [List.cons_append, List.append_assoc, List.nil_append, readValue?]
    rw [skipSpace_gap gap]
    rfl
  | object before name first after others =>
    simp only [List.length_cons, List.length_append] at hl
    obtain ⟨hd, hs⟩ := others.follows after r
    have hms := hm others (by omega) hr
    rw [← hs] at hms
    simp only [List.cons_append, List.append_assoc]
    refine readValue?_object ?_ (hv first (by omega) hd) hms
    rw [skipSpace_gap before, name.skipSpace_append, readName?_spelled name,
      first.skipSpace_append]

end

/-- Completeness, by induction on the fuel: each part of a value has fewer characters than the
value itself. -/
theorem takesAll (fuel : Nat) :
    TakesAll fuel (readValue? fuel) Spelled ∧ TakesAll fuel (readItems? fuel) SpelledItems ∧
      TakesAll fuel (readMembers? fuel) SpelledMembers := by
  induction fuel with
  | zero =>
    refine ⟨fun j t r h hl _ => ?_, fun xs u r h hl _ => ?_, fun ms u r h hl _ => ?_⟩
    · obtain ⟨c, t', rfl, -, -⟩ := h.exists_cons
      exact absurd hl (Nat.not_succ_le_zero _)
    · cases h <;> exact absurd hl (Nat.not_succ_le_zero _)
    · cases h <;> exact absurd hl (Nat.not_succ_le_zero _)
  | succ fuel ih =>
    obtain ⟨hv, hi, hm⟩ := ih
    exact ⟨takesAll_value hv hi hm, takesAll_items hv hi, takesAll_members hv hm⟩

theorem document_of_readAll? {cs : List Char} {j : Json} (h : readAll? cs = some j) :
    Document j cs := by
  unfold readAll? at h
  split at h
  · next j' r hj =>
    split at h
    · next hr =>
      cases h
      obtain ⟨b, hb, e⟩ := exists_gap cs
      obtain ⟨t, ht, e₁⟩ := (takesOnly _).1 hj
      obtain ⟨c, hc, e₂⟩ := exists_gap r
      rw [List.isEmpty_iff.mp hr, List.append_nil] at e₂
      rw [e, e₁, e₂]
      exact .mk hb ht hc
    · cases h
  · cases h

theorem Document.readAll? {cs : List Char} {j : Json} (h : Document j cs) :
    Json.readAll? cs = some j := by
  obtain @⟨b, t, c, before, value, after⟩ := h
  have hl : t.length ≤ (b ++ (t ++ c)).length + 1 := by simp only [List.length_append]; omega
  have hc : IsDelimited c := List.append_nil c ▸ isDelimited_gap after nofun
  have hs : skipSpace c = [] := List.append_nil c ▸ skipSpace_gap after []
  rw [Json.readAll?, skipSpace_gap before, value.skipSpace_append, (takesAll _).1 value hl hc]
  simp only [hs, List.isEmpty_nil, ↓reduceIte]

theorem read?_eq_some_iff {t : String} {j : Json} : read? t = some j ↔ Document j t.toList :=
  ⟨document_of_readAll?, Document.readAll?⟩

end Json
end Wiring
