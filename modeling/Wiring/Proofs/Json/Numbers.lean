import Wiring.Proofs.Json.Grammar
set_option autoImplicit false

/-!
Numbers against the grammar. A number has no closing token, so the reader goes on for as long as it
can: it takes every spelling that something else than a number's character follows (`read?_spelled`),
and it takes nothing but spellings (`takesOnly_read`).
-/

namespace Wiring

theorem Digits.decimal?_eq_some_iff {c : Char} {d : Fin 10} :
    decimal? c = some d ↔ c = char d := by
  constructor
  · intro h
    unfold decimal? at h
    split at h
    · next hc =>
      obtain rfl := Option.some.inj h
      rw [char, if_pos (by omega), show 48 + (c.toNat - 48) = c.toNat by omega, Char.ofNat_toNat]
    · cases h
  · rintro rfl
    exact decimal?_char d

theorem Digits.char_ne_of_decimal? {c : Char} (h : decimal? c = none) (d : Fin 10) :
    char d ≠ c := by
  rintro rfl
  rw [decimal?_char] at h
  cases h

/-- The end of the text, or a character that may come after a value. -/
def IsDelimited (r : List Char) : Prop :=
  ∀ c ∈ r.head?, isJsonSpace c = true ∨ c = ',' ∨ c = ']' ∨ c = '\x7d'

namespace JsonNumber

def NoDigit (r : List Char) : Prop := ∀ c ∈ r.head?, Digits.decimal? c = none

theorem noDigit_cons {c : Char} (h : Digits.decimal? c = none) (r : List Char) :
    NoDigit (c :: r) := by
  rintro c' ⟨⟩
  exact h

theorem not_mem_of_isDelimited {r : List Char} (h : IsDelimited r) :
    NoDigit r ∧ r.head? ≠ some '.' ∧ r.head? ≠ some 'e' ∧ r.head? ≠ some 'E' := by
  cases r with
  | nil => exact ⟨nofun, nofun, nofun, nofun⟩
  | cons c r =>
    have hc : c = ' ' ∨ c = '\n' ∨ c = '\r' ∨ c = '\t' ∨ c = ',' ∨ c = ']' ∨ c = '\x7d' := by
      simpa [isJsonSpace, or_assoc] using h c rfl
    rcases hc with rfl | rfl | rfl | rfl | rfl | rfl | rfl <;>
      exact ⟨noDigit_cons (by decide) r, nofun, nofun, nofun⟩

theorem takeDigits_map {r : List Char} (hr : NoDigit r) (ds : List (Fin 10)) :
    takeDigits (ds.map Digits.char ++ r) = (ds, r) := by
  induction ds with
  | nil =>
    cases r with
    | nil => rfl
    | cons c r => simp [takeDigits, hr c rfl]
  | cons d ds ih => simp [takeDigits, Digits.decimal?_char, ih]

theorem eq_takeDigits (cs : List Char) :
    cs = (takeDigits cs).1.map Digits.char ++ (takeDigits cs).2 := by
  induction cs with
  | nil => rfl
  | cons c cs ih =>
    cases h : Digits.decimal? c with
    | none => simp [takeDigits, h]
    | some d => simp [takeDigits, h, ← ih, ← Digits.decimal?_eq_some_iff.mp h]

theorem digits?_map {ds : List (Fin 10)} (hds : ds ≠ []) {r : List Char} (hr : NoDigit r) :
    digits? (ds.map Digits.char ++ r) = some (ds, r) := by
  rw [digits?, takeDigits_map hr]
  cases ds with
  | nil => exact absurd rfl hds
  | cons d ds => rfl

theorem of_digits? {cs r : List Char} {ds : List (Fin 10)} (h : digits? cs = some (ds, r)) :
    ds ≠ [] ∧ cs = ds.map Digits.char ++ r := by
  have he := eq_takeDigits cs
  unfold digits? at h
  split at h
  · cases h
  · next d ds' r' ht =>
    cases h
    rw [ht] at he
    exact ⟨List.cons_ne_nil _ _, he⟩

theorem whole?_map {ds : List (Fin 10)} (h : Whole ds) {r : List Char} (hr : NoDigit r) :
    whole? (ds.map Digits.char ++ r) = some (ds, r) := by
  cases h with
  | zero => rfl
  | @cons d ds lead =>
    have hd : Digits.char d ≠ '0' := by decide +revert
    rw [List.map_cons, List.cons_append, whole?.eq_2 _ fun r' e => hd (List.cons.inj e).1]
    exact digits?_map (List.cons_ne_nil d ds) hr

theorem of_whole? {cs r : List Char} {ds : List (Fin 10)} (h : whole? cs = some (ds, r)) :
    Whole ds ∧ cs = ds.map Digits.char ++ r := by
  unfold whole? at h
  split at h
  · cases h
    exact ⟨.zero, rfl⟩
  · next hz =>
    obtain ⟨hds, rfl⟩ := of_digits? h
    cases ds with
    | nil => exact absurd rfl hds
    | cons d ds => exact ⟨.cons fun h0 => hz (ds.map Digits.char ++ r) (h0 ▸ rfl), rfl⟩

theorem fraction?_spelled {fs : List (Fin 10)} {t : List Char} (h : SpelledFraction fs t)
    {r : List Char} (hr : NoDigit r) (hp : r.head? ≠ some '.') :
    fraction? (t ++ r) = some (fs, r) := by
  cases h with
  | absent => exact fraction?.eq_2 r fun r' e => hp (e ▸ rfl)
  | present nonempty => exact digits?_map nonempty hr

theorem takesOnly_fraction : TakesOnly fraction? SpelledFraction := by
  intro cs r fs h
  unfold fraction? at h
  split at h
  · obtain ⟨hfs, rfl⟩ := of_digits? h
    exact ⟨_, .present hfs, rfl⟩
  · cases h
    exact ⟨_, .absent, rfl⟩

theorem magnitude?_spelled {e : Int} {t : List Char} (h : SpelledMagnitude e t) {r : List Char}
    (hr : NoDigit r) : magnitude? (t ++ r) = some (e, r) := by
  cases h with
  | @bare ds nonempty =>
    obtain ⟨d, ds, rfl⟩ := List.exists_cons_of_ne_nil nonempty
    have hm : Digits.char d ≠ '-' := Digits.char_ne_of_decimal? (by decide) d
    have hp : Digits.char d ≠ '+' := Digits.char_ne_of_decimal? (by decide) d
    have hd := digits?_map nonempty hr
    rw [List.map_cons, List.cons_append] at hd ⊢
    rw [magnitude?.eq_3 _ (fun r' e => hm (List.cons.inj e).1) fun r' e => hp (List.cons.inj e).1,
      hd]
    rfl
  | plus nonempty | minus nonempty =>
    rw [List.cons_append, magnitude?, digits?_map nonempty hr]
    rfl

theorem takesOnly_magnitude : TakesOnly magnitude? SpelledMagnitude := by
  intro cs r e h
  unfold magnitude? at h
  split at h <;>
    (obtain ⟨⟨ds, r'⟩, hd, h⟩ := Option.bind_eq_some_iff.mp h
     cases h
     obtain ⟨hds, rfl⟩ := of_digits? hd)
  · exact ⟨_, .minus hds, rfl⟩
  · exact ⟨_, .plus hds, rfl⟩
  · exact ⟨_, .bare hds, rfl⟩

theorem exponent?_spelled {e : Option Int} {t : List Char} (h : SpelledExponent e t)
    {r : List Char} (hr : IsDelimited r) : exponent? (t ++ r) = some (e, r) := by
  obtain ⟨hd, -, hl, hu⟩ := not_mem_of_isDelimited hr
  cases h with
  | absent => exact exponent?.eq_3 r (fun r' e => hl (e ▸ rfl)) fun r' e => hu (e ▸ rfl)
  | lower value | upper value =>
    rw [List.cons_append, exponent?, magnitude?_spelled value hd]
    rfl

theorem takesOnly_exponent : TakesOnly exponent? SpelledExponent := by
  intro cs r e h
  unfold exponent? at h
  split at h
  · obtain ⟨⟨n, r'⟩, hn, h⟩ := Option.bind_eq_some_iff.mp h
    cases h
    obtain ⟨t, ht, rfl⟩ := takesOnly_magnitude hn
    exact ⟨_, .lower ht, rfl⟩
  · obtain ⟨⟨n, r'⟩, hn, h⟩ := Option.bind_eq_some_iff.mp h
    cases h
    obtain ⟨t, ht, rfl⟩ := takesOnly_magnitude hn
    exact ⟨_, .upper ht, rfl⟩
  · cases h
    exact ⟨_, .absent, rfl⟩

theorem SpelledExponent.noDigit {e : Option Int} {t : List Char} (h : SpelledExponent e t)
    {r : List Char} (hr : IsDelimited r) : NoDigit (t ++ r) ∧ (t ++ r).head? ≠ some '.' := by
  obtain ⟨hd, hp, -, -⟩ := not_mem_of_isDelimited hr
  cases h with
  | absent => exact ⟨hd, hp⟩
  | lower _ | upper _ => exact ⟨noDigit_cons (by decide) _, nofun⟩

theorem SpelledFraction.noDigit {fs : List (Fin 10)} {t : List Char} (h : SpelledFraction fs t)
    {r : List Char} (hr : NoDigit r) : NoDigit (t ++ r) := by
  cases h with
  | absent => exact hr
  | present _ => exact noDigit_cons (by decide) _

theorem unsigned?_spelled (negative : Bool) {ds fs : List (Fin 10)} {e : Option Int}
    {t u r : List Char} (whole : Whole ds) (fraction : SpelledFraction fs t)
    (exponent : SpelledExponent e u) (hr : IsDelimited r) :
    unsigned? negative (ds.map Digits.char ++ (t ++ (u ++ r))) = some (⟨negative, ds, fs, e⟩, r) := by
  obtain ⟨hu, hp⟩ := exponent.noDigit hr
  simp only [unsigned?, whole?_map whole (fraction.noDigit hu), fraction?_spelled fraction hu hp,
    exponent?_spelled exponent hr, Option.bind_eq_bind, Option.bind_some, Option.pure_def]

theorem takesOnly_unsigned (negative : Bool) :
    TakesOnly (unsigned? negative) fun n t => n.Spelled (sign negative ++ t) := by
  intro cs r n h
  obtain ⟨⟨ds, r₁⟩, hw, h⟩ := Option.bind_eq_some_iff.mp h
  obtain ⟨⟨fs, r₂⟩, hf, h⟩ := Option.bind_eq_some_iff.mp h
  obtain ⟨⟨e, r₃⟩, he, h⟩ := Option.bind_eq_some_iff.mp h
  cases h
  obtain ⟨whole, rfl⟩ := of_whole? hw
  obtain ⟨t, fraction, rfl⟩ := takesOnly_fraction hf
  obtain ⟨u, exponent, rfl⟩ := takesOnly_exponent he
  exact ⟨_, .mk negative whole fraction exponent, by simp only [List.append_assoc]⟩

theorem Whole.exists_char {ds : List (Fin 10)} (h : Whole ds) (r : List Char) :
    ∃ (d : Fin 10) (r' : List Char), ds.map Digits.char ++ r = Digits.char d :: r' := by
  cases h <;> exact ⟨_, _, rfl⟩

theorem read?_spelled {n : JsonNumber} {t : List Char} (h : n.Spelled t) {r : List Char}
    (hr : IsDelimited r) : read? (t ++ r) = some (n, r) := by
  obtain ⟨negative, whole, fraction, exponent⟩ := h
  have hu := unsigned?_spelled negative whole fraction exponent hr
  simp only [List.append_assoc]
  cases negative with
  | true => exact hu
  | false =>
    obtain ⟨d, r', hd⟩ := whole.exists_char _
    rw [sign, List.nil_append, ← hu, hd]
    exact read?.eq_2 _ fun _ e => Digits.char_ne_of_decimal? (by decide) d (List.cons.inj e).1

theorem takesOnly_read : TakesOnly read? Spelled := by
  intro cs r n h
  unfold read? at h
  split at h
  · obtain ⟨t, ht, rfl⟩ := takesOnly_unsigned true h
    exact ⟨_, ht, rfl⟩
  · exact takesOnly_unsigned false h

end JsonNumber
end Wiring
