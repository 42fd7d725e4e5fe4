import Wiring.Json.Fields
import Wiring.Proofs.Json.Symbols
set_option autoImplicit false

namespace Wiring.Json

inductive IsText (t : String) : Json → Prop
  | mk {s : List JsonSymbol} (text : JsonSymbol.Denotes s t.toList) : IsText t (.string s)

/-- A literal without sign, fraction and exponent. That it is below 2³² is in the word's type. -/
inductive IsWord (w : UInt32) : Json → Prop
  | mk {ds : List (Fin 10)} (value : Digits.value ds = w.toNat) :
      IsWord w (.number ⟨false, ds, [], none⟩)

inductive IsDetail : Option String → Json → Prop
  | null : IsDetail none .null
  | text {t : String} {x : Json} (text : IsText t x) : IsDetail (some t) x

/-- The values found in the place of a detail: one of them, or nothing where there is none. -/
inductive AreDetail : Option String → List Json → Prop
  | absent : AreDetail none []
  | present {d : Option String} {x : Json} (detail : IsDetail d x) : AreDetail d [x]

inductive Named : List (List JsonSymbol × Json) → Fields → Prop
  | nil : Named [] []
  | cons {n : List JsonSymbol} {name : String} {x : Json} {ms : List (List JsonSymbol × Json)}
      {fs : Fields} (text : JsonSymbol.Denotes n name.toList) (others : Named ms fs) :
      Named ((n, x) :: ms) ((name, x) :: fs)

def Fields.Once (fs : Fields) (name : String) (P : Json → Prop) : Prop :=
  ∃ x, fs.named name = [x] ∧ P x

theorem text?_eq_some_iff {x : Json} {t : String} : x.text? = some t ↔ IsText t x := by
  constructor
  · intro h
    cases x with
    | string s => exact .mk (JsonSymbol.decode?_eq_some_iff.mp h)
    | _ => cases h
  · rintro ⟨text⟩
    exact JsonSymbol.decode?_eq_some_iff.mpr text

theorem isText_ofText (t : String) : IsText t (ofText t) := text?_eq_some_iff.mp (text?_ofText t)

theorem natural?_eq_some_iff {n : JsonNumber} {m : Nat} :
    n.natural? = some m ↔ ∃ ds, n = ⟨false, ds, [], none⟩ ∧ Digits.value ds = m := by
  obtain ⟨negative, ds, fs, e⟩ := n
  simp only [JsonNumber.natural?, Option.ite_none_right_eq_some, Option.some.injEq]
  constructor
  · rintro ⟨⟨rfl, rfl, rfl⟩, h⟩
    exact ⟨ds, rfl, h⟩
  · rintro ⟨ds', h, hm⟩
    cases h
    exact ⟨⟨rfl, rfl, rfl⟩, hm⟩

theorem word?_eq_some_iff {x : Json} {w : UInt32} : x.word? = some w ↔ IsWord w x := by
  constructor
  · intro h
    cases x with
    | number n =>
      obtain ⟨m, hm, h⟩ := Option.bind_eq_some_iff.mp h
      obtain ⟨ds, rfl, rfl⟩ := natural?_eq_some_iff.mp hm
      obtain ⟨hlt, h⟩ := Option.ite_none_right_eq_some.mp h
      cases h
      exact .mk (UInt32.toNat_ofNat_of_lt' hlt).symm
    | _ => cases h
  · rintro @⟨ds, value⟩
    have hn := natural?_eq_some_iff.mpr ⟨ds, rfl, value⟩
    simp [word?, hn, w.toNat_lt]

theorem isWord_ofWord (w : UInt32) : IsWord w (ofWord w) := word?_eq_some_iff.mp (word?_ofWord w)

theorem optionalText?_eq_some_iff {x : Json} {d : Option String} :
    x.optionalText? = some d ↔ IsDetail d x := by
  constructor
  · intro h
    cases x with
    | null => cases h; exact .null
    | string s =>
      obtain ⟨t, ht, rfl⟩ := Option.map_eq_some_iff.mp h
      exact .text (text?_eq_some_iff.mp ht)
    | _ => cases h
  · intro h
    cases h with
    | null => rfl
    | text text =>
      obtain ⟨text⟩ := text
      exact congrArg (Option.map some) (JsonSymbol.decode?_eq_some_iff.mpr text)

theorem fields?_eq_some_iff {ms : List (List JsonSymbol × Json)} {fs : Fields} :
    fields? ms = some fs ↔ Named ms fs := by
  unfold fields?
  constructor
  · intro h
    induction ms generalizing fs with
    | nil => cases h; exact .nil
    | cons m ms ih =>
      rw [List.mapM_cons] at h
      obtain ⟨f, hf, h⟩ := Option.bind_eq_some_iff.mp h
      obtain ⟨fs', hfs, h⟩ := Option.bind_eq_some_iff.mp h
      obtain ⟨name, hn, rfl⟩ := Option.map_eq_some_iff.mp hf
      cases h
      exact .cons (JsonSymbol.decode?_eq_some_iff.mp hn) (ih hfs)
  · intro h
    induction h with
    | nil => rfl
    | cons text _ ih =>
      rw [List.mapM_cons, JsonSymbol.decode?_eq_some_iff.mpr text, ih]
      rfl

theorem named_encode (fs : Fields) : Named (fs.map fun f => (JsonSymbol.encode f.1, f.2)) fs := by
  induction fs with
  | nil => exact .nil
  | cons f fs ih => exact .cons (JsonSymbol.denotes_encode f.1) ih

namespace Fields

theorem only?_eq_some_iff {fs : Fields} {name : String} {x : Json} :
    fs.only? name = some x ↔ fs.named name = [x] := by
  unfold only?
  split <;> simp_all

theorem Once.intro {fs : Fields} {name : String} {P : Json → Prop} {x : Json}
    (h : fs.only? name = some x) (hx : P x) : fs.Once name P :=
  ⟨x, only?_eq_some_iff.mp h, hx⟩

theorem Once.elim {fs : Fields} {name : String} {P : Json → Prop} (h : fs.Once name P) :
    ∃ x, fs.only? name = some x ∧ P x := by
  obtain ⟨x, h, hx⟩ := h
  exact ⟨x, only?_eq_some_iff.mpr h, hx⟩

theorem optionalText?_eq_some_iff {fs : Fields} {name : String} {d : Option String} :
    fs.optionalText? name = some d ↔ AreDetail d (fs.named name) := by
  unfold optionalText?
  split
  · next h =>
    rw [h]
    constructor
    · rintro ⟨⟩; exact .absent
    · rintro ⟨⟩; rfl
  · next x h =>
    rw [h, Json.optionalText?_eq_some_iff]
    refine ⟨.present, fun h => ?_⟩
    cases h with
    | present detail => exact detail
  · next hn ho =>
    refine ⟨nofun, fun h => ?_⟩
    generalize fs.named name = xs at *
    cases h with
    | absent => exact absurd rfl hn
    | present => exact absurd rfl (ho _)

end Fields
end Wiring.Json
