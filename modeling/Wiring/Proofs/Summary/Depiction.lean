import Wiring.Proofs.Json.Documents
import Wiring.Proofs.Json.Values
import Wiring.Summary.Json
set_option autoImplicit false

/-!
Which documents a source or a summary is read from. `Depicted` says what has to stand where in the
value, and `Summary.ofText?_iff_depicted` that a text is read as a summary exactly when it is a
document of a value that depicts the summary.
-/

namespace Wiring

/-- A kind is its name, or an object that has the name alone, for null. -/
inductive Json.IsKind (name : String) : Json → Prop
  | text {x : Json} (text : IsText name x) : IsKind name x
  | object {n : List JsonSymbol} (text : JsonSymbol.Denotes n name.toList) :
      IsKind name (.object [(n, .null)])

namespace Source

/-- The kind and the fields of that kind, each exactly once; in an object other names are free, and
an array has nothing else. -/
inductive Depicted : Source → Json → Prop
  | labelObject {ms : List (List JsonSymbol × Json)} {fs : Json.Fields} {t : String}
      (names : Json.Named ms fs) (kind : fs.Once "kind" (Json.IsText "label"))
      (label : fs.Once "label" (Json.IsText t)) : Depicted (.label t) (.object ms)
  | siteObject {ms : List (List JsonSymbol × Json)} {fs : Json.Fields} {s : Site}
      (names : Json.Named ms fs) (kind : fs.Once "kind" (Json.IsText "call_site"))
      (file : fs.Once "file" (Json.IsText s.file)) (line : fs.Once "line" (Json.IsWord s.line))
      (column : fs.Once "column" (Json.IsWord s.column)) : Depicted (.callSite s) (.object ms)
  | labelArray {kind label : Json} {t : String} (isKind : Json.IsText "label" kind)
      (isLabel : Json.IsText t label) : Depicted (.label t) (.array [kind, label])
  | siteArray {kind file line column : Json} {s : Site} (isKind : Json.IsText "call_site" kind)
      (isFile : Json.IsText s.file file) (isLine : Json.IsWord s.line line)
      (isColumn : Json.IsWord s.column column) :
      Depicted (.callSite s) (.array [kind, file, line, column])

theorem depicted_of_ofFields? {ms : List (List JsonSymbol × Json)} {fs : Json.Fields}
    (names : Json.Named ms fs) {s : Source} (h : ofFields? fs = some s) :
    Depicted s (.object ms) := by
  obtain ⟨kind, hk, h⟩ := Option.bind_eq_some_iff.mp h
  obtain ⟨k, hk', h⟩ := Option.bind_eq_some_iff.mp h
  have isKind := Json.text?_eq_some_iff.mp hk'
  split at h
  · obtain ⟨label, hl, h⟩ := Option.bind_eq_some_iff.mp h
    obtain ⟨t, ht, h⟩ := Option.bind_eq_some_iff.mp h
    cases h
    exact .labelObject names (.intro hk isKind) (.intro hl (Json.text?_eq_some_iff.mp ht))
  · obtain ⟨file, hf, h⟩ := Option.bind_eq_some_iff.mp h
    obtain ⟨f, hf', h⟩ := Option.bind_eq_some_iff.mp h
    obtain ⟨line, hl, h⟩ := Option.bind_eq_some_iff.mp h
    obtain ⟨l, hl', h⟩ := Option.bind_eq_some_iff.mp h
    obtain ⟨column, hc, h⟩ := Option.bind_eq_some_iff.mp h
    obtain ⟨c, hc', h⟩ := Option.bind_eq_some_iff.mp h
    cases h
    exact .siteObject names (.intro hk isKind) (.intro hf (Json.text?_eq_some_iff.mp hf'))
      (.intro hl (Json.word?_eq_some_iff.mp hl')) (.intro hc (Json.word?_eq_some_iff.mp hc'))
  · cases h

theorem depicted_of_ofItems? {xs : List Json} {s : Source} (h : ofItems? xs = some s) :
    Depicted s (.array xs) := by
  cases xs with
  | nil => cases h
  | cons kind items =>
    obtain ⟨k, hk, h⟩ := Option.bind_eq_some_iff.mp h
    have isKind := Json.text?_eq_some_iff.mp hk
    split at h
    · obtain ⟨t, ht, h⟩ := Option.bind_eq_some_iff.mp h
      cases h
      exact .labelArray isKind (Json.text?_eq_some_iff.mp ht)
    · obtain ⟨f, hf, h⟩ := Option.bind_eq_some_iff.mp h
      obtain ⟨l, hl, h⟩ := Option.bind_eq_some_iff.mp h
      obtain ⟨c, hc, h⟩ := Option.bind_eq_some_iff.mp h
      cases h
      exact .siteArray isKind (Json.text?_eq_some_iff.mp hf) (Json.word?_eq_some_iff.mp hl)
        (Json.word?_eq_some_iff.mp hc)
    · cases h

theorem Depicted.ofJson? {s : Source} {j : Json} (h : Depicted s j) {depth : Nat}
    (hd : j.isWithin depth = true) : Source.ofJson? depth j = some s := by
  cases h with
  | labelObject names kind label =>
    obtain ⟨k, hk, isKind⟩ := kind.elim
    obtain ⟨l, hl, isLabel⟩ := label.elim
    simp only [Source.ofJson?, hd, if_true, Json.fields?_eq_some_iff.mpr names, ofFields?, hk, hl,
      Json.text?_eq_some_iff.mpr isKind, Json.text?_eq_some_iff.mpr isLabel, Option.bind_eq_bind,
      Option.bind_some, Option.pure_def]
  | siteObject names kind file line column =>
    obtain ⟨k, hk, isKind⟩ := kind.elim
    obtain ⟨f, hf, isFile⟩ := file.elim
    obtain ⟨l, hl, isLine⟩ := line.elim
    obtain ⟨c, hc, isColumn⟩ := column.elim
    simp only [Source.ofJson?, hd, if_true, Json.fields?_eq_some_iff.mpr names, ofFields?, hk, hf,
      hl, hc, Json.text?_eq_some_iff.mpr isKind, Json.text?_eq_some_iff.mpr isFile,
      Json.word?_eq_some_iff.mpr isLine, Json.word?_eq_some_iff.mpr isColumn, Option.bind_eq_bind,
      Option.bind_some, Option.pure_def]
  | labelArray isKind isLabel =>
    simp only [Source.ofJson?, hd, if_true, ofItems?, Json.text?_eq_some_iff.mpr isKind,
      Json.text?_eq_some_iff.mpr isLabel, Option.bind_eq_bind, Option.bind_some, Option.pure_def]
  | siteArray isKind isFile isLine isColumn =>
    simp only [Source.ofJson?, hd, if_true, ofItems?, Json.text?_eq_some_iff.mpr isKind,
      Json.text?_eq_some_iff.mpr isFile, Json.word?_eq_some_iff.mpr isLine,
      Json.word?_eq_some_iff.mpr isColumn, Option.bind_eq_bind, Option.bind_some, Option.pure_def]

theorem ofJson?_eq_some_iff {depth : Nat} {j : Json} {s : Source} :
    Source.ofJson? depth j = some s ↔ j.isWithin depth = true ∧ Depicted s j := by
  refine ⟨fun h => ?_, fun ⟨hd, h⟩ => h.ofJson? hd⟩
  unfold Source.ofJson? at h
  split at h
  · next hd =>
    split at h
    · next ms =>
      obtain ⟨fs, hfs, h⟩ := Option.bind_eq_some_iff.mp h
      exact ⟨hd, depicted_of_ofFields? (Json.fields?_eq_some_iff.mp hfs) h⟩
    · exact ⟨hd, depicted_of_ofItems? h⟩
    · cases h
  · cases h

end Source

theorem TargetKind.ofName?_eq_some_iff {name : String} {k : TargetKind} :
    ofName? name = some k ↔ name = k.name := by
  constructor
  · intro h
    have hb := List.find?_some h
    exact (eq_of_beq hb).symm
  · rintro rfl
    exact ofName?_name k

theorem ScopingKind.ofName?_eq_some_iff {name : String} {k : ScopingKind} :
    ofName? name = some k ↔ name = k.name := by
  constructor
  · intro h
    have hb := List.find?_some h
    exact (eq_of_beq hb).symm
  · rintro rfl
    exact ofName?_name k

namespace Summary

theorem kindName?_eq_some_iff {x : Json} {name : String} :
    kindName? x = some name ↔ Json.IsKind name x := by
  constructor
  · intro h
    unfold kindName? at h
    split at h
    · exact .object (JsonSymbol.decode?_eq_some_iff.mp h)
    · exact .text (Json.text?_eq_some_iff.mp h)
  · intro h
    cases h with
    | text text =>
      obtain ⟨text⟩ := text
      exact JsonSymbol.decode?_eq_some_iff.mpr text
    | object text => exact JsonSymbol.decode?_eq_some_iff.mpr text

theorem targetKind?_eq_some_iff {x : Json} {k : TargetKind} :
    targetKind? x = some k ↔ Json.IsKind k.name x := by
  simp [targetKind?, Option.bind_eq_some_iff, kindName?_eq_some_iff,
    TargetKind.ofName?_eq_some_iff]

theorem scopingKind?_eq_some_iff {x : Json} {k : ScopingKind} :
    scopingKind? x = some k ↔ Json.IsKind k.name x := by
  simp [scopingKind?, Option.bind_eq_some_iff, kindName?_eq_some_iff,
    ScopingKind.ofName?_eq_some_iff]

/-- The source, the key and the two kinds, each exactly once, and each detail at most once; in an
object other names are free, and an array has nothing else but may leave out its last item. Since
the whole of a source is taken in, there is a limit to how deep it nests. -/
inductive Depicted (s : Summary) : Json → Prop
  | object {ms : List (List JsonSymbol × Json)} {fs : Json.Fields} (names : Json.Named ms fs)
      (source : fs.Once "source" fun x => x.isWithin (Json.maxDepth - 1) ∧ s.source.Depicted x)
      (key : fs.Once "key" (Json.IsText s.key))
      (target : fs.Once "target" (Json.IsKind s.target.name))
      (targetDetail : Json.AreDetail s.targetDetail (fs.named "target_detail"))
      (scoping : fs.Once "scoping" (Json.IsKind s.scoping.name))
      (scopingDetail : Json.AreDetail s.scopingDetail (fs.named "scoping_detail")) :
      Depicted s (.object ms)
  | array {source key target detail scoping : Json} {last : List Json}
      (isSource : source.isWithin (Json.maxDepth - 1) ∧ s.source.Depicted source)
      (isKey : Json.IsText s.key key) (isTarget : Json.IsKind s.target.name target)
      (isDetail : Json.IsDetail s.targetDetail detail)
      (isScoping : Json.IsKind s.scoping.name scoping)
      (areLast : Json.AreDetail s.scopingDetail last) :
      Depicted s (.array (source :: key :: target :: detail :: scoping :: last))

theorem depicted_of_ofFields? {ms : List (List JsonSymbol × Json)} {fs : Json.Fields}
    (names : Json.Named ms fs) {s : Summary} (h : ofFields? fs = some s) :
    Depicted s (.object ms) := by
  obtain ⟨x, hx, h⟩ := Option.bind_eq_some_iff.mp h
  obtain ⟨source, hs, h⟩ := Option.bind_eq_some_iff.mp h
  obtain ⟨y, hy, h⟩ := Option.bind_eq_some_iff.mp h
  obtain ⟨key, hk, h⟩ := Option.bind_eq_some_iff.mp h
  obtain ⟨z, hz, h⟩ := Option.bind_eq_some_iff.mp h
  obtain ⟨target, ht, h⟩ := Option.bind_eq_some_iff.mp h
  obtain ⟨targetDetail, htd, h⟩ := Option.bind_eq_some_iff.mp h
  obtain ⟨w, hw, h⟩ := Option.bind_eq_some_iff.mp h
  obtain ⟨scoping, hc, h⟩ := Option.bind_eq_some_iff.mp h
  obtain ⟨scopingDetail, hcd, h⟩ := Option.bind_eq_some_iff.mp h
  cases h
  exact .object names (.intro hx (Source.ofJson?_eq_some_iff.mp hs))
    (.intro hy (Json.text?_eq_some_iff.mp hk)) (.intro hz (targetKind?_eq_some_iff.mp ht))
    (Json.Fields.optionalText?_eq_some_iff.mp htd) (.intro hw (scopingKind?_eq_some_iff.mp hc))
    (Json.Fields.optionalText?_eq_some_iff.mp hcd)

theorem depicted_of_ofItems? {xs : List Json} {s : Summary} (h : ofItems? xs = some s) :
    Depicted s (.array xs) := by
  unfold ofItems? at h
  split at h
  · obtain ⟨source, hs, h⟩ := Option.bind_eq_some_iff.mp h
    obtain ⟨key, hk, h⟩ := Option.bind_eq_some_iff.mp h
    obtain ⟨target, ht, h⟩ := Option.bind_eq_some_iff.mp h
    obtain ⟨targetDetail, htd, h⟩ := Option.bind_eq_some_iff.mp h
    obtain ⟨scoping, hc, h⟩ := Option.bind_eq_some_iff.mp h
    cases h
    exact .array (Source.ofJson?_eq_some_iff.mp hs) (Json.text?_eq_some_iff.mp hk)
      (targetKind?_eq_some_iff.mp ht) (Json.optionalText?_eq_some_iff.mp htd)
      (scopingKind?_eq_some_iff.mp hc) .absent
  · obtain ⟨source, hs, h⟩ := Option.bind_eq_some_iff.mp h
    obtain ⟨key, hk, h⟩ := Option.bind_eq_some_iff.mp h
    obtain ⟨target, ht, h⟩ := Option.bind_eq_some_iff.mp h
    obtain ⟨targetDetail, htd, h⟩ := Option.bind_eq_some_iff.mp h
    obtain ⟨scoping, hc, h⟩ := Option.bind_eq_some_iff.mp h
    obtain ⟨scopingDetail, hcd, h⟩ := Option.bind_eq_some_iff.mp h
    cases h
    exact .array (Source.ofJson?_eq_some_iff.mp hs) (Json.text?_eq_some_iff.mp hk)
      (targetKind?_eq_some_iff.mp ht) (Json.optionalText?_eq_some_iff.mp htd)
      (scopingKind?_eq_some_iff.mp hc) (.present (Json.optionalText?_eq_some_iff.mp hcd))
  · cases h

theorem Depicted.ofJson? {s : Summary} {j : Json} (h : Depicted s j) :
    Summary.ofJson? j = some s := by
  obtain ⟨_, _, _, _, _, _⟩ := s
  cases h with
  | object names source key target targetDetail scoping scopingDetail =>
    obtain ⟨x, hx, isSource⟩ := source.elim
    obtain ⟨y, hy, isKey⟩ := key.elim
    obtain ⟨z, hz, isTarget⟩ := target.elim
    obtain ⟨w, hw, isScoping⟩ := scoping.elim
    simp only [Summary.ofJson?, Json.fields?_eq_some_iff.mpr names, ofFields?, hx, hy, hz, hw,
      source?, Source.ofJson?_eq_some_iff.mpr isSource, Json.text?_eq_some_iff.mpr isKey,
      targetKind?_eq_some_iff.mpr isTarget, scopingKind?_eq_some_iff.mpr isScoping,
      Json.Fields.optionalText?_eq_some_iff.mpr targetDetail,
      Json.Fields.optionalText?_eq_some_iff.mpr scopingDetail, Option.bind_eq_bind,
      Option.bind_some, Option.pure_def]
  | array isSource isKey isTarget isDetail isScoping areLast =>
    have hs : source? _ = _ := Source.ofJson?_eq_some_iff.mpr isSource
    cases areLast with
    | absent =>
      simp only [Summary.ofJson?, ofItems?, hs, Json.text?_eq_some_iff.mpr isKey,
        targetKind?_eq_some_iff.mpr isTarget, scopingKind?_eq_some_iff.mpr isScoping,
        Json.optionalText?_eq_some_iff.mpr isDetail, Option.bind_eq_bind, Option.bind_some,
        Option.pure_def]
    | present isLast =>
      simp only [Summary.ofJson?, ofItems?, hs, Json.text?_eq_some_iff.mpr isKey,
        targetKind?_eq_some_iff.mpr isTarget, scopingKind?_eq_some_iff.mpr isScoping,
        Json.optionalText?_eq_some_iff.mpr isDetail, Json.optionalText?_eq_some_iff.mpr isLast,
        Option.bind_eq_bind, Option.bind_some, Option.pure_def]

theorem ofJson?_eq_some_iff {j : Json} {s : Summary} :
    Summary.ofJson? j = some s ↔ Depicted s j := by
  refine ⟨fun h => ?_, Depicted.ofJson?⟩
  unfold Summary.ofJson? at h
  split at h
  · obtain ⟨fs, hfs, h⟩ := Option.bind_eq_some_iff.mp h
    exact depicted_of_ofFields? (Json.fields?_eq_some_iff.mp hfs) h
  · exact depicted_of_ofItems? h
  · cases h

/-- A text is read as a summary exactly when it is one document that depicts the summary. -/
theorem ofText?_iff_depicted (t : String) (s : Summary) :
    ofText? t = some s ↔ ∃ j, Json.Document j t.toList ∧ Depicted s j := by
  simp only [ofText?, Option.bind_eq_bind, Option.bind_eq_some_iff, Json.read?_eq_some_iff,
    ofJson?_eq_some_iff]

end Summary
end Wiring
