import Wiring.Proofs.Json.Within
import Wiring.Proofs.Summary.Depiction
set_option autoImplicit false

/-!
The ways in which a summary can be presented: members in any order with strangers among them,
details left out or null, arrays in the place of objects. All of them are read as the same summary
(`Summary.ofText?_of_presented`).
-/

namespace Wiring

namespace Json

/-- The members of an object are the known ones in any order, and anywhere among them members of
which `names` has none of the names and whose values are all allowed. -/
inductive Arranged (names : List String) (allowed : Json → Prop) (known : Fields) :
    List (List JsonSymbol × Json) → Prop
  | mk {ms : List (List JsonSymbol × Json)} {fs strangers : Fields} (named : Named ms fs)
      (order : fs.Perm (known ++ strangers))
      (strange : ∀ f ∈ strangers, f.1 ∉ names ∧ allowed f.2) : Arranged names allowed known ms

namespace Fields

@[simp] theorem named_nil (name : String) : named [] name = [] := rfl

@[simp] theorem named_cons (tag name : String) (x : Json) (fs : Fields) :
    named ((tag, x) :: fs) name = if tag = name then x :: fs.named name else fs.named name := by
  by_cases h : tag = name <;> simp [named, h]

@[simp] theorem named_append (fs gs : Fields) (name : String) :
    (fs ++ gs).named name = fs.named name ++ gs.named name := by
  simp [named]

@[simp] theorem named_map (tag name : String) (xs : List Json) :
    named (xs.map ((tag, ·))) name = if tag = name then xs else [] := by
  induction xs with
  | nil => simp
  | cons x xs ih => rw [List.map_cons, named_cons, ih]; split <;> rfl

theorem named_eq_nil {fs : Fields} {name : String} (h : ∀ f ∈ fs, f.1 ≠ name) :
    fs.named name = [] := by
  simpa [named, List.filter_eq_nil_iff] using h

theorem once_of_perm {fs known : Fields} {name : String} {P : Json → Prop} {x : Json}
    (h : (fs.named name).Perm (known.named name)) (hk : known.named name = [x]) (hx : P x) :
    fs.Once name P :=
  ⟨x, List.perm_singleton.mp (hk ▸ h), hx⟩

theorem areDetail_of_perm {d : Option String} {xs ys : List Json} (hd : AreDetail d ys)
    (h : xs.Perm ys) : AreDetail d xs := by
  cases hd with
  | absent => rw [List.perm_nil.mp h]; exact .absent
  | present detail => rw [List.perm_singleton.mp h]; exact .present detail

end Fields

theorem Arranged.exists_named {names : List String} {allowed : Json → Prop} {known : Fields}
    {ms : List (List JsonSymbol × Json)} (h : Arranged names allowed known ms) :
    ∃ fs, Named ms fs ∧ (∀ name ∈ names, (fs.named name).Perm (known.named name)) ∧
      ∀ f ∈ fs, f ∈ known ∨ allowed f.2 := by
  obtain @⟨fs, strangers, named, order, strange⟩ := h
  refine ⟨fs, named, fun name hn => ?_, fun f hf => ?_⟩
  · have hs : ∀ f ∈ strangers, f.1 ≠ name := fun f hf e => (strange f hf).1 (e ▸ hn)
    have hp := Fields.named_perm order name
    rwa [Fields.named_append, Fields.named_eq_nil hs, List.append_nil] at hp
  · exact (List.mem_append.mp (order.mem_iff.mp hf)).imp_right fun hs => (strange f hs).2

theorem Arranged.areMembersWithin {names : List String} {depth : Nat} {known : Fields}
    {ms : List (List JsonSymbol × Json)} (h : Arranged names (·.isWithin depth) known ms)
    (hk : ∀ f ∈ known, f.2.isWithin depth = true) : areMembersWithin depth ms = true := by
  obtain ⟨fs, named, -, hw⟩ := h.exists_named
  exact named.areMembersWithin_iff.mpr fun f hf => (hw f hf).elim (hk f) id

end Json

namespace Source

/-- The kind may stand anywhere among the fields of the kind. Strangers are taken in as well, and so
`depth` limits how deep they nest. -/
inductive Presented (depth : Nat) : Source → Json → Prop
  | labelObject {ms : List (List JsonSymbol × Json)} {kind label : Json} {t : String}
      (isKind : Json.IsText "label" kind) (isLabel : Json.IsText t label)
      (members : Json.Arranged ["kind", "label"] (·.isWithin depth)
        [("kind", kind), ("label", label)] ms) : Presented depth (.label t) (.object ms)
  | siteObject {ms : List (List JsonSymbol × Json)} {kind file line column : Json} {s : Site}
      (isKind : Json.IsText "call_site" kind) (isFile : Json.IsText s.file file)
      (isLine : Json.IsWord s.line line) (isColumn : Json.IsWord s.column column)
      (members : Json.Arranged ["kind", "file", "line", "column"] (·.isWithin depth)
        [("kind", kind), ("file", file), ("line", line), ("column", column)] ms) :
      Presented depth (.callSite s) (.object ms)
  | labelArray {kind label : Json} {t : String} (isKind : Json.IsText "label" kind)
      (isLabel : Json.IsText t label) : Presented depth (.label t) (.array [kind, label])
  | siteArray {kind file line column : Json} {s : Site} (isKind : Json.IsText "call_site" kind)
      (isFile : Json.IsText s.file file) (isLine : Json.IsWord s.line line)
      (isColumn : Json.IsWord s.column column) :
      Presented depth (.callSite s) (.array [kind, file, line, column])

variable {depth : Nat} {s : Source} {j : Json}

theorem Presented.depicted (h : s.Presented depth j) : s.Depicted j := by
  cases h with
  | labelObject isKind isLabel members =>
    obtain ⟨fs, named, hp, -⟩ := members.exists_named
    exact .labelObject named (Json.Fields.once_of_perm (hp "kind" (by simp)) rfl isKind)
      (Json.Fields.once_of_perm (hp "label" (by simp)) rfl isLabel)
  | siteObject isKind isFile isLine isColumn members =>
    obtain ⟨fs, named, hp, -⟩ := members.exists_named
    exact .siteObject named (Json.Fields.once_of_perm (hp "kind" (by simp)) rfl isKind)
      (Json.Fields.once_of_perm (hp "file" (by simp)) rfl isFile)
      (Json.Fields.once_of_perm (hp "line" (by simp)) rfl isLine)
      (Json.Fields.once_of_perm (hp "column" (by simp)) rfl isColumn)
  | labelArray isKind isLabel => exact .labelArray isKind isLabel
  | siteArray isKind isFile isLine isColumn => exact .siteArray isKind isFile isLine isColumn

theorem Presented.isWithin (h : s.Presented depth j) : j.isWithin (depth + 1) = true := by
  cases h with
  | labelObject isKind isLabel members =>
    exact members.areMembersWithin (by simp [isKind.isWithin, isLabel.isWithin])
  | siteObject isKind isFile isLine isColumn members =>
    exact members.areMembersWithin
      (by simp [isKind.isWithin, isFile.isWithin, isLine.isWithin, isColumn.isWithin])
  | labelArray isKind isLabel =>
    simp [Json.isWithin, Json.areItemsWithin, isKind.isWithin, isLabel.isWithin]
  | siteArray isKind isFile isLine isColumn =>
    simp [Json.isWithin, Json.areItemsWithin, isKind.isWithin, isFile.isWithin, isLine.isWithin,
      isColumn.isWithin]

end Source

namespace Summary

def members (source key target : Json) (details : List Json) (scoping : Json)
    (last : List Json) : Json.Fields :=
  [("source", source), ("key", key), ("target", target)] ++
    details.map (("target_detail", ·)) ++ [("scoping", scoping)] ++
    last.map (("scoping_detail", ·))

/-- A detail may be left out or null when there is none, but of an array's items only the last may
be left out. Other members of a summary's object may be anything; the source is the one that is
taken in as a whole, with the summary's own container and its own open. -/
inductive Presented (s : Summary) : Json → Prop
  | object {ms : List (List JsonSymbol × Json)} {source key target scoping : Json}
      {details last : List Json} (isSource : s.source.Presented (Json.maxDepth - 2) source)
      (isKey : Json.IsText s.key key) (isTarget : Json.IsKind s.target.name target)
      (areDetails : Json.AreDetail s.targetDetail details)
      (isScoping : Json.IsKind s.scoping.name scoping)
      (areLast : Json.AreDetail s.scopingDetail last)
      (members : Json.Arranged
        ["source", "key", "target", "target_detail", "scoping", "scoping_detail"] (fun _ => True)
        (members source key target details scoping last) ms) : Presented s (.object ms)
  | array {source key target detail scoping : Json} {last : List Json}
      (isSource : s.source.Presented (Json.maxDepth - 2) source)
      (isKey : Json.IsText s.key key) (isTarget : Json.IsKind s.target.name target)
      (isDetail : Json.IsDetail s.targetDetail detail)
      (isScoping : Json.IsKind s.scoping.name scoping)
      (areLast : Json.AreDetail s.scopingDetail last) :
      Presented s (.array (source :: key :: target :: detail :: scoping :: last))

theorem Presented.depicted {s : Summary} {j : Json} (h : s.Presented j) : s.Depicted j := by
  cases h with
  | object isSource isKey isTarget areDetails isScoping areLast members =>
    obtain ⟨fs, named, hp, -⟩ := members.exists_named
    have hd := hp "target_detail" (by simp)
    have hl := hp "scoping_detail" (by simp)
    refine .object named
      (Json.Fields.once_of_perm (hp "source" (by simp)) (by simp [Summary.members])
        ⟨isSource.isWithin, isSource.depicted⟩)
      (Json.Fields.once_of_perm (hp "key" (by simp)) (by simp [Summary.members]) isKey)
      (Json.Fields.once_of_perm (hp "target" (by simp)) (by simp [Summary.members]) isTarget)
      (Json.Fields.areDetail_of_perm areDetails ?_)
      (Json.Fields.once_of_perm (hp "scoping" (by simp)) (by simp [Summary.members]) isScoping)
      (Json.Fields.areDetail_of_perm areLast ?_)
    · simpa [Summary.members] using hd
    · simpa [Summary.members] using hl
  | array isSource isKey isTarget isDetail isScoping areLast =>
    exact .array ⟨isSource.isWithin, isSource.depicted⟩ isKey isTarget isDetail isScoping areLast

/-- However a summary is presented, and however the presentation is spelled, it is the summary that
is read. -/
theorem ofText?_of_presented {s : Summary} {j : Json} {t : String} (hj : s.Presented j)
    (ht : Json.Document j t.toList) : ofText? t = some s := by
  rw [ofText?, Json.read?_eq_some_iff.mpr ht]
  exact ofJson?_eq_some_iff.mpr hj.depicted

set_option maxRecDepth 1000 in
/-- Members in reverse among strangers of one name, a null detail, a kind as an object, and the kind
of the source after its label. -/
theorem ofText?_tangled :
    ofText? "\n\x7b\"x\": [1e999], \"scoping\" :\x7b\"no_scoping\":null\x7d, \"target_detail\": null,
      \"target\": \"untargeted\", \"key\": \"\", \"source\":\t\x7b\"file\": [7],
      \"label\": \"\\ud83d\\uDE00\", \"k\\u0069nd\": \"label\"\x7d, \"x\": []\x7d " =
    some ⟨.label "😀", "", .untargeted, none, .unscoped, none⟩ := by
  let kind : String × Json := ("kind", .ofText "label")
  let label : String × Json := ("label", .string [.high 0x3d, .low 0x200])
  let file : String × Json := ("file", .array [.number ⟨false, [7], [], none⟩])
  have isSource : Source.Presented (Json.maxDepth - 2) (.label "😀")
      (.ofFields [file, label, kind]) :=
    .labelObject (Json.isText_ofText "label") (.mk (.pair (by decide) .nil))
      (.mk (Json.named_encode _) (List.reverse_perm [kind, label, file]) (by decide +kernel))
  let x : String × Json := ("x", .array [.number ⟨false, [1], [], some 999⟩])
  let y : String × Json := ("x", .array [])
  let known : Json.Fields := members (.ofFields [file, label, kind]) (.ofText "")
    (.ofText "untargeted") [.null] (.ofFields [("no_scoping", .null)]) []
  have order : (x :: (known.reverse ++ [y])).Perm (known ++ [x] ++ [y]) :=
    (List.reverse_perm (y :: (known ++ [x]))).trans (List.perm_append_singleton y _).symm
  refine ofText?_of_presented (.object isSource (Json.isText_ofText "")
    (.text (Json.isText_ofText "untargeted")) (.present .null)
    (.object (JsonSymbol.denotes_encode "no_scoping")) .absent
    (.mk (Json.named_encode _) order (by decide +kernel))) (Json.read?_eq_some_iff.mp ?_)
  -- without the local names both sides are closed, and the reader can be run
  simp only [x, y, known, kind, label, file]
  exact (congrArg Json.readAll? String.toList_ofList).trans (by rfl)

end Summary
end Wiring
