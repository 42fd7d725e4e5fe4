import Wiring.Proofs.Json.Written
import Wiring.Proofs.Summary.Presentation
set_option autoImplicit false

namespace Wiring

namespace Json

theorem arranged_ofFields (names : List String) (allowed : Json → Prop) {fs known : Fields}
    (order : fs.Perm known) :
    Arranged names allowed known (fs.map fun f => (JsonSymbol.encode f.1, f.2)) :=
  .mk (named_encode fs) (by rwa [List.append_nil]) fun f hf => absurd hf List.not_mem_nil

end Json

namespace Source

theorem presented_toJson (depth : Nat) (s : Source) : s.Presented depth s.toJson := by
  cases s with
  | label t =>
    exact .labelObject (Json.isText_ofText "label") (Json.isText_ofText t)
      (Json.arranged_ofFields _ _ (.refl _))
  | callSite s =>
    exact .siteObject (Json.isText_ofText "call_site") (Json.isText_ofText s.file)
      (Json.isWord_ofWord s.line) (Json.isWord_ofWord s.column)
      (Json.arranged_ofFields _ _ (.refl _))

theorem spelled_toJson (s : Source) : s.toJson.Spelled s.toJson.wire := by
  cases s <;>
    exact Json.spelled_ofFields (by simp [Json.spelled_ofText, Json.spelled_ofWord])

theorem ofText?_toText (s : Source) : ofText? s.toText = some s := by
  rw [ofText?, toText, Json.read?_text s.spelled_toJson]
  have h := s.presented_toJson (Json.maxDepth - 1)
  exact ofJson?_eq_some_iff.mpr ⟨h.isWithin, h.depicted⟩

end Source

namespace Summary

def detailItems (d : Option String) : List Json := d.toList.map Json.ofText

theorem areDetail_detailItems (d : Option String) : Json.AreDetail d (detailItems d) := by
  cases d with
  | none => exact .absent
  | some d => exact .present (.text (Json.isText_ofText d))

theorem detailField_eq_map (name : String) (d : Option String) :
    detailField name d = (detailItems d).map ((name, ·)) := by
  cases d <;> rfl

def membersAround (source : Json) (s : Summary) : Json.Fields :=
  members source (.ofText s.key) (.ofText s.target.name) (detailItems s.targetDetail)
    (.ofText s.scoping.name) (detailItems s.scopingDetail)

theorem toJson_eq_ofFields (s : Summary) :
    s.toJson = .ofFields (s.membersAround s.source.toJson) := by
  rw [toJson, detailField_eq_map, detailField_eq_map, membersAround, members]

theorem presented_ofFields {s : Summary} {source : Json} {fs : Json.Fields}
    (h : s.source.Presented (Json.maxDepth - 2) source) (order : fs.Perm (s.membersAround source)) :
    s.Presented (.ofFields fs) :=
  .object h (Json.isText_ofText s.key) (.text (Json.isText_ofText _)) (areDetail_detailItems _)
    (.text (Json.isText_ofText _)) (areDetail_detailItems _) (Json.arranged_ofFields _ _ order)

theorem presented_toJson (s : Summary) : s.Presented s.toJson := by
  rw [toJson_eq_ofFields]
  exact presented_ofFields (s.source.presented_toJson _) (.refl _)

theorem spelled_of_mem_membersAround {s : Summary} {source : Json}
    (h : source.Spelled source.wire) : ∀ f ∈ s.membersAround source, f.2.Spelled f.2.wire := by
  simp [membersAround, members, detailItems, List.forall_mem_append, h, Json.spelled_ofText,
    -List.mem_append]

theorem spelled_toJson (s : Summary) : s.toJson.Spelled s.toJson.wire := by
  rw [toJson_eq_ofFields]
  exact Json.spelled_ofFields (spelled_of_mem_membersAround s.source.spelled_toJson)

theorem ofText?_toText (s : Summary) : ofText? s.toText = some s := by
  rw [ofText?, toText, Json.read?_text s.spelled_toJson]
  exact ofJson?_eq_some_iff.mpr s.presented_toJson.depicted

end Summary

/-- What has a reader that reads it back is never confused in writing. -/
theorem injective_of_reads_back {α : Type} {write : α → String} {read : String → Option α}
    (h : ∀ a, read (write a) = some a) : Function.Injective write := fun a b e =>
  Option.some.inj ((h a).symm.trans ((congrArg read e).trans (h b)))

theorem bind_reads_back {α : Type} {write : α → String} {read : String → Option α}
    (h : ∀ a, read (write a) = some a) (t : String) :
    ((read t).bind fun a => read (write a)) = read t := by
  cases read t with
  | none => rfl
  | some a => exact h a

/-- Sources and summaries are read back from what is written of them, and so writing confuses no
two of them, and what any accepted text is read as is also read from what is written of it. -/
theorem text_roundTrip :
    (∀ s : Summary, Summary.ofText? s.toText = some s) ∧
    (∀ s : Source, Source.ofText? s.toText = some s) ∧
    Function.Injective Summary.toText ∧ Function.Injective Source.toText ∧
    (∀ t, ((Summary.ofText? t).bind fun s => Summary.ofText? s.toText) = Summary.ofText? t) ∧
    ∀ t, ((Source.ofText? t).bind fun s => Source.ofText? s.toText) = Source.ofText? t :=
  ⟨Summary.ofText?_toText, Source.ofText?_toText, injective_of_reads_back Summary.ofText?_toText,
    injective_of_reads_back Source.ofText?_toText, bind_reads_back Summary.ofText?_toText,
    bind_reads_back Source.ofText?_toText⟩

end Wiring
