import Wiring.Proofs.Binder.Fidelity
import Wiring.Proofs.Summary.RoundTrip
set_option autoImplicit false

/-!
The words for a binding, found in its summary alone. A binding's own text leaves unsaid what is
still as it was, and its summary leaves out details; the kinds in the summary tell one from the
other, so that nothing else is needed to say the text (`text_summary`), not even after the summary
has been written and read back (`wording_record`).
-/

namespace Wiring
variable {T : Type} [Catalog T]

def TargetKind.clause (detail : Option String) : TargetKind → String
  | .untargeted => ""
  | .toKey | .toInstance | .toProvider | .toProviderKey => " to " ++ detail.getD ""

/-- What a scoping adds to the text of its binding; an eager singleton needs no detail. -/
def ScopingKind.clause (detail : Option String) : ScopingKind → String
  | .unscoped => ""
  | .marker | .scope => " in " ++ detail.getD ""
  | .eagerSingleton => " in eager singleton"

namespace Summary

def text (s : Summary) : String :=
  "bind " ++ s.key ++ s.target.clause s.targetDetail ++ s.scoping.clause s.scopingDetail

/-- Each detail is there exactly when its kind calls for one, and an instance has no scoping. -/
structure Coherent (s : Summary) : Prop where
  targetDetail : s.targetDetail.isSome ↔ s.target ≠ .untargeted
  scopingDetail : s.scopingDetail.isSome ↔ s.scoping = .marker ∨ s.scoping = .scope
  exclusive : s.target = .toInstance → s.scoping = .unscoped ∧ s.scopingDetail = none

end Summary

theorem Target.clause_kind (x : Target T) :
    x.kind.clause x.detail? = if x.isUntargeted then "" else " to " ++ x.text := by
  cases x <;> rfl

theorem Scoping.clause_kind (s : Scoping) :
    s.kind.clause s.detail? = if s.isUnscoped then "" else " in " ++ s.text := by
  cases s <;> rfl

theorem Target.isSome_detail?_iff (x : Target T) : x.detail?.isSome ↔ x.kind ≠ .untargeted := by
  cases x <;> simp [detail?, isUntargeted, kind]

theorem Scoping.isSome_detail?_iff (s : Scoping) :
    s.detail?.isSome ↔ s.kind = .marker ∨ s.kind = .scope := by
  cases s <;> simp [detail?, kind]

theorem Target.isInstance_of_kind {x : Target T} (h : x.kind = .toInstance) :
    x.isInstance = true := by
  cases x with
  | toInstance _ => rfl
  | untargeted | toKey _ | toProvider _ | toProviderKey _ => cases h

namespace Binding

theorem text_summary (b : Binding T) : b.summary.text = b.text := by
  rw [Summary.text, summary, Target.clause_kind, Scoping.clause_kind, text]

theorem Exclusive.coherent_summary {b : Binding T} (h : b.Exclusive) : b.summary.Coherent where
  targetDetail := b.target.isSome_detail?_iff
  scopingDetail := b.scoping.isSome_detail?_iff
  exclusive hk := by
    have hs : b.scoping = .unscoped := h (Target.isInstance_of_kind hk)
    simp [summary, hs, Scoping.kind, Scoping.detail?]

end Binding

/-- Who reads what was written of a recorded binding's summary can say the binding's text from it,
and finds a detail wherever there is one to tell. -/
theorem wording_record (steps : List (Step T)) (b : Binding T)
    (h : b ∈ (record steps).bindings) :
    ∃ s, Summary.ofText? b.summary.toText = some s ∧ s.text = b.text ∧ s.Coherent :=
  ⟨b.summary, Summary.ofText?_toText b.summary, b.text_summary,
    (exclusive_of_mem_bindings h).coherent_summary⟩

def worded : List (Step Sample) :=
  [.bind .service (.label "app") [⟨.qualify (.named "a\"b"), ⟨"main", 1, 1⟩⟩,
    ⟨.toProviderKey (.ofType .implementation), ⟨"main", 2, 1⟩⟩,
    ⟨.inScope ⟨7, "per\nrequest"⟩, ⟨"main", 3, 1⟩⟩]]

def wordedBinding : Binding Sample :=
  ⟨.label "app", (Key.ofType .service).qualify (.named "a\"b"),
    .toProviderKey (.ofType .implementation), .scope ⟨7, "per\nrequest"⟩⟩

theorem wording_record_worded :
    wordedBinding ∈ (record worded).bindings ∧
    ∃ s, Summary.ofText? wordedBinding.summary.toText = some s ∧
      s.text = "bind Key[type=Service, annotation=@Named(value=a\"b)] to provider " ++
        "Key[type=ServiceImpl, annotation=[none]] in per\nrequest" ∧ s.Coherent := by
  have hm : wordedBinding ∈ (record worded).bindings := .head _
  obtain ⟨s, hs, ht, hc⟩ := wording_record worded wordedBinding hm
  exact ⟨hm, s, hs, ht.trans (by decide), hc⟩

end Wiring
