import Wiring.Proofs.Pass.Faults
import Wiring.Proofs.Statement.WellFormed
set_option autoImplicit false

namespace Wiring
variable {T : Type} [Catalog T]

def Step.bag? : Step T → Option (Multiset (Provision T))
  | .bind _ _ calls => some (Call.bag calls)
  | .complain _ _ | .listStatements | .listFaults => none

namespace Transcript

theorem result_eq_ok_iff {t : Transcript T} {sts : List (Statement T)} :
    t.result = .ok sts ↔ t.faults = [] ∧ sts = t.statements := by
  rw [result, isValid]
  cases t.faults <;> simp [eq_comm]

theorem result_eq_error_iff {t : Transcript T} {e : Rejection T} :
    t.result = .error e ↔ t.faults ≠ [] ∧ e.faults = t.faults := by
  obtain ⟨fs⟩ := e
  rw [result, isValid]
  cases t.faults <;> simp [eq_comm]

end Transcript

theorem Step.objections_eq_nil_iff (s : Step T) :
    s.objections = [] ↔ ∀ ps ∈ s.bag?, WellFormed ps := by
  cases s with
  | bind t source calls => simpa [objections, bag?] using Call.faultsOf_eq_nil_iff calls
  | complain _ _ | listStatements | listFaults => simp [objections, bag?]

theorem record_faults_eq_nil_iff (steps : List (Step T)) :
    (record steps).faults = [] ↔ ∀ ps ∈ steps.filterMap Step.bag?, WellFormed ps := by
  simp only [record_faults, List.flatMap_eq_nil_iff, Step.objections_eq_nil_iff,
    List.mem_filterMap, Option.mem_def]
  exact ⟨fun h ps ⟨s, hs, hp⟩ => h s hs ps hp, fun h s hs ps hp => h ps ⟨s, hs, hp⟩⟩

theorem exists_result_iff (steps : List (Step T)) :
    (∃ sts, (record steps).result = .ok sts) ↔
      ∀ ps ∈ steps.filterMap Step.bag?, WellFormed ps := by
  rw [← record_faults_eq_nil_iff]
  constructor
  · rintro ⟨sts, h⟩
    exact (Transcript.result_eq_ok_iff.mp h).1
  · intro h
    exact ⟨_, Transcript.result_eq_ok_iff.mpr ⟨h, rfl⟩⟩

/-- Neither the order of a statement's calls nor what else is said in the pass decides whether it
can be used. If it can, all of it is kept; if not, all of its faults are told. -/
theorem result_record (steps : List (Step T)) :
    ((∃ sts, (record steps).result = .ok sts) ↔
      ∀ ps ∈ steps.filterMap Step.bag?, WellFormed ps) ∧
    (∀ others : List (Step T), others.filterMap Step.bag? = steps.filterMap Step.bag? →
      ((∃ sts, (record others).result = .ok sts) ↔ ∃ sts, (record steps).result = .ok sts)) ∧
    (∀ sts, (record steps).result = .ok sts → sts = (record steps).statements) ∧
    ∀ e, (record steps).result = .error e → e.faults = (record steps).faults ∧ e.faults ≠ [] := by
  refine ⟨exists_result_iff steps, fun others h => ?_, fun sts h => ?_, fun e h => ?_⟩
  · rw [exists_result_iff, exists_result_iff, h]
  · exact (Transcript.result_eq_ok_iff.mp h).2
  · obtain ⟨hn, he⟩ := Transcript.result_eq_error_iff.mp h
    exact ⟨he, he ▸ hn⟩

end Wiring
