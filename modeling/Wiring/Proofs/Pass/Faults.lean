import Wiring.Proofs.Pass.Steps
import Wiring.Proofs.Statement.Objection
set_option autoImplicit false

namespace Wiring
variable {T : Type} [Catalog T]

/-- The faults that a step earns. Reporting an error is none. -/
def Step.objections : Step T → List (Fault T)
  | .bind _ _ calls => Call.faultsOf calls
  | .complain _ _ | .listStatements | .listFaults => []

theorem Step.faults_eq (s : Step T) : s.faults = s.objections := by
  cases s with
  | bind t source calls => exact Binding.build_faults source calls
  | complain site message => rfl
  | listStatements | listFaults => rfl

theorem record_faults (steps : List (Step T)) :
    (record steps).faults = steps.flatMap Step.objections := by
  rw [record_eq]
  exact List.flatMap_congr fun s _ => s.faults_eq

/-- At any moment of a pass the recorder lists the faults of what was said so far, and the
transcript keeps them. -/
theorem listFaults_run (steps : List (Step T)) :
    ((Recorder.run {} steps).1.step .listFaults).2 = .faults (steps.flatMap Step.objections) ∧
    (record steps).faults = steps.flatMap Step.objections := by
  have hr := record_faults steps
  have hf : (record steps).faults = (Recorder.run {} steps).1.faults := Recorder.finish_faults _
  refine ⟨?_, hr⟩
  rw [Recorder.step, ← hf, hr]

end Wiring
