import Wiring.Pass.Recorder
set_option autoImplicit false

/-!
A pass is its steps one after another: each step alone says which statement it leaves and which
faults it makes (`record_eq`). When a pending binding is closed makes no difference, since at every
moment the recorder is seen through what finishing would leave.
-/

namespace Wiring
variable {T : Type} [Catalog T]

namespace Step

/-- The statement that a step leaves, made from nothing but the step. -/
def statement? : Step T → Option (Statement T)
  | .bind t source calls => some (.bind ((Binding.ofKey source (.ofType t)).build calls).1)
  | .complain site message => some (.complain ⟨.callSite site, message⟩)
  | .listStatements | .listFaults => none

def binding? : Step T → Option (Binding T)
  | .bind t source calls => some ((Binding.ofKey source (.ofType t)).build calls).1
  | .complain _ _ | .listStatements | .listFaults => none

theorem statement?_bind_binding? (s : Step T) :
    s.statement?.bind Statement.binding? = s.binding? := by
  cases s <;> rfl

def faults : Step T → List (Fault T)
  | .bind t source calls => ((Binding.ofKey source (.ofType t)).build calls).2
  | .complain _ _ | .listStatements | .listFaults => []

end Step

namespace Recorder

theorem close_faults (r : Recorder T) : r.close.faults = r.faults := by
  unfold close; split <;> rfl

theorem close_pending (r : Recorder T) : r.close.pending = none := by
  unfold close
  split
  · assumption
  · rfl

theorem close_of_closed {r : Recorder T} (h : r.pending = none) : r.close = r := by
  rw [close, h]

theorem finish_faults (r : Recorder T) : r.finish.faults = r.faults := close_faults r

theorem bind_eq (r : Recorder T) (source : Source) (t : T) (calls : List (Call t)) :
    r.bind source t calls = { r.close with
      pending := some ((Binding.ofKey source (.ofType t)).build calls).1
      faults := r.faults ++ ((Binding.ofKey source (.ofType t)).build calls).2 } := by
  rw [bind, foldl_call _ (.ofKey source (.ofType t)) _ rfl, start, close_faults]

theorem finish_step (r : Recorder T) (s : Step T) :
    (r.step s).1.finish = ⟨r.finish.statements ++ s.statement?.toList,
      r.finish.faults ++ s.faults⟩ := by
  cases s with
  | bind t source calls =>
    rw [step, bind_eq, finish_faults]
    rfl
  | complain site message =>
    simp [step, complain, finish, close_of_closed, close_pending, close_faults, Step.statement?,
      Step.faults]
  | listStatements =>
    simp [step, finish, close_of_closed, close_pending, Step.statement?, Step.faults]
  | listFaults => simp [step, Step.statement?, Step.faults]

theorem finish_run (r : Recorder T) (ss : List (Step T)) :
    (r.run ss).1.finish = ⟨r.finish.statements ++ ss.filterMap Step.statement?,
      r.finish.faults ++ ss.flatMap Step.faults⟩ := by
  induction ss generalizing r with
  | nil => simp [run]
  | cons s ss ih =>
    rw [run, ih, finish_step, List.filterMap_cons, List.flatMap_cons]
    cases s.statement? <;> simp

end Recorder

theorem record_eq (steps : List (Step T)) :
    record steps = ⟨steps.filterMap Step.statement?, steps.flatMap Step.faults⟩ := by
  rw [record, Recorder.finish_run]
  simp [Recorder.finish, Recorder.close]

theorem record_bindings (steps : List (Step T)) :
    (record steps).bindings = steps.filterMap Step.binding? := by
  rw [record_eq, Transcript.bindings, List.filterMap_filterMap]
  exact congrArg (List.filterMap · steps) (funext Step.statement?_bind_binding?)

theorem exists_bind_of_mem_bindings {steps : List (Step T)} {b : Binding T}
    (h : b ∈ (record steps).bindings) : ∃ t source calls, .bind t source calls ∈ steps ∧
      b = ((Binding.ofKey source (.ofType t)).build calls).1 := by
  rw [record_bindings] at h
  obtain ⟨s, hs, hb⟩ := List.mem_filterMap.mp h
  cases s with
  | bind t source calls => exact ⟨t, source, calls, hs, (Option.some.inj hb).symm⟩
  | complain site message => cases hb
  | listStatements | listFaults => cases hb

end Wiring
