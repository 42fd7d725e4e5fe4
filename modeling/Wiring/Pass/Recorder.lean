import Wiring.Pass.Transcript
import Wiring.Statement.Clause
set_option autoImplicit false

/-!
Recording a configuration pass. A binding stays pending, so that its clauses can still shape it,
until the next statement, a look at the statements or the end of the pass closes it. `foldl_call`
says that the calls on it do what they do to the binding alone.
-/

namespace Wiring

structure Recorder (T : Type) [Catalog T] where
  closed : List (Statement T) := []
  pending : Option (Binding T) := none
  faults : List (Fault T) := []

inductive Step (T : Type) [Catalog T] where
  | bind (type : T) (source : Source) (calls : List (Call type))
  | complain (site : Site) (message : String)
  | listStatements
  | listFaults

/-- What a step lets the configuration see: the binding before and after each call together with
the statement's faults, or the list that it asks for. -/
inductive Answer (T : Type) [Catalog T] where
  | bound (drafts : List (Binding T)) (faults : List (Fault T))
  | complained
  | statements (statements : List (Statement T))
  | faults (faults : List (Fault T))

namespace Recorder
variable {T : Type} [Catalog T]

def close (r : Recorder T) : Recorder T :=
  match r.pending with
  | none => r
  | some b => { r with closed := r.closed ++ [.bind b], pending := none }

def start (r : Recorder T) (source : Source) (t : T) : Recorder T :=
  { r.close with pending := some (.ofKey source (.ofType t)) }

/-- A call shapes the pending binding or is reported; where none is pending it does nothing. -/
def call {t : T} (r : Recorder T) (c : Call t) : Recorder T :=
  match r.pending with
  | none => r
  | some b =>
    let (b, fault) := b.call c
    { r with pending := some b, faults := r.faults ++ fault.toList }

def complain (r : Recorder T) (site : Site) (message : String) : Recorder T :=
  let r := r.close
  { r with closed := r.closed ++ [.complain ⟨.callSite site, message⟩] }

/-- The recorders after none, one, two and so on of the calls. -/
def callEach {t : T} (r : Recorder T) : List (Call t) → List (Recorder T)
  | [] => [r]
  | c :: cs => r :: (r.call c).callEach cs

def bind (r : Recorder T) (source : Source) (t : T) (calls : List (Call t)) : Recorder T :=
  calls.foldl call (r.start source t)

theorem foldl_call {t : T} (r : Recorder T) (b : Binding T) (cs : List (Call t))
    (h : r.pending = some b) :
    cs.foldl call r = { r with
      pending := some (b.build cs).1, faults := r.faults ++ (b.build cs).2 } := by
  induction cs generalizing r b with
  | nil => cases r; simp_all [Binding.build]
  | cons c cs ih =>
    rw [List.foldl_cons, ih (r.call c) (b.call c).1 (by simp [call, h])]
    simp [call, h, Binding.build]

def step (r : Recorder T) : Step T → Recorder T × Answer T
  | .bind t source calls =>
    let after := r.bind source t calls
    let drafts := ((r.start source t).callEach calls).filterMap pending
    (after, .bound drafts (after.faults.drop r.faults.length))
  | .complain site message => (r.complain site message, .complained)
  | .listStatements => (r.close, .statements r.close.closed)
  | .listFaults => (r, .faults r.faults)

def run (r : Recorder T) : List (Step T) → Recorder T × List (Answer T)
  | [] => (r, [])
  | s :: ss =>
    let (r, a) := r.step s
    let (r, as) := r.run ss
    (r, a :: as)

def finish (r : Recorder T) : Transcript T := ⟨r.close.closed, r.close.faults⟩

end Recorder

def record {T : Type} [Catalog T] (steps : List (Step T)) : Transcript T :=
  (Recorder.run {} steps).1.finish

end Wiring
