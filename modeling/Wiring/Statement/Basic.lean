import Wiring.Scoping
import Wiring.Target
set_option autoImplicit false

namespace Wiring

/-- A key is bound to a target and kept as the scoping says. -/
structure Binding (T : Type) [Catalog T] where
  source : Source
  key : Key T
  target : Target T
  scoping : Scoping

structure Complaint where
  source : Source
  message : String
  deriving DecidableEq, Repr

inductive Statement (T : Type) [Catalog T] where
  | bind (binding : Binding T)
  | complain (complaint : Complaint)

variable {T : Type} [Catalog T]

instance [DecidableEq T] : BEq (Binding T) where
  beq a b := a.source == b.source && a.key == b.key && a.target == b.target &&
    a.scoping == b.scoping

instance [DecidableEq T] : BEq (Statement T) where
  beq
    | .bind a, .bind b => a == b
    | .complain a, .complain b => a == b
    | _, _ => false

def Binding.ofKey (source : Source) (key : Key T) : Binding T :=
  ⟨source, key, .untargeted, .unscoped⟩

/-- What is still as it was when the statement began stays unsaid. -/
def Binding.text (b : Binding T) : String :=
  "bind " ++ b.key.text ++ (if b.target.isUntargeted then "" else " to " ++ b.target.text) ++
    (if b.scoping.isUnscoped then "" else " in " ++ b.scoping.text)

def Statement.source : Statement T → Source
  | .bind b => b.source
  | .complain c => c.source

def Statement.binding? : Statement T → Option (Binding T)
  | .bind b => some b
  | .complain _ => none

end Wiring
