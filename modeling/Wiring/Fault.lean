import Wiring.Key.Basic
set_option autoImplicit false

namespace Wiring

inductive Violation where
  | duplicateQualifier
  | duplicateTarget
  | duplicateScope
  | scopeOnInstance
  deriving DecidableEq, Repr

def Violation.message : Violation → String
  | .duplicateQualifier => "More than one annotation is specified for this binding."
  | .duplicateTarget => "Implementation is set more than once."
  | .duplicateScope => "Scope is set more than once."
  | .scopeOnInstance => "Setting the scope is not permitted when binding to a single instance."

/-- A fault that belongs to a place names the place, and the key of its statement if it has one. -/
inductive Fault (T : Type) where
  | missing (what : Missing)
  | violated (rule : Violation) (origin : Source) (key : Key T)
  | reported (origin : Source) (message : String)
  deriving BEq

namespace Fault
variable {T : Type}

def message : Fault T → String
  | .missing _ => "required argument is missing"
  | .violated rule _ _ => rule.message
  | .reported _ m => m

def origin? : Fault T → Option Source
  | .missing _ => none
  | .violated _ s _ | .reported s _ => some s

def key? : Fault T → Option (Key T)
  | .violated _ _ k => some k
  | .missing _ | .reported _ _ => none

def text : Fault T → String
  | .missing what => what.text
  | .violated rule s k => s.text ++ ": " ++ rule.message ++ " (bind " ++ k.text ++ ")"
  | .reported s m => s.text ++ ": " ++ m

end Fault
end Wiring
