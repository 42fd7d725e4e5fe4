import Wiring.Fault
import Wiring.Json.Sorted
import Wiring.Summary.Json
set_option autoImplicit false

namespace Wiring

structure Transcript (T : Type) [Catalog T] where
  statements : List (Statement T)
  faults : List (Fault T)

structure Rejection (T : Type) where
  faults : List (Fault T)

def Rejection.text {T : Type} (r : Rejection T) : String :=
  Digits.text r.faults.length ++ " configuration error(s): " ++
    String.intercalate "; " (r.faults.map Fault.text)

namespace Transcript
variable {T : Type} [Catalog T]

def isValid (t : Transcript T) : Bool := t.faults.isEmpty

def bindings (t : Transcript T) : List (Binding T) := t.statements.filterMap Statement.binding?

def summaries (t : Transcript T) : List Summary := t.bindings.map Binding.summary

/-- The summaries and the texts of the faults, fields sorted by name. -/
def report (t : Transcript T) : Json :=
  Json.sorted <| .ofFields
    [("bindings", .array (t.summaries.map Summary.toJson)),
      ("errors", .array (t.faults.map fun f => .ofText f.text))]

def result (t : Transcript T) : Except (Rejection T) (List (Statement T)) :=
  if t.isValid then .ok t.statements else .error ⟨t.faults⟩

end Transcript
end Wiring
