set_option autoImplicit false

/-!
The types that can be wired. They stand behind tags, and two tags are one type exactly when they
are equal; the name is there for people to read, and different types may share one.
-/

namespace Wiring

class Catalog (T : Type) where
  name : T → String
  Carrier : T → Type

/-- Two types to state examples with: a service, and what implements it. -/
inductive Sample where
  | service
  | implementation
  deriving DecidableEq

instance : Catalog Sample where
  name
    | .service => "Service"
    | .implementation => "ServiceImpl"
  Carrier _ := String

end Wiring
