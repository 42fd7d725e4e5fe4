import Wiring.Catalog
import Wiring.Key.Qualifier
set_option autoImplicit false

/-!
Keys: what a binding is known by, a type and perhaps a qualifier. A key carries the name of its
type along for its text; equality and hashing look at the type's tag and at the qualifier only.
-/

namespace Wiring

structure TypeLiteral (T : Type) where
  tag : T
  name : String

namespace TypeLiteral
variable {T : Type}

def of [Catalog T] (t : T) : TypeLiteral T := ⟨t, Catalog.name t⟩

instance [BEq T] : BEq (TypeLiteral T) := ⟨fun a b => a.tag == b.tag⟩

instance [Hashable T] : Hashable (TypeLiteral T) := ⟨fun l => hash l.tag⟩

end TypeLiteral

structure Key (T : Type) where
  literal : TypeLiteral T
  qualifier : Option Qualifier
  deriving BEq, Hashable

namespace Key
variable {T : Type}

def ofLiteral (l : TypeLiteral T) : Key T := ⟨l, none⟩

def ofType [Catalog T] (t : T) : Key T := ofLiteral (.of t)

def type (k : Key T) : T := k.literal.tag

def qualify (k : Key T) (q : Qualifier) : Key T := { k with qualifier := some q }

def marker? (k : Key T) : Option Marker := k.qualifier.map Qualifier.marker

def text (k : Key T) : String :=
  "Key[type=" ++ k.literal.name ++ ", annotation=" ++
    (match k.qualifier with
      | none => "[none]"
      | some q => q.text) ++ "]"

end Key
end Wiring
