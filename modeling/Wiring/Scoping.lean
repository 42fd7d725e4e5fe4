import Wiring.Key.Qualifier
import Wiring.Text.Quoted
set_option autoImplicit false

namespace Wiring

/-- A policy for keeping instances, known by its place; the name is there for people to read. -/
structure Scope where
  handle : Nat
  name : String
  deriving Repr

instance : BEq Scope := ⟨fun a b => a.handle == b.handle⟩

inductive ScopingKind where
  | unscoped
  | marker
  | scope
  | eagerSingleton
  deriving DecidableEq, Repr

namespace ScopingKind

def all : List ScopingKind := [.unscoped, .marker, .scope, .eagerSingleton]

def name : ScopingKind → String
  | .unscoped => "no_scoping"
  | .marker => "scope_annotation"
  | .scope => "scope_instance"
  | .eagerSingleton => "eager_singleton"

def ofName? (s : String) : Option ScopingKind := all.find? (·.name == s)

theorem ofName?_name (k : ScopingKind) : ofName? k.name = some k := by cases k <;> decide

end ScopingKind

inductive Scoping where
  | unscoped
  | marker (marker : Marker)
  | scope (scope : Scope)
  | eagerSingleton

namespace Scoping

instance : BEq Scoping where
  beq
    | .unscoped, .unscoped => true
    | .marker a, .marker b => a == b
    | .scope a, .scope b => a == b
    | .eagerSingleton, .eagerSingleton => true
    | _, _ => false

def kind : Scoping → ScopingKind
  | .unscoped => .unscoped
  | .marker _ => .marker
  | .scope _ => .scope
  | .eagerSingleton => .eagerSingleton

def isUnscoped : Scoping → Bool
  | .unscoped => true
  | _ => false

def isEagerSingleton : Scoping → Bool
  | .eagerSingleton => true
  | _ => false

def marker? : Scoping → Option Marker
  | .marker m => some m
  | _ => none

def scope? : Scoping → Option Scope
  | .scope s => some s
  | _ => none

def text : Scoping → String
  | .unscoped => "no scoping"
  | .marker m => m.name
  | .scope s => s.name
  | .eagerSingleton => "eager singleton"

def inspect : Scoping → String
  | .unscoped => "NoScoping"
  | .marker m => "ScopeAnnotation(AnnotationType(" ++ Text.quoted m.name ++ "))"
  | .scope s => "ScopeInstance(" ++ Text.quoted s.name ++ ")"
  | .eagerSingleton => "EagerSingleton"

end Scoping
end Wiring
