import Wiring.Fault
import Wiring.Statement.Basic
set_option autoImplicit false

/-!
The clauses of a statement that binds the type `t`. Qualifier, target and scoping can each be set
once, and a single instance excludes a scoping. A clause that breaks a rule changes nothing and is
reported.
-/

namespace Wiring
variable {T : Type} [Catalog T]

/-- Instances and providers are those of the bound type itself. -/
inductive Clause (t : T) where
  | qualify (qualifier : Qualifier)
  | toKey (key : Key T)
  | toInstance (held : Shared (Catalog.Carrier t))
  | toProvider (provider : Shared (Supply t))
  | toProviderKey (key : Key T)
  | inMarker (marker : Marker)
  | inScope (scope : Scope)
  | asEagerSingleton

structure Call (t : T) where
  clause : Clause t
  site : Site

def Clause.toType {t : T} (u : T) : Clause t := .toKey (.ofType u)

def Clause.toLiteral {t : T} (l : TypeLiteral T) : Clause t := .toKey (.ofLiteral l)

def Clause.toProviderType {t : T} (u : T) : Clause t := .toProviderKey (.ofType u)

namespace Binding

def setTarget (b : Binding T) (target : Target T) : Except Violation (Binding T) :=
  if b.target.isUntargeted then .ok { b with target } else .error .duplicateTarget

def setScoping (b : Binding T) (scoping : Scoping) : Except Violation (Binding T) :=
  if b.target.isInstance then .error .scopeOnInstance
  else if b.scoping.isUnscoped then .ok { b with scoping }
  else .error .duplicateScope

/-- A second target is told of before a scoping that stands in the way. -/
def setInstance (b : Binding T) (x : Instance T) : Except Violation (Binding T) :=
  if !b.target.isUntargeted then .error .duplicateTarget
  else if b.scoping.isUnscoped then .ok { b with target := .toInstance x }
  else .error .scopeOnInstance

def setQualifier (b : Binding T) (q : Qualifier) : Except Violation (Binding T) :=
  match b.key.qualifier with
  | none => .ok { b with key := b.key.qualify q }
  | some _ => .error .duplicateQualifier

def apply {t : T} (b : Binding T) : Clause t → Except Violation (Binding T)
  | .qualify q => b.setQualifier q
  | .toKey k => b.setTarget (.toKey k)
  | .toInstance x => b.setInstance (.ofShared x)
  | .toProvider p => b.setTarget (.toProvider (.ofShared p))
  | .toProviderKey k => b.setTarget (.toProviderKey k)
  | .inMarker m => b.setScoping (.marker m)
  | .inScope s => b.setScoping (.scope s)
  | .asEagerSingleton => b.setScoping .eagerSingleton

/-- The binding after a call, and the fault if the call breaks a rule. The fault has the place of
the call itself, and the key as it is by then. -/
def call {t : T} (b : Binding T) (c : Call t) : Binding T × Option (Fault T) :=
  match b.apply c.clause with
  | .ok b' => (b', none)
  | .error rule => (b, some (.violated rule (.callSite c.site) b.key))

def build {t : T} (b : Binding T) : List (Call t) → Binding T × List (Fault T)
  | [] => (b, [])
  | c :: cs =>
    let (b, fault) := b.call c
    let (b, faults) := b.build cs
    (b, fault.toList ++ faults)

theorem build_append {t : T} (b : Binding T) (cs ds : List (Call t)) :
    b.build (cs ++ ds) =
      ((b.build cs).1.build ds |>.1, (b.build cs).2 ++ ((b.build cs).1.build ds).2) := by
  induction cs generalizing b with
  | nil => simp [build]
  | cons c cs ih => simp [build, ih]

end Binding
end Wiring
