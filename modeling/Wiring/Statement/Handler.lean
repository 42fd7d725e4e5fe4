import Wiring.Statement.Basic
set_option autoImplicit false

namespace Wiring
variable {T : Type} [Catalog T] {α : Type}

structure TargetHandler (T : Type) [Catalog T] (α : Type) where
  untargeted : α
  toKey : Key T → α
  toInstance : Instance T → α
  toProvider : Provider T → α
  toProviderKey : Key T → α

structure ScopingHandler (α : Type) where
  unscoped : α
  marker : Marker → α
  scope : Scope → α
  eagerSingleton : α

structure StatementHandler (T : Type) [Catalog T] (α : Type) where
  bind : Binding T → α
  complain : Complaint → α

def Target.handle (h : TargetHandler T α) : Target T → α
  | .untargeted => h.untargeted
  | .toKey k => h.toKey k
  | .toInstance x => h.toInstance x
  | .toProvider p => h.toProvider p
  | .toProviderKey k => h.toProviderKey k

def Scoping.handle (h : ScopingHandler α) : Scoping → α
  | .unscoped => h.unscoped
  | .marker m => h.marker m
  | .scope s => h.scope s
  | .eagerSingleton => h.eagerSingleton

def Statement.handle (h : StatementHandler T α) : Statement T → α
  | .bind b => h.bind b
  | .complain c => h.complain c

end Wiring
