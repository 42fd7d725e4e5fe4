import Wiring.Binder.Request
set_option autoImplicit false

namespace Wiring

def amendLast {α : Type} (change : α → α) : List α → List α
  | [] => []
  | [x] => [change x]
  | x :: y :: r => x :: amendLast change (y :: r)

@[simp] theorem amendLast_concat {α : Type} (change : α → α) (xs : List α) (x : α) :
    amendLast change (xs ++ [x]) = xs ++ [change x] := by
  induction xs with
  | nil => rfl
  | cons y ys ih => cases ys <;> simp_all [amendLast]

structure Registry (T : Type) [Catalog T] where
  bindings : List (Binding T) := []
  faults : List (Fault T) := []

namespace Registry
variable {T : Type} [Catalog T]

def setTarget (r : Registry T) (target : Target T) : Registry T :=
  { r with bindings := amendLast (fun b => { b with target }) r.bindings }

def setScoping (r : Registry T) (scoping : Scoping) : Registry T :=
  { r with bindings := amendLast (fun b => { b with scoping }) r.bindings }

def receive (r : Registry T) : Request T → Registry T
  | .bind source key => { r with bindings := r.bindings ++ [.ofKey source key] }
  | .report f => { r with faults := r.faults ++ [f] }
  | .toKey k => r.setTarget (.toKey k)
  | .toInstance x => r.setTarget (.toInstance x)
  | .toProvider p => r.setTarget (.toProvider p)
  | .toProviderKey k => r.setTarget (.toProviderKey k)
  | .asScoped => r
  | .inMarker m => r.setScoping (.marker m)
  | .inScope s => r.setScoping (.scope s)
  | .asEagerSingleton => r.setScoping .eagerSingleton

instance : Binder T (Registry T) := ⟨receive⟩

end Registry
end Wiring
