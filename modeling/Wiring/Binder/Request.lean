import Wiring.Fault
import Wiring.Statement.Basic
set_option autoImplicit false

/-!
The requests that bindings are declared with. A binder is anything that takes them in one after
another; those after a `bind` are about the binding that it began.
-/

namespace Wiring

inductive Request (T : Type) [Catalog T] where
  | bind (source : Source) (key : Key T)
  | report (fault : Fault T)
  | toKey (key : Key T)
  | toInstance (held : Instance T)
  | toProvider (provider : Provider T)
  | toProviderKey (key : Key T)
  | asScoped
  | inMarker (marker : Marker)
  | inScope (scope : Scope)
  | asEagerSingleton

class Binder (T : outParam Type) [Catalog T] (σ : Type) where
  receive : σ → Request T → σ

variable {T : Type} [Catalog T]

instance : Binder T (List (Request T)) := ⟨fun log r => log ++ [r]⟩

/-- Whether a request leaves a scoping to choose: a target does, unless it is an instance. -/
def Request.continues : Request T → Bool
  | .toKey _ | .toProvider _ | .toProviderKey _ | .asScoped => true
  | _ => false

end Wiring
