import Wiring.Binder.Request
import Wiring.Statement.Handler
set_option autoImplicit false

namespace Wiring
variable {T σ : Type} [Catalog T] [Binder T σ]

def Target.request : Target T → Request T
  | .untargeted => .asScoped
  | .toKey k => .toKey k
  | .toInstance x => .toInstance x
  | .toProvider p => .toProvider p
  | .toProviderKey k => .toProviderKey k

/-- The binder after it has heard the target, and whether it waits for a scoping. -/
def Target.send (t : Target T) (s : σ) : σ × Bool :=
  (Binder.receive s t.request, t.request.continues)

def Scoping.request? : Scoping → Option (Request T)
  | .unscoped => none
  | .marker m => some (.inMarker m)
  | .scope s => some (.inScope s)
  | .eagerSingleton => some .asEagerSingleton

def Scoping.send (sc : Scoping) (s : σ) : σ :=
  Option.elim sc.request? s (Binder.receive s)

def Binding.replay (b : Binding T) (s : σ) : σ :=
  let (s, waits) := b.target.send (Binder.receive s (.bind b.source b.key))
  if waits then b.scoping.send s else s

def Complaint.replay (c : Complaint) (s : σ) : σ :=
  Binder.receive s (.report (.reported c.source c.message))

def replayHandler : StatementHandler T (σ → σ) where
  bind := Binding.replay
  complain := Complaint.replay

def Statement.replay (st : Statement T) : σ → σ := st.handle replayHandler

def replay (statements : List (Statement T)) (s : σ) : σ :=
  statements.foldl (fun s st => st.replay s) s

end Wiring
