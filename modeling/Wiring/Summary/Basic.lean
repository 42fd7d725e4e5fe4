import Wiring.Statement.Basic
set_option autoImplicit false

namespace Wiring

structure Summary where
  source : Source
  key : String
  target : TargetKind
  targetDetail : Option String
  scoping : ScopingKind
  scopingDetail : Option String
  deriving DecidableEq, Repr

variable {T : Type} [Catalog T]

def Target.detail? (t : Target T) : Option String :=
  if t.isUntargeted then none else some t.text

def Scoping.detail? : Scoping → Option String
  | .marker m => some (Scoping.marker m).text
  | .scope s => some (Scoping.scope s).text
  | .unscoped | .eagerSingleton => none

def Binding.summary (b : Binding T) : Summary where
  source := b.source
  key := b.key.text
  target := b.target.kind
  targetDetail := b.target.detail?
  scoping := b.scoping.kind
  scopingDetail := b.scoping.detail?

end Wiring
