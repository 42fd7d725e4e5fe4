import Wiring.Key.Basic
import Wiring.Shared
set_option autoImplicit false

namespace Wiring

inductive TargetKind where
  | untargeted
  | toKey
  | toInstance
  | toProvider
  | toProviderKey
  deriving DecidableEq, Repr

namespace TargetKind

def all : List TargetKind := [.untargeted, .toKey, .toInstance, .toProvider, .toProviderKey]

def name : TargetKind → String
  | .untargeted => "untargeted"
  | .toKey => "to_key"
  | .toInstance => "to_instance"
  | .toProvider => "to_provider_instance"
  | .toProviderKey => "to_provider_key"

def ofName? (s : String) : Option TargetKind := all.find? (·.name == s)

theorem ofName?_name (k : TargetKind) : ofName? k.name = some k := by cases k <;> decide

end TargetKind

inductive Target (T : Type) [Catalog T] where
  | untargeted
  | toKey (key : Key T)
  | toInstance (held : Instance T)
  | toProvider (provider : Provider T)
  | toProviderKey (key : Key T)

namespace Target
variable {T : Type} [Catalog T]

instance [DecidableEq T] : BEq (Target T) where
  beq
    | .untargeted, .untargeted => true
    | .toKey a, .toKey b => a == b
    | .toInstance x, .toInstance y => x == y
    | .toProvider p, .toProvider q => p == q
    | .toProviderKey a, .toProviderKey b => a == b
    | _, _ => false

def kind : Target T → TargetKind
  | .untargeted => .untargeted
  | .toKey _ => .toKey
  | .toInstance _ => .toInstance
  | .toProvider _ => .toProvider
  | .toProviderKey _ => .toProviderKey

def isUntargeted : Target T → Bool
  | .untargeted => true
  | _ => false

def isInstance : Target T → Bool
  | .toInstance _ => true
  | _ => false

def key? : Target T → Option (Key T)
  | .toKey k => some k
  | _ => none

def instance? : Target T → Option (Instance T)
  | .toInstance x => some x
  | _ => none

def provider? : Target T → Option (Provider T)
  | .toProvider p => some p
  | _ => none

def providerKey? : Target T → Option (Key T)
  | .toProviderKey k => some k
  | _ => none

def text : Target T → String
  | .untargeted => "untargeted"
  | .toKey k => k.text
  | .toInstance x => Instance.text x
  | .toProvider p => Provider.text p
  | .toProviderKey k => "provider " ++ k.text

end Target
end Wiring
