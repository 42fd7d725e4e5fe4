import Wiring.Source.Basic
set_option autoImplicit false

namespace Wiring

structure Marker where
  name : String
  deriving DecidableEq, Hashable, Repr

namespace Marker

def named : Marker := ⟨"Named"⟩

def singleton : Marker := ⟨"Singleton"⟩

def ofName (name : String) : Except Missing Marker :=
  if Text.isBlank name then .error ⟨"annotation_type"⟩ else .ok ⟨name⟩

theorem ofName_eq_ok_iff {n : String} {m : Marker} :
    ofName n = .ok m ↔ m = ⟨n⟩ ∧ ∃ c ∈ n.toList, Text.isWhite c = false := by
  rw [ofName, ← Text.isBlank_eq_false_iff]
  cases Text.isBlank n <;> simp [eq_comm]

theorem ofName_eq_error_iff {n : String} {e : Missing} :
    ofName n = .error e ↔ e = ⟨"annotation_type"⟩ ∧ ∀ c ∈ n.toList, Text.isWhite c = true := by
  rw [ofName, ← Text.isBlank_iff]
  cases Text.isBlank n <;> simp [eq_comm]

end Marker

inductive Qualifier where
  | plain (marker : Marker)
  | valued (marker : Marker) (value : String)
  deriving DecidableEq, Hashable, Repr

namespace Qualifier

def named (value : String) : Qualifier := .valued .named value

def marker : Qualifier → Marker
  | .plain m => m
  | .valued m _ => m

def text : Qualifier → String
  | .plain m => "@" ++ m.name
  | .valued m v => "@" ++ m.name ++ "(value=" ++ v ++ ")"

end Qualifier
end Wiring
