import Wiring.Text.Blank
import Wiring.Text.Digits
set_option autoImplicit false

namespace Wiring

structure Missing where
  argument : String
  deriving DecidableEq, Hashable, Repr

def Missing.text (m : Missing) : String := m.argument ++ " must be provided"

structure Site where
  file : String
  line : UInt32
  column : UInt32
  deriving DecidableEq, Hashable, Repr

inductive Source where
  | callSite (site : Site)
  | label (text : String)
  deriving DecidableEq, Hashable, Repr

def Site.text (s : Site) : String :=
  s.file ++ ":" ++ Digits.text s.line.toNat ++ ":" ++ Digits.text s.column.toNat

namespace Source

/-- A blank label tells nothing and is refused; any other stays as it is. -/
def labeled (text : String) : Except Missing Source :=
  if Text.isBlank text then .error ⟨"source"⟩ else .ok (.label text)

def text : Source → String
  | .callSite s => s.text
  | .label t => t

theorem labeled_eq_ok_iff {t : String} {s : Source} :
    labeled t = .ok s ↔ s = .label t ∧ ∃ c ∈ t.toList, Text.isWhite c = false := by
  rw [labeled, ← Text.isBlank_eq_false_iff]
  cases Text.isBlank t <;> simp [eq_comm]

theorem labeled_eq_error_iff {t : String} {e : Missing} :
    labeled t = .error e ↔ e = ⟨"source"⟩ ∧ ∀ c ∈ t.toList, Text.isWhite c = true := by
  rw [labeled, ← Text.isBlank_iff]
  cases Text.isBlank t <;> simp [eq_comm]

end Source
end Wiring
