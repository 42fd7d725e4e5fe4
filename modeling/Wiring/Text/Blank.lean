import Wiring.Text.Ranges
set_option autoImplicit false

namespace Wiring.Text

/-- The code points with the Unicode property `White_Space`. -/
def whiteSpace : Ranges :=
  [(0x09, 0x0D), (0x20, 0x20), (0x85, 0x85), (0xA0, 0xA0), (0x1680, 0x1680), (0x2000, 0x200A),
    (0x2028, 0x2029), (0x202F, 0x202F), (0x205F, 0x205F), (0x3000, 0x3000)]

def isWhite (c : Char) : Bool := whiteSpace.has c

def trimStart (cs : List Char) : List Char := cs.dropWhile isWhite

def trimEnd (cs : List Char) : List Char := (trimStart cs.reverse).reverse

def trim (cs : List Char) : List Char := trimEnd (trimStart cs)

def isBlank (s : String) : Bool := (trim s.toList).isEmpty

theorem trimStart_cons (c : Char) (cs : List Char) :
    trimStart (c :: cs) = if isWhite c then trimStart cs else c :: cs := by
  cases h : isWhite c <;> simp [trimStart, h]

theorem trimStart_eq_nil_iff {cs : List Char} :
    trimStart cs = [] ↔ ∀ c ∈ cs, isWhite c = true := by
  induction cs with
  | nil => simp [trimStart]
  | cons c cs ih => cases h : isWhite c <;> simp [trimStart_cons, h, ih]

theorem trimEnd_eq_nil_iff {cs : List Char} :
    trimEnd cs = [] ↔ ∀ c ∈ cs, isWhite c = true := by
  simp [trimEnd, trimStart_eq_nil_iff]

theorem all_trimStart_iff {cs : List Char} :
    (∀ c ∈ trimStart cs, isWhite c = true) ↔ ∀ c ∈ cs, isWhite c = true := by
  induction cs with
  | nil => simp [trimStart]
  | cons c cs ih => cases h : isWhite c <;> simp [trimStart_cons, h, ih]

theorem isBlank_iff {s : String} : isBlank s = true ↔ ∀ c ∈ s.toList, isWhite c = true := by
  rw [isBlank, List.isEmpty_iff, trim, trimEnd_eq_nil_iff, all_trimStart_iff]

theorem isBlank_eq_false_iff {s : String} :
    isBlank s = false ↔ ∃ c ∈ s.toList, isWhite c = false := by
  rw [← Bool.not_eq_true, isBlank_iff]; simp

end Wiring.Text
