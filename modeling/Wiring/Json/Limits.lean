import Wiring.Json.Basic
set_option autoImplicit false

/-!
What a JSON value has to be for all of it to be taken in as data: its containers nest no deeper
than a limit, its strings are texts, and its numbers are finite in double precision.
-/

namespace Wiring

/-- The nearest double to a natural number, a tie going to the even significand. -/
def nearestDouble (n : Nat) : Nat :=
  let unit := Nat.pow 2 (n.log2 - 52)
  let q := n / unit
  let r := n % unit
  (if 2 * r > unit ∨ (2 * r = unit ∧ q % 2 = 1) then q + 1 else q) * unit

/-- The midpoint between the largest double and 2¹⁰²⁴: from here on a value rounds to infinity. -/
def doubleBound : Nat := Nat.pow 2 1024 - Nat.pow 2 970

namespace JsonNumber

/-- Takes in digits while the result fits 64 bits, and counts those left out. -/
def accumulate (n : Nat) : List (Fin 10) → Nat × Nat
  | [] => (n, 0)
  | d :: ds =>
    if n * 10 + d.val < UInt64.size then accumulate (n * 10 + d.val) ds else (n, ds.length + 1)

def scientific (n : JsonNumber) : Nat × Int :=
  let (w, missedWhole) := accumulate 0 n.whole
  let (m, missedFraction) := accumulate w n.fraction
  (m, n.exponent.getD 0 + missedWhole - (n.fraction.length - missedFraction))

/-- Whether the product of the leading digits and their power of ten, each taken as a double, is
finite. A power beyond 10³⁰⁸ is too large for every number but zero. -/
def isFinite (n : JsonNumber) : Bool :=
  let (m, e) := n.scientific
  m == 0 || e < 0 ||
    (e < 309 && nearestDouble m * nearestDouble (Nat.pow 10 e.toNat) < doubleBound)

end JsonNumber

namespace Json

mutual
/-- Whether all of the value can be taken in when `depth` more containers may be opened. -/
def isWithin : (depth : Nat) → Json → Bool
  | _, .null | _, .bool _ => true
  | _, .number n => n.isFinite
  | _, .string s => (JsonSymbol.decode? s).isSome
  | 0, .array _ | 0, .object _ => false
  | depth + 1, .array xs => areItemsWithin depth xs
  | depth + 1, .object ms => areMembersWithin depth ms

def areItemsWithin : (depth : Nat) → List Json → Bool
  | _, [] => true
  | depth, x :: xs => isWithin depth x && areItemsWithin depth xs

def areMembersWithin : (depth : Nat) → List (List JsonSymbol × Json) → Bool
  | _, [] => true
  | depth, (n, x) :: ms =>
      (JsonSymbol.decode? n).isSome && isWithin depth x && areMembersWithin depth ms
end

def maxDepth : Nat := 127

end Json
end Wiring
