import Wiring.Json.Basic
set_option autoImplicit false

namespace Wiring

def JsonSymbol.rank : JsonSymbol → Nat
  | .scalar c => c.toNat
  | .high h => 0xD800 + h.val
  | .low l => 0xDC00 + l.val

def JsonSymbol.precedes : List JsonSymbol → List JsonSymbol → Bool
  | [], _ => true
  | _ :: _, [] => false
  | a :: r, b :: s => a.rank < b.rank || (a.rank == b.rank && precedes r s)

namespace Json

mutual
def sorted : Json → Json
  | .array xs => .array (sortedItems xs)
  | .object ms =>
      .object ((sortedMembers ms).mergeSort fun a b => JsonSymbol.precedes a.1 b.1)
  | j => j

def sortedItems : List Json → List Json
  | [] => []
  | x :: xs => sorted x :: sortedItems xs

def sortedMembers : List (List JsonSymbol × Json) → List (List JsonSymbol × Json)
  | [] => []
  | (n, x) :: ms => (n, sorted x) :: sortedMembers ms
end

end Json
end Wiring
