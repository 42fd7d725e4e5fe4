import Wiring.Json.Basic
set_option autoImplicit false

namespace Wiring

def JsonSymbol.unit (u : Nat) : List Char :=
  ['\\', 'u', Digits.char (Fin.ofNat 16 (u / 4096)), Digits.char (Fin.ofNat 16 (u / 256)),
    Digits.char (Fin.ofNat 16 (u / 16)), Digits.char (Fin.ofNat 16 u)]

/-- Quote, backslash and five controls have an escape of two characters, the other controls
below U+0020 one of four digits; what is left stands as it is. -/
def JsonSymbol.wire : JsonSymbol → List Char
  | .scalar '"' => ['\\', '"']
  | .scalar '\\' => ['\\', '\\']
  | .scalar '\x08' => ['\\', 'b']
  | .scalar '\x0c' => ['\\', 'f']
  | .scalar '\n' => ['\\', 'n']
  | .scalar '\r' => ['\\', 'r']
  | .scalar '\t' => ['\\', 't']
  | .scalar c => if c.toNat < 32 then unit c.toNat else [c]
  | .high h => unit (0xD800 + h.val)
  | .low l => unit (0xDC00 + l.val)

def JsonSymbol.quote (s : List JsonSymbol) : List Char := '"' :: s.flatMap wire ++ ['"']

def JsonNumber.wire (n : JsonNumber) : List Char :=
  (if n.negative then ['-'] else []) ++ n.whole.map Digits.char ++
    (if n.fraction.isEmpty then [] else '.' :: n.fraction.map Digits.char) ++
    match n.exponent with
    | none => []
    | some e => 'e' :: (if e < 0 then ['-'] else []) ++ (Digits.decimal e.natAbs).map Digits.char

namespace Json

mutual
def wire : Json → List Char
  | .null => ['n', 'u', 'l', 'l']
  | .bool true => ['t', 'r', 'u', 'e']
  | .bool false => ['f', 'a', 'l', 's', 'e']
  | .number n => n.wire
  | .string s => JsonSymbol.quote s
  | .array [] => ['[', ']']
  | .array (x :: xs) => '[' :: wire x ++ wireItems xs
  | .object [] => ['\x7b', '\x7d']
  | .object ((n, x) :: ms) => '\x7b' :: JsonSymbol.quote n ++ ':' :: wire x ++ wireMembers ms

/-- The items after the first, each with its comma, and the closing bracket. -/
def wireItems : List Json → List Char
  | [] => [']']
  | x :: xs => ',' :: wire x ++ wireItems xs

def wireMembers : List (List JsonSymbol × Json) → List Char
  | [] => ['\x7d']
  | (n, x) :: ms => ',' :: JsonSymbol.quote n ++ ':' :: wire x ++ wireMembers ms
end

def text (j : Json) : String := String.ofList j.wire

end Json
end Wiring
