import Wiring.Text.Digits
set_option autoImplicit false

/-!
JSON values as they are spelled: a string keeps the halves of surrogate pairs that its escapes
name, and a number its digits. `decode?_encode` says that every text is the text of a JSON string.
-/

namespace Wiring

/-- One unit of a JSON string: a character, or one half of a surrogate pair, which only an escape
can name. -/
inductive JsonSymbol where
  | scalar (c : Char)
  | high (bits : Fin 1024)
  | low (bits : Fin 1024)
  deriving DecidableEq, Repr

structure JsonNumber where
  negative : Bool
  whole : List (Fin 10)
  fraction : List (Fin 10)
  exponent : Option Int
  deriving DecidableEq, Repr

inductive Json where
  | null
  | bool (b : Bool)
  | number (n : JsonNumber)
  | string (s : List JsonSymbol)
  | array (items : List Json)
  | object (members : List (List JsonSymbol × Json))

namespace JsonSymbol

def ofUnit (u : Nat) : JsonSymbol :=
  if 0xD800 ≤ u ∧ u < 0xDC00 then .high (Fin.ofNat 1024 (u - 0xD800))
  else if 0xDC00 ≤ u ∧ u < 0xE000 then .low (Fin.ofNat 1024 (u - 0xDC00))
  else .scalar (Char.ofNat u)

def pair (h l : Fin 1024) : Char := Char.ofNat (0x10000 + 1024 * h.val + l.val)

def encode (s : String) : List JsonSymbol := s.toList.map .scalar

/-- The text of a JSON string, unless half a surrogate pair stands alone in it. -/
def decodeChars? : List JsonSymbol → Option (List Char)
  | [] => some []
  | .scalar c :: r => (decodeChars? r).map (c :: ·)
  | .high h :: .low l :: r => (decodeChars? r).map (pair h l :: ·)
  | _ => none

def decode? (s : List JsonSymbol) : Option String := (decodeChars? s).map String.ofList

theorem decodeChars?_map_scalar (cs : List Char) : decodeChars? (cs.map .scalar) = some cs := by
  induction cs with
  | nil => rfl
  | cons c cs ih => simp [decodeChars?, ih]

theorem decode?_encode (s : String) : decode? (encode s) = some s := by
  simp [decode?, encode, decodeChars?_map_scalar]

end JsonSymbol

namespace JsonNumber

def ofNat (n : Nat) : JsonNumber := ⟨false, Digits.decimal n, [], none⟩

/-- The value of a literal without sign, fraction and exponent. -/
def natural? (n : JsonNumber) : Option Nat :=
  if n.negative = false ∧ n.fraction = [] ∧ n.exponent = none then some (Digits.value n.whole)
  else none

theorem natural?_ofNat (n : Nat) : (ofNat n).natural? = some n := by
  simp [natural?, ofNat, Digits.decimal, Digits.value_ofNat]

end JsonNumber

namespace Json

def ofText (s : String) : Json := .string (JsonSymbol.encode s)

def ofWord (n : UInt32) : Json := .number (.ofNat n.toNat)

def ofFields (fields : List (String × Json)) : Json :=
  .object (fields.map fun f => (JsonSymbol.encode f.1, f.2))

def text? : Json → Option String
  | .string s => JsonSymbol.decode? s
  | _ => none

def word? : Json → Option UInt32
  | .number n => do
      let m ← n.natural?
      if m < UInt32.size then some (UInt32.ofNat m) else none
  | _ => none

@[simp] theorem text?_ofText (s : String) : (ofText s).text? = some s :=
  JsonSymbol.decode?_encode s

@[simp] theorem word?_ofWord (n : UInt32) : (ofWord n).word? = some n := by
  simp [ofWord, word?, JsonNumber.natural?_ofNat, n.toNat_lt]

end Json
end Wiring
