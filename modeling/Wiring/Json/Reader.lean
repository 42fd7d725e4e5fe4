import Wiring.Json.Basic
set_option autoImplicit false

/-!
Reading strict JSON: one value, white space around its tokens and nothing else. The readers take
a token off the front of the text and return what follows it.
-/

namespace Wiring

def isJsonSpace (c : Char) : Bool := c == ' ' || c == '\n' || c == '\r' || c == '\t'

def skipSpace (cs : List Char) : List Char := cs.dropWhile isJsonSpace

namespace JsonSymbol

def unit? (a b c d : Char) : Option Nat := do
  pure (Digits.value [← Digits.hex? a, ← Digits.hex? b, ← Digits.hex? c, ← Digits.hex? d])

def short? : Char → Option Char
  | '"' => some '"'
  | '\\' => some '\\'
  | '/' => some '/'
  | 'b' => some '\x08'
  | 'f' => some '\x0c'
  | 'n' => some '\n'
  | 'r' => some '\r'
  | 't' => some '\t'
  | _ => none

def unquote? : List Char → Option (List JsonSymbol × List Char)
  | '"' :: r => some ([], r)
  | '\\' :: 'u' :: a :: b :: c :: d :: r => do
      let u ← unit? a b c d
      let (s, r) ← unquote? r
      pure (ofUnit u :: s, r)
  | '\\' :: e :: r => do
      let c ← short? e
      let (s, r) ← unquote? r
      pure (.scalar c :: s, r)
  | c :: r =>
      if c = '\\' ∨ c.toNat < 32 then none
      else do
        let (s, r) ← unquote? r
        pure (.scalar c :: s, r)
  | [] => none

end JsonSymbol

namespace JsonNumber

def takeDigits : List Char → List (Fin 10) × List Char
  | [] => ([], [])
  | c :: r =>
      match Digits.decimal? c with
      | none => ([], c :: r)
      | some d => (d :: (takeDigits r).1, (takeDigits r).2)

def digits? (cs : List Char) : Option (List (Fin 10) × List Char) :=
  match takeDigits cs with
  | ([], _) => none
  | (d :: ds, r) => some (d :: ds, r)

def whole? : List Char → Option (List (Fin 10) × List Char)
  | '0' :: r => some ([0], r)
  | cs => digits? cs

def fraction? : List Char → Option (List (Fin 10) × List Char)
  | '.' :: r => digits? r
  | cs => some ([], cs)

def magnitude? : List Char → Option (Int × List Char)
  | '-' :: r => do
      let (ds, r) ← digits? r
      pure (-(Digits.value ds : Int), r)
  | '+' :: r => do
      let (ds, r) ← digits? r
      pure (Digits.value ds, r)
  | cs => do
      let (ds, r) ← digits? cs
      pure (Digits.value ds, r)

def exponent? : List Char → Option (Option Int × List Char)
  | 'e' :: r | 'E' :: r => do
      let (e, r) ← magnitude? r
      pure (some e, r)
  | cs => some (none, cs)

def unsigned? (negative : Bool) (cs : List Char) : Option (JsonNumber × List Char) := do
  let (whole, cs) ← whole? cs
  let (fraction, cs) ← fraction? cs
  let (exponent, cs) ← exponent? cs
  pure (⟨negative, whole, fraction, exponent⟩, cs)

def read? : List Char → Option (JsonNumber × List Char)
  | '-' :: r => unsigned? true r
  | cs => unsigned? false cs

end JsonNumber

namespace Json

def readName? : List Char → Option (List JsonSymbol × List Char)
  | '"' :: r => do
      let (s, r) ← JsonSymbol.unquote? r
      match skipSpace r with
      | ':' :: r => pure (s, skipSpace r)
      | _ => none
  | _ => none

mutual
/-- One value; `fuel` bounds the depth of the calls. -/
def readValue? : (fuel : Nat) → List Char → Option (Json × List Char)
  | 0, _ => none
  | fuel + 1, cs =>
    match cs with
    | 'n' :: 'u' :: 'l' :: 'l' :: r => some (.null, r)
    | 't' :: 'r' :: 'u' :: 'e' :: r => some (.bool true, r)
    | 'f' :: 'a' :: 'l' :: 's' :: 'e' :: r => some (.bool false, r)
    | '"' :: r => do
        let (s, r) ← JsonSymbol.unquote? r
        pure (.string s, r)
    | '[' :: r =>
      match skipSpace r with
      | ']' :: r => some (.array [], r)
      | r => do
          let (x, r) ← readValue? fuel r
          let (xs, r) ← readItems? fuel (skipSpace r)
          pure (.array (x :: xs), r)
    | '\x7b' :: r =>
      match skipSpace r with
      | '\x7d' :: r => some (.object [], r)
      | r => do
          let (n, r) ← readName? r
          let (x, r) ← readValue? fuel r
          let (ms, r) ← readMembers? fuel (skipSpace r)
          pure (.object ((n, x) :: ms), r)
    | cs => do
        let (n, r) ← JsonNumber.read? cs
        pure (.number n, r)

/-- The items after the first, up to the closing bracket. -/
def readItems? : (fuel : Nat) → List Char → Option (List Json × List Char)
  | 0, _ => none
  | fuel + 1, cs =>
    match cs with
    | ']' :: r => some ([], r)
    | ',' :: r => do
        let (x, r) ← readValue? fuel (skipSpace r)
        let (xs, r) ← readItems? fuel (skipSpace r)
        pure (x :: xs, r)
    | _ => none

def readMembers? : (fuel : Nat) → List Char → Option (List (List JsonSymbol × Json) × List Char)
  | 0, _ => none
  | fuel + 1, cs =>
    match cs with
    | '\x7d' :: r => some ([], r)
    | ',' :: r => do
        let (n, r) ← readName? (skipSpace r)
        let (x, r) ← readValue? fuel r
        let (ms, r) ← readMembers? fuel (skipSpace r)
        pure ((n, x) :: ms, r)
    | _ => none
end

/-- Every call takes a character off the text before it makes the next one, so a fuel above the
text's length never runs out. -/
def readAll? (cs : List Char) : Option Json :=
  match readValue? (cs.length + 1) (skipSpace cs) with
  | some (j, r) => if (skipSpace r).isEmpty then some j else none
  | none => none

def read? (s : String) : Option Json := readAll? s.toList

end Json
end Wiring
