import Wiring.Json.Reader
import Wiring.Json.Sorted
set_option autoImplicit false

/-!
The grammar of strict JSON: which texts spell which value. Nothing in it reads or writes, so the
reader and the writer are both measured against it.
-/

namespace Wiring

/-- Whatever is read, the reader took a spelling of it off the front of the text. -/
def TakesOnly {α : Type} (read : List Char → Option (α × List Char))
    (Spelled : α → List Char → Prop) : Prop :=
  ∀ ⦃cs r a⦄, read cs = some (a, r) → ∃ t, Spelled a t ∧ cs = t ++ r

def IsJsonGap (cs : List Char) : Prop := ∀ c ∈ cs, isJsonSpace c = true

namespace JsonSymbol

def shortEscapes : List (Char × Char) :=
  [('"', '"'), ('\\', '\\'), ('/', '/'), ('b', '\x08'), ('f', '\x0c'), ('n', '\n'), ('r', '\r'),
    ('t', '\t')]

/-- A character stands for itself unless it is a quote, a backslash or a control below U+0020; some
have an escape of two characters; and four hexadecimal digits spell every symbol up to U+FFFF,
halves of surrogate pairs included. -/
inductive Spelled : JsonSymbol → List Char → Prop
  | plain {c : Char} (quote : c ≠ '"') (slash : c ≠ '\\') (control : 32 ≤ c.toNat) :
      Spelled (.scalar c) [c]
  | short {e c : Char} (letter : (e, c) ∈ shortEscapes) : Spelled (.scalar c) ['\\', e]
  | unit {s : JsonSymbol} {a b c d : Char} {w x y z : Fin 16} (ha : Digits.hex? a = some w)
      (hb : Digits.hex? b = some x) (hc : Digits.hex? c = some y) (hd : Digits.hex? d = some z)
      (value : s.rank = Digits.value [w, x, y, z]) : Spelled s ['\\', 'u', a, b, c, d]

inductive SpelledAll : List JsonSymbol → List Char → Prop
  | nil : SpelledAll [] []
  | cons {s : JsonSymbol} {ss : List JsonSymbol} {t ts : List Char} (first : s.Spelled t)
      (others : SpelledAll ss ts) : SpelledAll (s :: ss) (t ++ ts)

def Quoted (s : List JsonSymbol) (t : List Char) : Prop :=
  ∃ u, SpelledAll s u ∧ t = '"' :: (u ++ ['"'])

/-- The text that symbols make. The two halves of a surrogate pair make one character, and a half
that stands alone makes none. -/
inductive Denotes : List JsonSymbol → List Char → Prop
  | nil : Denotes [] []
  | scalar {s : List JsonSymbol} {t : List Char} (c : Char) (others : Denotes s t) :
      Denotes (.scalar c :: s) (c :: t)
  | pair {s : List JsonSymbol} {t : List Char} {h l : Fin 1024} {c : Char}
      (value : c.toNat = 0x10000 + 1024 * h.val + l.val) (others : Denotes s t) :
      Denotes (.high h :: .low l :: s) (c :: t)

end JsonSymbol

namespace JsonNumber

inductive Whole : List (Fin 10) → Prop
  | zero : Whole [0]
  | cons {d : Fin 10} {ds : List (Fin 10)} (lead : d ≠ 0) : Whole (d :: ds)

inductive SpelledFraction : List (Fin 10) → List Char → Prop
  | absent : SpelledFraction [] []
  | present {ds : List (Fin 10)} (nonempty : ds ≠ []) :
      SpelledFraction ds ('.' :: ds.map Digits.char)

inductive SpelledMagnitude : Int → List Char → Prop
  | bare {ds : List (Fin 10)} (nonempty : ds ≠ []) :
      SpelledMagnitude (Digits.value ds) (ds.map Digits.char)
  | plus {ds : List (Fin 10)} (nonempty : ds ≠ []) :
      SpelledMagnitude (Digits.value ds) ('+' :: ds.map Digits.char)
  | minus {ds : List (Fin 10)} (nonempty : ds ≠ []) :
      SpelledMagnitude (-(Digits.value ds : Int)) ('-' :: ds.map Digits.char)

inductive SpelledExponent : Option Int → List Char → Prop
  | absent : SpelledExponent none []
  | lower {e : Int} {t : List Char} (value : SpelledMagnitude e t) :
      SpelledExponent (some e) ('e' :: t)
  | upper {e : Int} {t : List Char} (value : SpelledMagnitude e t) :
      SpelledExponent (some e) ('E' :: t)

def sign : (negative : Bool) → List Char
  | true => ['-']
  | false => []

inductive Spelled : JsonNumber → List Char → Prop
  | mk (negative : Bool) {ds fs : List (Fin 10)} {e : Option Int} {t u : List Char}
      (whole : Whole ds) (fraction : SpelledFraction fs t) (exponent : SpelledExponent e u) :
      Spelled ⟨negative, ds, fs, e⟩ (sign negative ++ (ds.map Digits.char ++ (t ++ u)))

end JsonNumber

namespace Json

inductive SpelledName : List JsonSymbol → List Char → Prop
  | mk {n : List JsonSymbol} {t b c : List Char} (name : JsonSymbol.Quoted n t)
      (before : IsJsonGap b) (after : IsJsonGap c) : SpelledName n (t ++ (b ++ ':' :: c))

mutual
/-- White space may stand on both sides of every token inside a value, and there is no comma
after the last item or member. -/
inductive Spelled : Json → List Char → Prop
  | null : Spelled .null ['n', 'u', 'l', 'l']
  | yes : Spelled (.bool true) ['t', 'r', 'u', 'e']
  | no : Spelled (.bool false) ['f', 'a', 'l', 's', 'e']
  | number {n : JsonNumber} {t : List Char} (number : n.Spelled t) : Spelled (.number n) t
  | string {s : List JsonSymbol} {t : List Char} (quoted : JsonSymbol.Quoted s t) :
      Spelled (.string s) t
  | emptyArray {b : List Char} (gap : IsJsonGap b) : Spelled (.array []) ('[' :: (b ++ [']']))
  | array {x : Json} {xs : List Json} {b t c u : List Char} (before : IsJsonGap b)
      (first : Spelled x t) (after : IsJsonGap c) (others : SpelledItems xs u) :
      Spelled (.array (x :: xs)) ('[' :: (b ++ (t ++ (c ++ u))))
  | emptyObject {b : List Char} (gap : IsJsonGap b) :
      Spelled (.object []) ('\x7b' :: (b ++ ['\x7d']))
  | object {n : List JsonSymbol} {x : Json} {ms : List (List JsonSymbol × Json)}
      {b s t c u : List Char} (before : IsJsonGap b) (name : SpelledName n s)
      (first : Spelled x t) (after : IsJsonGap c) (others : SpelledMembers ms u) :
      Spelled (.object ((n, x) :: ms)) ('\x7b' :: (b ++ (s ++ (t ++ (c ++ u)))))

/-- The items after the first, each with its comma, and the closing bracket. -/
inductive SpelledItems : List Json → List Char → Prop
  | close : SpelledItems [] [']']
  | next {x : Json} {xs : List Json} {b t c u : List Char} (before : IsJsonGap b)
      (item : Spelled x t) (after : IsJsonGap c) (others : SpelledItems xs u) :
      SpelledItems (x :: xs) (',' :: (b ++ (t ++ (c ++ u))))

inductive SpelledMembers : List (List JsonSymbol × Json) → List Char → Prop
  | close : SpelledMembers [] ['\x7d']
  | next {n : List JsonSymbol} {x : Json} {ms : List (List JsonSymbol × Json)}
      {b s t c u : List Char} (before : IsJsonGap b) (name : SpelledName n s)
      (value : Spelled x t) (after : IsJsonGap c) (others : SpelledMembers ms u) :
      SpelledMembers ((n, x) :: ms) (',' :: (b ++ (s ++ (t ++ (c ++ u)))))
end

inductive Document : Json → List Char → Prop
  | mk {j : Json} {b t c : List Char} (before : IsJsonGap b) (value : j.Spelled t)
      (after : IsJsonGap c) : Document j (b ++ (t ++ c))

end Json
end Wiring
