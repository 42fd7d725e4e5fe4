set_option autoImplicit false

namespace Wiring.Digits

/-- The digits of a number in base `b`, the most significant first and none of them needless. -/
def ofNat (b : Nat) (hb : 1 < b) (n : Nat) : List (Fin b) :=
  if h : n < b then [⟨n, h⟩]
  else ofNat b hb (n / b) ++ [⟨n % b, Nat.mod_lt n (by omega)⟩]
termination_by n
decreasing_by exact Nat.div_lt_self (by omega) hb

def value {b : Nat} (ds : List (Fin b)) : Nat := ds.foldl (fun n d => n * b + d.val) (0 : Nat)

theorem value_concat {b : Nat} (ds : List (Fin b)) (d : Fin b) :
    value (ds ++ [d]) = value ds * b + d.val := by
  simp [value]

theorem value_ofNat (b : Nat) (hb : 1 < b) (n : Nat) : value (ofNat b hb n) = n := by
  induction n using Nat.strongRecOn with
  | ind n ih =>
    rw [ofNat]
    split
    · simp [value]
    · rw [value_concat, ih _ (Nat.div_lt_self (by omega) hb)]
      exact Nat.div_add_mod' n b

def char {b : Nat} (d : Fin b) : Char :=
  if d.val < 10 then Char.ofNat (48 + d.val) else Char.ofNat (87 + d.val)

def decimal? (c : Char) : Option (Fin 10) :=
  if h : 48 ≤ c.toNat ∧ c.toNat < 58 then some ⟨c.toNat - 48, by omega⟩ else none

def hex? (c : Char) : Option (Fin 16) :=
  if h : 48 ≤ c.toNat ∧ c.toNat < 58 then some ⟨c.toNat - 48, by omega⟩
  else if h : 97 ≤ c.toNat ∧ c.toNat < 103 then some ⟨c.toNat - 87, by omega⟩
  else if h : 65 ≤ c.toNat ∧ c.toNat < 71 then some ⟨c.toNat - 55, by omega⟩
  else none

theorem decimal?_char : ∀ d : Fin 10, decimal? (char d) = some d := by decide

theorem hex?_char : ∀ d : Fin 16, hex? (char d) = some d := by decide

def decimal (n : Nat) : List (Fin 10) := ofNat 10 (by decide) n

def hex (n : Nat) : List (Fin 16) := ofNat 16 (by decide) n

def text (n : Nat) : String := String.ofList ((decimal n).map char)

theorem char_eq_digitChar : ∀ d : Fin 10, char d = Nat.digitChar d.val := by decide

theorem map_char_decimal (n : Nat) : (decimal n).map char = Nat.toDigits 10 n := by
  induction n using Nat.strongRecOn with
  | ind n ih =>
    rw [decimal, ofNat, Nat.toDigits_eq_if (by decide)]
    split
    · simp [char_eq_digitChar]
    · rw [List.map_append, ← decimal, ih _ (Nat.div_lt_self (by omega) (by decide))]
      simp [char_eq_digitChar]

theorem text_eq_toString (n : Nat) : text n = toString n := by
  rw [text, map_char_decimal, Nat.toString_eq_repr, Nat.repr_eq_ofList_toDigits]

end Wiring.Digits
