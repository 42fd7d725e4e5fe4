import Wiring.Proofs.Json.Grammar
set_option autoImplicit false

namespace Wiring.JsonSymbol

theorem toNat_ofNat_of_valid {n : Nat} (h : n.isValidChar) : (Char.ofNat n).toNat = n := by
  rw [Char.ofNat, dif_pos h]; rfl

theorem rank_ofUnit {u : Nat} (h : u < 0x10000) : (ofUnit u).rank = u := by
  unfold ofUnit
  split
  · simp only [rank, Fin.val_ofNat]; omega
  · split
    · simp only [rank, Fin.val_ofNat]; omega
    · exact toNat_ofNat_of_valid (by unfold Nat.isValidChar; omega)

/-- No character has the code of half a surrogate pair. -/
theorem rank_injective : Function.Injective rank := by
  have valid (c : Char) : c.toNat < 0xD800 ∨ 0xDFFF < c.toNat ∧ c.toNat < 0x110000 := c.valid
  intro s s' h
  cases s with
  | scalar c =>
    have hc := valid c
    cases s' with
    | scalar c' => exact congrArg _ (Char.toNat_inj.mp h)
    | high b | low b => have hb := b.isLt; simp only [rank] at h; omega
  | high b =>
    have hb := b.isLt
    cases s' with
    | scalar c => have hc := valid c; simp only [rank] at h; omega
    | high b' => exact congrArg _ (Fin.ext (Nat.add_left_cancel h))
    | low b' => simp only [rank] at h; omega
  | low b =>
    cases s' with
    | scalar c => have hc := valid c; have hb := b.isLt; simp only [rank] at h; omega
    | high b' => have hb := b'.isLt; simp only [rank] at h; omega
    | low b' => exact congrArg _ (Fin.ext (Nat.add_left_cancel h))

theorem ofUnit_rank {s : JsonSymbol} (h : s.rank < 0x10000) : ofUnit s.rank = s :=
  rank_injective (rank_ofUnit h)

theorem value_unit_lt (w x y z : Fin 16) : Digits.value [w, x, y, z] < 0x10000 := by
  have hw := w.isLt
  have hx := x.isLt
  have hy := y.isLt
  have hz := z.isLt
  simp only [Digits.value, List.foldl_cons, List.foldl_nil]
  omega

theorem unit?_eq_some_iff {a b c d : Char} {u : Nat} :
    unit? a b c d = some u ↔ ∃ w x y z, Digits.hex? a = some w ∧ Digits.hex? b = some x ∧
      Digits.hex? c = some y ∧ Digits.hex? d = some z ∧ u = Digits.value [w, x, y, z] := by
  simp only [unit?, Option.bind_eq_bind, Option.bind_eq_some_iff, Option.pure_def,
    Option.some.injEq, eq_comm (a := u)]
  grind

theorem short?_eq_some_iff {e c : Char} : short? e = some c ↔ (e, c) ∈ shortEscapes := by
  unfold short?
  split <;> simp_all [shortEscapes, eq_comm]

theorem unquote?_spelled {s : JsonSymbol} {t : List Char} (h : s.Spelled t) (r : List Char) :
    unquote? (t ++ r) = (unquote? r).map fun p => (s :: p.1, p.2) := by
  cases h with
  | @plain c quote slash control =>
    have hc : ¬ (c = '\\' ∨ c.toNat < 32) := not_or.mpr ⟨slash, Nat.not_lt.mpr control⟩
    rw [List.singleton_append, unquote?.eq_4 _ _ quote (fun _ _ _ _ _ h => absurd h slash)
      (fun _ _ h => absurd h slash), if_neg hc]
    cases unquote? r <;> rfl
  | @short e c letter =>
    have he := short?_eq_some_iff.mpr letter
    have hu : e ≠ 'u' := by rintro rfl; cases he
    rw [List.cons_append, List.singleton_append,
      unquote?.eq_3 _ _ (fun _ _ _ _ _ h => absurd h hu), he]
    cases unquote? r <;> rfl
  | @unit s a b c d w x y z ha hb hc hd value =>
    have hu : unit? a b c d = some s.rank :=
      unit?_eq_some_iff.mpr ⟨w, x, y, z, ha, hb, hc, hd, value⟩
    have hs : ofUnit s.rank = s := ofUnit_rank (value ▸ value_unit_lt w x y z)
    change unquote? ('\\' :: 'u' :: a :: b :: c :: d :: r) = _
    rw [unquote?, hu, Option.bind_eq_bind, Option.bind_some, hs]
    cases unquote? r <;> rfl

theorem unquote?_spelledAll {s : List JsonSymbol} {t : List Char} (h : SpelledAll s t)
    (r : List Char) : unquote? (t ++ '"' :: r) = some (s, r) := by
  induction h with
  | nil => rfl
  | cons first _ ih => rw [List.append_assoc, unquote?_spelled first, ih, Option.map_some]

theorem spelledAll_of_unquote? {cs r : List Char} {s : List JsonSymbol}
    (h : unquote? cs = some (s, r)) : ∃ t, SpelledAll s t ∧ cs = t ++ '"' :: r := by
  fun_induction unquote? cs generalizing s with
  | case1 r' =>
    cases h
    exact ⟨[], .nil, rfl⟩
  | case2 a b c d r' ih =>
    obtain ⟨u, hu, h⟩ := Option.bind_eq_some_iff.mp h
    obtain ⟨⟨s', r''⟩, hs, h⟩ := Option.bind_eq_some_iff.mp h
    cases h
    obtain ⟨w, x, y, z, ha, hb, hc, hd, rfl⟩ := unit?_eq_some_iff.mp hu
    obtain ⟨t, ht, rfl⟩ := ih hs
    exact ⟨_, .cons (.unit ha hb hc hd (rank_ofUnit (value_unit_lt w x y z))) ht, rfl⟩
  | case3 e r' _ ih =>
    obtain ⟨c, hc, h⟩ := Option.bind_eq_some_iff.mp h
    obtain ⟨⟨s', r''⟩, hs, h⟩ := Option.bind_eq_some_iff.mp h
    cases h
    obtain ⟨t, ht, rfl⟩ := ih hs
    exact ⟨_, .cons (.short (short?_eq_some_iff.mp hc)) ht, rfl⟩
  | case5 c r' quote _ _ hc ih =>
    obtain ⟨⟨s', r''⟩, hs, h⟩ := Option.bind_eq_some_iff.mp h
    cases h
    obtain ⟨t, ht, rfl⟩ := ih hs
    obtain ⟨slash, control⟩ := not_or.mp hc
    exact ⟨_, .cons (.plain quote slash (Nat.not_lt.mp control)) ht, rfl⟩
  | case4 | case6 => cases h

theorem unquote?_eq_some_iff {cs r : List Char} {s : List JsonSymbol} :
    unquote? cs = some (s, r) ↔ ∃ t, SpelledAll s t ∧ cs = t ++ '"' :: r :=
  ⟨spelledAll_of_unquote?, fun ⟨_, h, e⟩ => e ▸ unquote?_spelledAll h r⟩

theorem toNat_pair (h l : Fin 1024) : (pair h l).toNat = 0x10000 + 1024 * h.val + l.val := by
  have hh := h.isLt
  have hl := l.isLt
  exact toNat_ofNat_of_valid (by unfold Nat.isValidChar; omega)

theorem decodeChars?_eq_some_iff {s : List JsonSymbol} {t : List Char} :
    decodeChars? s = some t ↔ Denotes s t := by
  constructor
  · intro h
    fun_induction decodeChars? s generalizing t with
    | case1 => cases h; exact .nil
    | case2 c r ih =>
      obtain ⟨t', ht, rfl⟩ := Option.map_eq_some_iff.mp h
      exact .scalar c (ih ht)
    | case3 h' l r ih =>
      obtain ⟨t', ht, rfl⟩ := Option.map_eq_some_iff.mp h
      exact .pair (toNat_pair h' l) (ih ht)
    | case4 => cases h
  · intro h
    induction h with
    | nil => rfl
    | scalar c _ ih => rw [decodeChars?, ih]; rfl
    | @pair s t h l c value _ ih =>
      have hc : pair h l = c := Char.toNat_inj.mp (value ▸ toNat_pair h l)
      rw [decodeChars?, ih, hc]; rfl

theorem decode?_eq_some_iff {s : List JsonSymbol} {t : String} :
    decode? s = some t ↔ Denotes s t.toList := by
  rw [← decodeChars?_eq_some_iff, decode?, Option.map_eq_some_iff]
  constructor
  · rintro ⟨cs, h, rfl⟩
    rw [h, String.toList_ofList]
  · intro h
    exact ⟨_, h, String.ofList_toList⟩

theorem denotes_encode (t : String) : Denotes (encode t) t.toList :=
  decode?_eq_some_iff.mp (decode?_encode t)

end Wiring.JsonSymbol
