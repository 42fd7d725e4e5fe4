import Mathlib.Data.Finset.Card
import Mathlib.Data.Finset.Dedup
import Std.Data.HashSet.Lemmas
import Wiring.Key.Distinct
set_option autoImplicit false

namespace Wiring
variable {α : Type} [BEq α] [Hashable α]

theorem insertEach_cons (seen : Std.HashSet α) (x : α) (xs : List α) :
    insertEach seen (x :: xs) =
      ((insertEach (seen.insert x) xs).1,
        (!seen.contains x) :: (insertEach (seen.insert x) xs).2) := by
  simp [insertEach]

section
variable [EquivBEq α] [LawfulHashable α]

theorem contains_insertEach (seen : Std.HashSet α) (xs : List α) (a : α) :
    (insertEach seen xs).1.contains a = (seen.contains a || xs.any (· == a)) := by
  induction xs generalizing seen with
  | nil => simp [insertEach]
  | cons x xs ih =>
    rw [insertEach_cons, ih, Std.HashSet.contains_insert, List.any_cons]
    cases x == a <;> cases seen.contains a <;> rfl

theorem flags_insertEach (seen : Std.HashSet α) (xs : List α) :
    (insertEach seen xs).2 =
      xs.mapIdx fun i x => !(seen.contains x || (xs.take i).any (· == x)) := by
  induction xs generalizing seen with
  | nil => rfl
  | cons x xs ih =>
    rw [insertEach_cons, ih, List.mapIdx_cons, List.take_zero, List.any_nil, Bool.or_false]
    refine congrArg (_ :: List.mapIdx · xs) (funext₂ fun i y => ?_)
    rw [List.take_succ_cons, List.any_cons, Std.HashSet.contains_insert]
    cases x == y <;> cases seen.contains y <;> rfl

theorem size_insertEach (seen : Std.HashSet α) (xs : List α) :
    (insertEach seen xs).1.size = seen.size + (insertEach seen xs).2.count true := by
  induction xs generalizing seen with
  | nil => rfl
  | cons x xs ih =>
    rw [insertEach_cons, ih, Std.HashSet.size_insert]
    cases h : seen.contains x with
    | true => simp [← Std.HashSet.contains_iff_mem, h]
    | false => simp [← Std.HashSet.contains_iff_mem, h]; omega

theorem flags_insertEach_empty (xs : List α) :
    (insertEach ∅ xs).2 = xs.mapIdx fun i x => !(xs.take i).any (· == x) := by
  simp [flags_insertEach]

/-- What the values are does not matter but for which of them are equal. -/
theorem flags_insertEach_map {β γ : Type} [BEq β] [Hashable β] [EquivBEq β] [LawfulHashable β]
    {f : γ → α} {g : γ → β} {xs : List γ}
    (h : ∀ x ∈ xs, ∀ y ∈ xs, (f x == f y) = (g x == g y)) :
    (insertEach ∅ (xs.map f)).2 = (insertEach ∅ (xs.map g)).2 := by
  rw [flags_insertEach_empty, flags_insertEach_empty]
  refine List.ext_getElem (by simp) fun i hi _ => ?_
  have hlt : i < xs.length := by simpa using hi
  simp only [List.getElem_mapIdx, List.getElem_map, ← List.map_take, List.any_map]
  refine congrArg not (Bool.eq_iff_iff.mpr ?_)
  simp only [List.any_eq_true, Function.comp_apply]
  refine exists_congr fun x => and_congr_right fun hx => ?_
  rw [h x (List.mem_of_mem_take hx) xs[i] (List.getElem_mem hlt)]

theorem mem_insertEach_empty {xs : List α} {a : α} :
    a ∈ (insertEach ∅ xs).1 ↔ ∃ x ∈ xs, (x == a) = true := by
  rw [← Std.HashSet.contains_iff_mem, contains_insertEach]
  simp

-- what equality sees of a value is what `f` makes of it
variable {β : Type} {f : α → β} (hf : ∀ a b, (a == b) = true ↔ f a = f b)
include hf

theorem mem_map_toList_insertEach {xs : List α} {y : β} :
    y ∈ (insertEach ∅ xs).1.toList.map f ↔ y ∈ xs.map f := by
  have hmem (a : α) : (insertEach ∅ xs).1.toList.contains a = true ↔ ∃ x ∈ xs, f x = f a := by
    rw [Std.HashSet.contains_toList, Std.HashSet.contains_iff_mem, mem_insertEach_empty]
    simp only [hf]
  simp only [List.mem_map]
  constructor
  · rintro ⟨a, ha, rfl⟩
    exact (hmem a).mp (List.contains_iff_exists_mem_beq.mpr ⟨a, ha, BEq.rfl⟩)
  · rintro ⟨x, hx, rfl⟩
    obtain ⟨a, ha, hxa⟩ := List.contains_iff_exists_mem_beq.mp ((hmem x).mpr ⟨x, hx, rfl⟩)
    exact ⟨a, ha, ((hf x a).mp hxa).symm⟩

variable [DecidableEq β]

theorem countP_insertEach_empty (p : β → Bool) (xs : List α) :
    (insertEach ∅ xs).1.toList.countP (p <| f ·) = ((xs.map f).filter p).toFinset.card := by
  have hnodup : ((insertEach ∅ xs).1.toList.map f).Nodup := by
    refine List.pairwise_map.mpr (Std.HashSet.distinct_toList.imp fun {a b} hab heq => ?_)
    rw [(hf a b).mpr heq] at hab
    cases hab
  have hfilter : (((insertEach ∅ xs).1.toList.map f).filter p).toFinset =
      ((xs.map f).filter p).toFinset := by
    ext y
    simp only [List.mem_toFinset, List.mem_filter, mem_map_toList_insertEach hf]
  rw [← hfilter, List.toFinset_card_of_nodup (hnodup.filter p), ← List.countP_eq_length_filter,
    List.countP_map]
  rfl

theorem size_insertEach_empty (xs : List α) :
    (insertEach ∅ xs).1.size = (xs.map f).toFinset.card := by
  simpa [← Std.HashSet.length_toList] using countP_insertEach_empty hf (fun _ => true) xs

end
end Wiring
