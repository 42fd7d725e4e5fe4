import Wiring.Json.Fields
import Wiring.Json.Sorted
import Wiring.Proofs.Json.Written
set_option autoImplicit false

namespace Wiring.Json

@[simp] theorem sorted_ofText (t : String) : (ofText t).sorted = ofText t := by
  simp [ofText, sorted]

@[simp] theorem sorted_ofWord (n : UInt32) : (ofWord n).sorted = ofWord n := by
  simp [ofWord, sorted]

theorem sorted_array (xs : List Json) : (array xs).sorted = .array (xs.map sorted) := by
  rw [sorted]
  congr 1
  induction xs with
  | nil => rw [sortedItems, List.map_nil]
  | cons x xs ih => rw [sortedItems, List.map_cons, ih]

theorem sortedMembers_eq_map (ms : List (List JsonSymbol × Json)) :
    sortedMembers ms = ms.map fun m => (m.1, m.2.sorted) := by
  induction ms with
  | nil => rw [sortedMembers, List.map_nil]
  | cons m ms ih => rw [sortedMembers, List.map_cons, ih]

namespace Fields

def sorted (fs : Fields) : Fields :=
  (fs.map fun f => (f.1, f.2.sorted)).mergeSort fun f g =>
    JsonSymbol.precedes (JsonSymbol.encode f.1) (JsonSymbol.encode g.1)

theorem sorted_perm (fs : Fields) : fs.sorted.Perm (fs.map fun f => (f.1, f.2.sorted)) :=
  List.mergeSort_perm _ _

theorem sorted_perm_self {fs : Fields} (h : ∀ f ∈ fs, f.2.sorted = f.2) : fs.sorted.Perm fs := by
  have hm : (fs.map fun f => (f.1, f.2.sorted)) = fs.map id :=
    List.map_congr_left fun f hf => Prod.ext rfl (h f hf)
  have hp := fs.sorted_perm
  rwa [hm, List.map_id] at hp

end Fields

theorem sorted_ofFields (fs : Fields) : (ofFields fs).sorted = ofFields fs.sorted := by
  rw [ofFields, sorted, sortedMembers_eq_map, ofFields, Fields.sorted]
  -- the order looks at names alone, which are the same before and after they are spelled
  have hm := List.map_mergeSort (l := fs.map fun f => (f.1, f.2.sorted))
    (r := fun f g => JsonSymbol.precedes (JsonSymbol.encode f.1) (JsonSymbol.encode g.1))
    (s := fun a b => JsonSymbol.precedes a.1 b.1) (f := fun f => (JsonSymbol.encode f.1, f.2))
    fun _ _ _ _ => rfl
  rw [hm, List.map_map, List.map_map]
  rfl

theorem spelled_sorted_ofFields {fs : Fields} (h : ∀ f ∈ fs, f.2.sorted.Spelled f.2.sorted.wire) :
    (ofFields fs).sorted.Spelled (ofFields fs).sorted.wire := by
  rw [sorted_ofFields]
  refine spelled_ofFields fun f hf => ?_
  obtain ⟨g, hg, rfl⟩ := List.mem_map.mp (fs.sorted_perm.mem_iff.mp hf)
  exact h g hg

end Wiring.Json
