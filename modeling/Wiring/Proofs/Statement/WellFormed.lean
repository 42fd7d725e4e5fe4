import Wiring.Proofs.Statement.Objection
import Mathlib.Data.Multiset.Count
set_option autoImplicit false

namespace Wiring
variable {T : Type} [Catalog T] {t : T}

/-- At most one of each sort, and no single instance together with a scoping. -/
@[mk_iff]
structure WellFormed (ps : Multiset (Provision T)) : Prop where
  qualifiers : ps.countP (·.isQualifier) ≤ 1
  targets : ps.countP (·.isTarget) ≤ 1
  scopings : ps.countP (·.isScoping) ≤ 1
  exclusive : ps.countP (·.isSingle) = 0 ∨ ps.countP (·.isScoping) = 0

theorem WellFormed.mono {ps qs : Multiset (Provision T)} (h : ps ≤ qs) (hq : WellFormed qs) :
    WellFormed ps where
  qualifiers := (Multiset.countP_le_of_le _ h).trans hq.qualifiers
  targets := (Multiset.countP_le_of_le _ h).trans hq.targets
  scopings := (Multiset.countP_le_of_le _ h).trans hq.scopings
  exclusive := by
    have hi := Multiset.countP_le_of_le (·.isSingle) h
    have hs := Multiset.countP_le_of_le (·.isScoping) h
    have he := hq.exclusive
    omega

theorem ite_some_eq_none_iff {α : Type} {p : Prop} [Decidable p] {a : α} {x : Option α} :
    (if p then some a else x) = none ↔ ¬ p ∧ x = none := by
  by_cases h : p <;> simp [h]

namespace Call

def bag (cs : List (Call t)) : Multiset (Provision T) := Multiset.ofList (cs.map Call.provision)

theorem bag_concat (cs : List (Call t)) (c : Call t) :
    bag (cs ++ [c]) = c.provision ::ₘ bag cs := by
  rw [bag, List.map_append, bag, Multiset.cons_coe, Multiset.coe_eq_coe]
  exact List.perm_append_singleton _ _

theorem any_eq_countP_bag (f : Provision T → Bool) (cs : List (Call t)) :
    cs.any (fun c => f c.provision) = decide (0 < (bag cs).countP (f · = true)) := by
  rw [Bool.eq_iff_iff, List.any_eq_true, decide_eq_true_iff, Multiset.countP_pos]
  simp [bag]

/-- After calls that go together, the rules turn down exactly what does not go with them. -/
theorem objection_eq_none_iff {cs : List (Call t)} (hw : WellFormed (bag cs)) (c : Call t) :
    c.objection? cs cs = none ↔ WellFormed (bag (cs ++ [c])) := by
  obtain ⟨hq, ht, hs, he⟩ := hw
  simp only [objection?, ite_some_eq_none_iff, bag_concat, wellFormed_iff, any_eq_countP_bag,
    Multiset.countP_cons]
  -- from here on it is a question about four numbers, for each sort of call
  generalize (bag cs).countP (·.isQualifier) = q at *
  generalize (bag cs).countP (·.isTarget) = x at *
  generalize (bag cs).countP (·.isScoping) = s at *
  generalize (bag cs).countP (·.isSingle) = i at *
  cases c.provision <;>
    simp [Provision.isQualifier, Provision.isTarget, Provision.isSingle, Provision.isScoping,
      Provision.qualifier?, Provision.link?, Provision.single?, Provision.scoping?] <;>
    omega

theorem faultsOf_concat_eq_nil_iff (cs : List (Call t)) (c : Call t) :
    faultsOf (cs ++ [c]) = [] ↔ faultsOf cs = [] ∧ c.objection? cs (accepted cs) = none := by
  rw [faultsOf_concat, List.append_eq_nil_iff, Option.toList_eq_nil_iff, fault?,
    Option.map_eq_none_iff]

theorem accepted_of_faultsOf_eq_nil {cs : List (Call t)} (h : faultsOf cs = []) :
    accepted cs = cs := by
  induction cs using List.reverseRecOn with
  | nil => rfl
  | append_singleton cs c ih =>
    obtain ⟨hn, ho⟩ := (faultsOf_concat_eq_nil_iff cs c).mp h
    rw [accepted_concat, ho, ih hn]
    rfl

theorem faultsOf_eq_nil_iff (cs : List (Call t)) : faultsOf cs = [] ↔ WellFormed (bag cs) := by
  induction cs using List.reverseRecOn with
  | nil => exact ⟨fun _ => (wellFormed_iff _).mpr (by simp [bag]), fun _ => rfl⟩
  | append_singleton cs c ih =>
    rw [faultsOf_concat_eq_nil_iff]
    constructor
    · rintro ⟨hn, ho⟩
      rw [accepted_of_faultsOf_eq_nil hn] at ho
      exact (objection_eq_none_iff (ih.mp hn) c).mp ho
    · intro hw
      have hle : bag cs ≤ bag (cs ++ [c]) := by
        rw [bag_concat]; exact Multiset.le_cons_self _ _
      have hn : faultsOf cs = [] := ih.mpr (hw.mono hle)
      rw [accepted_of_faultsOf_eq_nil hn]
      exact ⟨hn, (objection_eq_none_iff (hw.mono hle) c).mpr hw⟩

end Call
end Wiring
