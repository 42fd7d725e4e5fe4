import Wiring.Proofs.Statement.WellFormed
set_option autoImplicit false

namespace Wiring
variable {T : Type} [Catalog T] {t : T}

theorem eq_of_countP_le_one {α : Type} {s : Multiset α} {f : α → Bool}
    (h : s.countP (f · = true) ≤ 1) {x y : α} (hx : x ∈ s) (hy : y ∈ s) (fx : f x = true)
    (fy : f y = true) : x = y := by
  obtain ⟨s, rfl⟩ := Multiset.exists_cons_of_mem hx
  rcases Multiset.mem_cons.mp hy with rfl | hy
  · rfl
  · have hp : 0 < s.countP (f · = true) := Multiset.countP_pos.mpr ⟨y, hy, fy⟩
    rw [Multiset.countP_cons, if_pos fx] at h
    omega

namespace Binding

/-- Two provisions change places unless they are of one sort and differ. -/
theorem put_put (b : Binding T) {p q : Provision T}
    (hq : p.isQualifier = true → q.isQualifier = true → p = q)
    (ht : p.isTarget = true → q.isTarget = true → p = q)
    (hs : p.isScoping = true → q.isScoping = true → p = q) :
    (b.put p).put q = (b.put q).put p := by
  cases p with
  | qualifier _ =>
    cases q with
    | qualifier _ => rw [hq rfl rfl]
    | link _ _ _ | single _ | scoping _ _ => rfl
  | link _ _ _ | single _ =>
    cases q with
    | link _ _ _ | single _ => rw [ht rfl rfl]
    | qualifier _ | scoping _ _ => rfl
  | scoping _ _ =>
    cases q with
    | scoping _ _ => rw [hs rfl rfl]
    | qualifier _ | link _ _ _ | single _ => rfl

theorem put_put_of_mem {ps : Multiset (Provision T)} (h : WellFormed ps) {p q : Provision T}
    (hp : p ∈ ps) (hq : q ∈ ps) (b : Binding T) : (b.put p).put q = (b.put q).put p :=
  put_put b (eq_of_countP_le_one h.qualifiers hp hq) (eq_of_countP_le_one h.targets hp hq)
    (eq_of_countP_le_one h.scopings hp hq)

theorem build_eq_foldl_put {b : Binding T} {cs : List (Call t)} (h : (b.build cs).2 = []) :
    (b.build cs).1 = (cs.map Call.provision).foldl put b := by
  induction cs generalizing b with
  | nil => rfl
  | cons c cs ih =>
    rw [build_cons_snd, List.append_eq_nil_iff, Option.toList_eq_nil_iff, call_eq,
      Option.map_eq_none_iff] at h
    rw [build_cons_fst, ih h.2, after_of_admits h.1]
    rfl

theorem build_faults_eq_nil_iff (source : Source) (cs : List (Call t)) :
    ((ofKey source (.ofType t)).build cs).2 = [] ↔ WellFormed (Call.bag cs) := by
  rw [build_faults, Call.faultsOf_eq_nil_iff]

theorem bag_of_perm {cs ds : List (Call t)} (h : cs.Perm ds) : Call.bag ds = Call.bag cs :=
  Multiset.coe_eq_coe.mpr (h.symm.map _)

/-- Where no call is refused, none is in any other order, and the same is built. Where some call
is refused, some call is in any other order. -/
theorem build_of_perm (source : Source) (cs : List (Call t)) :
    (((ofKey source (.ofType t)).build cs).2 = [] → ∀ ds : List (Call t), cs.Perm ds →
      ((ofKey source (.ofType t)).build ds).2 = [] ∧
      ((ofKey source (.ofType t)).build ds).1 = ((ofKey source (.ofType t)).build cs).1) ∧
    (((ofKey source (.ofType t)).build cs).2 ≠ [] → ∀ ds : List (Call t), cs.Perm ds →
      ((ofKey source (.ofType t)).build ds).2 ≠ []) := by
  have hf : ∀ ds : List (Call t), cs.Perm ds → (((ofKey source (.ofType t)).build ds).2 = [] ↔
      ((ofKey source (.ofType t)).build cs).2 = []) := by
    intro ds hp
    rw [build_faults_eq_nil_iff, build_faults_eq_nil_iff, bag_of_perm hp]
  refine ⟨fun h ds hp => ?_, fun h ds hp => mt (hf ds hp).mp h⟩
  have hd := (hf ds hp).mpr h
  refine ⟨hd, ?_⟩
  rw [build_eq_foldl_put h, build_eq_foldl_put hd]
  have hw : WellFormed (Call.bag cs) := (build_faults_eq_nil_iff source cs).mp h
  refine ((hp.map Call.provision).foldl_eq' (fun p hp q hq b => ?_) _).symm
  exact put_put_of_mem hw hp hq b

end Binding
end Wiring
