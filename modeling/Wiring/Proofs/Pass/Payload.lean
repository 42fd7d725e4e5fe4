import Wiring.Proofs.Binder.Fidelity
import Wiring.Proofs.Statement.FirstWins
import Wiring.Proofs.Statement.Refusal
set_option autoImplicit false

/-!
Instances and providers through a pass. A statement's calls hold their payloads under the bound
type, and a binding forgets that type but for a tag; still the binding that is recorded, and the
declaration that a registry makes of it, give back what the call brought (`payload_record`).
-/

namespace Wiring
variable {T : Type} [Catalog T] {t : T}

/-- What is held shows the name of its type; who names that very type gets it back, place and all,
and nobody else gets anything. -/
structure Erased.Keeps [DecidableEq T] {F : T → Type} (x : Erased F) (held : Shared (F t)) :
    Prop where
  name : Catalog.name x.type = Catalog.name t
  only : ∀ u, (x.downcast? u).isSome ↔ u = t
  back : x.downcast? t = some held

theorem Erased.keeps_ofShared [DecidableEq T] {F : T → Type} (held : Shared (F t)) :
    (ofShared held).Keeps held where
  name := rfl
  only u := by rw [downcast?_isSome_iff]; exact eq_comm
  back := downcast?_ofShared held

theorem Call.clause_of_instance {c : Call t} {x : Instance T}
    (h : c.provision.target? = some (.toInstance x)) :
    ∃ held, c.clause = .toInstance held ∧ x = .ofShared held := by
  obtain ⟨clause, site⟩ := c
  cases clause <;> cases h
  exact ⟨_, rfl, rfl⟩

theorem Call.clause_of_provider {c : Call t} {p : Provider T}
    (h : c.provision.target? = some (.toProvider p)) :
    ∃ held, c.clause = .toProvider held ∧ p = .ofShared held := by
  obtain ⟨clause, site⟩ := c
  cases clause <;> cases h
  exact ⟨_, rfl, rfl⟩

namespace Binding

theorem filter_admitted_of_targeted {b : Binding T} (ht : b.target.isUntargeted = false)
    (cs : List (Call t)) : (b.admitted cs).filter (·.provision.isTarget) = [] := by
  induction cs generalizing b with
  | nil => rfl
  | cons c cs ih =>
    cases h : b.breaks? c.provision with
    | some rule =>
      rw [admitted_of_breaks h]
      exact ih ht
    | none =>
      rw [admitted_of_admits h, List.filter_cons, Provision.isTarget_eq]
      cases hp : c.provision.target? with
      | none => exact ih (by rw [put_target, hp]; exact ht)
      | some x =>
        rw [untargeted_of_admits h hp] at ht
        cases ht

theorem exists_admitted_target {b : Binding T} (ht : b.target = .untargeted) {cs : List (Call t)}
    (hx : (b.build cs).1.target.isUntargeted = false) :
    ∃ c, (b.admitted cs).filter (·.provision.isTarget) = [c] ∧
      c.provision.target? = some (b.build cs).1.target := by
  induction cs generalizing b with
  | nil =>
    rw [build_nil, ht] at hx
    cases hx
  | cons c cs ih =>
    cases h : b.breaks? c.provision with
    | some rule =>
      rw [build_of_breaks h] at hx ⊢
      rw [admitted_of_breaks h]
      exact ih ht hx
    | none =>
      rw [build_of_admits h] at hx ⊢
      rw [admitted_of_admits h, List.filter_cons, Provision.isTarget_eq]
      cases hp : c.provision.target? with
      | none => exact ih (by rw [put_target, hp]; exact ht) hx
      | some x =>
        have hc : (b.put c.provision).target = x := by rw [put_target, hp]; rfl
        have hu : (b.put c.provision).target.isUntargeted = false := by
          rw [hc]
          exact Provision.isUntargeted_of_target? hp
        refine ⟨c, ?_, ?_⟩
        · rw [filter_admitted_of_targeted hu]
          rfl
        · rw [build_target_of_targeted hu, hc, hp]

/-- The binding is one of the type `t`. An instance or a provider in it is the one that came with
the only admitted call that names a target. -/
structure Carries [DecidableEq T] (b : Binding T) (source : Source) (calls : List (Call t)) :
    Prop where
  type : b.key.literal = .of t
  ofInstance : ∀ x, b.target = .toInstance x → ∃ c held,
    ((ofKey source (.ofType t)).admitted calls).filter (·.provision.isTarget) = [c] ∧
      c.clause = .toInstance held ∧ Erased.Keeps x held
  ofProvider : ∀ p, b.target = .toProvider p → ∃ c held,
    ((ofKey source (.ofType t)).admitted calls).filter (·.provision.isTarget) = [c] ∧
      c.clause = .toProvider held ∧ Erased.Keeps p held

theorem carries_build [DecidableEq T] (source : Source) (calls : List (Call t)) :
    ((ofKey source (.ofType t)).build calls).1.Carries source calls where
  type := by rw [build_key]; rfl
  ofInstance x hx := by
    obtain ⟨c, hc, ht⟩ := exists_admitted_target (b := ofKey source (.ofType t)) rfl
      (by rw [hx]; rfl)
    rw [hx] at ht
    obtain ⟨held, hh, rfl⟩ := Call.clause_of_instance ht
    exact ⟨c, held, hc, hh, Erased.keeps_ofShared held⟩
  ofProvider p hp := by
    obtain ⟨c, hc, ht⟩ := exists_admitted_target (b := ofKey source (.ofType t)) rfl
      (by rw [hp]; rfl)
    rw [hp] at ht
    obtain ⟨held, hh, rfl⟩ := Call.clause_of_provider ht
    exact ⟨c, held, hc, hh, Erased.keeps_ofShared held⟩

end Binding

theorem replay_eq_append (steps : List (Step T)) (r : Registry T) :
    replay (record steps).statements r =
      { bindings := r.bindings ++ (record steps).bindings
        faults := r.faults ++ (record steps).statements.filterMap Statement.reported? } := by
  rw [replay_eq_foldl]
  exact Registry.foldl_receive_statements (fun b hb => exclusive_of_mem_bindings hb) r

theorem bindings_replay (steps : List (Step T)) (r : Registry T) :
    (replay (record steps).statements r).bindings = r.bindings ++ (record steps).bindings := by
  rw [replay_eq_append]

/-- Wherever a statement stands in a pass, its binding is recorded with the payload that its calls
brought, and replaying declares the same binding in its place. -/
theorem payload_record [DecidableEq T] (before after : List (Step T)) (t : T) (source : Source)
    (calls : List (Call t)) (r : Registry T) :
    ∃ b : Binding T, b.Carries source calls ∧
      (record (before ++ .bind t source calls :: after)).statements =
        (record before).statements ++ .bind b :: (record after).statements ∧
      (replay (record (before ++ .bind t source calls :: after)).statements r).bindings =
        r.bindings ++ (record before).bindings ++ b :: (record after).bindings := by
  have hs : (record (before ++ .bind t source calls :: after)).statements =
      (record before).statements ++
        .bind ((Binding.ofKey source (.ofType t)).build calls).1 :: (record after).statements := by
    rw [record_eq, record_eq, record_eq, List.filterMap_append]
    rfl
  refine ⟨_, Binding.carries_build source calls, hs, ?_⟩
  rw [bindings_replay, Transcript.bindings, hs, List.filterMap_append, List.append_assoc]
  rfl

end Wiring
