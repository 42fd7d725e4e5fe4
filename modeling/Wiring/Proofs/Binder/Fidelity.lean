import Wiring.Binder.Registry
import Wiring.Proofs.Binder.Requests
import Wiring.Proofs.Pass.Steps
import Wiring.Proofs.Statement.Exclusion
import Mathlib.Data.List.Basic
set_option autoImplicit false

/-!
A registry after a replay: what it held before, then each recorded binding as it was recorded, and
each error that the configuration reported (`replay_record`). What the pass itself found at fault
stays with the pass.
-/

namespace Wiring
variable {T : Type} [Catalog T]

def Statement.reported? : Statement T → Option (Fault T)
  | .bind _ => none
  | .complain c => some (.reported c.source c.message)

def Step.reported? : Step T → Option (Fault T)
  | .complain site message => some (.reported (.callSite site) message)
  | .bind _ _ _ | .listStatements | .listFaults => none

namespace Registry

theorem setTarget_concat (bs : List (Binding T)) (b : Binding T) (fs : List (Fault T))
    (x : Target T) :
    setTarget ⟨bs ++ [b], fs⟩ x = ⟨bs ++ [{ b with target := x }], fs⟩ := by
  simp [setTarget]

theorem setScoping_concat (bs : List (Binding T)) (b : Binding T) (fs : List (Fault T))
    (s : Scoping) :
    setScoping ⟨bs ++ [b], fs⟩ s = ⟨bs ++ [{ b with scoping := s }], fs⟩ := by
  simp [setScoping]

theorem receive_target (bs : List (Binding T)) (source : Source) (key : Key T)
    (fs : List (Fault T)) (x : Target T) :
    receive ⟨bs ++ [.ofKey source key], fs⟩ x.request =
      ⟨bs ++ [⟨source, key, x, .unscoped⟩], fs⟩ := by
  cases x with
  | untargeted => rfl
  | toKey _ | toInstance _ | toProvider _ | toProviderKey _ => exact setTarget_concat _ _ _ _

theorem foldl_receive_scoping (bs : List (Binding T)) (b : Binding T) (fs : List (Fault T))
    (h : b.scoping = .unscoped) (s : Scoping) :
    s.request?.toList.foldl receive ⟨bs ++ [b], fs⟩ = ⟨bs ++ [{ b with scoping := s }], fs⟩ := by
  cases s with
  | unscoped => cases b; cases h; rfl
  | marker _ | scope _ | eagerSingleton => exact setScoping_concat _ _ _ _

/-- Without the exclusion this fails: after an instance no request tells of the scoping. -/
theorem foldl_receive_binding {b : Binding T} (h : b.Exclusive) (r : Registry T) :
    b.requests.foldl receive r = { r with bindings := r.bindings ++ [b] } := by
  rw [Binding.requests, List.foldl_cons, List.foldl_cons, receive, receive_target]
  split
  · exact foldl_receive_scoping _ _ _ rfl _
  next hc =>
    have hi : b.target.isInstance = true := by
      cases ht : b.target <;> simp_all [Target.request, Request.continues, Target.isInstance]
    obtain ⟨source, key, target, scoping⟩ := b
    obtain rfl : scoping = .unscoped := h hi
    rfl

theorem foldl_receive_statements {sts : List (Statement T)}
    (h : ∀ b ∈ sts.filterMap Statement.binding?, b.Exclusive) (r : Registry T) :
    (sts.flatMap Statement.requests).foldl receive r =
      ⟨r.bindings ++ sts.filterMap Statement.binding?,
        r.faults ++ sts.filterMap Statement.reported?⟩ := by
  induction sts generalizing r with
  | nil => simp
  | cons st sts ih =>
    rw [List.flatMap_cons, List.foldl_append]
    cases st with
    | bind b =>
      obtain ⟨hb, hs⟩ := List.forall_mem_cons.mp h
      rw [Statement.requests, foldl_receive_binding hb, ih hs]
      simp [List.filterMap_cons, Statement.binding?, Statement.reported?]
    | complain c =>
      rw [ih h]
      simp [List.filterMap_cons, Statement.requests, Complaint.request, receive,
        Statement.binding?, Statement.reported?]

end Registry

theorem exclusive_of_mem_bindings {steps : List (Step T)} {b : Binding T}
    (h : b ∈ (record steps).bindings) : b.Exclusive := by
  obtain ⟨t, source, calls, -, rfl⟩ := exists_bind_of_mem_bindings h
  exact (Binding.exclusive_ofKey source _).build calls

theorem statements_reported (steps : List (Step T)) :
    (record steps).statements.filterMap Statement.reported? =
      steps.filterMap Step.reported? := by
  rw [record_eq, List.filterMap_filterMap]
  congr 1
  funext s
  cases s <;> rfl

theorem Binding.violated_of_mem_build {t : T} {b : Binding T} {cs : List (Call t)} {f : Fault T}
    (h : f ∈ (b.build cs).2) : ∃ rule origin key, f = .violated rule origin key := by
  induction cs generalizing b with
  | nil => cases h
  | cons c cs ih =>
    rw [build_cons_snd, List.mem_append, Option.mem_toList] at h
    rcases h with h | h
    · rw [call_eq] at h
      obtain ⟨rule, _, hf⟩ := Option.map_eq_some_iff.mp h
      exact ⟨rule, .callSite c.site, b.key, hf.symm⟩
    · exact ih h

theorem disjoint_reported (steps : List (Step T)) :
    (record steps).faults.Disjoint (steps.filterMap Step.reported?) := by
  intro f hf hr
  rw [record_eq] at hf
  obtain ⟨s, _, hs⟩ := List.mem_flatMap.mp hf
  have hv : ∃ rule origin key, f = .violated rule origin key := by
    cases s with
    | bind t source calls => exact Binding.violated_of_mem_build hs
    | complain _ _ | listStatements | listFaults => cases hs
  obtain ⟨rule, origin, key, rfl⟩ := hv
  obtain ⟨s', _, hs'⟩ := List.mem_filterMap.mp hr
  cases s' <;> cases hs'

/-- Whether or not the pass is valid: each recorded binding is declared once, in order and as it
was recorded, each reported error arrives once with its own place, and nothing else arrives. -/
theorem replay_record (steps : List (Step T)) (r : Registry T) :
    replay (record steps).statements r =
      { bindings := r.bindings ++ (record steps).bindings
        faults := r.faults ++ steps.filterMap Step.reported? } ∧
    (record steps).faults.Disjoint (steps.filterMap Step.reported?) := by
  refine ⟨?_, disjoint_reported steps⟩
  have h : ∀ b ∈ (record steps).statements.filterMap Statement.binding?, b.Exclusive :=
    fun b hb => exclusive_of_mem_bindings hb
  have hr := Registry.foldl_receive_statements h r
  rw [statements_reported] at hr
  rw [replay_eq_foldl]
  exact hr

end Wiring
