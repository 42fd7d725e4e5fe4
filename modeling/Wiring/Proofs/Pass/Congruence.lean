import Wiring.Proofs.Pass.Payload
import Wiring.Proofs.Statement.Equality
set_option autoImplicit false

namespace Wiring
variable {T : Type} [Catalog T] {t : T}

def Clause.scope? : Clause t → Option Scope
  | .inScope s => some s
  | .qualify _ | .toKey _ | .toInstance _ | .toProvider _ | .toProviderKey _ | .inMarker _
  | .asEagerSingleton => none

def Clause.named? : Clause t → Option (Key T)
  | .toKey k | .toProviderKey k => some k
  | .qualify _ | .toInstance _ | .toProvider _ | .inMarker _ | .inScope _ | .asEagerSingleton =>
    none

def Step.scopes : Step T → List Scope
  | .bind _ _ calls => calls.filterMap (·.clause.scope?)
  | .complain _ _ | .listStatements | .listFaults => []

/-- The type that a step binds, and those that its calls name. -/
def Step.literals : Step T → List (TypeLiteral T)
  | .bind t _ calls => .of t :: (calls.filterMap (·.clause.named?)).map Key.literal
  | .complain _ _ | .listStatements | .listFaults => []

theorem Call.heldType?_of_target {c : Call t} {x : Target T}
    (h : c.provision.target? = some x) : ∀ u ∈ x.heldType?, u = t := by
  obtain ⟨clause, site⟩ := c
  cases clause <;> cases h <;> simp [Target.heldType?, Erased.ofShared]

theorem Call.named?_of_target {c : Call t} {x : Target T} {k : Key T}
    (h : c.provision.target? = some x) (hk : x.named? = some k) : c.clause.named? = some k := by
  obtain ⟨clause, site⟩ := c
  cases clause <;> cases h <;>
    simp_all [Target.named?, Target.key?, Target.providerKey?, Clause.named?]

theorem Call.scope?_of_scoping {c : Call t} {s : Scoping} {a : Scope}
    (h : c.provision.scoping? = some s) (ha : s.scope? = some a) : c.clause.scope? = some a := by
  obtain ⟨clause, site⟩ := c
  cases clause <;> cases h <;> simp_all [Scoping.scope?, Clause.scope?]

namespace Binding

theorem target_build (source : Source) (calls : List (Call t)) :
    ((ofKey source (.ofType t)).build calls).1.target = .untargeted ∨ ∃ c ∈ calls,
      c.provision.target? = some ((ofKey source (.ofType t)).build calls).1.target := by
  by_cases hu : ((ofKey source (.ofType t)).build calls).1.target.isUntargeted = true
  · exact .inl (Target.isUntargeted_iff.mp hu)
  · obtain ⟨c, hc, ht⟩ := exists_admitted_target (b := ofKey source (.ofType t)) rfl
      (Bool.eq_false_iff.mpr hu)
    have hm : c ∈ (ofKey source (.ofType t)).admitted calls :=
      List.mem_of_mem_filter (hc ▸ List.mem_singleton_self c)
    exact .inr ⟨c, (admitted_sublist _ calls).subset hm, ht⟩

theorem heldType?_build (source : Source) (calls : List (Call t)) :
    ∀ u ∈ ((ofKey source (.ofType t)).build calls).1.target.heldType?, u = t := by
  rcases target_build source calls with hu | ⟨c, -, hc⟩
  · rw [hu]
    exact nofun
  · exact Call.heldType?_of_target hc

theorem named?_build {source : Source} {calls : List (Call t)} {k : Key T}
    (h : ((ofKey source (.ofType t)).build calls).1.target.named? = some k) :
    k ∈ calls.filterMap (·.clause.named?) := by
  rcases target_build source calls with hu | ⟨c, hc, ht⟩
  · rw [hu] at h
    cases h
  · exact List.mem_filterMap.mpr ⟨c, hc, Call.named?_of_target ht h⟩

theorem scope?_build {source : Source} {calls : List (Call t)} {a : Scope}
    (h : ((ofKey source (.ofType t)).build calls).1.scoping.scope? = some a) :
    a ∈ calls.filterMap (·.clause.scope?) := by
  have hf : ((ofKey source (.ofType t)).build calls).1.scoping = _ :=
    congrArg Prod.snd (build_fresh rfl rfl calls)
  rw [hf] at h
  split at h
  · simp [Scoping.scope?] at h
  · cases hf : calls.findSome? (·.provision.scoping?) with
    | none => simp [hf, Scoping.scope?] at h
    | some s =>
      obtain ⟨c, hc, hp⟩ := List.exists_of_findSome?_eq_some hf
      have ha : s.scope? = some a := by simpa [hf] using h
      exact List.mem_filterMap.mpr ⟨c, hc, Call.scope?_of_scoping hp ha⟩

end Binding

theorem shows_of_mem_bindings {steps : List (Step T)} {typeNames : T → String}
    {scopeNames : Nat → String} (ht : ∀ l ∈ steps.flatMap Step.literals, l.name = typeNames l.tag)
    (hn : ∀ a ∈ steps.flatMap Step.scopes, a.name = scopeNames a.handle) {b : Binding T}
    (hb : b ∈ (record steps).bindings) : b.Shows typeNames scopeNames := by
  obtain ⟨t, source, calls, hs, rfl⟩ := exists_bind_of_mem_bindings hb
  refine ⟨?_, fun k hk => ?_, fun u hu => ?_, fun a ha => ?_⟩
  · rw [Binding.build_key]
    exact ht (.of t) (List.mem_flatMap.mpr ⟨_, hs, List.mem_cons_self⟩)
  · have hm : k.literal ∈ (calls.filterMap (·.clause.named?)).map Key.literal :=
      List.mem_map_of_mem (Binding.named?_build hk)
    exact ht k.literal (List.mem_flatMap.mpr ⟨_, hs, List.mem_cons_of_mem _ hm⟩)
  · rw [Binding.build_key]
    exact Binding.heldType?_build source calls u hu
  · exact hn a (List.mem_flatMap.mpr ⟨_, hs, Binding.scope?_build ha⟩)

namespace Registry

/-- Equal in what they were declared and in the faults that they were told of. -/
instance [DecidableEq T] : BEq (Registry T) :=
  ⟨fun r r' => r.bindings == r'.bindings && r.faults == r'.faults⟩

theorem beq_iff_map_eq {α β : Type} [BEq α] {f : α → β}
    (h : ∀ x y, (x == y) = true ↔ f x = f y) {xs ys : List α} :
    (xs == ys) = true ↔ xs.map f = ys.map f := by
  induction xs generalizing ys with
  | nil => cases ys <;> simp
  | cons x xs ih => cases ys <;> simp [h, ih]

theorem beq_iff [DecidableEq T] {r r' : Registry T} : (r == r') = true ↔
    r.bindings.map Binding.identity = r'.bindings.map Binding.identity ∧
      r.faults.map Fault.identity = r'.faults.map Fault.identity := by
  change (r.bindings == r'.bindings && r.faults == r'.faults) = true ↔ _
  rw [Bool.and_eq_true, beq_iff_map_eq fun _ _ => Binding.beq_iff,
    beq_iff_map_eq fun _ _ => Fault.beq_iff]

theorem replay_statement {st : Statement T} (h : ∀ b ∈ st.binding?, b.Exclusive)
    (r : Registry T) : st.replay r =
      ⟨r.bindings ++ st.binding?.toList, r.faults ++ st.reported?.toList⟩ := by
  have hs : ∀ b ∈ [st].filterMap Statement.binding?, b.Exclusive := by simpa using h
  have hr := foldl_receive_statements hs r
  rw [List.flatMap_singleton] at hr
  rw [Statement.replay_eq_foldl]
  cases st <;> exact hr

theorem replay_beq_replay [DecidableEq T] {st st' : Statement T} {r r' : Registry T}
    (h : ∀ b ∈ st.binding?, b.Exclusive) (h' : ∀ b ∈ st'.binding?, b.Exclusive)
    (hs : (st == st') = true) (hr : (r == r') = true) : (st.replay r == st'.replay r') = true := by
  have hi := Statement.beq_iff.mp hs
  obtain ⟨hb, hf⟩ := beq_iff.mp hr
  rw [replay_statement h, replay_statement h', beq_iff]
  cases st <;> cases st' <;>
    simp_all [Statement.identity, Statement.binding?, Statement.reported?]

end Registry

/-- Equality of statements is an equivalence. As far as passes record them, equal bindings have one
text and one summary, and statements that are equal leave equal registries equal. That takes no
more than that a type goes by one name and that a scope's name stays as it is. -/
theorem beq_record [DecidableEq T] :
    (Equivalence fun a b : Statement T => (a == b) = true) ∧
    ∀ (steps others : List (Step T)) (typeNames : T → String) (scopeNames : Nat → String),
      (∀ l ∈ (steps ++ others).flatMap Step.literals, l.name = typeNames l.tag) →
      (∀ a ∈ (steps ++ others).flatMap Step.scopes, a.name = scopeNames a.handle) →
      ∀ st ∈ (record steps).statements, ∀ st' ∈ (record others).statements, (st == st') = true →
        st.binding?.map Binding.text = st'.binding?.map Binding.text ∧
        st.binding?.map Binding.summary = st'.binding?.map Binding.summary ∧
        ∀ r r' : Registry T, (r == r') = true → (st.replay r == st'.replay r') = true := by
  refine ⟨Statement.beq_equivalence, fun steps others typeNames scopeNames ht hn st hst st'
    hst' h => ?_⟩
  rw [List.flatMap_append, List.forall_mem_append] at ht hn
  have hb : ∀ b ∈ st.binding?, b ∈ (record steps).bindings := fun b hb =>
    List.mem_filterMap.mpr ⟨st, hst, hb⟩
  have hb' : ∀ b ∈ st'.binding?, b ∈ (record others).bindings := fun b hb =>
    List.mem_filterMap.mpr ⟨st', hst', hb⟩
  have hshown : st.binding?.map Binding.text = st'.binding?.map Binding.text ∧
      st.binding?.map Binding.summary = st'.binding?.map Binding.summary := by
    have hi := Statement.beq_iff.mp h
    cases st with
    | complain c => cases st' <;> simp_all [Statement.identity, Statement.binding?]
    | bind b =>
      cases st' with
      | complain c => simp [Statement.identity] at hi
      | bind b' =>
        have hs := Binding.text_eq_and_summary_eq (Sum.inl.inj hi)
          (shows_of_mem_bindings ht.1 hn.1 (hb b rfl))
          (shows_of_mem_bindings ht.2 hn.2 (hb' b' rfl))
        simp [Statement.binding?, hs]
  -- a registry keeps what it is told, and what it is told of an instance lacks no scoping
  refine ⟨hshown.1, hshown.2, fun r r' hr => ?_⟩
  exact Registry.replay_beq_replay (fun b hm => exclusive_of_mem_bindings (hb b hm))
    (fun b hm => exclusive_of_mem_bindings (hb' b hm)) h hr

def placed (content : String) : List (Step Sample) :=
  [.bind .service (.label "app") [⟨.toInstance ⟨0, content⟩, ⟨"main", 1, 1⟩⟩],
    .bind .implementation (.label "app") [⟨.inScope ⟨7, "request"⟩, ⟨"main", 2, 1⟩⟩]]

def placedBinding (content : String) : Binding Sample :=
  ⟨.label "app", .ofType .service, .toInstance ⟨.service, ⟨0, content⟩⟩, .unscoped⟩

/-- Between two passes the content of an instance may change, and the statements stay equal. -/
theorem beq_record_placed :
    (∀ l ∈ (placed "old" ++ placed "new").flatMap Step.literals, l.name = Catalog.name l.tag) ∧
    (∀ a ∈ (placed "old" ++ placed "new").flatMap Step.scopes, a.name = "request") ∧
    .bind (placedBinding "old") ∈ (record (placed "old")).statements ∧
    .bind (placedBinding "new") ∈ (record (placed "new")).statements ∧
    (Statement.bind (placedBinding "old") == .bind (placedBinding "new")) = true ∧
    (placedBinding "old").text = (placedBinding "new").text ∧
    (placedBinding "old").summary = (placedBinding "new").summary ∧
    ((Statement.bind (placedBinding "old")).replay (⟨[], []⟩ : Registry Sample) ==
      (Statement.bind (placedBinding "new")).replay ⟨[], []⟩) = true := by
  have hl : ∀ l ∈ (placed "old" ++ placed "new").flatMap Step.literals,
      l.name = Catalog.name l.tag := by
    decide
  have hn : ∀ a ∈ (placed "old" ++ placed "new").flatMap Step.scopes, a.name = "request" := by
    decide
  have hm : ∀ content, .bind (placedBinding content) ∈ (record (placed content)).statements :=
    fun _ => .head _
  obtain ⟨ht, hs, hr⟩ := beq_record.2 (placed "old") (placed "new") Catalog.name
    (fun _ => "request") hl hn
    (.bind (placedBinding "old")) (hm _) (.bind (placedBinding "new")) (hm _) rfl
  exact ⟨hl, hn, hm _, hm _, rfl, Option.some.inj ht, Option.some.inj hs, hr ⟨[], []⟩ ⟨[], []⟩ rfl⟩

end Wiring
