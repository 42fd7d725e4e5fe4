import Wiring.Proofs.Statement.Provision
set_option autoImplicit false

namespace Wiring.Binding
variable {T : Type} [Catalog T] {t : T}

theorem build_source (b : Binding T) (cs : List (Call t)) :
    (b.build cs).1.source = b.source := by
  refine build_invariant (P := fun b' => b'.source = b.source) (fun b' p hb => ?_) rfl cs
  rw [source_after, hb]

theorem build_key (b : Binding T) (cs : List (Call t)) : (b.build cs).1.key =
    ⟨b.key.literal, b.key.qualifier.or (cs.findSome? (·.provision.qualifier?))⟩ := by
  induction cs generalizing b with
  | nil => simp
  | cons c cs ih =>
    rw [build_cons_fst, ih, key_after, List.findSome?_cons, Option.or_assoc]
    cases c.provision.qualifier? <;> simp

theorem build_target_of_targeted {b : Binding T} (h : b.target.isUntargeted = false)
    (cs : List (Call t)) : (b.build cs).1.target = b.target := by
  refine build_invariant (P := fun b' => b'.target = b.target) (fun b' p hb => ?_) rfl cs
  rw [target_after, hb, h]
  rfl

theorem build_scoping_of_scoped {b : Binding T} (h : b.scoping.isUnscoped = false)
    (cs : List (Call t)) : (b.build cs).1.scoping = b.scoping := by
  refine build_invariant (P := fun b' => b'.scoping = b.scoping) (fun b' p hb => ?_) rfl cs
  rw [scoping_after, hb, h, Bool.and_false]
  rfl

theorem build_scoping_of_instance {b : Binding T} (h : b.target.isInstance = true)
    (cs : List (Call t)) : (b.build cs).1.scoping = b.scoping := by
  have hu : b.target.isUntargeted = false := Target.isUntargeted_of_isInstance h
  -- the target has to be kept along with the scoping, since it is what shuts scopings out
  refine (build_invariant (P := fun b' => b'.target = b.target ∧ b'.scoping = b.scoping)
    (fun b' p ⟨ht, hs⟩ => ?_) ⟨rfl, rfl⟩ cs).2
  rw [target_after, scoping_after, ht, hs, hu, h]
  exact ⟨rfl, rfl⟩

theorem build_target_of_scoped {b : Binding T} (ht : b.target = .untargeted)
    (hs : b.scoping.isUnscoped = false) (cs : List (Call t)) :
    (b.build cs).1.target = (cs.findSome? (·.provision.link?)).getD .untargeted := by
  induction cs generalizing b with
  | nil => exact ht
  | cons c cs ih =>
    have hc : (b.after c.provision).target = c.provision.link?.getD .untargeted := by
      simp [target_after, ht, hs, Target.isUntargeted]
    have hk : (b.after c.provision).scoping = b.scoping := by simp [scoping_after, hs]
    rw [build_cons_fst, List.findSome?_cons]
    cases hp : c.provision with
    | link x hx _ =>
      rw [hp] at hc
      rw [build_target_of_targeted (by rw [hc]; exact hx), hc]
      rfl
    | qualifier _ | single _ | scoping _ _ =>
      rw [hp] at hc hk
      exact ih hc (by rw [hk]; exact hs)

theorem build_scoping_of_linked {b : Binding T} (ht : b.target.isUntargeted = false)
    (hi : b.target.isInstance = false) (hs : b.scoping = .unscoped) (cs : List (Call t)) :
    (b.build cs).1.scoping = (cs.findSome? (·.provision.scoping?)).getD .unscoped := by
  induction cs generalizing b with
  | nil => exact hs
  | cons c cs ih =>
    have hc : (b.after c.provision).scoping = c.provision.scoping?.getD .unscoped := by
      simp [scoping_after, hi, hs, Scoping.isUnscoped]
    have hk : (b.after c.provision).target = b.target := by simp [target_after, ht]
    rw [build_cons_fst, List.findSome?_cons]
    cases hp : c.provision with
    | scoping s h =>
      rw [hp] at hc
      rw [build_scoping_of_scoped (by rw [hc]; exact h), hc]
      rfl
    | qualifier _ | single _ | link _ _ _ =>
      rw [hp] at hc hk
      exact ih (by rw [hk]; exact ht) (by rw [hk]; exact hi) hc

/-- A single instance comes before any link and any scoping. What never comes counts as coming
after all of the calls. -/
def SingleFirst (cs : List (Call t)) : Prop :=
  cs.findIdx (·.provision.single?.isSome) <
    min (cs.findIdx (·.provision.link?.isSome)) (cs.findIdx (·.provision.scoping?.isSome))

instance (cs : List (Call t)) : Decidable (SingleFirst cs) := inferInstanceAs (Decidable (_ < _))

theorem singleFirst_cons {c : Call t} {p : Provision T} (hp : c.provision = p)
    (cs : List (Call t)) :
    SingleFirst (c :: cs) ↔ match p with
      | .qualifier _ => SingleFirst cs
      | .single _ => True
      | .link _ _ _ | .scoping _ _ => False := by
  unfold SingleFirst
  cases p <;> simp [List.findIdx_cons, hp, Provision.link?, Provision.single?, Provision.scoping?]

theorem build_fresh {b : Binding T} (ht : b.target = .untargeted) (hs : b.scoping = .unscoped)
    (cs : List (Call t)) :
    ((b.build cs).1.target, (b.build cs).1.scoping) = if SingleFirst cs
      then ((cs.findSome? (·.provision.single?)).getD .untargeted, .unscoped)
      else ((cs.findSome? (·.provision.link?)).getD .untargeted,
        (cs.findSome? (·.provision.scoping?)).getD .unscoped) := by
  induction cs generalizing b with
  | nil => simp [ht, hs]
  | cons c cs ih =>
    have hc := target_after b c.provision
    have hk := scoping_after b c.provision
    simp only [ht, hs] at hc hk
    simp only [build_cons_fst, List.findSome?_cons]
    cases hp : c.provision with
    | qualifier q =>
      rw [hp] at hc hk
      simp only [singleFirst_cons hp]
      exact ih hc hk
    | link x hx hi =>
      rw [hp] at hc hk
      have hn : ¬ SingleFirst (c :: cs) := (singleFirst_cons hp cs).mp
      rw [if_neg hn, build_target_of_targeted (by rw [hc]; exact hx),
        build_scoping_of_linked (by rw [hc]; exact hx) (by rw [hc]; exact hi) hk, hc]
      rfl
    | single x =>
      rw [hp] at hc hk
      have hf : SingleFirst (c :: cs) := (singleFirst_cons hp cs).mpr trivial
      rw [if_pos hf, build_target_of_targeted (by rw [hc]; rfl),
        build_scoping_of_instance (by rw [hc]; rfl), hc, hk]
      rfl
    | scoping s h =>
      rw [hp] at hc hk
      have hn : ¬ SingleFirst (c :: cs) := (singleFirst_cons hp cs).mp
      rw [if_neg hn, build_target_of_scoped hc (by rw [hk]; exact h),
        build_scoping_of_scoped (by rw [hk]; exact h), hk]
      rfl

theorem build_eq_mk (source : Source) (cs : List (Call t)) :
    ((ofKey source (.ofType t)).build cs).1 =
      { source := source
        key := ⟨.of t, cs.findSome? (·.provision.qualifier?)⟩
        target := ((ofKey source (.ofType t)).build cs).1.target
        scoping := ((ofKey source (.ofType t)).build cs).1.scoping } := by
  have hs := build_source (ofKey source (.ofType t)) cs
  have hk := build_key (ofKey source (.ofType t)) cs
  generalize ((ofKey source (.ofType t)).build cs).1 = b at hs hk ⊢
  obtain ⟨source', key, target, scoping⟩ := b
  obtain rfl : source' = source := hs
  obtain rfl : key = ⟨.of t, cs.findSome? (·.provision.qualifier?)⟩ := hk
  rfl

/-- A single instance that comes first shuts out every scoping. Otherwise there is no instance:
the target is the first link, and the scoping is the first one. -/
theorem build_ofKey (source : Source) (cs : List (Call t)) :
    ((ofKey source (.ofType t)).build cs).1 =
      if SingleFirst cs then
        { source := source
          key := ⟨.of t, cs.findSome? (·.provision.qualifier?)⟩
          target := (cs.findSome? (·.provision.single?)).getD .untargeted
          scoping := .unscoped }
      else
        { source := source
          key := ⟨.of t, cs.findSome? (·.provision.qualifier?)⟩
          target := (cs.findSome? (·.provision.link?)).getD .untargeted
          scoping := (cs.findSome? (·.provision.scoping?)).getD .unscoped } := by
  have hs := build_source (ofKey source (.ofType t)) cs
  have hk := build_key (ofKey source (.ofType t)) cs
  have hf := build_fresh (b := ofKey source (.ofType t)) rfl rfl cs
  cases hb : ((ofKey source (.ofType t)).build cs).1 with
  | mk source' key target scoping =>
    rw [hb] at hs hk hf
    obtain rfl : source' = source := hs
    obtain rfl : key = ⟨.of t, cs.findSome? (·.provision.qualifier?)⟩ := hk
    by_cases h : SingleFirst cs
    · rw [if_pos h] at hf ⊢
      obtain ⟨rfl, rfl⟩ := Prod.mk.inj hf
      rfl
    · rw [if_neg h] at hf ⊢
      obtain ⟨rfl, rfl⟩ := Prod.mk.inj hf
      rfl

end Wiring.Binding
