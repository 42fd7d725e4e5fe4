import Wiring.Proofs.Statement.Provision
set_option autoImplicit false

/-!
Each call of a statement is admitted or refused. One that is admitted sets one thing that was not
set before; one that is refused leaves nothing but its fault, and as far as the binding goes it
might as well not have been made (`build_refusals`).
-/

namespace Wiring

/-- Where only entries outside `p` are left out of a list, its head stays or is outside `p`. -/
theorem cons_cases_of_filter_eq {α : Type} {p : α → Bool} {x : α} {xs ys : List α}
    (h : ys.Sublist (x :: xs)) (hf : ys.filter p = (x :: xs).filter p) :
    (p x = false ∧ ys.Sublist xs ∧ ys.filter p = xs.filter p) ∨
      ∃ zs, ys = x :: zs ∧ zs.Sublist xs ∧ zs.filter p = xs.filter p := by
  rcases List.sublist_cons_iff.mp h with hs | ⟨zs, rfl, hs⟩
  · cases hx : p x with
    | false =>
      rw [List.filter_cons_of_neg (by simp [hx])] at hf
      exact .inl ⟨rfl, hs, hf⟩
    | true =>
      -- one entry of `p` would be missing
      have hl := (hs.filter p).length_le
      rw [hf, List.filter_cons_of_pos hx, List.length_cons] at hl
      omega
  · refine .inr ⟨zs, rfl, hs, ?_⟩
    cases hx : p x <;> simpa [hx] using hf

namespace Binding
variable {T : Type} [Catalog T] {t : T}

/-- Of qualifier, target and scoping one is set that was not. All else stays. -/
inductive Sets (b : Binding T) : Binding T → Prop where
  | qualifier (q : Qualifier) (unset : b.key.qualifier = none) :
      Sets b { b with key := b.key.qualify q }
  | target {x : Target T} (unset : b.target = .untargeted) (targeted : x.isUntargeted = false) :
      Sets b { b with target := x }
  | scoping {s : Scoping} (unset : b.scoping = .unscoped) (kept : s.isUnscoped = false) :
      Sets b { b with scoping := s }

theorem sets_put {b : Binding T} {p : Provision T} (h : b.breaks? p = none) : b.Sets (b.put p) := by
  cases p with
  | qualifier q => exact .qualifier q (breaks_qualifier_iff.mp h)
  | link x hx _ => exact .target (breaks_link_iff.mp h) hx
  | single x => exact .target (breaks_single_iff.mp h).1 rfl
  | scoping s hs => exact .scoping (breaks_scoping_iff.mp h).2 hs

def unset (b : Binding T) : Nat :=
  b.key.qualifier.isNone.toNat + b.target.isUntargeted.toNat + b.scoping.isUnscoped.toNat

theorem unset_le (b : Binding T) : b.unset ≤ 3 := by
  have hq := Bool.toNat_le b.key.qualifier.isNone
  have ht := Bool.toNat_le b.target.isUntargeted
  have hs := Bool.toNat_le b.scoping.isUnscoped
  unfold unset
  omega

theorem Sets.unset {b b' : Binding T} (h : b.Sets b') : b'.unset + 1 = b.unset := by
  cases h with
  | qualifier q h =>
    simp only [Binding.unset, Key.qualify, h, Option.isNone_some, Option.isNone_none,
      Bool.toNat_true, Bool.toNat_false]
    omega
  | target h hx =>
    have ht : b.target.isUntargeted = true := Target.isUntargeted_iff.mpr h
    simp only [Binding.unset, ht, hx, Bool.toNat_true, Bool.toNat_false]
    omega
  | scoping h hs =>
    have hb : b.scoping.isUnscoped = true := Scoping.isUnscoped_iff.mpr h
    simp only [Binding.unset, hb, hs, Bool.toNat_true, Bool.toNat_false]

/-- The calls of a statement, each with the fault that it is met with if it is refused. -/
def trial (b : Binding T) : List (Call t) → List (Call t × Option (Fault T))
  | [] => []
  | c :: cs => (c, (b.call c).2) :: (b.call c).1.trial cs

def admitted (b : Binding T) (cs : List (Call t)) : List (Call t) :=
  ((b.trial cs).filter (·.2.isNone)).map Prod.fst

section
variable {b : Binding T} {c : Call t} {rule : Violation}

theorem call_of_admits (h : b.breaks? c.provision = none) :
    b.call c = (b.put c.provision, none) := by
  rw [call_eq, h, after_of_admits h]
  rfl

theorem call_of_breaks (h : b.breaks? c.provision = some rule) :
    b.call c = (b, some (.violated rule (.callSite c.site) b.key)) := by
  rw [call_eq, h, after_of_breaks h]
  rfl

theorem build_of_admits (h : b.breaks? c.provision = none) (cs : List (Call t)) :
    b.build (c :: cs) = (b.put c.provision).build cs := by
  rw [build, call_of_admits h]
  rfl

theorem build_of_breaks (h : b.breaks? c.provision = some rule) (cs : List (Call t)) :
    b.build (c :: cs) =
      ((b.build cs).1, .violated rule (.callSite c.site) b.key :: (b.build cs).2) := by
  rw [build, call_of_breaks h]
  rfl

theorem trial_of_admits (h : b.breaks? c.provision = none) (cs : List (Call t)) :
    b.trial (c :: cs) = (c, none) :: (b.put c.provision).trial cs := by
  rw [trial, call_of_admits h]

theorem trial_of_breaks (h : b.breaks? c.provision = some rule) (cs : List (Call t)) :
    b.trial (c :: cs) = (c, some (.violated rule (.callSite c.site) b.key)) :: b.trial cs := by
  rw [trial, call_of_breaks h]

theorem admitted_of_admits (h : b.breaks? c.provision = none) (cs : List (Call t)) :
    b.admitted (c :: cs) = c :: (b.put c.provision).admitted cs := by
  rw [admitted, trial_of_admits h]
  rfl

theorem admitted_of_breaks (h : b.breaks? c.provision = some rule) (cs : List (Call t)) :
    b.admitted (c :: cs) = b.admitted cs := by
  rw [admitted, trial_of_breaks h]
  rfl

end

theorem map_fst_trial (b : Binding T) (cs : List (Call t)) : (b.trial cs).map Prod.fst = cs := by
  induction cs generalizing b with
  | nil => rfl
  | cons c cs ih => rw [trial, List.map_cons, ih]

theorem admitted_sublist (b : Binding T) (cs : List (Call t)) : (b.admitted cs).Sublist cs := by
  have h := (List.filter_sublist (p := (·.2.isNone)) (l := b.trial cs)).map Prod.fst
  rwa [map_fst_trial] at h

theorem filterMap_snd_trial (b : Binding T) (cs : List (Call t)) :
    (b.trial cs).filterMap Prod.snd = (b.build cs).2 := by
  induction cs generalizing b with
  | nil => rfl
  | cons c cs ih =>
    cases h : b.breaks? c.provision with
    | none =>
      rw [trial_of_admits h, build_of_admits h]
      exact ih (b.put c.provision)
    | some rule =>
      rw [trial_of_breaks h, build_of_breaks h, ← ih b]
      rfl

theorem length_admitted_add_length_build (b : Binding T) (cs : List (Call t)) :
    (b.admitted cs).length + (b.build cs).2.length = cs.length := by
  induction cs generalizing b with
  | nil => rfl
  | cons c cs ih =>
    cases h : b.breaks? c.provision with
    | none =>
      have hl := ih (b.put c.provision)
      rw [admitted_of_admits h, build_of_admits h, List.length_cons, List.length_cons]
      omega
    | some rule =>
      have hl := ih b
      rw [admitted_of_breaks h, build_of_breaks h, List.length_cons, List.length_cons]
      omega

theorem length_admitted_add_unset (b : Binding T) (cs : List (Call t)) :
    (b.admitted cs).length + (b.build cs).1.unset = b.unset := by
  induction cs generalizing b with
  | nil => exact Nat.zero_add _
  | cons c cs ih =>
    cases h : b.breaks? c.provision with
    | none =>
      have hl := ih (b.put c.provision)
      have hu := (sets_put h).unset
      rw [admitted_of_admits h, build_of_admits h, List.length_cons]
      omega
    | some rule =>
      rw [admitted_of_breaks h, build_of_breaks h]
      exact ih b

theorem build_of_sublist {b : Binding T} {cs : List (Call t)}
    {ps : List (Call t × Option (Fault T))} (hp : ps.Sublist (b.trial cs))
    (ha : ps.filter (·.2.isNone) = (b.trial cs).filter (·.2.isNone)) :
    b.build (ps.map Prod.fst) = ((b.build cs).1, ps.filterMap Prod.snd) := by
  induction cs generalizing b ps with
  | nil =>
    obtain rfl : ps = [] := List.sublist_nil.mp hp
    rfl
  | cons c cs ih =>
    cases h : b.breaks? c.provision with
    | none =>
      rw [trial_of_admits h] at hp ha
      rcases cons_cases_of_filter_eq hp ha with ⟨hc, -, -⟩ | ⟨qs, rfl, hq, ha⟩
      · cases hc
      · rw [List.map_cons, build_of_admits h, build_of_admits h, ih hq ha]
        rfl
    | some rule =>
      rw [trial_of_breaks h] at hp ha
      rw [build_of_breaks h]
      rcases cons_cases_of_filter_eq hp ha with ⟨-, hp, ha⟩ | ⟨qs, rfl, hq, ha⟩
      · exact ih hp ha
      · rw [List.map_cons, build_of_breaks h, ih hq ha]
        rfl

theorem build_admitted (b : Binding T) (cs : List (Call t)) :
    b.build (b.admitted cs) = ((b.build cs).1, []) := by
  have hf : ((b.trial cs).filter (·.2.isNone)).filter (·.2.isNone) =
      (b.trial cs).filter (·.2.isNone) := by simp
  rw [admitted, build_of_sublist List.filter_sublist hf, List.filterMap_eq_nil_iff.mpr]
  intro p hp
  exact Option.isNone_iff_eq_none.mp (List.mem_filter.mp hp).2

theorem build_concat (b : Binding T) (cs : List (Call t)) (c : Call t) :
    (∃ b', (b.build cs).1.Sets b' ∧ b.build (cs ++ [c]) = (b', (b.build cs).2)) ∨
      ∃ f, b.build (cs ++ [c]) = ((b.build cs).1, (b.build cs).2 ++ [f]) := by
  rw [build_append]
  cases h : (b.build cs).1.breaks? c.provision with
  | none =>
    rw [build_of_admits h, build_nil, List.append_nil]
    exact .inl ⟨_, sets_put h, rfl⟩
  | some rule =>
    rw [build_of_breaks h]
    exact .inr ⟨_, rfl⟩

/-- A call sets one thing that was not set and is not reported, or it changes nothing and is
reported once. So what is admitted and what is reported make up all of the calls, and no more than
three are admitted. Leaving out calls that were refused takes their faults along and nothing else;
leaving out all of them leaves no fault. -/
theorem build_refusals (b : Binding T) (cs : List (Call t)) :
    (∀ (earlier : List (Call t)) (c : Call t),
      (∃ b', (b.build earlier).1.Sets b' ∧
        b.build (earlier ++ [c]) = (b', (b.build earlier).2)) ∨
      ∃ f, b.build (earlier ++ [c]) = ((b.build earlier).1, (b.build earlier).2 ++ [f])) ∧
    (b.admitted cs).length + (b.build cs).2.length = cs.length ∧
    (b.admitted cs).length ≤ 3 ∧
    (b.trial cs).map Prod.fst = cs ∧
    (b.trial cs).filterMap Prod.snd = (b.build cs).2 ∧
    (∀ ps : List (Call t × Option (Fault T)), ps.Sublist (b.trial cs) →
      ps.filter (·.2.isNone) = (b.trial cs).filter (·.2.isNone) →
      b.build (ps.map Prod.fst) = ((b.build cs).1, ps.filterMap Prod.snd)) ∧
    b.build (b.admitted cs) = ((b.build cs).1, []) := by
  refine ⟨fun earlier c => build_concat b earlier c, length_admitted_add_length_build b cs, ?_,
    map_fst_trial b cs, filterMap_snd_trial b cs, fun ps hp ha => build_of_sublist hp ha,
    build_admitted b cs⟩
  have hl := length_admitted_add_unset b cs
  have hu := b.unset_le
  omega

end Binding
end Wiring
