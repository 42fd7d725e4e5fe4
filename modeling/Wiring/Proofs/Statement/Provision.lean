import Wiring.Statement.Clause
set_option autoImplicit false

/-!
What a clause provides, in whichever words: a qualifier, a link, a single instance or a scoping. A
clause acts on a binding by its provision alone (`apply_eq`), and what a call does to the key, the
target and the scoping is said by `key_after`, `target_after` and `scoping_after`. What each clause
keeps, a whole statement keeps (`build_invariant`).
-/

namespace Wiring
variable {T : Type} [Catalog T]

/-- A link is a target that is no single instance. -/
inductive Provision (T : Type) [Catalog T] where
  | qualifier (value : Qualifier)
  | link (value : Target T) (targeted : value.isUntargeted = false)
      (shared : value.isInstance = false)
  | single (value : Instance T)
  | scoping (value : Scoping) (kept : value.isUnscoped = false)

def Clause.provision {t : T} : Clause t → Provision T
  | .qualify q => .qualifier q
  | .toKey k => .link (.toKey k) rfl rfl
  | .toInstance x => .single (.ofShared x)
  | .toProvider p => .link (.toProvider (.ofShared p)) rfl rfl
  | .toProviderKey k => .link (.toProviderKey k) rfl rfl
  | .inMarker m => .scoping (.marker m) rfl
  | .inScope s => .scoping (.scope s) rfl
  | .asEagerSingleton => .scoping .eagerSingleton rfl

def Call.provision {t : T} (c : Call t) : Provision T := c.clause.provision

namespace Provision

def qualifier? : Provision T → Option Qualifier
  | .qualifier q => some q
  | _ => none

def link? : Provision T → Option (Target T)
  | .link x _ _ => some x
  | _ => none

def single? : Provision T → Option (Target T)
  | .single x => some (.toInstance x)
  | _ => none

def target? (p : Provision T) : Option (Target T) := p.link?.or p.single?

def scoping? : Provision T → Option Scoping
  | .scoping s _ => some s
  | _ => none

def isQualifier (p : Provision T) : Bool := p.qualifier?.isSome

def isSingle (p : Provision T) : Bool := p.single?.isSome

def isTarget (p : Provision T) : Bool := p.link?.isSome || p.single?.isSome

def isScoping (p : Provision T) : Bool := p.scoping?.isSome

theorem isTarget_eq (p : Provision T) : p.isTarget = p.target?.isSome := by cases p <;> rfl

theorem isUntargeted_of_target? {p : Provision T} {x : Target T} (h : p.target? = some x) :
    x.isUntargeted = false := by
  cases p with
  | link y hy _ => cases h; exact hy
  | single y => cases h; rfl
  | qualifier _ | scoping _ _ => cases h

end Provision

theorem Target.isUntargeted_iff {x : Target T} : x.isUntargeted = true ↔ x = .untargeted := by
  cases x <;> simp [isUntargeted]

theorem Target.isUntargeted_of_isInstance {x : Target T} (h : x.isInstance = true) :
    x.isUntargeted = false := by
  cases x with
  | toInstance _ => rfl
  | untargeted | toKey _ | toProvider _ | toProviderKey _ => cases h

theorem Scoping.isUnscoped_iff {s : Scoping} : s.isUnscoped = true ↔ s = .unscoped := by
  cases s <;> simp [isUnscoped]

namespace Binding

def breaks? (b : Binding T) : Provision T → Option Violation
  | .qualifier _ => if b.key.qualifier.isSome then some .duplicateQualifier else none
  | .link _ _ _ => if b.target.isUntargeted then none else some .duplicateTarget
  | .single _ =>
    if !b.target.isUntargeted then some .duplicateTarget
    else if b.scoping.isUnscoped then none
    else some .scopeOnInstance
  | .scoping _ _ =>
    if b.target.isInstance then some .scopeOnInstance
    else if b.scoping.isUnscoped then none
    else some .duplicateScope

theorem breaks_qualifier_iff {b : Binding T} {q : Qualifier} :
    b.breaks? (.qualifier q) = none ↔ b.key.qualifier = none := by
  simp [breaks?]

theorem breaks_link_iff {b : Binding T} {x : Target T} {hx : x.isUntargeted = false}
    {hs : x.isInstance = false} :
    b.breaks? (.link x hx hs) = none ↔ b.target = .untargeted := by
  simp [breaks?, Target.isUntargeted_iff]

theorem breaks_single_iff {b : Binding T} {x : Instance T} :
    b.breaks? (.single x) = none ↔ b.target = .untargeted ∧ b.scoping = .unscoped := by
  rw [← Target.isUntargeted_iff, ← Scoping.isUnscoped_iff, breaks?]
  cases b.target.isUntargeted <;> cases b.scoping.isUnscoped <;> simp

theorem breaks_scoping_iff {b : Binding T} {s : Scoping} {hs : s.isUnscoped = false} :
    b.breaks? (.scoping s hs) = none ↔ b.target.isInstance = false ∧ b.scoping = .unscoped := by
  rw [← Scoping.isUnscoped_iff, breaks?]
  cases b.target.isInstance <;> cases b.scoping.isUnscoped <;> simp

theorem untargeted_of_admits {b : Binding T} {p : Provision T} {x : Target T}
    (h : b.breaks? p = none) (hp : p.target? = some x) : b.target = .untargeted := by
  cases p with
  | link _ _ _ => exact breaks_link_iff.mp h
  | single _ => exact (breaks_single_iff.mp h).1
  | qualifier _ | scoping _ _ => cases hp

/-- The binding with a provision, whether or not a rule stands in its way. -/
def put (b : Binding T) : Provision T → Binding T
  | .qualifier q => { b with key := b.key.qualify q }
  | .link x _ _ => { b with target := x }
  | .single x => { b with target := .toInstance x }
  | .scoping s _ => { b with scoping := s }

theorem put_target (b : Binding T) (p : Provision T) :
    (b.put p).target = p.target?.getD b.target := by
  cases p <;> rfl

theorem setTarget_eq (b : Binding T) (x : Target T) (hx : x.isUntargeted = false)
    (hs : x.isInstance = false) : b.setTarget x = match b.breaks? (.link x hx hs) with
      | none => .ok { b with target := x }
      | some rule => .error rule := by
  unfold setTarget breaks?
  cases b.target.isUntargeted <;> rfl

theorem setScoping_eq (b : Binding T) (s : Scoping) (hs : s.isUnscoped = false) :
    b.setScoping s = match b.breaks? (.scoping s hs) with
      | none => .ok { b with scoping := s }
      | some rule => .error rule := by
  unfold setScoping breaks?
  cases b.target.isInstance <;> cases b.scoping.isUnscoped <;> rfl

theorem apply_eq {t : T} (b : Binding T) (c : Clause t) :
    b.apply c = match b.breaks? c.provision with
      | none => .ok (b.put c.provision)
      | some rule => .error rule := by
  cases c with
  | qualify q =>
    simp only [apply, setQualifier, Clause.provision, breaks?]
    cases b.key.qualifier <;> rfl
  | toInstance x =>
    simp only [apply, setInstance, Clause.provision, breaks?]
    cases b.target.isUntargeted <;> cases b.scoping.isUnscoped <;> rfl
  | toKey k | toProvider p | toProviderKey k => exact setTarget_eq b _ _ _
  | inMarker m | inScope s | asEagerSingleton => exact setScoping_eq b _ _

def after (b : Binding T) (p : Provision T) : Binding T :=
  if (b.breaks? p).isSome then b else b.put p

theorem after_of_breaks {b : Binding T} {p : Provision T} {rule : Violation}
    (h : b.breaks? p = some rule) : b.after p = b := by
  rw [after, h]; rfl

theorem after_of_admits {b : Binding T} {p : Provision T} (h : b.breaks? p = none) :
    b.after p = b.put p := by
  rw [after, h]; rfl

theorem call_eq {t : T} (b : Binding T) (c : Call t) :
    b.call c = (b.after c.provision,
      (b.breaks? c.provision).map fun rule => .violated rule (.callSite c.site) b.key) := by
  rw [call, apply_eq, after, Call.provision]
  cases b.breaks? c.clause.provision <;> rfl

@[simp] theorem build_nil {t : T} (b : Binding T) : b.build ([] : List (Call t)) = (b, []) := rfl

@[simp] theorem build_cons_fst {t : T} (b : Binding T) (c : Call t) (cs : List (Call t)) :
    (b.build (c :: cs)).1 = ((b.after c.provision).build cs).1 := by
  rw [build, call_eq]

theorem build_cons_snd {t : T} (b : Binding T) (c : Call t) (cs : List (Call t)) :
    (b.build (c :: cs)).2 = (b.call c).2.toList ++ ((b.after c.provision).build cs).2 := by
  rw [build, call_eq]

theorem build_invariant {P : Binding T → Prop} (h : ∀ b p, P b → P (b.after p)) {t : T}
    {b : Binding T} (hb : P b) (cs : List (Call t)) : P (b.build cs).1 := by
  induction cs generalizing b with
  | nil => exact hb
  | cons c cs ih =>
    rw [build_cons_fst]
    exact ih (h b c.provision hb)

theorem source_after (b : Binding T) (p : Provision T) : (b.after p).source = b.source := by
  unfold after
  cases p <;> split <;> rfl

theorem key_after (b : Binding T) (p : Provision T) :
    (b.after p).key = ⟨b.key.literal, b.key.qualifier.or p.qualifier?⟩ := by
  cases p with
  | qualifier q =>
    obtain ⟨source, ⟨t, q'⟩, target, scoping⟩ := b
    cases q' <;> rfl
  | link _ _ _ | single _ | scoping _ _ =>
    change _ = (⟨b.key.literal, b.key.qualifier.or none⟩ : Key T)
    rw [Option.or_none, after]
    split <;> rfl

/-- Once there is a target it stays, and a single instance needs that there is no scoping. -/
theorem target_after (b : Binding T) (p : Provision T) :
    (b.after p).target = if b.target.isUntargeted then
      (p.link?.or (if b.scoping.isUnscoped then p.single? else none)).getD b.target
      else b.target := by
  cases p with
  | qualifier _ | scoping _ _ =>
    unfold after
    split <;> simp [Provision.link?, Provision.single?, put]
  | link x _ _ =>
    unfold after breaks?
    cases b.target.isUntargeted <;> rfl
  | single x =>
    unfold after breaks?
    cases b.target.isUntargeted <;> cases b.scoping.isUnscoped <;> rfl

theorem scoping_after (b : Binding T) (p : Provision T) :
    (b.after p).scoping = if !b.target.isInstance && b.scoping.isUnscoped then
      p.scoping?.getD b.scoping else b.scoping := by
  cases p with
  | qualifier _ | link _ _ _ | single _ =>
    unfold after
    split <;> simp [Provision.scoping?, put]
  | scoping s _ =>
    unfold after breaks?
    cases b.target.isInstance <;> cases b.scoping.isUnscoped <;> rfl

end Binding
end Wiring
