import Wiring.Proofs.Statement.FirstWins
import Wiring.Proofs.Statement.Refusal
set_option autoImplicit false

/-!
The three slots of a binding, for its qualifier, its target and its scoping. As long as no call
names a single instance, a slot goes to the first call for it and every later one is refused,
whatever the calls for the other slots are (`faults_build`). How the calls for one slot lie between
those for another therefore makes no difference (`build_of_interleaving`).
-/

namespace Wiring
variable {T : Type} [Catalog T] {t : T}

inductive Slot where
  | qualifier
  | target
  | scoping
  deriving DecidableEq

def Slot.rule : Slot → Violation
  | .qualifier => .duplicateQualifier
  | .target => .duplicateTarget
  | .scoping => .duplicateScope

theorem Slot.rule_injective {s s' : Slot} (h : s.rule = s'.rule) : s = s' := by
  cases s <;> cases s' <;> simp_all [rule]

def Provision.slot : Provision T → Slot
  | .qualifier _ => .qualifier
  | .link _ _ _ | .single _ => .target
  | .scoping _ _ => .scoping

theorem Provision.slot_of_qualifier (p : Provision T) (h : p.qualifier?.isSome) :
    p.slot = .qualifier := by
  cases p <;> simp_all [qualifier?, slot]

theorem Provision.slot_of_link (p : Provision T) (h : p.link?.isSome) : p.slot = .target := by
  cases p <;> simp_all [link?, slot]

theorem Provision.slot_of_scoping (p : Provision T) (h : p.scoping?.isSome) :
    p.slot = .scoping := by
  cases p <;> simp_all [scoping?, slot]

def Call.slot (c : Call t) : Slot := c.provision.slot

def Call.forSlot (s : Slot) (cs : List (Call t)) : List (Call t) := cs.filter (·.slot = s)

theorem Call.forSlot_cons_of_eq {s : Slot} {c : Call t} (h : c.slot = s) (cs : List (Call t)) :
    forSlot s (c :: cs) = c :: forSlot s cs := by
  simp [forSlot, h]

theorem Call.forSlot_cons_of_ne {s : Slot} {c : Call t} (h : c.slot ≠ s) (cs : List (Call t)) :
    forSlot s (c :: cs) = forSlot s cs := by
  simp [forSlot, h]

/-- What only calls for one slot have is found among the calls for it. -/
theorem Call.findSome?_forSlot {α : Type} {f : Provision T → Option α} {s : Slot}
    (hf : ∀ p, (f p).isSome → p.slot = s) (cs : List (Call t)) :
    (forSlot s cs).findSome? (f ·.provision) = cs.findSome? (f ·.provision) := by
  induction cs with
  | nil => rfl
  | cons c cs ih =>
    by_cases hc : c.slot = s
    · rw [forSlot_cons_of_eq hc, List.findSome?_cons, List.findSome?_cons, ih]
    · have hn : f c.provision = none := by
        cases h : f c.provision with
        | none => rfl
        | some a => exact absurd (hf c.provision (by simp [h])) hc
      rw [forSlot_cons_of_ne hc, List.findSome?_cons, hn, ih]

def Fault.rule? {T : Type} : Fault T → Option Violation
  | .violated rule _ _ => some rule
  | .missing _ | .reported _ _ => none

def Fault.ofKind {T : Type} (kind : Option Violation) (fs : List (Fault T)) : List (Fault T) :=
  fs.filter (·.rule? = kind)

/-- The fault with the qualifier of its key left out. -/
def Fault.unqualified {T : Type} : Fault T → Fault T
  | .violated rule origin key => .violated rule origin (.ofLiteral key.literal)
  | .missing what => .missing what
  | .reported origin message => .reported origin message

theorem Fault.origin?_unqualified {T : Type} (f : Fault T) : f.unqualified.origin? = f.origin? := by
  cases f <;> rfl

namespace Binding

def isTaken (b : Binding T) : Slot → Bool
  | .qualifier => b.key.qualifier.isSome
  | .target => !b.target.isUntargeted
  | .scoping => !b.scoping.isUnscoped

section
variable {b : Binding T} {c : Call t} {p : Provision T}

theorem breaks_eq_of_shared (hb : b.target.isInstance = false) (hp : p.isSingle = false) :
    b.breaks? p = if b.isTaken p.slot then some p.slot.rule else none := by
  cases p with
  | qualifier _ => rfl
  | link _ _ _ =>
    cases h : b.target.isUntargeted <;> simp [breaks?, isTaken, Provision.slot, Slot.rule, h]
  | scoping _ _ =>
    cases h : b.scoping.isUnscoped <;> simp [breaks?, isTaken, Provision.slot, Slot.rule, h, hb]
  | single _ => simp [Provision.isSingle, Provision.single?] at hp

theorem isInstance_put (hb : b.target.isInstance = false) (hp : p.isSingle = false) :
    (b.put p).target.isInstance = false := by
  cases p with
  | link _ _ hs => exact hs
  | qualifier _ | scoping _ _ => exact hb
  | single _ => simp [Provision.isSingle, Provision.single?] at hp

theorem build_of_taken (hb : b.target.isInstance = false) (hc : c.provision.isSingle = false)
    (h : b.isTaken c.slot = true) (cs : List (Call t)) :
    b.build (c :: cs) =
      ((b.build cs).1, .violated c.slot.rule (.callSite c.site) b.key :: (b.build cs).2) :=
  build_of_breaks ((breaks_eq_of_shared hb hc).trans (if_pos h)) cs

theorem build_of_free (hb : b.target.isInstance = false) (hc : c.provision.isSingle = false)
    (h : b.isTaken c.slot = false) (cs : List (Call t)) :
    b.build (c :: cs) = (b.put c.provision).build cs :=
  build_of_admits ((breaks_eq_of_shared hb hc).trans (if_neg (Bool.eq_false_iff.mp h))) cs

end

theorem isTaken_put (b : Binding T) (p : Provision T) (s : Slot) :
    (b.put p).isTaken s = (b.isTaken s || p.slot = s) := by
  cases p with
  | qualifier _ => cases s <;> simp [isTaken, put, Provision.slot, Key.qualify]
  | link _ hx _ => cases s <;> simp [isTaken, put, Provision.slot, hx]
  | single _ => cases s <;> simp [isTaken, put, Provision.slot, Target.isUntargeted]
  | scoping _ hs => cases s <;> simp [isTaken, put, Provision.slot, hs]

theorem literal_put (b : Binding T) (p : Provision T) :
    (b.put p).key.literal = b.key.literal := by
  cases p <;> rfl

/-- Of the calls for a slot all are refused but the first, and the first is refused too if the slot
was taken before. -/
theorem faults_build {b : Binding T} (hb : b.target.isInstance = false) {cs : List (Call t)}
    (hc : ∀ c ∈ cs, c.provision.isSingle = false) (s : Slot) :
    (Fault.ofKind (some s.rule) (b.build cs).2).map Fault.unqualified =
      ((Call.forSlot s cs).drop (if b.isTaken s then 0 else 1)).map fun c =>
        .violated s.rule (.callSite c.site) (.ofLiteral b.key.literal) := by
  unfold Fault.ofKind
  -- the binding changes along the calls, but only in what is taken: an instance it never becomes
  induction cs generalizing b with
  | nil => simp [Call.forSlot]
  | cons c cs ih =>
    obtain ⟨hp, hcs⟩ := List.forall_mem_cons.mp hc
    cases ht : b.isTaken c.slot with
    | true =>
      rw [build_of_taken hb hp ht]
      by_cases hs : c.slot = s
      · subst hs
        rw [List.filter_cons_of_pos (by simp [Fault.rule?]), List.map_cons, ih hb hcs,
          Call.forSlot_cons_of_eq rfl, ht]
        rfl
      · have hn : c.slot.rule ≠ s.rule := fun h => hs (Slot.rule_injective h)
        rw [List.filter_cons_of_neg (by simp [Fault.rule?, hn]), ih hb hcs,
          Call.forSlot_cons_of_ne hs]
    | false =>
      have hk : (b.put c.provision).isTaken s = (b.isTaken s || c.slot = s) := isTaken_put b _ s
      rw [build_of_free hb hp ht, ih (isInstance_put hb hp) hcs, hk, literal_put]
      by_cases hs : c.slot = s
      · subst hs
        simp [Call.forSlot_cons_of_eq, ht]
      · simp [Call.forSlot_cons_of_ne hs, hs]

theorem exists_slot_of_mem_build {b : Binding T} (hb : b.target.isInstance = false)
    {cs : List (Call t)} (hc : ∀ c ∈ cs, c.provision.isSingle = false) {f : Fault T}
    (hf : f ∈ (b.build cs).2) : ∃ s : Slot, f.rule? = some s.rule := by
  induction cs generalizing b with
  | nil => simp at hf
  | cons c cs ih =>
    obtain ⟨hp, hcs⟩ := List.forall_mem_cons.mp hc
    cases ht : b.isTaken c.slot with
    | true =>
      rw [build_of_taken hb hp ht] at hf
      rcases List.mem_cons.mp hf with rfl | hf
      · exact ⟨c.slot, rfl⟩
      · exact ih hb hcs hf
    | false =>
      rw [build_of_free hb hp ht] at hf
      exact ih (isInstance_put hb hp) hcs hf

theorem not_singleFirst {cs : List (Call t)} (hc : ∀ c ∈ cs, c.provision.isSingle = false) :
    ¬ SingleFirst cs := by
  have hn : cs.findIdx (·.provision.single?.isSome) = cs.length := List.findIdx_eq_length.mpr hc
  have hl : cs.findIdx (·.provision.link?.isSome) ≤ cs.length := List.findIdx_le_length
  unfold SingleFirst
  omega

theorem build_eq_of_shared (source : Source) {cs : List (Call t)}
    (hc : ∀ c ∈ cs, c.provision.isSingle = false) :
    ((ofKey source (.ofType t)).build cs).1 =
      { source := source
        key := ⟨.of t, (Call.forSlot .qualifier cs).findSome? (·.provision.qualifier?)⟩
        target := ((Call.forSlot .target cs).findSome? (·.provision.link?)).getD .untargeted
        scoping :=
          ((Call.forSlot .scoping cs).findSome? (·.provision.scoping?)).getD .unscoped } := by
  have hf := build_fresh (b := ofKey source (.ofType t)) rfl rfl cs
  rw [if_neg (not_singleFirst hc)] at hf
  obtain ⟨ht, hs⟩ := Prod.mk.inj hf
  rw [build_eq_mk, ht, hs, Call.findSome?_forSlot Provision.slot_of_qualifier,
    Call.findSome?_forSlot Provision.slot_of_link,
    Call.findSome?_forSlot Provision.slot_of_scoping]

theorem forall_mem_of_forSlot_eq {cs ds : List (Call t)} {P : Call t → Prop}
    (h : ∀ s, Call.forSlot s ds = Call.forSlot s cs) (hc : ∀ c ∈ cs, P c) : ∀ c ∈ ds, P c := by
  intro c hd
  have hm : c ∈ Call.forSlot c.slot cs := by rw [← h]; simp [Call.forSlot, hd]
  exact hc c (List.mem_filter.mp hm).1

/-- Calls none of which names a single instance can be shuffled as long as those for one slot keep
their order, however many of them are refused. The same is built, and the same calls break each
rule; only the qualifier in the key of a fault can be another one, and the order of faults that
break different rules. -/
theorem build_of_interleaving (source : Source) {cs ds : List (Call t)}
    (hc : ∀ c ∈ cs, c.provision.isSingle = false)
    (h : ∀ s, Call.forSlot s ds = Call.forSlot s cs) :
    ((ofKey source (.ofType t)).build ds).1 = ((ofKey source (.ofType t)).build cs).1 ∧
    ∀ kind,
      (Fault.ofKind kind ((ofKey source (.ofType t)).build ds).2).map Fault.unqualified =
        (Fault.ofKind kind ((ofKey source (.ofType t)).build cs).2).map Fault.unqualified ∧
      (Fault.ofKind kind ((ofKey source (.ofType t)).build ds).2).map Fault.origin? =
        (Fault.ofKind kind ((ofKey source (.ofType t)).build cs).2).map Fault.origin? := by
  have hd := forall_mem_of_forSlot_eq h hc
  refine ⟨?_, fun kind => ?_⟩
  · rw [build_eq_of_shared source hd, build_eq_of_shared source hc, h, h, h]
  · have hu : (Fault.ofKind kind ((ofKey source (.ofType t)).build ds).2).map Fault.unqualified =
        (Fault.ofKind kind ((ofKey source (.ofType t)).build cs).2).map Fault.unqualified := by
      by_cases hk : ∃ s : Slot, kind = some s.rule
      · obtain ⟨s, rfl⟩ := hk
        rw [faults_build rfl hd, faults_build rfl hc, h]
      · have hn : ∀ {es : List (Call t)}, (∀ c ∈ es, c.provision.isSingle = false) →
            Fault.ofKind kind ((ofKey source (.ofType t)).build es).2 = [] := by
          intro es he
          refine List.filter_eq_nil_iff.mpr fun f hf => ?_
          obtain ⟨s, hs⟩ := exists_slot_of_mem_build rfl he hf
          simpa using fun hr => hk ⟨s, hr.symm.trans hs⟩
        rw [hn hd, hn hc]
    have ho := congrArg (List.map Fault.origin?) hu
    simp only [List.map_map, Function.comp_def, Fault.origin?_unqualified] at ho
    exact ⟨hu, ho⟩

def crowded : List (Call Sample.service) :=
  [⟨.qualify (.named "a"), ⟨"main", 1, 1⟩⟩, ⟨.qualify (.named "b"), ⟨"main", 2, 1⟩⟩,
    ⟨.toType .implementation, ⟨"main", 3, 1⟩⟩, ⟨.toType .service, ⟨"main", 4, 1⟩⟩,
    ⟨.asEagerSingleton, ⟨"main", 5, 1⟩⟩, ⟨.inMarker .singleton, ⟨"main", 6, 1⟩⟩]

/-- With the qualifiers at the end the other faults come first, and show a key without one. -/
theorem build_of_interleaving_crowded :
    (∀ c ∈ crowded, c.provision.isSingle = false) ∧
    (∀ s, Call.forSlot s (crowded.rotateLeft 2) = Call.forSlot s crowded) ∧
    ((ofKey (.label "app") (.ofType .service)).build (crowded.rotateLeft 2)).2 ≠
      ((ofKey (.label "app") (.ofType .service)).build crowded).2 ∧
    ((ofKey (.label "app") (.ofType .service)).build (crowded.rotateLeft 2)).1 =
      ((ofKey (.label "app") (.ofType .service)).build crowded).1 ∧
    ∀ kind,
      (Fault.ofKind kind ((ofKey (.label "app") (.ofType .service)).build
        (crowded.rotateLeft 2)).2).map Fault.origin? =
      (Fault.ofKind kind ((ofKey (.label "app") (.ofType .service)).build
        crowded).2).map Fault.origin? := by
  have hc : ∀ c ∈ crowded, c.provision.isSingle = false := by decide
  have hs : ∀ s, Call.forSlot s (crowded.rotateLeft 2) = Call.forSlot s crowded := by
    intro s
    cases s <;> rfl
  obtain ⟨hbuilt, hfaults⟩ := build_of_interleaving (.label "app") hc hs
  refine ⟨hc, hs, fun h => ?_, hbuilt, fun kind => (hfaults kind).2⟩
  exact absurd (congrArg (List.map Fault.rule?) h) (by decide)

end Binding
end Wiring
