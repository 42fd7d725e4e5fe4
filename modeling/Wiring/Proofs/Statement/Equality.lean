import Wiring.Fault
import Wiring.Proofs.Key.Equality
import Wiring.Summary.Basic
set_option autoImplicit false

/-!
When statements are equal. Equality leaves out the names of types, and looks at an instance, a
provider or a scope only as far as the place where it lives, so what it compares is put into values
that are equal in the plain sense (`Statement.beq_iff`). Equal bindings need not look alike; they
do when what they hold is of one type and types and scopes keep their names
(`Binding.text_eq_and_summary_eq`).
-/

namespace Wiring
variable {T : Type} [Catalog T]

def Target.named? (x : Target T) : Option (Key T) := x.key?.or x.providerKey?

def Target.identity (x : Target T) : TargetKind × Option (Key.Identity T) × Option Nat :=
  (x.kind, x.named?.map Key.identity,
    (x.instance?.map (·.held.handle)).or (x.provider?.map (·.held.handle)))

def Scoping.identity (s : Scoping) : ScopingKind × Option Marker × Option Nat :=
  (s.kind, s.marker?, s.scope?.map (·.handle))

def Binding.identity (b : Binding T) :
    Source × Key.Identity T × (TargetKind × Option (Key.Identity T) × Option Nat) ×
      (ScopingKind × Option Marker × Option Nat) :=
  (b.source, b.key.identity, b.target.identity, b.scoping.identity)

def Statement.identity : Statement T →
    (Source × Key.Identity T × (TargetKind × Option (Key.Identity T) × Option Nat) ×
      (ScopingKind × Option Marker × Option Nat)) ⊕ Complaint
  | .bind b => .inl b.identity
  | .complain c => .inr c

section
variable [DecidableEq T]

theorem Target.beq_iff {x y : Target T} : (x == y) = true ↔ x.identity = y.identity := by
  cases x <;> cases y
  case toKey.toKey a b | toProviderKey.toProviderKey a b =>
    exact Key.beq_iff.trans (by simp [identity, kind, named?, key?, providerKey?, instance?,
      provider?])
  all_goals
    simp [BEq.beq, identity, kind, named?, key?, providerKey?, instance?, provider?]

theorem Scoping.beq_iff {s s' : Scoping} : (s == s') = true ↔ s.identity = s'.identity := by
  cases s <;> cases s' <;> simp [BEq.beq, identity, kind, marker?, scope?]

theorem Binding.beq_iff {a b : Binding T} : (a == b) = true ↔ a.identity = b.identity := by
  change (a.source == b.source && a.key == b.key && a.target == b.target &&
    a.scoping == b.scoping) = true ↔ _
  simp [identity, Key.beq_iff, Target.beq_iff, Scoping.beq_iff, and_assoc]

theorem Statement.beq_iff {a b : Statement T} : (a == b) = true ↔ a.identity = b.identity := by
  cases a with
  | bind x =>
    cases b with
    | bind y => exact Binding.beq_iff.trans (by simp [identity])
    | complain d => simp [BEq.beq, identity]
  | complain c =>
    cases b with
    | bind y => simp [BEq.beq, identity]
    | complain d =>
      change (c == d) = true ↔ _
      simp [identity]

theorem Statement.beq_equivalence : Equivalence fun a b : Statement T => (a == b) = true :=
  beq_equivalence_of_iff fun _ _ => beq_iff

def Fault.identity {T : Type} : Fault T → Missing ⊕ Violation × Source × Key.Identity T ⊕
    Source × String
  | .missing what => .inl what
  | .violated rule origin key => .inr (.inl (rule, origin, key.identity))
  | .reported origin message => .inr (.inr (origin, message))

theorem Fault.beq_iff {T : Type} [DecidableEq T] {f g : Fault T} :
    (f == g) = true ↔ f.identity = g.identity := by
  cases f <;> cases g
  case missing.missing a b =>
    change (a == b) = true ↔ _
    simp [identity]
  case violated.violated rule origin key rule' origin' key' =>
    change (rule == rule' && (origin == origin' && key == key')) = true ↔ _
    simp [identity, Key.beq_iff]
  case reported.reported origin message origin' message' =>
    change (origin == origin' && message == message') = true ↔ _
    simp [identity]
  all_goals exact ⟨nofun, nofun⟩

end

def Target.heldType? : Target T → Option T
  | .toInstance x => some x.type
  | .toProvider p => some p.type
  | .untargeted | .toKey _ | .toProviderKey _ => none

theorem Target.text_eq {x y : Target T} {t : T} {names : T → String}
    (h : x.identity = y.identity) (hx : ∀ u ∈ x.heldType?, u = t)
    (hy : ∀ u ∈ y.heldType?, u = t) (hxn : ∀ k ∈ x.named?, k.Named names)
    (hyn : ∀ k ∈ y.named?, k.Named names) : x.text = y.text := by
  have hk : x.named?.map Key.identity = y.named?.map Key.identity := congrArg (·.2.1) h
  cases x <;> cases y
  case toKey.toKey a b => exact Key.text_eq (Option.some.inj hk) (hxn a rfl) (hyn b rfl)
  case toProviderKey.toProviderKey a b =>
    exact congrArg ("provider " ++ ·) (Key.text_eq (Option.some.inj hk) (hxn a rfl) (hyn b rfl))
  all_goals simp_all [identity, kind, heldType?, text, Instance.text, Provider.text]

/-- One place can be seen as a service and as what implements it, and the texts tell which. -/
example : (Target.toInstance (T := Sample) ⟨.service, ⟨0, "x"⟩⟩ ==
      .toInstance ⟨.implementation, ⟨0, "x"⟩⟩) = true ∧
    Target.text (T := Sample) (.toInstance ⟨.service, ⟨0, "x"⟩⟩) ≠
      Target.text (T := Sample) (.toInstance ⟨.implementation, ⟨0, "x"⟩⟩) := by decide

theorem Target.kind_eq {x y : Target T} (h : x.identity = y.identity) : x.kind = y.kind :=
  congrArg Prod.fst h

theorem Target.isUntargeted_eq {x y : Target T} (h : x.kind = y.kind) :
    x.isUntargeted = y.isUntargeted := by
  cases x <;> cases y <;> simp_all [kind, isUntargeted]

/-- Scopes go by names here, which depend on where they live. -/
theorem Scoping.text_eq {s s' : Scoping} {names : Nat → String} (h : s.identity = s'.identity)
    (hs : ∀ a ∈ s.scope?, a.name = names a.handle)
    (hs' : ∀ a ∈ s'.scope?, a.name = names a.handle) : s.text = s'.text := by
  cases s <;> cases s' <;> simp_all [identity, kind, marker?, scope?, text]

theorem Scoping.kind_eq {s s' : Scoping} (h : s.identity = s'.identity) : s.kind = s'.kind :=
  congrArg Prod.fst h

theorem Scoping.isUnscoped_eq {s s' : Scoping} (h : s.kind = s'.kind) :
    s.isUnscoped = s'.isUnscoped := by
  cases s <;> cases s' <;> simp_all [kind, isUnscoped]

theorem Scoping.detail?_eq {s s' : Scoping} (hk : s.kind = s'.kind) (ht : s.text = s'.text) :
    s.detail? = s'.detail? := by
  cases s <;> cases s' <;> simp_all [kind, detail?]

namespace Binding

/-- What a binding shows is fixed: what it holds is of the type that it binds, and types and scopes
go by their names. -/
structure Shows (b : Binding T) (typeNames : T → String) (scopeNames : Nat → String) : Prop where
  key : b.key.Named typeNames
  target : ∀ k ∈ b.target.named?, k.Named typeNames
  held : ∀ u ∈ b.target.heldType?, u = b.key.type
  scope : ∀ a ∈ b.scoping.scope?, a.name = scopeNames a.handle

theorem text_eq_and_summary_eq {a b : Binding T} {typeNames : T → String}
    {scopeNames : Nat → String} (h : a.identity = b.identity) (ha : a.Shows typeNames scopeNames)
    (hb : b.Shows typeNames scopeNames) : a.text = b.text ∧ a.summary = b.summary := by
  obtain ⟨hsource, hk, htarget, hscoping⟩ : a.source = b.source ∧
      a.key.identity = b.key.identity ∧ a.target.identity = b.target.identity ∧
      a.scoping.identity = b.scoping.identity := by
    simpa [identity] using h
  have hkey := Key.text_eq hk ha.key hb.key
  have htype : a.key.type = b.key.type := congrArg Prod.fst hk
  have htk := Target.kind_eq htarget
  have hsk := Scoping.kind_eq hscoping
  have htu := Target.isUntargeted_eq htk
  have hsu := Scoping.isUnscoped_eq hsk
  have htt := Target.text_eq htarget ha.held (htype ▸ hb.held) ha.target hb.target
  have hst := Scoping.text_eq hscoping ha.scope hb.scope
  have hsd := Scoping.detail?_eq hsk hst
  constructor
  · simp [text, hkey, htu, hsu, htt, hst]
  · simp [summary, Target.detail?, hsource, hkey, htk, hsk, htu, htt, hsd]

end Binding
end Wiring
