import Wiring.Proofs.Binder.Fidelity
import Mathlib.Data.List.Forall2
set_option autoImplicit false

/-!
What a binder is asked in a replay: a block of requests for each statement, in the statements'
order (`replay_protocol`). The requests can be read back, so that they tell the statements apart.
-/

namespace Wiring
variable {T : Type} [Catalog T]

namespace Request

def target? : Request T → Option (Target T)
  | .asScoped => some .untargeted
  | .toKey k => some (.toKey k)
  | .toInstance x => some (.toInstance x)
  | .toProvider p => some (.toProvider p)
  | .toProviderKey k => some (.toProviderKey k)
  | .bind _ _ | .report _ | .inMarker _ | .inScope _ | .asEagerSingleton => none

def scoping? : Request T → Option Scoping
  | .inMarker m => some (.marker m)
  | .inScope s => some (.scope s)
  | .asEagerSingleton => some .eagerSingleton
  | .bind _ _ | .report _ | .toKey _ | .toInstance _ | .toProvider _ | .toProviderKey _
  | .asScoped => none

/-- What the requests carry compares as it does in bindings. -/
instance [DecidableEq T] : BEq (Request T) where
  beq
    | .bind s a, .bind s' b => s == s' && a == b
    | .report f, .report g => f == g
    | .toKey a, .toKey b => a == b
    | .toInstance x, .toInstance y => x == y
    | .toProvider p, .toProvider q => p == q
    | .toProviderKey a, .toProviderKey b => a == b
    | .asScoped, .asScoped => true
    | .inMarker m, .inMarker n => m == n
    | .inScope s, .inScope s' => s == s'
    | .asEagerSingleton, .asEagerSingleton => true
    | _, _ => false

end Request

/-- The requests that tell a binder of one statement. An error is reported. A binding begins with
its source and its key, then comes its target, and then its scoping if it has one; none follows an
instance. -/
inductive Statement.Told : Statement T → List (Request T) → Prop where
  | complaint (c : Complaint) : Told (.complain c) [.report (.reported c.source c.message)]
  | free {b : Binding T} {r : Request T} (target : r.target? = some b.target)
      (scoping : b.scoping = .unscoped) : Told (.bind b) [.bind b.source b.key, r]
  | kept {b : Binding T} {r q : Request T} (target : r.target? = some b.target)
      (shared : b.target.isInstance = false) (scoping : q.scoping? = some b.scoping) :
      Told (.bind b) [.bind b.source b.key, r, q]

theorem Target.target?_request (x : Target T) : x.request.target? = some x := by
  cases x <;> rfl

theorem Target.continues_request (x : Target T) : x.request.continues = !x.isInstance := by
  cases x <;> rfl

theorem Scoping.request?_cases (s : Scoping) :
    s = .unscoped ∧ s.request? (T := T) = none ∨
      s ≠ .unscoped ∧ ∃ q : Request T, s.request? = some q ∧ q.scoping? = some s := by
  cases s with
  | unscoped => exact .inl ⟨rfl, rfl⟩
  | marker _ | scope _ | eagerSingleton => exact .inr ⟨Scoping.noConfusion, _, rfl, rfl⟩

theorem Binding.told_requests {b : Binding T} (h : b.Exclusive) :
    (Statement.bind b).Told b.requests := by
  have ht := b.target.target?_request
  rw [requests, Target.continues_request]
  rcases b.scoping.request?_cases (T := T) with ⟨hs, hn⟩ | ⟨hn, q, hq, hs⟩
  · rw [hn, Option.toList_none, ite_self]
    exact .free ht hs
  · have hi : b.target.isInstance = false := Bool.eq_false_iff.mpr fun hi => hn (h hi)
    rw [hi, hq]
    exact .kept ht hi hs

theorem Statement.told_requests {st : Statement T}
    (h : ∀ b ∈ st.binding?, b.Exclusive) : st.Told st.requests := by
  cases st with
  | bind b => exact Binding.told_requests (h b rfl)
  | complain c => exact .complaint c

/-- What requests tell, read from the last of them to the first: target and scoping of a binding
whose beginning is still to come, and the statements after it. -/
structure Retold (T : Type) [Catalog T] where
  target : Target T := .untargeted
  scoping : Scoping := .unscoped
  statements : List (Statement T) := []

namespace Request

def retell (r : Request T) (d : Retold T) : Retold T :=
  match r with
  | .bind source key => { statements := .bind ⟨source, key, d.target, d.scoping⟩ :: d.statements }
  | .report (.reported source message) =>
    { statements := .complain ⟨source, message⟩ :: d.statements }
  | r => { d with target := r.target?.getD d.target, scoping := r.scoping?.getD d.scoping }

theorem retell_of_target {r : Request T} {x : Target T} (h : r.target? = some x) (d : Retold T) :
    r.retell d = { d with target := x } := by
  cases r <;> cases h <;> rfl

theorem retell_of_scoping {r : Request T} {s : Scoping} (h : r.scoping? = some s)
    (d : Retold T) : r.retell d = { d with scoping := s } := by
  cases r <;> cases h <;> rfl

end Request

theorem Statement.Told.retell {st : Statement T} {rs : List (Request T)} (h : st.Told rs)
    (sts : List (Statement T)) :
    rs.foldr Request.retell { statements := sts } = { statements := st :: sts } := by
  cases h with
  | complaint c => rfl
  | @free b r ht hs =>
    rw [List.foldr_cons, List.foldr_cons, List.foldr_nil, Request.retell_of_target ht]
    obtain ⟨source, key, target, scoping⟩ := b
    obtain rfl : scoping = .unscoped := hs
    rfl
  | kept ht _ hs =>
    rw [List.foldr_cons, List.foldr_cons, List.foldr_cons, List.foldr_nil,
      Request.retell_of_scoping hs, Request.retell_of_target ht]
    rfl

/-- Blocks of requests run on without a mark between them, and still the statements come back. -/
theorem retell_flatten {sts : List (Statement T)} {blocks : List (List (Request T))}
    (h : List.Forall₂ Statement.Told sts blocks) :
    blocks.flatten.foldr Request.retell {} = { statements := sts } := by
  induction h with
  | nil => rfl
  | cons hb _ ih => rw [List.flatten_cons, List.foldr_append, ih, hb.retell]

section
variable [DecidableEq T]

structure Retold.Alike (d e : Retold T) : Prop where
  target : (d.target == e.target) = true
  scoping : (d.scoping == e.scoping) = true
  statements : (d.statements == e.statements) = true

theorem Request.eq_cases {r q : Request T} (h : (r == q) = true) :
    (∃ source a b, r = .bind source a ∧ q = .bind source b ∧ (a == b) = true) ∨
    (∃ f g, r = .report f ∧ q = .report g ∧ (f == g) = true) ∨
    (∃ x y, r.target? = some x ∧ q.target? = some y ∧ (x == y) = true) ∨
    ∃ s s', r.scoping? = some s ∧ q.scoping? = some s' ∧ (s == s') = true := by
  cases r <;> cases q <;> try cases h
  case bind.bind source a source' b =>
    obtain ⟨hs, hk⟩ := Bool.and_eq_true_iff.mp h
    obtain rfl : source = source' := eq_of_beq hs
    exact .inl ⟨source, a, b, rfl, rfl, hk⟩
  case report.report => exact .inr (.inl ⟨_, _, rfl, rfl, h⟩)
  case asScoped.asScoped => exact .inr (.inr (.inl ⟨_, _, rfl, rfl, rfl⟩))
  case asEagerSingleton.asEagerSingleton => exact .inr (.inr (.inr ⟨_, _, rfl, rfl, rfl⟩))
  case inMarker.inMarker | inScope.inScope => exact .inr (.inr (.inr ⟨_, _, rfl, rfl, h⟩))
  all_goals exact .inr (.inr (.inl ⟨_, _, rfl, rfl, h⟩))

theorem Retold.Alike.bind {d e : Retold T} (h : d.Alike e) (source : Source) {a b : Key T}
    (hk : (a == b) = true) :
    ((Request.bind source a).retell d).Alike ((Request.bind source b).retell e) := by
  have hb : (Statement.bind ⟨source, a, d.target, d.scoping⟩ ==
      .bind ⟨source, b, e.target, e.scoping⟩) = true := by
    change (source == source && a == b && d.target == e.target && d.scoping == e.scoping) = true
    rw [beq_self_eq_true, hk, h.target, h.scoping]
    rfl
  exact ⟨rfl, rfl, Bool.and_eq_true_iff.mpr ⟨hb, h.statements⟩⟩

theorem Retold.Alike.report {d e : Retold T} (h : d.Alike e) {f g : Fault T}
    (hf : (f == g) = true) :
    ((Request.report f).retell d).Alike ((Request.report g).retell e) := by
  cases f <;> cases g <;> try cases hf
  case reported.reported source message source' message' =>
    obtain ⟨hs, hm⟩ := Bool.and_eq_true_iff.mp hf
    obtain rfl : source = source' := eq_of_beq hs
    obtain rfl : message = message' := eq_of_beq hm
    have hc : (Statement.complain (T := T) ⟨source, message⟩ == .complain ⟨source, message⟩) =
      true := beq_self_eq_true (Complaint.mk source message)
    exact ⟨rfl, rfl, Bool.and_eq_true_iff.mpr ⟨hc, h.statements⟩⟩
  all_goals exact ⟨h.target, h.scoping, h.statements⟩

theorem Retold.Alike.retell {r q : Request T} {d e : Retold T} (hr : (r == q) = true)
    (h : d.Alike e) : (r.retell d).Alike (q.retell e) := by
  rcases Request.eq_cases hr with ⟨source, a, b, rfl, rfl, hk⟩ | ⟨f, g, rfl, rfl, hf⟩ |
    ⟨x, y, hx, hy, hxy⟩ | ⟨s, s', hx, hy, hxy⟩
  · exact h.bind source hk
  · exact h.report hf
  · obtain ⟨ht, hs, hl⟩ := h
    rw [Request.retell_of_target hx, Request.retell_of_target hy]
    exact ⟨hxy, hs, hl⟩
  · obtain ⟨ht, hs, hl⟩ := h
    rw [Request.retell_of_scoping hx, Request.retell_of_scoping hy]
    exact ⟨ht, hxy, hl⟩

theorem Retold.alike_foldr {rs qs : List (Request T)} (h : (rs == qs) = true) :
    (rs.foldr Request.retell {}).Alike (qs.foldr Request.retell {}) := by
  induction rs generalizing qs with
  | nil =>
    cases qs with
    | nil => exact ⟨rfl, rfl, rfl⟩
    | cons q qs => cases h
  | cons r rs ih =>
    cases qs with
    | nil => cases h
    | cons q qs =>
      obtain ⟨hr, hs⟩ := Bool.and_eq_true_iff.mp h
      exact (ih hs).retell hr

end

/-- What the binder that writes down its requests has heard after a replay. -/
def asked (sts : List (Statement T)) : List (Request T) := replay sts []

theorem foldl_receive_log (log rs : List (Request T)) :
    rs.foldl Binder.receive log = log ++ rs := by
  induction rs generalizing log with
  | nil => exact (List.append_nil log).symm
  | cons r rs ih =>
    rw [List.foldl_cons, ih]
    exact List.append_assoc log [r] rs

theorem asked_eq (sts : List (Statement T)) : asked sts = sts.flatMap Statement.requests := by
  rw [asked, replay_eq_foldl, foldl_receive_log, List.nil_append]

theorem told_record (steps : List (Step T)) :
    List.Forall₂ Statement.Told (record steps).statements
      ((record steps).statements.map Statement.requests) := by
  rw [List.forall₂_map_right_iff, List.forall₂_same]
  intro st hst
  refine Statement.told_requests fun b hb => ?_
  exact exclusive_of_mem_bindings (List.mem_filterMap.mpr ⟨st, hst, hb⟩)

theorem retell_asked (steps : List (Step T)) :
    (asked (record steps).statements).foldr Request.retell {} =
      { statements := (record steps).statements } := by
  rw [asked_eq, List.flatMap_def]
  exact retell_flatten (told_record steps)

/-- The statements of a pass are told in blocks, one after another, and no binder hears anything
else. What is asked gives the statements away: passes that ask the same have recorded the same, and
passes that ask for equal things have recorded equal statements. -/
theorem replay_protocol [DecidableEq T] (steps : List (Step T)) :
    (∃ blocks, List.Forall₂ Statement.Told (record steps).statements blocks ∧
      asked (record steps).statements = blocks.flatten) ∧
    (∀ {σ : Type} [Binder T σ] (s : σ), replay (record steps).statements s =
      (asked (record steps).statements).foldl Binder.receive s) ∧
    ∀ others : List (Step T),
      (asked (record steps).statements = asked (record others).statements →
        (record steps).statements = (record others).statements) ∧
      ((asked (record steps).statements == asked (record others).statements) = true →
        ((record steps).statements == (record others).statements) = true) := by
  refine ⟨⟨_, told_record steps, by rw [asked_eq, List.flatMap_def]⟩, fun s => ?_, fun others =>
    ⟨fun h => ?_, fun h => ?_⟩⟩
  · rw [replay_eq_foldl, asked_eq]
  · have hr := congrArg (List.foldr Request.retell {}) h
    rw [retell_asked, retell_asked] at hr
    exact congrArg Retold.statements hr
  · have hr := (Retold.alike_foldr h).statements
    rw [retell_asked, retell_asked] at hr
    exact hr

end Wiring
