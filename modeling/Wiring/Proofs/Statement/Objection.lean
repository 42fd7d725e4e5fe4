import Wiring.Proofs.Statement.FirstWins
import Mathlib.Data.List.Basic
import Mathlib.Data.List.Induction
set_option autoImplicit false

namespace Wiring
variable {T : Type} [Catalog T] {t : T}

namespace Call

/-- The rule that a call breaks when these were made before it, and of them those in `kept` were
accepted. -/
def objection? (earlier kept : List (Call t)) (c : Call t) : Option Violation :=
  if c.provision.isQualifier && earlier.any (·.provision.isQualifier) then some .duplicateQualifier
  else if c.provision.isTarget && kept.any (·.provision.isTarget) then some .duplicateTarget
  else if c.provision.isSingle && kept.any (·.provision.isScoping) then some .scopeOnInstance
  else if c.provision.isScoping && kept.any (·.provision.isSingle) then some .scopeOnInstance
  else if c.provision.isScoping && kept.any (·.provision.isScoping) then some .duplicateScope
  else none

def weigh (s : List (Call t) × List (Call t)) (c : Call t) : List (Call t) × List (Call t) :=
  (s.1 ++ [c], if (c.objection? s.1 s.2).isSome then s.2 else s.2 ++ [c])

/-- Those of the calls that break no rule. Along with them the fold carries all that were made. -/
def accepted (cs : List (Call t)) : List (Call t) := (cs.foldl weigh ([], [])).2

/-- The fault of a call that comes after these in its statement. Its key has the qualifier only if
one of them gave it. -/
def fault? (earlier : List (Call t)) (c : Call t) : Option (Fault T) :=
  (c.objection? earlier (accepted earlier)).map fun rule =>
    .violated rule (.callSite c.site) ⟨.of t, earlier.findSome? (·.provision.qualifier?)⟩

def faultsOf (cs : List (Call t)) : List (Fault T) :=
  cs.zipIdx.filterMap fun p => p.1.fault? (cs.take p.2)

theorem foldl_weigh_fst (s : List (Call t) × List (Call t)) (cs : List (Call t)) :
    (cs.foldl weigh s).1 = s.1 ++ cs := by
  induction cs generalizing s with
  | nil => simp
  | cons c cs ih => simp [ih, weigh]

theorem accepted_concat (cs : List (Call t)) (c : Call t) :
    accepted (cs ++ [c]) =
      if (c.objection? cs (accepted cs)).isSome then accepted cs else accepted cs ++ [c] := by
  have h : (cs.foldl weigh ([], [])).1 = cs := foldl_weigh_fst _ cs
  rw [accepted, List.foldl_append, List.foldl_cons, List.foldl_nil, weigh, h]
  rfl

theorem faultsOf_concat (cs : List (Call t)) (c : Call t) :
    faultsOf (cs ++ [c]) = faultsOf cs ++ (c.fault? cs).toList := by
  have h : ∀ p ∈ cs.zipIdx, (cs ++ [c]).take p.2 = cs.take p.2 := by
    intro p hp
    have hl : p.2 < cs.length := by simpa using (List.mem_zipIdx hp).2.1
    exact List.take_append_of_le_length (Nat.le_of_lt hl)
  rw [faultsOf, List.zipIdx_append, List.filterMap_append]
  congr 1
  · exact List.filterMap_congr fun p hp => by rw [h p hp]
  · cases hf : c.fault? cs <;> simp [hf]

end Call

namespace Binding
open Call

/-- What the rules look at in a binding agrees with the calls made and those accepted so far. -/
structure Tracks (b : Binding T) (earlier kept : List (Call t)) : Prop where
  qualifier : b.key.qualifier.isSome = earlier.any (·.provision.isQualifier)
  untargeted : b.target.isUntargeted = !kept.any (·.provision.isTarget)
  single : b.target.isInstance = kept.any (·.provision.isSingle)
  unscoped : b.scoping.isUnscoped = !kept.any (·.provision.isScoping)

theorem tracks_ofKey (source : Source) :
    (ofKey source (.ofType t)).Tracks ([] : List (Call t)) [] :=
  ⟨rfl, rfl, rfl, rfl⟩

section
variable {b : Binding T} {earlier kept : List (Call t)}

theorem Tracks.breaks_eq (h : b.Tracks earlier kept) (c : Call t) :
    b.breaks? c.provision = c.objection? earlier kept := by
  obtain ⟨hq, hu, hi, hs⟩ := h
  unfold objection? breaks?
  rw [hq, hu, hi, hs]
  cases c.provision with
  | qualifier _ => cases earlier.any (·.provision.isQualifier) <;> rfl
  | link _ _ _ => cases kept.any (·.provision.isTarget) <;> rfl
  | single _ =>
    cases kept.any (·.provision.isTarget) <;> cases kept.any (·.provision.isScoping) <;> rfl
  | scoping _ _ =>
    cases kept.any (·.provision.isSingle) <;> cases kept.any (·.provision.isScoping) <;> rfl

theorem isSome_qualifier_after (b : Binding T) (p : Provision T) :
    (b.after p).key.qualifier.isSome = (b.key.qualifier.isSome || p.isQualifier) := by
  rw [key_after, Option.isSome_or, Provision.isQualifier]

theorem Tracks.refused (h : b.Tracks earlier kept) {c : Call t} {rule : Violation}
    (hb : b.breaks? c.provision = some rule) :
    (b.after c.provision).Tracks (earlier ++ [c]) kept := by
  have hq := isSome_qualifier_after b c.provision
  rw [after_of_breaks hb] at hq ⊢
  exact { h with qualifier := by simpa [h.qualifier] using hq }

theorem Tracks.admitted (h : b.Tracks earlier kept) {c : Call t}
    (hb : b.breaks? c.provision = none) :
    (b.after c.provision).Tracks (earlier ++ [c]) (kept ++ [c]) := by
  have hk := isSome_qualifier_after b c.provision
  obtain ⟨hq, hu, hi, hs⟩ := h
  rw [after_of_admits hb] at hk ⊢
  constructor <;> rw [List.any_append, List.any_cons, List.any_nil, Bool.or_false]
  · rw [hk, hq]
  · rw [Bool.not_or, ← hu]
    cases c.provision with
    | link x hx _ => exact hx.trans (Bool.and_false _).symm
    | single _ => exact (Bool.and_false _).symm
    | qualifier _ | scoping _ _ => exact (Bool.and_true _).symm
  · rw [← hi]
    cases hp : c.provision with
    | link x _ hx =>
      rw [hp, breaks_link_iff] at hb
      rw [hb]
      exact hx
    | single _ => exact (Bool.or_true _).symm
    | qualifier _ | scoping _ _ => exact (Bool.or_false _).symm
  · rw [Bool.not_or, ← hs]
    cases c.provision with
    | scoping s hx => exact hx.trans (Bool.and_false _).symm
    | qualifier _ | link _ _ _ | single _ => exact (Bool.and_true _).symm

theorem Tracks.after (h : b.Tracks earlier kept) (c : Call t) :
    (b.after c.provision).Tracks (earlier ++ [c])
      (if (c.objection? earlier kept).isSome then kept else kept ++ [c]) := by
  rw [← h.breaks_eq c]
  cases hb : b.breaks? c.provision with
  | some rule => exact h.refused hb
  | none => exact h.admitted hb

end

theorem tracks_build (source : Source) (cs : List (Call t)) :
    ((ofKey source (.ofType t)).build cs).1.Tracks cs (accepted cs) := by
  induction cs using List.reverseRecOn with
  | nil => exact tracks_ofKey source
  | append_singleton cs c ih =>
    rw [build_append, build_cons_fst, accepted_concat]
    exact ih.after c

theorem build_faults (source : Source) (cs : List (Call t)) :
    ((ofKey source (.ofType t)).build cs).2 = faultsOf cs := by
  induction cs using List.reverseRecOn with
  | nil => rfl
  | append_singleton cs c ih =>
    have hk : ((ofKey source (.ofType t)).build cs).1.key =
        ⟨.of t, cs.findSome? (·.provision.qualifier?)⟩ := by rw [build_key]; rfl
    rw [build_append, build_cons_snd, ih, faultsOf_concat, call_eq, hk,
      (tracks_build source cs).breaks_eq, build_nil, List.append_nil]
    rfl

end Binding
end Wiring
