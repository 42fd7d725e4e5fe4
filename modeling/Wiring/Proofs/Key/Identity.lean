import Mathlib.Algebra.BigOperators.Group.Finset.Basic
import Wiring.Proofs.Key.Distinct
import Wiring.Proofs.Key.Equality
set_option autoImplicit false

namespace Wiring
namespace Key
variable {T : Type} [DecidableEq T]

theorem card_toFinset_filter (ks : List (Key T)) (p : T → Bool) :
    ((ks.map identity).filter (p ·.1)).toFinset.card = ∑ t ∈ (ks.map Key.type).toFinset with p t,
      ((ks.filter (·.type = t)).map Key.qualifier).toFinset.card := by
  have htypes : (((ks.map identity).filter (p ·.1)).toFinset : Set (Key.Identity T)).MapsTo
      Prod.fst ((ks.map Key.type).toFinset.filter fun t => p t) := by
    intro x hx
    obtain ⟨⟨k, hk, rfl⟩, hp⟩ : (∃ k ∈ ks, k.identity = x) ∧ p x.1 = true := by simpa using hx
    simpa using ⟨⟨k, hk, rfl⟩, hp⟩
  rw [Finset.card_eq_sum_card_fiberwise htypes]
  refine Finset.sum_congr rfl fun t ht => ?_
  have hpt : p t = true := (Finset.mem_filter.mp ht).2
  have hfiber : (((ks.map identity).filter (p ·.1)).toFinset.filter (·.1 = t)) =
      ((ks.filter (·.type = t)).map Key.qualifier).toFinset.image (t, ·) := by
    ext ⟨u, q⟩
    simp only [Finset.mem_filter, List.mem_toFinset, List.mem_filter, List.mem_map,
      Finset.mem_image, decide_eq_true_eq]
    constructor
    · rintro ⟨⟨⟨k, hk, hkey⟩, -⟩, rfl⟩
      obtain ⟨hkt, rfl⟩ := Prod.mk.inj hkey
      exact ⟨_, ⟨k, ⟨hk, hkt⟩, rfl⟩, rfl⟩
    · rintro ⟨_, ⟨k, ⟨hk, hkt⟩, rfl⟩, hpair⟩
      obtain ⟨rfl, rfl⟩ := Prod.mk.inj hpair
      exact ⟨⟨⟨k, hk, Prod.ext hkt rfl⟩, hpt⟩, rfl⟩
  rw [hfiber, Finset.card_image_of_injective _ (Prod.mk_right_injective t)]

end Key

/-- Keys in a hash set, under whatever names of their types: each insertion adds its key unless an
equal one came before. The set has one key for each type and qualifier, so that as many keys stand
for some of the types as each of these types alone has, also where the types print alike. -/
theorem insertEach_keys {T : Type} [DecidableEq T] [Hashable T] :
    (∀ a b : Key T, (a == b) = true ↔
      a.literal.tag = b.literal.tag ∧ Option.Rel Qualifier.Alike a.qualifier b.qualifier) ∧
    (∀ m n : Marker, Marker.ofName m.name = .ok n → (n == m) = true) ∧
    (Equivalence fun a b : Key T => (a == b) = true) ∧
    (∀ a b : Key T, (a == b) = true → hash a = hash b) ∧
    ∀ ks : List (Key T),
      (insertEach ∅ ks).2 = ks.mapIdx (fun i k => !(ks.take i).any (· == k)) ∧
      (insertEach ∅ ks).1.size = (insertEach ∅ ks).2.count true ∧
      (insertEach ∅ ks).1.size = (ks.map Key.identity).toFinset.card ∧
      (∀ k, k ∈ (insertEach ∅ ks).1 ↔ ∃ k' ∈ ks, (k' == k) = true) ∧
      ((insertEach ∅ ks).1.toList.Pairwise fun a b => (a == b) = false) ∧
      ∀ p : T → Bool, (insertEach ∅ ks).1.toList.countP (p ·.type) =
        ∑ t ∈ (ks.map Key.type).toFinset with p t,
          ((ks.filter (·.type = t)).map Key.qualifier).toFinset.card := by
  refine ⟨fun _ _ => Key.beq_iff_alike, fun _ _ => Marker.beq_of_ofName, Key.beq_equivalence,
    fun _ _ h => Key.hash_eq (Key.beq_iff.mp h), fun ks => ?_⟩
  have hidentity (a b : Key T) : (a == b) = true ↔ a.identity = b.identity := Key.beq_iff
  refine ⟨flags_insertEach_empty ks, ?added, size_insertEach_empty hidentity ks,
    fun _ => mem_insertEach_empty, Std.HashSet.distinct_toList, fun p => ?types⟩
  case added => simpa using size_insertEach ∅ ks
  case types => exact (countP_insertEach_empty hidentity _ ks).trans (Key.card_toFinset_filter ks p)

inductive Twin where
  | first
  | second
  deriving DecidableEq, Hashable

/-- Twins print alike and stay apart, and one of them is the same under another name; a marker made
of a constant's name is that constant. -/
theorem insertEach_keys_twins :
    let first : Key Twin := .ofLiteral ⟨.first, "Twin"⟩
    let second : Key Twin := .ofLiteral ⟨.second, "Twin"⟩
    let renamed : Key Twin := .ofLiteral ⟨.first, "a::Twin"⟩
    let ks : List (Key Twin) := [first, second, first.qualify (.named "x"), renamed,
      renamed.qualify (.valued ⟨"Named"⟩ "x")]
    first.text = second.text ∧ first.text ≠ renamed.text ∧
    (insertEach ∅ ks).2 = [true, true, true, false, false] ∧
    (insertEach ∅ ks).1.toList.countP (·.type = .first) = 2 ∧
    (Marker.ofName "Named" = .ok ⟨"Named"⟩ ∧ ((⟨"Named"⟩ : Marker) == .named) = true) ∧
    hash (first.qualify (.named "x")) = hash (renamed.qualify (.valued ⟨"Named"⟩ "x")) := by
  intro first second renamed ks
  obtain ⟨-, hmarker, -, hhash, hset⟩ := insertEach_keys (T := Twin)
  obtain ⟨hflags, -, -, -, -, htypes⟩ := hset ks
  have hnamed : Marker.ofName "Named" = .ok ⟨"Named"⟩ := by decide
  exact ⟨rfl, by decide, hflags.trans (by decide), (htypes (· = .first)).trans (by decide),
    ⟨hnamed, hmarker .named _ hnamed⟩, hhash _ _ (by decide)⟩

end Wiring
