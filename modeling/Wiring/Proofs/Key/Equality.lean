import Wiring.Key.Basic
set_option autoImplicit false

/-!
When keys are equal. Names of types have no part in it, so keys that are equal need not be the
same; all that hash sets ask for is that equality is an equivalence and that hashing follows it.
-/

namespace Wiring

theorem beq_equivalence_of_iff {α β : Type} [BEq α] {f : α → β}
    (h : ∀ a b, (a == b) = true ↔ f a = f b) : Equivalence fun a b : α => (a == b) = true where
  refl a := (h a a).mpr rfl
  symm hab := (h _ _).mpr ((h _ _).mp hab).symm
  trans hab hbc := (h _ _).mpr (((h _ _).mp hab).trans ((h _ _).mp hbc))

theorem Marker.eq_iff {m n : Marker} : m = n ↔ m.name = n.name := by
  cases m; cases n; simp

theorem Marker.beq_of_ofName {m n : Marker} (h : Marker.ofName m.name = .ok n) :
    (n == m) = true :=
  beq_iff_eq.mpr (Marker.ofName_eq_ok_iff.mp h).1

/-- Qualifiers of one form, with markers of one name and equal values. -/
inductive Qualifier.Alike : Qualifier → Qualifier → Prop
  | plain {m n : Marker} (name : m.name = n.name) : Alike (.plain m) (.plain n)
  | valued {m n : Marker} {v w : String} (name : m.name = n.name) (value : v = w) :
      Alike (.valued m v) (.valued n w)

theorem Qualifier.alike_iff {q r : Qualifier} : q.Alike r ↔ q = r := by
  constructor
  · rintro (hname | ⟨hname, rfl⟩)
    · rw [Marker.eq_iff.mpr hname]
    · rw [Marker.eq_iff.mpr hname]
  · rintro rfl
    cases q with
    | plain m => exact .plain rfl
    | valued m v => exact .valued rfl rfl

theorem Qualifier.rel_alike_iff {q r : Option Qualifier} : Option.Rel Alike q r ↔ q = r := by
  cases q <;> cases r <;> simp [alike_iff]

variable {T : Type}

namespace TypeLiteral

theorem beq_iff [DecidableEq T] {a b : TypeLiteral T} : (a == b) = true ↔ a.tag = b.tag := by
  change (a.tag == b.tag) = true ↔ _
  exact beq_iff_eq

theorem hash_eq [Hashable T] {a b : TypeLiteral T} (h : a.tag = b.tag) : hash a = hash b := by
  change hash a.tag = hash b.tag
  rw [h]

end TypeLiteral

namespace Key

abbrev Identity (T : Type) := T × Option Qualifier

def identity (k : Key T) : Identity T := (k.type, k.qualifier)

theorem beq_iff [DecidableEq T] {a b : Key T} : (a == b) = true ↔ a.identity = b.identity := by
  change (a.literal == b.literal && a.qualifier == b.qualifier) = true ↔ _
  rw [Bool.and_eq_true, TypeLiteral.beq_iff, beq_iff_eq, identity, identity, Prod.mk.injEq]
  rfl

theorem beq_iff_alike [DecidableEq T] {a b : Key T} :
    (a == b) = true ↔ a.type = b.type ∧ Option.Rel Qualifier.Alike a.qualifier b.qualifier := by
  rw [beq_iff, Qualifier.rel_alike_iff, identity, identity, Prod.mk.injEq]

theorem beq_equivalence [DecidableEq T] : Equivalence fun a b : Key T => (a == b) = true :=
  beq_equivalence_of_iff fun _ _ => beq_iff

instance [DecidableEq T] : EquivBEq (Key T) where
  rfl := beq_equivalence.refl _
  symm := beq_equivalence.symm
  trans := beq_equivalence.trans

theorem hash_def [Hashable T] (k : Key T) :
    hash k = mixHash (mixHash 0 (hash k.literal)) (hash k.qualifier) := rfl

theorem hash_eq [Hashable T] {a b : Key T} (h : a.identity = b.identity) : hash a = hash b := by
  obtain ⟨htype, hqualifier⟩ := Prod.mk.inj h
  rw [hash_def, hash_def, TypeLiteral.hash_eq htype, hqualifier]

instance [DecidableEq T] [Hashable T] : LawfulHashable (Key T) where
  hash_eq _ _ h := hash_eq (beq_iff.mp h)

/-- The key shows its type under the name that the type goes by. -/
def Named (names : T → String) (k : Key T) : Prop := k.literal.name = names k.type

theorem text_eq {names : T → String} {a b : Key T} (h : a.identity = b.identity)
    (ha : a.Named names) (hb : b.Named names) : a.text = b.text := by
  obtain ⟨htype, hqualifier⟩ := Prod.mk.inj h
  have hname : a.literal.name = b.literal.name := by rw [ha, hb, htype]
  rw [text, text, hname, hqualifier]

end Key
end Wiring
