import Wiring.Catalog
import Wiring.Text.Quoted
set_option autoImplicit false

/-!
Values held by reference. `Erased` forgets the type of what it holds but for a tag, and
`downcast?` gives the value back to who names that type; `downcast?_isSome_iff` says that nobody
else gets it.
-/

namespace Wiring

structure Shared (α : Type) where
  handle : Nat
  content : α

structure Erased {T : Type} (F : T → Type) where
  type : T
  held : Shared (F type)

namespace Erased
variable {T : Type} {F : T → Type}

/-- Equal when they live in one place, under whatever type. -/
instance : BEq (Erased F) := ⟨fun x y => x.held.handle == y.held.handle⟩

def ofShared {t : T} (x : Shared (F t)) : Erased F := ⟨t, x⟩

def downcast? [DecidableEq T] (x : Erased F) (u : T) : Option (Shared (F u)) :=
  if h : x.type = u then some (h ▸ x.held) else none

@[simp] theorem downcast?_ofShared [DecidableEq T] {t : T} (x : Shared (F t)) :
    (ofShared x).downcast? t = some x := by
  simp [downcast?, ofShared]

theorem downcast?_isSome_iff [DecidableEq T] {x : Erased F} {u : T} :
    (x.downcast? u).isSome ↔ x.type = u := by
  simp only [downcast?]; split <;> simp_all

end Erased

variable {T : Type} [Catalog T]

abbrev Instance (T : Type) [Catalog T] := Erased fun t : T => Catalog.Carrier t

abbrev Supply {T : Type} [Catalog T] (t : T) := Unit → Catalog.Carrier t

abbrev Provider (T : Type) [Catalog T] := Erased fun t : T => Supply t

def Instance.text (x : Instance T) : String := "instance " ++ Catalog.name x.type

def Instance.inspect (x : Instance T) : String :=
  "Instance \x7b type: " ++ Text.quoted (Catalog.name x.type) ++ ", .. \x7d"

def Provider.text (p : Provider T) : String := "provider " ++ Catalog.name p.type

def Provider.inspect (p : Provider T) : String :=
  "ProviderInstance \x7b provides: " ++ Text.quoted (Catalog.name p.type) ++ ", .. \x7d"

end Wiring
