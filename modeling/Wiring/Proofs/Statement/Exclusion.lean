import Wiring.Proofs.Statement.Provision
set_option autoImplicit false

namespace Wiring.Binding
variable {T : Type} [Catalog T]

def Exclusive (b : Binding T) : Prop := b.target.isInstance = true → b.scoping = .unscoped

theorem exclusive_ofKey (source : Source) (k : Key T) : (ofKey source k).Exclusive := fun _ => rfl

theorem Exclusive.after {b : Binding T} (h : b.Exclusive) (p : Provision T) :
    (b.after p).Exclusive := by
  cases hb : b.breaks? p with
  | some rule => rw [after_of_breaks hb]; exact h
  | none =>
    rw [after_of_admits hb]
    cases p with
    | qualifier q => exact h
    | link x hx hs => exact fun hi => absurd (hs.symm.trans hi) Bool.false_ne_true
    | single x => exact fun _ => (breaks_single_iff.mp hb).2
    | scoping s hs =>
      exact fun hi => absurd ((breaks_scoping_iff.mp hb).1.symm.trans hi) Bool.false_ne_true

theorem Exclusive.build {t : T} {b : Binding T} (h : b.Exclusive) (cs : List (Call t)) :
    (b.build cs).1.Exclusive :=
  build_invariant (fun _ p hb => hb.after p) h cs

end Wiring.Binding
