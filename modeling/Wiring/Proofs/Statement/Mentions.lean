import Wiring.Proofs.Statement.Provision
set_option autoImplicit false

namespace Wiring
variable {T : Type} [Catalog T] {t : T}

inductive Mention where
  | source (source : Source)
  | marker (marker : Marker)

def Key.mentions {T : Type} (k : Key T) : List Mention := k.marker?.toList.map .marker

@[simp] theorem Key.mentions_qualify {T : Type} (k : Key T) (q : Qualifier) :
    (k.qualify q).mentions = [.marker q.marker] := rfl

def Target.mentions : Target T → List Mention
  | .toKey k | .toProviderKey k => k.mentions
  | .untargeted | .toInstance _ | .toProvider _ => []

def Scoping.mentions (s : Scoping) : List Mention := s.marker?.toList.map .marker

def Binding.mentions (b : Binding T) : List Mention :=
  .source b.source :: (b.key.mentions ++ b.target.mentions ++ b.scoping.mentions)

def Fault.mentions {T : Type} (f : Fault T) : List Mention :=
  f.origin?.toList.map .source ++ f.key?.toList.flatMap Key.mentions

def Provision.mentions : Provision T → List Mention
  | .qualifier q => [.marker q.marker]
  | .link x _ _ => x.mentions
  | .single _ => []
  | .scoping s _ => s.mentions

/-- The place of a call is a source too, since its fault would have it as its origin. -/
def Call.mentions (c : Call t) : List Mention :=
  .source (.callSite c.site) :: c.provision.mentions

namespace Binding

theorem mem_mentions {b : Binding T} {x : Mention} :
    x ∈ b.mentions ↔ x = .source b.source ∨ x ∈ b.key.mentions ∨ x ∈ b.target.mentions ∨
      x ∈ b.scoping.mentions := by
  simp [mentions]

theorem mentions_put (b : Binding T) (p : Provision T) :
    (b.put p).mentions ⊆ b.mentions ++ p.mentions := by
  intro x hx
  rw [mem_mentions] at hx
  rw [List.mem_append, mem_mentions]
  cases p with
  | qualifier q => simp only [put, Key.mentions_qualify, Provision.mentions] at hx ⊢; grind
  | link y _ _ => simp only [put, Provision.mentions] at hx ⊢; grind
  | single y =>
    have hn : x ∉ (Target.toInstance y).mentions := List.not_mem_nil
    simp only [put] at hx
    grind
  | scoping s _ => simp only [put, Provision.mentions] at hx ⊢; grind

theorem mentions_after (b : Binding T) (p : Provision T) :
    (b.after p).mentions ⊆ b.mentions ++ p.mentions := by
  cases h : b.breaks? p with
  | some rule =>
    rw [after_of_breaks h]
    exact List.subset_append_left _ _
  | none =>
    rw [after_of_admits h]
    exact b.mentions_put p

theorem mentions_fault_call {b : Binding T} {c : Call t} {f : Fault T}
    (h : f ∈ (b.call c).2) : f.mentions ⊆ b.mentions ++ c.mentions := by
  rw [call_eq] at h
  obtain ⟨rule, _, rfl⟩ := Option.map_eq_some_iff.mp h
  intro x hx
  rcases List.mem_cons.mp hx with rfl | hx
  · exact List.mem_append_right _ List.mem_cons_self
  · exact List.mem_append_left _ (mem_mentions.mpr (.inr (.inl (by simpa [Fault.key?] using hx))))

theorem mentions_after_append (b : Binding T) (c : Call t) (cs : List (Call t)) :
    (b.after c.provision).mentions ++ cs.flatMap Call.mentions ⊆
      b.mentions ++ (c :: cs).flatMap Call.mentions := by
  intro x hx
  rw [List.flatMap_cons]
  rcases List.mem_append.mp hx with h | h
  · rcases List.mem_append.mp (b.mentions_after c.provision h) with h | h
    · exact List.mem_append_left _ h
    · exact List.mem_append_right _ (List.mem_append_left _ (List.mem_cons_of_mem _ h))
  · exact List.mem_append_right _ (List.mem_append_right _ h)

theorem mentions_build (b : Binding T) (cs : List (Call t)) :
    (b.build cs).1.mentions ⊆ b.mentions ++ cs.flatMap Call.mentions := by
  induction cs generalizing b with
  | nil => simp
  | cons c cs ih =>
    rw [build_cons_fst]
    exact List.Subset.trans (ih _) (b.mentions_after_append c cs)

theorem mentions_faults_build (b : Binding T) (cs : List (Call t)) :
    (b.build cs).2.flatMap Fault.mentions ⊆ b.mentions ++ cs.flatMap Call.mentions := by
  induction cs generalizing b with
  | nil => simp
  | cons c cs ih =>
    rw [build_cons_snd, List.flatMap_append, List.append_subset]
    constructor
    · intro x hx
      obtain ⟨f, hf, hx⟩ := List.mem_flatMap.mp hx
      have hcall := mentions_fault_call (Option.mem_toList.mp hf) hx
      rw [List.flatMap_cons, ← List.append_assoc]
      exact List.mem_append_left _ hcall
    · exact List.Subset.trans (ih _) (b.mentions_after_append c cs)

end Binding
end Wiring
