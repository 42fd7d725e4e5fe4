import Wiring.Proofs.Binder.Protocol
set_option autoImplicit false

/-!
Handlers that tell a binder of every statement by themselves. A replay says nothing of the scoping
after an instance, and they always do; the two say the same of a binding exactly when an instance
in it has no scoping (`visits_eq_requests_iff`). Passes record no others (`drive_record`).
-/

namespace Wiring
variable {T σ : Type} [Catalog T]

section
variable [Binder T σ]

def targetDriver : TargetHandler T (σ → σ) where
  untargeted s := Binder.receive s .asScoped
  toKey k s := Binder.receive s (.toKey k)
  toInstance x s := Binder.receive s (.toInstance x)
  toProvider p s := Binder.receive s (.toProvider p)
  toProviderKey k s := Binder.receive s (.toProviderKey k)

def scopingDriver : ScopingHandler (σ → σ) where
  unscoped s := s
  marker m s := Binder.receive s (.inMarker m)
  scope a s := Binder.receive s (.inScope a)
  eagerSingleton s := Binder.receive s .asEagerSingleton

/-- The scoping is handled whatever the target was. -/
def statementDriver : StatementHandler T (σ → σ) where
  bind b s := b.scoping.handle scopingDriver
    (b.target.handle targetDriver (Binder.receive s (.bind b.source b.key)))
  complain c s := Binder.receive s (.report (.reported c.source c.message))

def drive (sts : List (Statement T)) (s : σ) : σ :=
  sts.foldl (fun s st => st.handle statementDriver s) s

end

def Binding.visits (b : Binding T) : List (Request T) :=
  .bind b.source b.key :: b.target.request :: b.scoping.request?.toList

def Statement.visits : Statement T → List (Request T)
  | .bind b => b.visits
  | .complain c => [c.request]

theorem Binding.visits_eq_requests_iff {b : Binding T} : b.visits = b.requests ↔ b.Exclusive := by
  rw [visits, requests, Target.continues_request, Exclusive]
  cases hi : b.target.isInstance with
  | false => simp
  | true =>
    rcases b.scoping.request?_cases (T := T) with ⟨hs, hn⟩ | ⟨hs, q, hq, -⟩
    · simp [hs, Scoping.request?]
    · simp [hs, hq]

theorem Statement.visits_eq_requests {st : Statement T} (h : ∀ b ∈ st.binding?, b.Exclusive) :
    st.visits = st.requests := by
  cases st with
  | bind b => exact Binding.visits_eq_requests_iff.mpr (h b rfl)
  | complain c => rfl

section
variable [Binder T σ]

theorem Target.handle_driver (x : Target T) (s : σ) :
    x.handle targetDriver s = Binder.receive s x.request := by
  cases x <;> rfl

theorem Scoping.handle_driver (sc : Scoping) (s : σ) :
    sc.handle scopingDriver s = sc.request?.toList.foldl Binder.receive s := by
  cases sc <;> rfl

theorem Statement.handle_driver (st : Statement T) (s : σ) :
    st.handle statementDriver s = st.visits.foldl Binder.receive s := by
  cases st with
  | bind b => simp [handle, statementDriver, visits, Binding.visits, Target.handle_driver,
      Scoping.handle_driver]
  | complain c => rfl

theorem drive_eq_foldl (sts : List (Statement T)) (s : σ) :
    drive sts s = (sts.flatMap Statement.visits).foldl Binder.receive s := by
  simp only [List.foldl_flatMap, drive, Statement.handle_driver]

theorem drive_eq_replay {sts : List (Statement T)}
    (h : ∀ b ∈ sts.filterMap Statement.binding?, b.Exclusive) (s : σ) :
    drive sts s = replay sts s := by
  have hv : sts.flatMap Statement.visits = sts.flatMap Statement.requests :=
    List.flatMap_congr fun st hst => Statement.visits_eq_requests fun b hb =>
      h b (List.mem_filterMap.mpr ⟨st, hst, hb⟩)
  rw [drive_eq_foldl, replay_eq_foldl, hv]

end

/-- Of what a pass recorded the handlers ask for the same as a replay, request by request, and
leave any binder as a replay leaves it. -/
theorem drive_record (steps : List (Step T)) :
    drive (record steps).statements [] = asked (record steps).statements ∧
    ∀ {σ : Type} [Binder T σ] (s : σ),
      drive (record steps).statements s = replay (record steps).statements s := by
  have h : ∀ b ∈ (record steps).statements.filterMap Statement.binding?, b.Exclusive :=
    fun b hb => exclusive_of_mem_bindings hb
  exact ⟨drive_eq_replay h [], fun s => drive_eq_replay h s⟩

end Wiring
