import Wiring.Binder.Replay
set_option autoImplicit false

namespace Wiring
variable {T σ : Type} [Catalog T]

/-- A target that leaves nothing to choose ends the requests of its binding. -/
def Binding.requests (b : Binding T) : List (Request T) :=
  .bind b.source b.key :: b.target.request ::
    if b.target.request.continues then b.scoping.request?.toList else []

def Complaint.request (c : Complaint) : Request T := .report (.reported c.source c.message)

def Statement.requests : Statement T → List (Request T)
  | .bind b => b.requests
  | .complain c => [c.request]

variable [Binder T σ]

theorem Scoping.send_eq_foldl (sc : Scoping) (s : σ) :
    sc.send s = sc.request?.toList.foldl Binder.receive s := by
  cases sc <;> rfl

theorem Binding.replay_eq_foldl (b : Binding T) (s : σ) :
    b.replay s = b.requests.foldl Binder.receive s := by
  rw [requests, List.foldl_cons, List.foldl_cons]
  let heard : σ := Binder.receive (Binder.receive s (.bind b.source b.key)) b.target.request
  change (if b.target.request.continues then b.scoping.send heard else heard) = _
  split
  · exact Scoping.send_eq_foldl b.scoping heard
  · rfl

theorem Statement.replay_eq_foldl (st : Statement T) (s : σ) :
    st.replay s = st.requests.foldl Binder.receive s := by
  cases st with
  | bind b => exact b.replay_eq_foldl s
  | complain c => rfl

theorem replay_eq_foldl (sts : List (Statement T)) (s : σ) :
    replay sts s = (sts.flatMap Statement.requests).foldl Binder.receive s := by
  simp only [List.foldl_flatMap, replay, Statement.replay_eq_foldl]

end Wiring
