import Wiring.Proofs.Pass.Steps
import Wiring.Proofs.Statement.Refusal
import Mathlib.Data.List.Infix
set_option autoImplicit false

/-!
Looking at a pass while it goes on. A recorder is seen through what finishing would leave, and that
alone decides what a step is answered (`answer_step`). To look therefore changes nothing that is
seen later, and what has been seen is the beginning of all that is seen after it (`log_run`).
-/

namespace Wiring
variable {T : Type} [Catalog T]

def Binding.drafts {t : T} (b : Binding T) : List (Call t) → List (Binding T)
  | [] => [b]
  | c :: cs => b :: (b.call c).1.drafts cs

namespace Step

def isLook : Step T → Bool
  | .listStatements | .listFaults => true
  | .bind _ _ _ | .complain _ _ => false

/-- What a step is answered at a moment when finishing would leave the transcript. -/
def answer (left : Transcript T) : Step T → Answer T
  | .bind t source calls =>
    .bound ((Binding.ofKey source (.ofType t)).drafts calls)
      ((Binding.ofKey source (.ofType t)).build calls).2
  | .complain _ _ => .complained
  | .listStatements => .statements left.statements
  | .listFaults => .faults left.faults

theorem eq_of_answer_statements {left : Transcript T} {s : Step T} {xs : List (Statement T)}
    (h : s.answer left = .statements xs) : xs = left.statements := by
  cases s <;> simp_all [answer]

theorem eq_of_answer_faults {left : Transcript T} {s : Step T} {fs : List (Fault T)}
    (h : s.answer left = .faults fs) : fs = left.faults := by
  cases s <;> simp_all [answer]

theorem statement?_of_isLook {s : Step T} (h : s.isLook = true) : s.statement? = none := by
  cases s <;> simp_all [isLook, statement?]

theorem faults_of_isLook {s : Step T} (h : s.isLook = true) : s.faults = [] := by
  cases s <;> simp_all [isLook, faults]

end Step

namespace Recorder

theorem filterMap_callEach {t : T} {r : Recorder T} {b : Binding T} (h : r.pending = some b)
    (cs : List (Call t)) : (r.callEach cs).filterMap pending = b.drafts cs := by
  induction cs generalizing r b with
  | nil => simp [callEach, Binding.drafts, h]
  | cons c cs ih =>
    have hc : (r.call c).pending = some (b.call c).1 := by simp [call, h]
    simp [callEach, Binding.drafts, h, ih hc]

theorem answer_step (r : Recorder T) (s : Step T) : (r.step s).2 = s.answer r.finish := by
  cases s with
  | bind t source calls =>
    have hd : ((r.start source t).callEach calls).filterMap pending =
        (Binding.ofKey source (.ofType t)).drafts calls := filterMap_callEach rfl calls
    simp [step, Step.answer, bind_eq, hd]
  | complain site message => rfl
  | listStatements => rfl
  | listFaults => simp [step, Step.answer, finish_faults]

theorem finish_of_isLook {s : Step T} (h : s.isLook = true) (r : Recorder T) :
    (r.step s).1.finish = r.finish := by
  simp [finish_step, Step.statement?_of_isLook h, Step.faults_of_isLook h]

def log (r : Recorder T) (ss : List (Step T)) : List (Step T × Answer T) := ss.zip (r.run ss).2

@[simp] theorem log_nil (r : Recorder T) : r.log [] = [] := rfl

@[simp] theorem log_cons (r : Recorder T) (s : Step T) (ss : List (Step T)) :
    r.log (s :: ss) = (s, s.answer r.finish) :: (r.step s).1.log ss := by
  rw [← answer_step]
  rfl

/-- Recorders that would leave the same answer the same, now and later. -/
theorem log_of_finish_eq {r r' : Recorder T} (h : r.finish = r'.finish) (ss : List (Step T)) :
    r.log ss = r'.log ss := by
  induction ss generalizing r r' with
  | nil => rfl
  | cons s ss ih =>
    have hs : (r.step s).1.finish = (r'.step s).1.finish := by simp [finish_step, h]
    simp [h, ih hs]

theorem map_fst_log (r : Recorder T) (ss : List (Step T)) : (r.log ss).map Prod.fst = ss := by
  induction ss generalizing r with
  | nil => rfl
  | cons s ss ih => simp [ih]

theorem log_of_sublist {r : Recorder T} {ss : List (Step T)} {ps : List (Step T × Answer T)}
    (hp : ps.Sublist (r.log ss))
    (hk : ps.filter (!·.1.isLook) = (r.log ss).filter (!·.1.isLook)) :
    r.log (ps.map Prod.fst) = ps := by
  induction ss generalizing r ps with
  | nil => simp_all
  | cons s ss ih =>
    rw [log_cons] at hp hk
    rcases cons_cases_of_filter_eq hp hk with ⟨hs, hp, hk⟩ | ⟨qs, rfl, hp, hk⟩
    · have hl : s.isLook = true := by simpa using hs
      rw [log_of_finish_eq (finish_of_isLook hl r).symm]
      exact ih hp hk
    · simp [ih hp hk]

theorem getElem?_log (r : Recorder T) (ss : List (Step T)) (i : Nat) :
    (r.log ss)[i]? = ss[i]?.map fun s => (s, s.answer (r.run (ss.take i)).1.finish) := by
  induction ss generalizing r i with
  | nil => simp
  | cons s ss ih =>
    cases i with
    | zero => simp [run]
    | succ i => simp [run, ih]

end Recorder

theorem record_cons (s : Step T) (ss : List (Step T)) :
    record (s :: ss) = ⟨s.statement?.toList ++ (record ss).statements,
      s.faults ++ (record ss).faults⟩ := by
  rw [record_eq, record_eq, List.filterMap_cons, List.flatMap_cons]
  cases s.statement? <;> rfl

theorem record_filter (ss : List (Step T)) : record (ss.filter (!·.isLook)) = record ss := by
  induction ss with
  | nil => rfl
  | cons s ss ih =>
    by_cases hl : s.isLook = true
    · simp [record_cons, hl, ih, Step.statement?_of_isLook hl, Step.faults_of_isLook hl]
    · simp [record_cons, hl, ih]

theorem record_of_sublist {ss : List (Step T)} {ps : List (Step T × Answer T)}
    (hk : ps.filter (!·.1.isLook) = (Recorder.log {} ss).filter (!·.1.isLook)) :
    record (ps.map Prod.fst) = record ss := by
  have hf : (ps.map Prod.fst).filter (!·.isLook) = ss.filter (!·.isLook) := by
    have hm := congrArg (List.map Prod.fst) hk
    rw [← Recorder.map_fst_log {} ss, List.filter_map, List.filter_map]
    exact hm
  rw [← record_filter, hf, record_filter]

theorem record_mono {ss ts : List (Step T)} (h : ss <+: ts) :
    (record ss).statements <+: (record ts).statements ∧
      (record ss).faults <+: (record ts).faults := by
  rw [record_eq, record_eq]
  exact ⟨h.filterMap _, h.flatMap _⟩

theorem log_listStatements {ss : List (Step T)} {i : Nat} (h : ss[i]? = some .listStatements) :
    (Recorder.log {} ss)[i]? =
      some (.listStatements, .statements (record (ss.take i)).statements) := by
  rw [Recorder.getElem?_log, h]
  rfl

theorem log_listFaults {ss : List (Step T)} {i : Nat} (h : ss[i]? = some .listFaults) :
    (Recorder.log {} ss)[i]? = some (.listFaults, .faults (record (ss.take i)).faults) := by
  rw [Recorder.getElem?_log, h]
  rfl

theorem statements_of_getElem?_log {ss : List (Step T)} {i : Nat} {s : Step T}
    {xs : List (Statement T)} (h : (Recorder.log {} ss)[i]? = some (s, .statements xs)) :
    xs = (record (ss.take i)).statements := by
  rw [Recorder.getElem?_log] at h
  obtain ⟨s, -, ha⟩ := Option.map_eq_some_iff.mp h
  exact Step.eq_of_answer_statements (Prod.mk.inj ha).2

theorem faults_of_getElem?_log {ss : List (Step T)} {i : Nat} {s : Step T}
    {fs : List (Fault T)} (h : (Recorder.log {} ss)[i]? = some (s, .faults fs)) :
    fs = (record (ss.take i)).faults := by
  rw [Recorder.getElem?_log] at h
  obtain ⟨s, -, ha⟩ := Option.map_eq_some_iff.mp h
  exact Step.eq_of_answer_faults (Prod.mk.inj ha).2

/-- Leaving out looks, and so putting them in, changes neither the transcript nor what any other
step is answered. Who asks for a list is given one: it ends with what was said or found last, and is
the beginning of every such list that is given later and of the one in the transcript. -/
theorem log_run (ss : List (Step T)) :
    (∀ ps : List (Step T × Answer T), ps.Sublist (Recorder.log {} ss) →
      ps.filter (!·.1.isLook) = (Recorder.log {} ss).filter (!·.1.isLook) →
      Recorder.log {} (ps.map Prod.fst) = ps ∧ record (ps.map Prod.fst) = record ss) ∧
    (∀ i, ss[i]? = some .listStatements → ∃ xs,
      (Recorder.log {} ss)[i]? = some (.listStatements, .statements xs) ∧
      xs.getLast? = ((ss.take i).filterMap Step.statement?).getLast? ∧
      xs <+: (record ss).statements ∧
      ∀ j ys, i ≤ j → (Recorder.log {} ss)[j]? = some (.listStatements, .statements ys) →
        xs <+: ys) ∧
    ∀ i, ss[i]? = some .listFaults → ∃ fs,
      (Recorder.log {} ss)[i]? = some (.listFaults, .faults fs) ∧
      fs.getLast? = ((ss.take i).flatMap Step.faults).getLast? ∧
      fs <+: (record ss).faults ∧
      ∀ j gs, i ≤ j → (Recorder.log {} ss)[j]? = some (.listFaults, .faults gs) →
        fs <+: gs := by
  refine ⟨fun ps hp hk => ⟨Recorder.log_of_sublist hp hk, record_of_sublist hk⟩,
    fun i hi => ?_, fun i hi => ?_⟩
  · refine ⟨_, log_listStatements hi, by rw [record_eq],
      (record_mono (List.take_prefix i ss)).1, fun j ys hij hy => ?_⟩
    obtain rfl := statements_of_getElem?_log hy
    exact (record_mono (List.take_prefix_take_left hij)).1
  · refine ⟨_, log_listFaults hi, by rw [record_eq],
      (record_mono (List.take_prefix i ss)).2, fun j gs hij hg => ?_⟩
    obtain rfl := faults_of_getElem?_log hg
    exact (record_mono (List.take_prefix_take_left hij)).2

def overlooked : List (Step Sample) :=
  [.bind .service (.label "app")
      [⟨.toType .implementation, ⟨"main", 1, 1⟩⟩, ⟨.toType .service, ⟨"main", 2, 1⟩⟩],
    .listStatements, .listFaults, .complain ⟨"main", 3, 1⟩ "incomplete", .listStatements]

/-- The first look closes a binding that the complaint would have closed without it. -/
theorem log_run_overlooked :
    let seen := Recorder.log {} overlooked
    (seen.eraseIdx 1).Sublist seen ∧
    (seen.eraseIdx 1).filter (!·.1.isLook) = seen.filter (!·.1.isLook) ∧
    Recorder.log {} ((seen.eraseIdx 1).map Prod.fst) = seen.eraseIdx 1 ∧
    overlooked[1]? = some .listStatements ∧ overlooked[2]? = some .listFaults ∧
    (∃ xs, seen[1]? = some (.listStatements, .statements xs) ∧
      xs <+: (record overlooked).statements) ∧
    ∃ fs, seen[2]? = some (.listFaults, .faults fs) ∧ fs <+: (record overlooked).faults := by
  have hp := List.eraseIdx_sublist (Recorder.log {} overlooked) 1
  have hk : ((Recorder.log {} overlooked).eraseIdx 1).filter (!·.1.isLook) =
      (Recorder.log {} overlooked).filter (!·.1.isLook) := rfl
  obtain ⟨hlog, hstatements, hfaults⟩ := log_run overlooked
  obtain ⟨xs, hx, -, hxs, -⟩ := hstatements 1 rfl
  obtain ⟨fs, hf, -, hfs, -⟩ := hfaults 2 rfl
  exact ⟨hp, hk, (hlog _ hp hk).1, rfl, rfl, ⟨xs, hx, hxs⟩, fs, hf, hfs⟩

end Wiring
