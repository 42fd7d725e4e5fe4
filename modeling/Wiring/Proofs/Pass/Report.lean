import Wiring.Proofs.Json.Sorting
import Wiring.Proofs.Pass.Outcome
import Wiring.Proofs.Summary.RoundTrip
set_option autoImplicit false

namespace Wiring
variable {T : Type} [Catalog T]

namespace Source

theorem presented_sorted (depth : Nat) (s : Source) : s.Presented depth s.toJson.sorted := by
  cases s with
  | label t =>
    rw [toJson, Json.sorted_ofFields]
    exact .labelObject (Json.isText_ofText "label") (Json.isText_ofText t)
      (Json.arranged_ofFields _ _ (Json.Fields.sorted_perm_self (by simp)))
  | callSite s =>
    rw [toJson, Json.sorted_ofFields]
    exact .siteObject (Json.isText_ofText "call_site") (Json.isText_ofText s.file)
      (Json.isWord_ofWord s.line) (Json.isWord_ofWord s.column)
      (Json.arranged_ofFields _ _ (Json.Fields.sorted_perm_self (by simp)))

theorem spelled_sorted (s : Source) : s.toJson.sorted.Spelled s.toJson.sorted.wire := by
  cases s <;>
    exact Json.spelled_sorted_ofFields (by simp [Json.spelled_ofText, Json.spelled_ofWord])

end Source

namespace Summary

theorem map_sorted_membersAround (s : Summary) (source : Json) :
    (s.membersAround source).map (fun f => (f.1, f.2.sorted)) = s.membersAround source.sorted := by
  simp [membersAround, members, detailItems, Function.comp_def]

theorem exists_sorted_toJson (s : Summary) :
    ∃ fs : Json.Fields, s.toJson.sorted = .ofFields fs ∧
      fs.Perm (s.membersAround s.source.toJson.sorted) := by
  rw [toJson_eq_ofFields, Json.sorted_ofFields, ← map_sorted_membersAround]
  exact ⟨_, rfl, Json.Fields.sorted_perm _⟩

theorem ofJson?_sorted (s : Summary) : ofJson? s.toJson.sorted = some s := by
  obtain ⟨fs, hj, order⟩ := s.exists_sorted_toJson
  rw [hj]
  exact (presented_ofFields (s.source.presented_sorted _) order).depicted.ofJson?

theorem ofText?_sorted (s : Summary) : ofText? s.toJson.sorted.text = some s := by
  obtain ⟨fs, hj, order⟩ := s.exists_sorted_toJson
  have hs : s.toJson.sorted.Spelled s.toJson.sorted.wire := by
    rw [hj]
    exact Json.spelled_ofFields fun f hf =>
      spelled_of_mem_membersAround s.source.spelled_sorted f (order.mem_iff.mp hf)
  rw [ofText?, Json.read?_text hs]
  exact s.ofJson?_sorted

end Summary

theorem Transcript.report_eq (t : Transcript T) :
    t.report = .ofFields [("bindings", .array (t.summaries.map fun s => s.toJson.sorted)),
      ("errors", .array (t.faults.map fun f => .ofText f.text))] := by
  rw [report, Json.sorted_ofFields, Json.Fields.sorted, List.mergeSort_of_pairwise]
  · simp [Json.sorted_array, Function.comp_def]
  · have hn : JsonSymbol.precedes (JsonSymbol.encode "bindings")
        (JsonSymbol.encode "errors") = true := by decide
    simp [hn]

theorem Rejection.text_eq {T : Type} (r : Rejection T) :
    r.text = toString (r.faults.map Fault.text).length ++ " configuration error(s): " ++
      "; ".intercalate (r.faults.map Fault.text) := by
  rw [text, Digits.text_eq_toString, List.length_map]

/-- The report has one element for each binding statement and one text for each fault, in their
order and nothing else. An element is read as the summary of its binding, there are no texts
exactly when the pass can be used, and a rejection counts and joins the texts. -/
theorem report_record (steps : List (Step T)) :
    ∃ (elements : List Json) (texts : List String),
      (record steps).report =
        .ofFields [("bindings", .array elements), ("errors", .array (texts.map .ofText))] ∧
      (record steps).summaries = (steps.filterMap Step.binding?).map Binding.summary ∧
      elements.map Summary.ofJson? = (record steps).summaries.map some ∧
      elements.map (fun x => Summary.ofText? x.text) = (record steps).summaries.map some ∧
      texts = (record steps).faults.map Fault.text ∧
      (texts = [] ↔ ∃ sts, (record steps).result = .ok sts) ∧
      ∀ e, (record steps).result = .error e →
        e.text = toString texts.length ++ " configuration error(s): " ++
          "; ".intercalate texts := by
  refine ⟨(record steps).summaries.map fun s => s.toJson.sorted,
    (record steps).faults.map Fault.text, ?_, ?_, ?_, ?_, rfl, ?_, fun e he => ?_⟩
  · rw [Transcript.report_eq, List.map_map]
    rfl
  · rw [Transcript.summaries, record_bindings]
  · simp [Summary.ofJson?_sorted]
  · simp [Summary.ofText?_sorted]
  · simp [Transcript.result_eq_ok_iff]
  · rw [e.text_eq, (Transcript.result_eq_error_iff.mp he).2]

def mistaken : List (Step Sample) :=
  [.bind .service (.label "app")
      [⟨.toType .implementation, ⟨"main", 1, 1⟩⟩, ⟨.toType .service, ⟨"main", 2, 1⟩⟩],
    .complain ⟨"main", 3, 1⟩ "incomplete",
    .bind .implementation (.label "app")
      [⟨.toInstance ⟨0, "x"⟩, ⟨"main", 4, 1⟩⟩, ⟨.asEagerSingleton, ⟨"main", 5, 1⟩⟩]]

/-- What is told of the first binding and of the last; the complaint is none of the faults. -/
theorem report_record_mistaken :
    ∃ e, (record mistaken).result = .error e ∧
      e.text = "2 configuration error(s): main:2:1: Implementation is set more than once. " ++
        "(bind Key[type=Service, annotation=[none]]); main:5:1: Setting the scope is not " ++
        "permitted when binding to a single instance. " ++
        "(bind Key[type=ServiceImpl, annotation=[none]])" := by
  obtain ⟨_, texts, -, -, -, -, ht, -, he⟩ := report_record mistaken
  refine ⟨_, rfl, (he _ rfl).trans ?_⟩
  rw [ht]
  decide +kernel

end Wiring
