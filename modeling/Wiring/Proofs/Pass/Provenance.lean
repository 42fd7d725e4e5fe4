import Wiring.Proofs.Pass.Payload
import Wiring.Proofs.Statement.Mentions
set_option autoImplicit false

/-!
Where the sources and markers of a pass come from: its steps mention all of them, and neither a
transcript nor its replay into a registry adds any (`mentions_record`, `exists_replay_append`). So
blank labels and blank names of markers are kept out by refusing them where they are made
(`tells_record`).
-/

namespace Wiring
variable {T : Type} [Catalog T]

namespace Mention

def text? : Mention → Option String
  | .source (.callSite _) => none
  | .source (.label t) => some t
  | .marker m => some m.name

/-- There is no such text, or there is more to it than white space. -/
def Tells (x : Mention) : Prop := ∀ t ∈ x.text?, ∃ c ∈ t.toList, Text.isWhite c = false

/-- The ways to come by a source or a marker. Where a label or a name is refused there is none, and
no call that could use it. -/
inductive Made : Mention → Prop where
  | callSite (site : Site) : Made (.source (.callSite site))
  | labeled {text : String} {source : Source} (h : Source.labeled text = .ok source) :
      Made (.source source)
  | named : Made (.marker .named)
  | singleton : Made (.marker .singleton)
  | ofName {name : String} {marker : Marker} (h : Marker.ofName name = .ok marker) :
      Made (.marker marker)

theorem Made.tells {x : Mention} (h : x.Made) : x.Tells := by
  intro t ht
  cases h with
  | callSite site => cases ht
  | labeled h =>
    obtain ⟨rfl, hc⟩ := Source.labeled_eq_ok_iff.mp h
    cases ht
    exact hc
  | named =>
    have h : Marker.ofName "Named" = .ok .named := rfl
    cases ht
    exact (Marker.ofName_eq_ok_iff.mp h).2
  | singleton =>
    have h : Marker.ofName "Singleton" = .ok .singleton := rfl
    cases ht
    exact (Marker.ofName_eq_ok_iff.mp h).2
  | ofName h =>
    obtain ⟨rfl, hc⟩ := Marker.ofName_eq_ok_iff.mp h
    cases ht
    exact hc

end Mention

def Statement.mentions : Statement T → List Mention
  | .bind b => b.mentions
  | .complain c => [.source c.source]

def Step.mentions : Step T → List Mention
  | .bind _ source calls => .source source :: calls.flatMap Call.mentions
  | .complain site _ => [.source (.callSite site)]
  | .listStatements | .listFaults => []

def Transcript.mentions (t : Transcript T) : List Mention :=
  t.statements.flatMap Statement.mentions ++ t.faults.flatMap Fault.mentions

def Registry.mentions (r : Registry T) : List Mention :=
  r.bindings.flatMap Binding.mentions ++ r.faults.flatMap Fault.mentions

theorem flatMap_filterMap_subset {α β γ : Type} {f : α → Option β} {g : α → List γ}
    {h : β → List γ} (hf : ∀ a b, f a = some b → h b ⊆ g a) (as : List α) :
    (as.filterMap f).flatMap h ⊆ as.flatMap g := by
  intro x hx
  obtain ⟨b, hb, hx⟩ := List.mem_flatMap.mp hx
  obtain ⟨a, ha, hb⟩ := List.mem_filterMap.mp hb
  exact List.mem_flatMap.mpr ⟨a, ha, hf a b hb hx⟩

namespace Statement

theorem mentions_of_binding? (st : Statement T) (b : Binding T) (h : st.binding? = some b) :
    b.mentions ⊆ st.mentions := by
  cases st with
  | bind b => cases h; exact List.Subset.refl _
  | complain c => cases h

theorem mentions_of_reported? (st : Statement T) (f : Fault T) (h : st.reported? = some f) :
    f.mentions ⊆ st.mentions := by
  cases st with
  | bind b => cases h
  | complain c => cases h; exact List.Subset.refl _

end Statement

namespace Step

theorem mentions_of_statement? (s : Step T) (st : Statement T) (h : s.statement? = some st) :
    st.mentions ⊆ s.mentions := by
  cases s with
  | bind t source calls => cases h; exact Binding.mentions_build _ calls
  | complain site message => cases h; exact List.Subset.refl _
  | listStatements | listFaults => cases h

theorem mentions_faults (s : Step T) : s.faults.flatMap Fault.mentions ⊆ s.mentions := by
  cases s with
  | bind t source calls => exact Binding.mentions_faults_build _ calls
  | complain _ _ | listStatements | listFaults => exact List.nil_subset _

end Step

theorem mentions_record (steps : List (Step T)) :
    (record steps).mentions ⊆ steps.flatMap Step.mentions := by
  rw [record_eq, Transcript.mentions, List.append_subset]
  constructor
  · exact flatMap_filterMap_subset Step.mentions_of_statement? steps
  · rw [List.flatMap_assoc]
    intro x hx
    obtain ⟨s, hs, hx⟩ := List.mem_flatMap.mp hx
    exact List.mem_flatMap.mpr ⟨s, hs, s.mentions_faults hx⟩

theorem exists_replay_append (steps : List (Step T)) (r : Registry T) :
    ∃ told : Registry T, replay (record steps).statements r =
        ⟨r.bindings ++ told.bindings, r.faults ++ told.faults⟩ ∧
      told.mentions ⊆ (record steps).mentions := by
  refine ⟨⟨(record steps).bindings, (record steps).statements.filterMap Statement.reported?⟩,
    replay_eq_append steps r, ?_⟩
  rw [Registry.mentions, List.append_subset]
  have hbindings : (record steps).bindings.flatMap Binding.mentions ⊆
      (record steps).statements.flatMap Statement.mentions :=
    flatMap_filterMap_subset Statement.mentions_of_binding? _
  have hfaults := flatMap_filterMap_subset Statement.mentions_of_reported? (record steps).statements
  exact ⟨List.subset_append_of_subset_left _ hbindings,
    List.subset_append_of_subset_left _ hfaults⟩

/-- A label or a name that is nothing but white space is refused, and any other stays as it is. In a
pass that only uses what was accepted no label and no marker's name is blank, wherever it turns
up: in a statement, in a fault, or in what a replay of the statements adds to a registry. -/
theorem tells_record :
    (∀ text : String,
      (Source.labeled text = .error ⟨"source"⟩ ↔ ∀ c ∈ text.toList, Text.isWhite c = true) ∧
      (Source.labeled text = .ok (.label text) ↔ ∃ c ∈ text.toList, Text.isWhite c = false)) ∧
    (∀ name : String,
      (Marker.ofName name = .error ⟨"annotation_type"⟩ ↔
        ∀ c ∈ name.toList, Text.isWhite c = true) ∧
      (Marker.ofName name = .ok ⟨name⟩ ↔ ∃ c ∈ name.toList, Text.isWhite c = false)) ∧
    ∀ steps : List (Step T), (∀ x ∈ steps.flatMap Step.mentions, x.Made) →
      (∀ x ∈ (record steps).mentions, x.Tells) ∧
      ∀ r : Registry T, ∃ told : Registry T,
        replay (record steps).statements r =
          ⟨r.bindings ++ told.bindings, r.faults ++ told.faults⟩ ∧
        ∀ x ∈ told.mentions, x.Tells := by
  refine ⟨fun text => ⟨?_, ?_⟩, fun name => ⟨?_, ?_⟩, fun steps hmade => ?_⟩
  · simp [Source.labeled_eq_error_iff]
  · simp [Source.labeled_eq_ok_iff]
  · simp [Marker.ofName_eq_error_iff]
  · simp [Marker.ofName_eq_ok_iff]
  · have hrecord : ∀ x ∈ (record steps).mentions, x.Tells := fun x hx =>
      (hmade x (mentions_record steps hx)).tells
    refine ⟨hrecord, fun r => ?_⟩
    obtain ⟨told, hreplay, hsub⟩ := exists_replay_append steps r
    exact ⟨told, hreplay, fun x hx => hrecord x (hsub hx)⟩

/-- Values, messages and files may be blank, and there may be white space around a label or a name.
The second scoping is a fault. -/
def padded : List (Step Sample) :=
  [.bind .service (.label " app\t")
      [⟨.qualify (.named ""), ⟨"main", 1, 1⟩⟩,
        ⟨.toKey ((Key.ofType .implementation).qualify (.plain ⟨"Blue "⟩)), ⟨" ", 2, 1⟩⟩,
        ⟨.inMarker .singleton, ⟨"main", 3, 1⟩⟩, ⟨.inMarker ⟨"Blue "⟩, ⟨"main", 4, 1⟩⟩],
    .complain ⟨"", 5, 1⟩ " "]

theorem tells_record_padded :
    let old : Registry Sample := { bindings := [.ofKey (.label " ") (.ofType .service)] }
    (∀ x ∈ padded.flatMap Step.mentions, x.Made) ∧
    (record padded).mentions.filterMap Mention.text? =
      [" app\t", "Named", "Blue ", "Singleton", "Named"] ∧
    (∀ x ∈ (record padded).mentions, x.Tells) ∧
    (replay (record padded).statements old).mentions.filterMap Mention.text? =
      [" ", " app\t", "Named", "Blue ", "Singleton"] ∧
    ∃ told : Registry Sample,
      replay (record padded).statements old =
        ⟨old.bindings ++ told.bindings, old.faults ++ told.faults⟩ ∧
      ∀ x ∈ told.mentions, x.Tells := by
  intro old
  have hlabel : Source.labeled " app\t" = .ok (.label " app\t") := rfl
  have hblue : Marker.ofName "Blue " = .ok ⟨"Blue "⟩ := rfl
  have hmade : ∀ x ∈ padded.flatMap Step.mentions, x.Made := by
    have hmentions : padded.flatMap Step.mentions =
        [.source (.label " app\t"), .source (.callSite ⟨"main", 1, 1⟩), .marker .named,
          .source (.callSite ⟨" ", 2, 1⟩), .marker ⟨"Blue "⟩,
          .source (.callSite ⟨"main", 3, 1⟩), .marker .singleton,
          .source (.callSite ⟨"main", 4, 1⟩), .marker ⟨"Blue "⟩,
          .source (.callSite ⟨"", 5, 1⟩)] := rfl
    rw [hmentions]
    simp only [List.forall_mem_cons]
    exact ⟨.labeled hlabel, .callSite _, .named, .callSite _, .ofName hblue, .callSite _,
      .singleton, .callSite _, .ofName hblue, .callSite _, nofun⟩
  obtain ⟨htells, hreplay⟩ := tells_record.2.2 padded hmade
  exact ⟨hmade, rfl, htells, rfl, hreplay old⟩

end Wiring
