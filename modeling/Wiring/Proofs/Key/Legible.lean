import Mathlib.Data.Set.Function
import Wiring.Proofs.Key.Identity
import Wiring.Summary.Basic
set_option autoImplicit false

/-!
When keys can be told from their texts. Nothing is escaped in them, so names decide: those of
types must not have the words in them that come after a name (`Legible`), and those of markers
must not have the bracket that comes before a value (`Key.IsLegible`). Values are free.
-/

namespace Wiring

section
variable {α : Type} {c : α} {sep : List α}

/-- A separator that has its first letter only there does not overlap itself. -/
theorem eq_nil_or_prefix {d r s : List α} (hc : c ∉ sep)
    (h : c :: sep ++ r = d ++ (c :: sep ++ s)) : d = [] ∨ c :: sep <+: d := by
  cases d with
  | nil => exact .inl rfl
  | cons y d =>
    right
    obtain ⟨rfl, htail⟩ : c = y ∧ sep ++ r = d ++ (c :: sep ++ s) := by simpa using h
    rw [List.cons_prefix_cons]
    rcases List.append_eq_append_iff.mp htail with ⟨e, rfl, -⟩ | ⟨e, hsep, he⟩
    · exact ⟨rfl, List.prefix_append sep e⟩
    · cases e with
      | nil => exact ⟨rfl, hsep ▸ by simp⟩
      | cons z e =>
        obtain ⟨rfl, -⟩ : c = z ∧ sep ++ s = e ++ r := by simpa using he
        exact absurd (hsep ▸ by simp) hc

theorem eq_of_separated {a b r s : List α} (hc : c ∉ sep) (ha : ¬ c :: sep <:+: a)
    (hb : ¬ c :: sep <:+: b) (h : a ++ (c :: sep ++ r) = b ++ (c :: sep ++ s)) :
    a = b ∧ r = s := by
  rcases List.append_eq_append_iff.mp h with ⟨d, rfl, hd⟩ | ⟨d, rfl, hd⟩
  · rcases eq_nil_or_prefix hc hd with rfl | hpre
    · simpa using hd
    · exact absurd (hpre.isInfix.trans (List.suffix_append a d).isInfix) hb
  · rcases eq_nil_or_prefix hc hd with rfl | hpre
    · simpa [eq_comm] using hd
    · exact absurd (hpre.isInfix.trans (List.suffix_append b d).isInfix) ha

end

namespace Qualifier

theorem toList_text_plain (m : Marker) : (plain m).text.toList = '@' :: m.name.toList := by
  simp [text]

theorem toList_text_valued (m : Marker) (v : String) :
    (valued m v).text.toList =
      '@' :: (m.name.toList ++ ("(value=".toList ++ (v.toList ++ [')']))) := by
  simp [text]

theorem text_ne_none (q : Qualifier) : q.text ≠ "[none]" := by
  intro h
  have hhead : q.text.toList.head? = some '@' := by
    cases q <;> simp [toList_text_plain, toList_text_valued]
  rw [h] at hhead
  exact absurd hhead (by decide)

/-- A value begins after the first bracket with the words that say so, and goes on to the end. -/
theorem eq_of_text_eq {q r : Qualifier} (hq : ¬ "(value=".toList <:+: q.marker.name.toList)
    (hr : ¬ "(value=".toList <:+: r.marker.name.toList) (h : q.text = r.text) : q = r := by
  have hlist := congrArg String.toList h
  cases q with
  | plain m =>
    cases r with
    | plain n =>
      simp only [toList_text_plain, List.cons.injEq, true_and] at hlist
      exact alike_iff.mp (.plain (String.toList_inj.mp hlist))
    | valued n w =>
      simp only [toList_text_plain, toList_text_valued, List.cons.injEq, true_and] at hlist
      exact absurd (hlist ▸ List.infix_append' ..) hq
  | valued m v =>
    cases r with
    | plain n =>
      simp only [toList_text_plain, toList_text_valued, List.cons.injEq, true_and] at hlist
      exact absurd (hlist ▸ List.infix_append' ..) hr
    | valued n w =>
      simp only [toList_text_valued, List.cons.injEq, true_and] at hlist
      obtain ⟨hname, hvalue⟩ := eq_of_separated (by decide) hq hr hlist
      have hvalue := List.append_cancel_right hvalue
      exact alike_iff.mp (.valued (String.toList_inj.mp hname) (String.toList_inj.mp hvalue))

end Qualifier

variable {T : Type}

/-- Types that are told from their names, also where words about a qualifier follow. -/
structure Legible [Catalog T] (types : Set T) : Prop where
  distinct : types.InjOn Catalog.name
  unbroken : ∀ t ∈ types, ¬ ", annotation=".toList <:+: (Catalog.name t).toList

namespace Key

structure IsLegible [Catalog T] (types : Set T) (k : Key T) : Prop where
  type : k.type ∈ types
  name : k.Named Catalog.name
  marker : ∀ m ∈ k.marker?, '(' ∉ m.name.toList

theorem IsLegible.not_infix [Catalog T] {types : Set T} {k : Key T} (hk : k.IsLegible types)
    {q : Qualifier} (hq : k.qualifier = some q) :
    ¬ "(value=".toList <:+: q.marker.name.toList := by
  intro hinfix
  have hmem : '(' ∈ q.marker.name.toList := hinfix.subset (by decide)
  exact hk.marker q.marker (by simp [marker?, hq]) hmem

def qualifierText : Option Qualifier → String
  | none => "[none]"
  | some q => q.text

theorem toList_text (k : Key T) :
    k.text.toList = "Key[type=".toList ++ (k.literal.name.toList ++
      (", annotation=".toList ++ ((qualifierText k.qualifier).toList ++ "]".toList))) := by
  obtain ⟨l, q⟩ := k
  cases q <;> simp [text, qualifierText]

theorem qualifier_eq_of_qualifierText_eq [Catalog T] {types : Set T} {a b : Key T}
    (ha : a.IsLegible types) (hb : b.IsLegible types)
    (h : qualifierText a.qualifier = qualifierText b.qualifier) :
    a.qualifier = b.qualifier := by
  cases hqa : a.qualifier with
  | none =>
    cases hqb : b.qualifier with
    | none => rfl
    | some r =>
      rw [hqa, hqb] at h
      exact absurd h.symm r.text_ne_none
  | some q =>
    cases hqb : b.qualifier with
    | none =>
      rw [hqa, hqb] at h
      exact absurd h q.text_ne_none
    | some r =>
      rw [hqa, hqb] at h
      rw [Qualifier.eq_of_text_eq (ha.not_infix hqa) (hb.not_infix hqb) h]

theorem text_eq_iff [Catalog T] {types : Set T} (htypes : Legible types) {a b : Key T}
    (ha : a.IsLegible types) (hb : b.IsLegible types) :
    a.text = b.text ↔ a.identity = b.identity := by
  constructor
  · intro h
    have hlist := congrArg String.toList h
    rw [toList_text, toList_text, List.append_cancel_left_eq, ha.name, hb.name] at hlist
    obtain ⟨hname, hrest⟩ := eq_of_separated (by decide) (htypes.unbroken _ ha.type)
      (htypes.unbroken _ hb.type) hlist
    have htype : a.type = b.type :=
      htypes.distinct ha.type hb.type (String.toList_inj.mp hname)
    have hqualifier : a.qualifier = b.qualifier :=
      qualifier_eq_of_qualifierText_eq ha hb
        (String.toList_inj.mp (List.append_cancel_right hrest))
    exact Prod.ext htype hqualifier
  · exact fun h => Key.text_eq h ha.name hb.name

end Key

/-- Keys that can be told from their texts are the same key exactly when they have the same text,
so that bindings are told apart by the keys in their summaries as by their own. -/
theorem text_identifies [Catalog T] [DecidableEq T] [Hashable T] {types : Set T}
    (htypes : Legible types) :
    (∀ a b : Key T, a.IsLegible types → b.IsLegible types →
      (a.text = b.text ↔ (a == b) = true)) ∧
    ∀ bs : List (Binding T), (∀ b ∈ bs, b.key.IsLegible types) →
      (insertEach ∅ (bs.map (·.summary.key))).2 = (insertEach ∅ (bs.map Binding.key)).2 ∧
      (insertEach ∅ (bs.map (·.summary.key))).1.size =
        (insertEach ∅ (bs.map Binding.key)).1.size := by
  have htext : ∀ a b : Key T, a.IsLegible types → b.IsLegible types →
      (a.text = b.text ↔ (a == b) = true) := fun _ _ ha hb =>
    (Key.text_eq_iff htypes ha hb).trans Key.beq_iff.symm
  refine ⟨htext, fun bs hbs => ?_⟩
  have hfresh : (insertEach ∅ (bs.map (·.summary.key))).2 =
      (insertEach ∅ (bs.map Binding.key)).2 := by
    refine flags_insertEach_map fun x hx y hy => ?_
    rw [Bool.eq_iff_iff, beq_iff_eq]
    exact htext x.key y.key (hbs x hx) (hbs y hy)
  refine ⟨hfresh, ?_⟩
  rw [size_insertEach, size_insertEach, hfresh]
  simp

deriving instance Hashable for Sample

theorem text_identifies_sample :
    let key (v : String) : Key Sample := (Key.ofType .service).qualify (.valued ⟨"Port"⟩ v)
    let bs := [key "1)], annotation=@Port(value=2", key "2", key "2"].map
      (Binding.ofKey (.label "s"))
    Legible (Set.univ : Set Sample) ∧ (∀ b ∈ bs, b.key.IsLegible Set.univ) ∧
    (key "1)], annotation=@Port(value=2").text ≠ (key "2").text ∧
    (insertEach ∅ (bs.map (·.summary.key))).2 = [true, true, false] := by
  intro key bs
  have hkey (v : String) : (key v).IsLegible Set.univ :=
    ⟨trivial, rfl, by simp [key, Key.marker?, Key.qualify, Qualifier.marker]⟩
  have hnames (t u : Sample) : Catalog.name t = Catalog.name u → t = u := by
    cases t <;> cases u <;> decide
  have hunbroken (t : Sample) : ¬ ", annotation=".toList <:+: (Catalog.name t).toList := by
    cases t <;> decide
  have htypes : Legible (Set.univ : Set Sample) :=
    ⟨fun t _ u _ => hnames t u, fun t _ => hunbroken t⟩
  have hbs : ∀ b ∈ bs, b.key.IsLegible Set.univ := by
    simp [bs, Binding.ofKey, hkey]
  obtain ⟨htext, hkept⟩ := text_identifies htypes
  refine ⟨htypes, hbs, fun h => absurd ((htext _ _ (hkey _) (hkey _)).mp h) (by decide), ?_⟩
  rw [(hkept bs hbs).1, flags_insertEach_empty]
  decide

/-- A bracket in a marker's name makes it look like another marker with a value. -/
example : ((Key.ofType Sample.service).qualify (.plain ⟨"Named(value=x)"⟩)).text =
    ((Key.ofType Sample.service).qualify (.named "x")).text := by decide

end Wiring
