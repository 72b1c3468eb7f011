import TextBoundary.Proofs.Grapheme.Grammar

/-!
# Coherent tables

Whether the tables of an evaluator fit together is a question about every codepoint.  It
is answered by comparing the bounds of their entries.  The bounds of an entry ascend, so
two entries are compared in one sweep over both.
-/

namespace TextBoundary

namespace Bounds

/-- Bounds in the order of their lower ends. -/
def Ascending (l : List Bounds) : Prop :=
  l.IsChain fun a b => a.min ≤ b.min

instance (l : List Bounds) : Decidable (Ascending l) :=
  inferInstanceAs (Decidable (l.IsChain _))

/-- Whether two ascending lists have no number in common: what ends before the next
bounds of the first list can be left behind. -/
def apart : List Bounds → List Bounds → Bool
  | [], _ => true
  | a :: as, bs =>
      match bs.dropWhile fun b => b.max < a.min with
      | [] => true
      | b :: bs => a.max < b.min && apart as (b :: bs)

/-- The bounds of the first list that no bounds of the second are found to cover. -/
def uncovered : List Bounds → List Bounds → List Bounds
  | [], _ => []
  | a :: as, bs =>
      match bs.dropWhile fun b => b.max < a.min with
      | [] => a :: as
      | b :: bs =>
          if b.Covers a then uncovered as (b :: bs) else a :: uncovered as (b :: bs)

variable {as bs : List Bounds} {a b : Bounds} {n : Nat}

theorem Ascending.pairwise (h : Ascending as) : as.Pairwise fun a b => a.min ≤ b.min := by
  have : Trans (fun a b : Bounds => a.min ≤ b.min) (fun a b : Bounds => a.min ≤ b.min)
      (fun a b : Bounds => a.min ≤ b.min) := ⟨Nat.le_trans⟩
  exact List.isChain_iff_pairwise.mp h

/-- What is left behind lies below all that a sweep goes on with. -/
theorem mem_dropWhile_of_le (hb : b ∈ bs) (hle : a.min ≤ b.max) :
    b ∈ bs.dropWhile fun b => b.max < a.min := by
  rw [← List.takeWhile_append_dropWhile (p := fun b : Bounds => decide (b.max < a.min)) (l := bs)]
    at hb
  rcases List.mem_append.mp hb with hb | hb
  · have hlt := List.mem_takeWhile_imp hb
    simp only [decide_eq_true_eq] at hlt
    omega
  · exact hb

theorem not_mem_of_apart (has : as.Pairwise fun a b => a.min ≤ b.min)
    (hbs : bs.Pairwise fun a b => a.min ≤ b.min) (h : apart as bs = true) (ha : a ∈ as)
    (hb : b ∈ bs) (hn : n ∈ a) : n ∉ b := by
  intro hnb
  rw [mem_iff] at hn hnb
  induction as generalizing bs with
  | nil => simp at ha
  | cons a' as ih =>
      obtain ⟨hfirst, has⟩ := List.pairwise_cons.mp has
      have hle : a'.min ≤ a.min := by
        rcases List.mem_cons.mp ha with rfl | ha
        · exact Nat.le_refl _
        · exact hfirst a ha
      have hmem := mem_dropWhile_of_le (a := a') hb (by omega)
      have hrest := hbs.sublist (List.dropWhile_sublist fun b => decide (b.max < a'.min))
      rw [apart] at h
      split at h
      next heq => simp [heq] at hmem
      next b' rest heq =>
        rw [heq] at hmem hrest
        simp only [Bool.and_eq_true, decide_eq_true_eq] at h
        rcases List.mem_cons.mp ha with rfl | ha
        · have hlower : b'.min ≤ b.min := by
            rcases List.mem_cons.mp hmem with rfl | hmem
            · exact Nat.le_refl _
            · exact (List.pairwise_cons.mp hrest).1 b hmem
          omega
        · exact ih has hrest h.2 ha hmem

theorem mem_uncovered_or (bs : List Bounds) (ha : a ∈ as) :
    a ∈ uncovered as bs ∨ ∃ b ∈ bs, b.Covers a := by
  induction as generalizing bs with
  | nil => simp at ha
  | cons a' as ih =>
      rw [uncovered]
      split
      next => exact Or.inl ha
      next b rest heq =>
        have hsub : ∀ x ∈ b :: rest, x ∈ bs := by
          rw [← heq]
          exact fun x hx => (List.dropWhile_sublist _).mem hx
        have hrest : a ∈ as → a ∈ uncovered as (b :: rest) ∨ ∃ x ∈ bs, x.Covers a := by
          intro ha
          rcases ih (b :: rest) ha with h | ⟨x, hx, hcovers⟩
          · exact Or.inl h
          · exact Or.inr ⟨x, hsub x hx, hcovers⟩
        split
        next hcovers =>
          rcases List.mem_cons.mp ha with rfl | ha
          · exact Or.inr ⟨b, hsub b (by simp), hcovers⟩
          · exact hrest ha
        next =>
          rcases List.mem_cons.mp ha with rfl | ha
          · exact Or.inl (by simp)
          · exact (hrest ha).imp_left (List.mem_cons_of_mem a')

end Bounds

namespace Grapheme

open Unicode

/-- The entries of the grapheme properties. -/
def graphemeEntries (tables : Tables) : List PropertyEntry :=
  (Evaluator.sources tables).flatMap Classifier.Source.entries

/-- The bounds of two entries have no number in common. -/
def Apart (pe ge : PropertyEntry) : Prop :=
  Bounds.Ascending pe.ranges ∧ Bounds.Ascending ge.ranges ∧
    Bounds.apart pe.ranges ge.ranges = true

/-- An entry of codepoints that extend the one before them. -/
def Extends (ge : PropertyEntry) : Prop :=
  NamedProperty.ofName? ge.property = some Property.extend ∨
    NamedProperty.ofName? ge.property = some Property.zwj

instance (pe ge : PropertyEntry) : Decidable (Apart pe ge) :=
  inferInstanceAs (Decidable (_ ∧ _ ∧ _))

instance (ge : PropertyEntry) : Decidable (Extends ge) :=
  inferInstanceAs (Decidable (_ ∨ _))

/-- The bounds of an entry that no entry of a list is found to cover. -/
def uncovered (entries : List PropertyEntry) (pe : PropertyEntry) : List Bounds :=
  entries.foldl (fun rest ge => Bounds.uncovered rest ge.ranges) pe.ranges

/-- How the tables fit together, entry by entry. -/
structure CoherentTables (tables : Tables) : Prop where
  inner : ∀ pe ∈ tables.conjunctBreak.entries,
    (NamedProperty.ofName? pe.property).any ConjunctProperty.isInner = true →
      (∀ ge ∈ graphemeEntries tables, Extends ge ∨ Apart pe ge) ∧
        uncovered ((graphemeEntries tables).filter fun ge => Extends ge) pe = []
  consonant : ∀ pe ∈ tables.conjunctBreak.entries,
    NamedProperty.ofName? pe.property = some ConjunctProperty.consonant →
      ∀ ge ∈ graphemeEntries tables, Apart pe ge
  pictograph : ∀ pe ∈ graphemeEntries tables,
    NamedProperty.ofName? pe.property = some Property.extendedPictographic →
      ∀ ge ∈ graphemeEntries tables,
        NamedProperty.ofName? ge.property = some Property.extendedPictographic ∨ Apart pe ge

instance (tables : Tables) : Decidable (CoherentTables tables) :=
  decidable_of_iff (_ ∧ _ ∧ _) ⟨fun ⟨h₁, h₂, h₃⟩ => ⟨h₁, h₂, h₃⟩, fun ⟨h₁, h₂, h₃⟩ => ⟨h₁, h₂, h₃⟩⟩

variable {tables : Tables} {entries : List PropertyEntry} {pe ge : PropertyEntry} {n : Nat}

theorem Apart.not_holds (h : Apart pe ge) (hn : pe.Holds n) : ¬ge.Holds n := by
  obtain ⟨hpe, hge, hapart⟩ := h
  obtain ⟨a, ha, hna⟩ := hn
  rintro ⟨b, hb, hnb⟩
  exact Bounds.not_mem_of_apart hpe.pairwise hge.pairwise hapart ha hb hna hnb

/-- What an entry holds is found in the list, or within bounds that are not covered. -/
theorem exists_holds_of_uncovered_eq_nil (h : uncovered entries pe = []) (hn : pe.Holds n) :
    ∃ ge ∈ entries, ge.Holds n := by
  obtain ⟨b, hb, hnb⟩ := hn
  rw [uncovered] at h
  generalize pe.ranges = rest at h hb
  induction entries generalizing rest with
  | nil =>
      obtain rfl : rest = [] := h
      simp at hb
  | cons ge entries ih =>
      rcases Bounds.mem_uncovered_or ge.ranges hb with hmem | ⟨r, hr, hmin, hmax⟩
      · obtain ⟨ge', hge', hholds⟩ := ih _ h hmem
        exact ⟨ge', List.mem_cons_of_mem ge hge', hholds⟩
      · exact ⟨ge, by simp, r, hr, Nat.le_trans hmin hnb.1, Nat.le_trans hnb.2 hmax⟩

end Grapheme

namespace Classifier

open Unicode

variable {α : Type} [DecidableEq α] [NamedProperty α] {sources : List Source}
  {c : Classifier α} {p : Codepoint}

theorem exists_holds_of_classifyCodepoint (h : ofSources sources = .ok c) {property : α}
    (hp : c.classifyCodepoint p = some property) :
    ∃ pe ∈ sources.flatMap Source.entries,
      NamedProperty.ofName? pe.property = some property ∧ pe.Holds p.value := by
  rw [classifyCodepoint, classify_ofSources h] at hp
  obtain ⟨pe, hfind, hname⟩ := Option.bind_eq_some_iff.mp hp
  exact ⟨pe, List.mem_of_find?_eq_some hfind, hname, by simpa using List.find?_some hfind⟩

/-- When some entry holds a codepoint, its property is named by one of those that do. -/
theorem exists_classifyCodepoint_eq (h : ofSources sources = .ok c) {pe : PropertyEntry}
    (hpe : pe ∈ sources.flatMap Source.entries) (hholds : pe.Holds p.value) :
    ∃ ge ∈ sources.flatMap Source.entries, ge.Holds p.value ∧
      c.classifyCodepoint p = NamedProperty.ofName? ge.property := by
  have hsome : ((sources.flatMap Source.entries).find? fun pe => pe.Holds p.value).isSome := by
    rw [List.find?_isSome]
    exact ⟨pe, hpe, by simpa using hholds⟩
  obtain ⟨ge, hge⟩ := Option.isSome_iff_exists.mp hsome
  refine ⟨ge, List.mem_of_find?_eq_some hge, by simpa using List.find?_some hge, ?_⟩
  rw [classifyCodepoint, classify_ofSources h, hge, Option.bind_some]

end Classifier

namespace Grapheme
namespace Evaluator

open Unicode

variable {tables : Tables} {limit : RunLimit} {e : Evaluator} {c : Codepoint}

theorem exists_holds_of_conjunctOf (he : Compiled tables limit e) {part : ConjunctProperty}
    (hc : e.conjunctOf c = some part) :
    ∃ pe ∈ tables.conjunctBreak.entries,
      NamedProperty.ofName? pe.property = some part ∧ pe.Holds c.value := by
  have hholds := Classifier.exists_holds_of_classifyCodepoint he.conjuncts hc
  simpa [Classifier.Source.entries] using hholds

theorem not_isLoneSurrogate_of_conjunctOf (he : Compiled tables limit e)
    {part : ConjunctProperty} (hc : e.conjunctOf c = some part) : ¬c.IsLoneSurrogate := by
  intro hlone
  rw [conjunctOf, Classifier.classifyCodepoint_of_lone he.conjuncts hlone] at hc
  contradiction

/-- An evaluator of tables that fit together is coherent. -/
theorem coherent_of_coherentTables (htables : CoherentTables tables)
    (he : Compiled tables limit e) : e.Coherent where
  attaches_of_isInner c hc := by
    obtain ⟨part, hpart, hinner⟩ := Option.any_eq_true _ _ |>.mp hc
    have hlone := not_isLoneSurrogate_of_conjunctOf he hpart
    obtain ⟨pe, hpe, hname, hholds⟩ := exists_holds_of_conjunctOf he hpart
    obtain ⟨hothers, hcovered⟩ := htables.inner pe hpe (by rw [hname]; exact hinner)
    obtain ⟨ge, hge, hgeHolds⟩ := exists_holds_of_uncovered_eq_nil hcovered hholds
    obtain ⟨ge', hge', hge'Holds, hclass⟩ := Classifier.exists_classifyCodepoint_eq
      he.classifier (List.mem_of_mem_filter hge) hgeHolds
    rw [propertyOf, if_neg hlone, hclass]
    rcases hothers ge' hge' with hextends | hapart
    · exact hextends
    · exact absurd hge'Holds (hapart.not_holds hholds)
  property_of_consonant c hc := by
    have hlone := not_isLoneSurrogate_of_conjunctOf he hc
    obtain ⟨pe, hpe, hname, hholds⟩ := exists_holds_of_conjunctOf he hc
    rw [propertyOf, if_neg hlone]
    cases hclass : e.classifier.classifyCodepoint c with
    | none => rfl
    | some property =>
        obtain ⟨ge, hge, -, hgeHolds⟩ :=
          Classifier.exists_holds_of_classifyCodepoint he.classifier hclass
        have hapart := htables.consonant pe hpe hname ge hge
        exact absurd hgeHolds (hapart.not_holds hholds)
  property_of_pictograph c hc := by
    have hlone := Classifier.not_isLoneSurrogate_of_matcher? he.classifier he.pictographic hc
    obtain ⟨pe, hpe, hname, haccepts⟩ :=
      Classifier.acceptsCodepoint_of_matcher? he.classifier he.pictographic
    have hholds := (haccepts c).mp hc
    obtain ⟨ge, hge, hgeHolds, hclass⟩ :=
      Classifier.exists_classifyCodepoint_eq he.classifier hpe hholds
    rw [propertyOf, if_neg hlone, hclass]
    rcases htables.pictograph pe hpe hname ge hge with hsame | hapart
    · exact hsame
    · exact absurd hgeHolds (hapart.not_holds hholds)

end Evaluator

theorem coherentTables_bundled : CoherentTables .bundled := by
  decide +kernel

end Grapheme
end TextBoundary
