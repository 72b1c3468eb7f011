import TextBoundary.Grapheme.Evaluator
import TextBoundary.Proofs.Classification
import TextBoundary.Word.Evaluator

/-!
# The bundled tables compile

A table compiles when every property that it names is known and all its bounds
are scalar ranges.  The bundled tables are checked entry by entry, so evaluators
for them exist.
-/

namespace TextBoundary

/-- Bounds that describe a scalar range. -/
structure Bounds.IsScalar (b : Bounds) : Prop where
  ordered : b.min ≤ b.max
  bounded : b.max ≤ 0x10FFFF
  avoids_surrogates : b.max < 0xD800 ∨ 0xDFFF < b.min

instance (b : Bounds) : Decidable b.IsScalar :=
  decidable_of_iff (b.min ≤ b.max ∧ b.max ≤ 0x10FFFF ∧ (b.max < 0xD800 ∨ 0xDFFF < b.min))
    ⟨fun ⟨h₁, h₂, h₃⟩ => ⟨h₁, h₂, h₃⟩, fun ⟨h₁, h₂, h₃⟩ => ⟨h₁, h₂, h₃⟩⟩

theorem Bounds.IsScalar.exists_ofBounds {b : Bounds} (h : b.IsScalar) :
    ∃ r, ScalarRange.ofBounds b = .ok r := by
  obtain ⟨hle, hmax, hsurrogates⟩ := h
  have hordered : ¬b.max < b.min := by omega
  have hbounded : ¬0x10FFFF < b.max := by omega
  have havoids : ¬(b.min ≤ 0xDFFF ∧ 0xD800 ≤ b.max) := by omega
  rw [ScalarRange.ofBounds, dif_neg hordered, dif_neg hbounded, dif_neg havoids]
  exact ⟨_, rfl⟩

namespace Classifier

open Unicode

variable (α : Type) [NamedProperty α]

/-- An entry of a table that properties of a type can be compiled from. -/
structure Compilable (pe : PropertyEntry) : Prop where
  named : (NamedProperty.ofName? pe.property : Option α).isSome
  scalar : ∀ b ∈ pe.ranges, b.IsScalar

instance (pe : PropertyEntry) : Decidable (Compilable α pe) :=
  decidable_of_iff ((NamedProperty.ofName? pe.property : Option α).isSome ∧
      ∀ b ∈ pe.ranges, b.IsScalar)
    ⟨fun ⟨h₁, h₂⟩ => ⟨h₁, h₂⟩, fun ⟨h₁, h₂⟩ => ⟨h₁, h₂⟩⟩

/-- Every entry of a source can be compiled, and the entry that it names is
there. -/
def Source.Compilable : Source → Prop
  | .table t => ∀ pe ∈ t.entries, Classifier.Compilable α pe
  | .entry t property => ∃ pe ∈ t.find? property, Classifier.Compilable α pe

instance : (source : Source) → Decidable (source.Compilable α)
  | .table t => inferInstanceAs (Decidable (∀ pe ∈ t.entries, Classifier.Compilable α pe))
  | .entry t property =>
      inferInstanceAs (Decidable (∃ pe ∈ t.find? property, Classifier.Compilable α pe))

variable {α}

theorem Compilable.exists_compileEntry {pe : PropertyEntry} (h : Compilable α pe)
    (table : PropertyTable) : ∃ e : Entry α, table.compileEntry pe = .ok e := by
  obtain ⟨property, hproperty⟩ := Option.isSome_iff_exists.mp h.named
  obtain ⟨ranges, hranges⟩ := exists_mapM_eq_ok fun b hb => (h.scalar b hb).exists_ofBounds
  refine ⟨⟨property, .ofRanges ranges⟩, ?_⟩
  simp only [PropertyTable.compileEntry, hproperty, Matcher.ofBounds,
    ScalarRange.ofBoundsList, hranges, Except.map]

theorem Source.Compilable.exists_compile {source : Source} (h : source.Compilable α) :
    ∃ entries : List (Entry α), source.compile = .ok entries := by
  cases source with
  | table t => exact exists_mapM_eq_ok fun pe hpe => (h pe hpe).exists_compileEntry t
  | entry t property =>
      obtain ⟨pe, hfind, hpe⟩ := h
      obtain ⟨e, he⟩ := hpe.exists_compileEntry t
      refine ⟨[e], ?_⟩
      simp only [Source.compile, Option.mem_def.mp hfind, he, Except.map]

theorem exists_ofSources [DecidableEq α] {sources : List Source}
    (h : ∀ source ∈ sources, source.Compilable α) :
    ∃ c : Classifier α, ofSources sources = .ok c := by
  obtain ⟨parts, hparts⟩ := exists_mapM_eq_ok fun source hs => (h source hs).exists_compile
  exact ⟨ofEntries parts.flatten, by simp only [ofSources, hparts, Except.map]⟩

/-- A property that the sources name has a matcher. -/
theorem exists_matcher? [DecidableEq α] {sources : List Source} {c : Classifier α}
    (h : ofSources sources = .ok c) {pe : PropertyEntry}
    (hpe : pe ∈ sources.flatMap Source.entries) {property : α}
    (hname : NamedProperty.ofName? pe.property = some property) :
    ∃ m, c.matcher? property = some m := by
  obtain ⟨hentries, -⟩ := exists_entries_of_ofSources h
  obtain ⟨e, he, hstands⟩ := exists_of_forall₂_of_mem hentries.flip hpe
  have hproperty : e.property = property := by
    have hnamed := hstands.named
    rw [hname] at hnamed
    exact (Option.some.inj hnamed).symm
  have hsome : (c.entries.find? fun e => e.property = property).isSome := by
    rw [List.find?_isSome]
    exact ⟨e, he, by simpa using hproperty⟩
  obtain ⟨found, hfound⟩ := Option.isSome_iff_exists.mp hsome
  exact ⟨found.matcher, by rw [matcher?, hfound, Option.map_some]⟩

end Classifier

namespace Word
namespace Evaluator

variable {tables : Unicode.Tables} {limit : RunLimit}

/-- The sources of the word properties. -/
def sources (tables : Unicode.Tables) : List Classifier.Source :=
  [.table tables.wordBreak, .table tables.emoji]

/-- The parts of a compiled evaluator. -/
structure Compiled (tables : Unicode.Tables) (limit : RunLimit) (e : Evaluator) : Prop where
  classifier : Classifier.ofSources (sources tables) = .ok e.classifier
  pictographic : e.classifier.matcher? .extendedPictographic = some e.pictographic
  limit_eq : e.limit = limit

theorem compiled_of_ofTables {e : Evaluator} (h : ofTables tables limit = .ok e) :
    Compiled tables limit e := by
  rw [ofTables] at h
  cases hc : Classifier.ofSources (α := Property) (sources tables) with
  | error cause =>
      rw [sources] at hc
      simp [hc, bind, Except.bind] at h
  | ok c =>
      have hsources := hc
      rw [sources] at hc
      cases hm : c.matcher? Property.extendedPictographic with
      | none => simp [hc, hm, bind, Except.bind] at h
      | some m =>
          obtain rfl : (⟨c, m, limit⟩ : Evaluator) = e := by
            simpa [hc, hm, bind, Except.bind] using h
          exact ⟨hsources, hm, rfl⟩

/-- Tables that can be compiled and name Extended_Pictographic have an
evaluator. -/
theorem exists_ofTables
    (hsources : ∀ source ∈ sources tables, source.Compilable Property)
    (hpictographic : ∃ pe ∈ (sources tables).flatMap Classifier.Source.entries,
      NamedProperty.ofName? pe.property = some Property.extendedPictographic) :
    ∃ e, ofTables tables limit = .ok e := by
  obtain ⟨c, hc⟩ := Classifier.exists_ofSources hsources
  obtain ⟨pe, hpe, hname⟩ := hpictographic
  obtain ⟨m, hm⟩ := Classifier.exists_matcher? hc hpe hname
  rw [sources] at hc
  exact ⟨⟨c, m, limit⟩, by simp [ofTables, hc, hm, bind, Except.bind]⟩

theorem exists_ofTables_bundled (limit : RunLimit) :
    ∃ e, ofTables .bundled limit = .ok e := by
  apply exists_ofTables
  · decide +kernel
  · refine ⟨⟨"Extended_Pictographic", Unicode.Emoji.extendedPictographic⟩, ?_, ?_⟩
    · decide +kernel
    · decide +kernel

end Evaluator
end Word

namespace Grapheme
namespace Evaluator

variable {tables : Unicode.Tables} {limit : RunLimit}

/-- The sources of the grapheme properties. -/
def sources (tables : Unicode.Tables) : List Classifier.Source :=
  [.table tables.graphemeBreak, .entry tables.emoji Property.extendedPictographic.name]

/-- The parts of a compiled evaluator. -/
structure Compiled (tables : Unicode.Tables) (limit : RunLimit) (e : Evaluator) : Prop where
  classifier : Classifier.ofSources (sources tables) = .ok e.classifier
  conjuncts : Classifier.ofSources [.table tables.conjunctBreak] = .ok e.conjuncts
  pictographic : e.classifier.matcher? .extendedPictographic = some e.pictographic
  limit_eq : e.limit = limit

theorem compiled_of_ofTables {e : Evaluator} (h : ofTables tables limit = .ok e) :
    Compiled tables limit e := by
  rw [ofTables] at h
  cases hc : Classifier.ofSources (α := Property) (sources tables) with
  | error cause =>
      rw [sources] at hc
      simp [hc, bind, Except.bind] at h
  | ok c =>
      have hsources := hc
      rw [sources] at hc
      cases hconjuncts : Classifier.ofSources (α := ConjunctProperty)
          [.table tables.conjunctBreak] with
      | error cause => simp [hc, hconjuncts, bind, Except.bind] at h
      | ok conjuncts =>
          cases hm : c.matcher? Property.extendedPictographic with
          | none => simp [hc, hconjuncts, hm, bind, Except.bind] at h
          | some m =>
              obtain rfl : (⟨c, conjuncts, m, limit⟩ : Evaluator) = e := by
                simpa [hc, hconjuncts, hm, bind, Except.bind] using h
              exact ⟨hsources, hconjuncts, hm, rfl⟩

/-- Tables that can be compiled and name Extended_Pictographic have an
evaluator. -/
theorem exists_ofTables
    (hsources : ∀ source ∈ sources tables, source.Compilable Property)
    (hconjuncts : (Classifier.Source.table tables.conjunctBreak).Compilable ConjunctProperty)
    (hpictographic : ∃ pe ∈ (sources tables).flatMap Classifier.Source.entries,
      NamedProperty.ofName? pe.property = some Property.extendedPictographic) :
    ∃ e, ofTables tables limit = .ok e := by
  obtain ⟨c, hc⟩ := Classifier.exists_ofSources hsources
  have hsource : ∀ source ∈ [Classifier.Source.table tables.conjunctBreak],
      source.Compilable ConjunctProperty := by
    simpa using hconjuncts
  obtain ⟨conjuncts, hconjuncts⟩ := Classifier.exists_ofSources hsource
  obtain ⟨pe, hpe, hname⟩ := hpictographic
  obtain ⟨m, hm⟩ := Classifier.exists_matcher? hc hpe hname
  rw [sources] at hc
  exact ⟨⟨c, conjuncts, m, limit⟩, by simp [ofTables, hc, hconjuncts, hm, bind, Except.bind]⟩

theorem exists_ofTables_bundled (limit : RunLimit) :
    ∃ e, ofTables .bundled limit = .ok e := by
  apply exists_ofTables
  · decide +kernel
  · decide +kernel
  · refine ⟨⟨"Extended_Pictographic", Unicode.Emoji.extendedPictographic⟩, ?_, ?_⟩
    · decide +kernel
    · decide +kernel

end Evaluator
end Grapheme
end TextBoundary
