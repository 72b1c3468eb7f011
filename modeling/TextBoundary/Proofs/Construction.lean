import TextBoundary.Proofs.Checks
import TextBoundary.Proofs.Compilation
import TextBoundary.Proofs.RunLimit
import TextBoundary.Segmenter

/-!
# Which tables compile

`Tables.checks` lists what a set of tables has to satisfy, in the order in which a segmenter
looks at it: every entry of the tables for words, then of those for clusters, then of the
character classes, an entry by its name first and by its ranges after that, and a range by
the order of its ends, their size and the surrogates between them.  A segmenter of the
tables exists if all checks hold, and otherwise the error is that of the first that does
not.

The emoji table is read twice, for words and for clusters.  The second time no error can
come from its ranges, which passed when they were read for words, so the only check that is
made anew is whether the table names the pictographs at all.
-/

namespace TextBoundary

open Unicode

/-! ## The checks -/

/-- What bounds have to satisfy to be those of a scalar range. -/
def Bounds.checks (b : Bounds) : List (Check RangeError) :=
  [ ⟨b.min ≤ b.max, .inverted b⟩,
    ⟨b.max ≤ 0x10FFFF, .outOfRange b⟩,
    ⟨b.max < 0xD800 ∨ 0xDFFF < b.min, .surrogate b⟩ ]

/-- The names of the properties of a type. -/
def NamedProperty.names (α : Type) [NamedProperty α] : List String :=
  (NamedProperty.values : List α).map NamedProperty.name

namespace Unicode

namespace PropertyTable

/-- What the ranges of an entry have to satisfy, one range after the other. -/
def rangeChecks (table : PropertyTable) (pe : PropertyEntry) : List (Check TableError) :=
  (pe.ranges.flatMap Bounds.checks).map
    (Check.mapError (.inProperty table.name pe.property))

/-- What an entry has to satisfy that is compiled to a property of a type. -/
def entryChecks (α : Type) [NamedProperty α] (table : PropertyTable) (pe : PropertyEntry) :
    List (Check TableError) :=
  ⟨pe.property ∈ NamedProperty.names α, .unknownProperty table.name pe.property⟩ ::
    table.rangeChecks pe

/-- What a table has to satisfy that is compiled to properties of a type. -/
def checks (α : Type) [NamedProperty α] (table : PropertyTable) : List (Check TableError) :=
  table.entries.flatMap (table.entryChecks α)

/-- What a table has to satisfy whose entries may have any names. -/
def classChecks (table : PropertyTable) : List (Check TableError) :=
  table.entries.flatMap table.rangeChecks

end PropertyTable

namespace Tables

/-- Whether the pictographs are among some names.  If not, the emoji table is to blame. -/
def pictographCheck (tables : Tables) (names : List String) : Check TableError where
  holds := "Extended_Pictographic" ∈ names
  error := .unknownProperty tables.emoji.name "Extended_Pictographic"

/-- What is checked for words. -/
def wordChecks (tables : Tables) : List (Check TableError) :=
  tables.wordBreak.checks Word.Property ++ tables.emoji.checks Word.Property ++
    [tables.pictographCheck (tables.wordBreak.propertyNames ++ tables.emoji.propertyNames)]

/-- What is checked for clusters. -/
def graphemeChecks (tables : Tables) : List (Check TableError) :=
  tables.graphemeBreak.checks Grapheme.Property ++
    [tables.pictographCheck tables.emoji.propertyNames] ++
    tables.conjunctBreak.checks Grapheme.ConjunctProperty

/-- Everything that is checked, in order. -/
def checks (tables : Tables) : List (Check TableError) :=
  tables.wordChecks ++ tables.graphemeChecks ++ tables.characterClass.classChecks

end Tables
end Unicode

open Check

/-! ## Ranges and entries -/

theorem ScalarRange.failure?_ofBounds (b : Bounds) :
    failure? (ScalarRange.ofBounds b) = firstFailure? b.checks := by
  simp only [Bounds.checks, firstFailure?_cons, firstFailure?_nil, decide_eq_true_eq]
  unfold ScalarRange.ofBounds
  split_ifs <;> first | rfl | omega

theorem ScalarRange.failure?_ofBoundsList (l : List Bounds) :
    failure? (ScalarRange.ofBoundsList l) = firstFailure? (l.flatMap Bounds.checks) := by
  simp only [ScalarRange.ofBoundsList, failure?_mapM, firstFailure?_flatMap, failure?_ofBounds]

namespace NamedProperty

variable {α : Type} [NamedProperty α] {s : String} {p : α}

theorem ofName?_eq_none_iff : (ofName? s : Option α) = none ↔ s ∉ names α := by
  simp only [ofName?, names, List.find?_eq_none, List.mem_map, beq_iff_eq, not_exists, not_and]

theorem name_of_ofName? (h : ofName? s = some p) : name p = s := by
  simpa using List.find?_some h

/-- A property that its name stands for is named in a list of entries if one has its name. -/
theorem exists_ofName?_iff (entries : List PropertyEntry) (hp : ofName? (name p) = some p) :
    (∃ pe ∈ entries, ofName? pe.property = some p) ↔
      name p ∈ entries.map PropertyEntry.property := by
  rw [List.mem_map]
  constructor
  · rintro ⟨pe, hpe, hname⟩
    exact ⟨pe, hpe, (name_of_ofName? hname).symm⟩
  · rintro ⟨pe, hpe, hname⟩
    exact ⟨pe, hpe, by rw [hname, hp]⟩

end NamedProperty

namespace Unicode.PropertyTable

variable {α : Type} [NamedProperty α]

theorem failure?_compileEntry (table : PropertyTable) (pe : PropertyEntry) :
    failure? (table.compileEntry (α := α) pe) = firstFailure? (table.entryChecks α pe) := by
  rw [compileEntry, entryChecks]
  cases hname : (NamedProperty.ofName? pe.property : Option α) with
  | none =>
      have hnot := NamedProperty.ofName?_eq_none_iff.mp hname
      rw [firstFailure?_cons_of_neg (decide_eq_false hnot)]
      rfl
  | some property =>
      have hmem : pe.property ∈ NamedProperty.names α := by
        by_contra hnot
        rw [NamedProperty.ofName?_eq_none_iff.mpr hnot] at hname
        contradiction
      have hranges : failure? (Matcher.ofBounds pe.ranges) =
          firstFailure? (pe.ranges.flatMap Bounds.checks) := by
        rw [Matcher.ofBounds, failure?_map, ScalarRange.failure?_ofBoundsList]
      rw [firstFailure?_cons_of_pos (decide_eq_true hmem), rangeChecks,
        firstFailure?_map_mapError, ← hranges]
      cases Matcher.ofBounds pe.ranges <;> rfl

theorem failure?_entryRanges (table : PropertyTable) (pe : PropertyEntry) :
    failure? (table.entryRanges pe) = firstFailure? (table.rangeChecks pe) := by
  rw [entryRanges, failure?_mapError, ScalarRange.failure?_ofBoundsList, rangeChecks,
    firstFailure?_map_mapError]

theorem failure?_wordCharacters (table : PropertyTable) :
    failure? table.wordCharacters = firstFailure? table.classChecks := by
  rw [wordCharacters, failure?_bind (o := none) fun _ _ => rfl, Option.or_none, failure?_mapM,
    classChecks, firstFailure?_flatMap]
  simp only [failure?_entryRanges]

end Unicode.PropertyTable

/-! ## Sources -/

namespace Classifier

variable {α : Type} [NamedProperty α]

theorem failure?_ofSources [DecidableEq α] (sources : List Source) :
    failure? (ofSources (α := α) sources) =
      sources.findSome? fun source => failure? (source.compile (α := α)) := by
  rw [ofSources, failure?_map, failure?_mapM]

theorem Source.failure?_compile_table (table : PropertyTable) :
    failure? (Source.compile (α := α) (.table table)) = firstFailure? (table.checks α) := by
  rw [Source.compile, failure?_mapM, PropertyTable.checks, firstFailure?_flatMap]
  simp only [PropertyTable.failure?_compileEntry]

/-- An entry whose ranges are in order compiles if it is there. -/
theorem Source.failure?_compile_entry {table : PropertyTable} {name : String}
    (hname : name ∈ NamedProperty.names α) (hranges : firstFailure? table.classChecks = none) :
    failure? (Source.compile (α := α) (.entry table name)) =
      firstFailure? [⟨name ∈ table.propertyNames, .unknownProperty table.name name⟩] := by
  rw [Source.compile]
  cases hfind : table.find? name with
  | none =>
      have hnot : name ∉ table.propertyNames := by
        simpa [PropertyTable.find?, PropertyTable.propertyNames] using hfind
      rw [firstFailure?_cons_of_neg (decide_eq_false hnot)]
      rfl
  | some pe =>
      have hpe := List.mem_of_find?_eq_some hfind
      have hproperty : pe.property = name := by simpa using List.find?_some hfind
      have hmem : name ∈ table.propertyNames := by
        rw [← hproperty]
        exact List.mem_map_of_mem hpe
      have hentry : firstFailure? (table.entryChecks α pe) = none := by
        rw [firstFailure?_eq_none_iff] at hranges ⊢
        intro check hcheck
        rcases List.mem_cons.mp hcheck with rfl | hcheck
        · simpa [hproperty] using hname
        · exact hranges check (List.mem_flatMap.mpr ⟨pe, hpe, hcheck⟩)
      rw [firstFailure?_cons_of_pos (decide_eq_true hmem), firstFailure?_nil, failure?_map,
        PropertyTable.failure?_compileEntry, hentry]

/-- A property has a matcher if the sources name it. -/
theorem failure?_matcher? {β : Type} [DecidableEq α] {sources : List Source} {c : Classifier α}
    (h : ofSources sources = .ok c) {property : α}
    (hproperty : NamedProperty.ofName? (NamedProperty.name property) = some property)
    (error : TableError) (f : Matcher → β) :
    failure? (match c.matcher? property with
      | none => .error error
      | some m => .ok (f m)) =
        firstFailure? [⟨NamedProperty.name property ∈
          (sources.flatMap Source.entries).map PropertyEntry.property, error⟩] := by
  have hnamed := NamedProperty.exists_ofName?_iff (sources.flatMap Source.entries) hproperty
  cases hm : c.matcher? property with
  | none =>
      have hnot : NamedProperty.name property ∉
          (sources.flatMap Source.entries).map PropertyEntry.property := by
        rw [← hnamed]
        rintro ⟨pe, hpe, hname⟩
        obtain ⟨m, hsome⟩ := exists_matcher? h hpe hname
        rw [hm] at hsome
        contradiction
      rw [firstFailure?_cons_of_neg (decide_eq_false hnot)]
      rfl
  | some m =>
      obtain ⟨pe, hpe, hname, -⟩ := acceptsCodepoint_of_matcher? h hm
      have hmem := hnamed.mp ⟨pe, hpe, hname⟩
      rw [firstFailure?_cons_of_pos (decide_eq_true hmem)]
      rfl

end Classifier

/-! ## Evaluators -/

namespace Word.Evaluator

theorem property_sources (tables : Tables) :
    ((sources tables).flatMap Classifier.Source.entries).map PropertyEntry.property =
      tables.wordBreak.propertyNames ++ tables.emoji.propertyNames := by
  simp [sources, Classifier.Source.entries, PropertyTable.propertyNames]

theorem failure?_ofTables (tables : Tables) (limit : RunLimit) :
    failure? (ofTables tables limit) = firstFailure? tables.wordChecks := by
  rw [ofTables, failure?_bind (o := firstFailure? [tables.pictographCheck
    (tables.wordBreak.propertyNames ++ tables.emoji.propertyNames)])]
  · rw [Classifier.failure?_ofSources, Tables.wordChecks, firstFailure?_append,
      firstFailure?_append, findSome?_cons_eq_or, findSome?_cons_eq_or, List.findSome?_nil,
      Option.or_none, Classifier.Source.failure?_compile_table,
      Classifier.Source.failure?_compile_table]
  · intro c hc
    rw [← property_sources]
    exact Classifier.failure?_matcher? hc rfl _ _

end Word.Evaluator

namespace Grapheme.Evaluator

theorem pictograph_mem_sources {tables : Tables}
    (h : Property.extendedPictographic.name ∈ tables.emoji.propertyNames) :
    Property.extendedPictographic.name ∈
      ((sources tables).flatMap Classifier.Source.entries).map PropertyEntry.property := by
  obtain ⟨pe, hpe, hproperty⟩ := List.mem_map.mp h
  have hsome : (tables.emoji.find? Property.extendedPictographic.name).isSome := by
    rw [PropertyTable.find?, List.find?_isSome]
    exact ⟨pe, hpe, by simpa using hproperty⟩
  obtain ⟨found, hfound⟩ := Option.isSome_iff_exists.mp hsome
  have hname : found.property = Property.extendedPictographic.name := by
    simpa using List.find?_some hfound
  rw [List.mem_map]
  refine ⟨found, ?_, hname⟩
  simp [sources, Classifier.Source.entries, hfound]

/-- Where the ranges of the emoji table are in order, no error comes from them. -/
theorem failure?_ofTables {tables : Tables}
    (hemoji : firstFailure? tables.emoji.classChecks = none) (limit : RunLimit) :
    failure? (ofTables tables limit) = firstFailure? tables.graphemeChecks := by
  have hsources := Classifier.failure?_ofSources (α := Property) (sources tables)
  have hname : Property.extendedPictographic.name ∈ NamedProperty.names Property := by decide
  rw [sources, findSome?_cons_eq_or, findSome?_cons_eq_or, List.findSome?_nil,
      Option.or_none, Classifier.Source.failure?_compile_table,
      Classifier.Source.failure?_compile_entry hname hemoji] at hsources
  rw [ofTables, failure?_bind (o := firstFailure? (tables.conjunctBreak.checks ConjunctProperty))]
  · rw [hsources, Tables.graphemeChecks, firstFailure?_append, firstFailure?_append]
    rfl
  · intro c hc
    rw [failure?_bind (o := none)]
    · rw [Classifier.failure?_ofSources, findSome?_cons_eq_or, List.findSome?_nil,
        Option.or_none, Option.or_none, Classifier.Source.failure?_compile_table]
    · intro conjuncts _
      -- The emoji table names the pictographs, as the entry that was asked for compiled.
      rw [failure?_eq_none_iff.mpr ⟨c, hc⟩, eq_comm, Option.or_eq_none_iff] at hsources
      have hnamed := firstFailure?_eq_none_iff.mp hsources.2 _ List.mem_cons_self
      have hmem := decide_eq_true (pictograph_mem_sources (of_decide_eq_true hnamed))
      exact (Classifier.failure?_matcher? hc rfl _ _).trans (firstFailure?_cons_of_pos hmem)

end Grapheme.Evaluator

/-! ## Segmenters -/

namespace Segmenter

/-- A segmenter with its run limit replaced. -/
def withLimit (s : Segmenter) (limit : RunLimit) : Segmenter :=
  { s with
    limit := limit
    word := s.word.withLimit limit
    grapheme := s.grapheme.withLimit limit }

/-- What passes for words has its ranges in order. -/
theorem firstFailure?_emoji_classChecks {tables : Tables}
    (h : firstFailure? tables.wordChecks = none) :
    firstFailure? tables.emoji.classChecks = none := by
  rw [firstFailure?_eq_none_iff] at h ⊢
  intro check hcheck
  obtain ⟨pe, hpe, hcheck⟩ := List.mem_flatMap.mp hcheck
  have hentry : check ∈ tables.emoji.checks Word.Property :=
    List.mem_flatMap.mpr ⟨pe, hpe, List.mem_cons_of_mem _ hcheck⟩
  exact h check (List.mem_append_left _ (List.mem_append_right _ hentry))

theorem failure?_ofTables (tables : Tables) (limit : RunLimit) :
    failure? (ofTables tables limit) = firstFailure? tables.checks := by
  rw [ofTables, failure?_bind (o := firstFailure?
    (tables.graphemeChecks ++ tables.characterClass.classChecks))]
  · rw [Word.Evaluator.failure?_ofTables, Tables.checks, List.append_assoc,
      firstFailure?_append tables.wordChecks]
  · intro word hword
    have hpassed := Word.Evaluator.failure?_ofTables tables limit
    rw [failure?_eq_none_iff.mpr ⟨word, hword⟩, eq_comm] at hpassed
    rw [failure?_bind (o := firstFailure? tables.characterClass.classChecks),
      Grapheme.Evaluator.failure?_ofTables (firstFailure?_emoji_classChecks hpassed),
      firstFailure?_append]
    intro grapheme _
    rw [failure?_bind (o := none) fun _ _ => rfl, Option.or_none,
      PropertyTable.failure?_wordCharacters]

/-- Pictographs that only the table for words names will do for words, but not for clusters. -/
example : firstFailure? (Tables.checks { Tables.bundled with
    wordBreak := Emoji.table
    emoji := { Emoji.table with entries := [] } }) =
      some (.unknownProperty Emoji.table.name "Extended_Pictographic") := by
  decide +kernel

/-- Segmenters of the same tables differ in their run limits only. -/
theorem ofTables_eq_map_withLimit (tables : Tables) (limit limit' : RunLimit) :
    ofTables tables limit' = (ofTables tables limit).map fun s => s.withLimit limit' := by
  rw [ofTables, ofTables, Word.Evaluator.ofTables_eq_map_withLimit tables limit,
    Word.Evaluator.ofTables_eq_map_withLimit tables limit',
    Grapheme.Evaluator.ofTables_eq_map_withLimit tables limit,
    Grapheme.Evaluator.ofTables_eq_map_withLimit tables limit']
  cases Word.Evaluator.ofTables tables none with
  | error e => rfl
  | ok word =>
      cases Grapheme.Evaluator.ofTables tables none with
      | error e => rfl
      | ok grapheme => cases tables.characterClass.wordCharacters <;> rfl

/-- A segmenter exists if all checks of its tables hold, and otherwise the first that does
not gives the error.  The run limit has no part in it. -/
theorem ofTables_decidedBy_checks (tables : Tables) (limit : RunLimit) :
    ((∃ s, ofTables tables limit = .ok s) ↔ ∀ c ∈ tables.checks, c.holds = true) ∧
      (∀ e, ofTables tables limit = .error e ↔ firstFailure? tables.checks = some e) ∧
      ∀ limit', ofTables tables limit' =
        (ofTables tables limit).map fun s => s.withLimit limit' := by
  refine ⟨?_, ?_, ?_⟩
  · rw [← failure?_eq_none_iff, failure?_ofTables, firstFailure?_eq_none_iff]
  · intro e
    rw [← failure?_eq_some_iff, failure?_ofTables]
  · intro limit'
    exact ofTables_eq_map_withLimit tables limit limit'

end Segmenter
end TextBoundary
