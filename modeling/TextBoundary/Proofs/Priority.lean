import TextBoundary.Proofs.Compilation

/-!
# The first entry wins

The entries of a classifier may overlap, be empty and repeat a property.  Of all entries
that hold a number, the one that was added first gives its property.  A number that no
entry holds has no property: all surrogates are such numbers, and all numbers above
U+10FFFF.

A codepoint is classified by its number.  The matchers read its units instead, and the
first that accepts them belongs to the same entry.
-/

namespace TextBoundary
namespace Classifier

open Unicode

variable {α : Type} [NamedProperty α] [DecidableEq α] {sources : List Source}
  {c : Classifier α}

/-- A number has no property when no entry of the sources holds it. -/
theorem classify_eq_none_iff (h : ofSources sources = .ok c) (n : Nat) :
    c.classify n = none ↔ ∀ pe ∈ sources.flatMap Source.entries, ¬pe.Holds n := by
  obtain ⟨hentries, -⟩ := exists_entries_of_ofSources h
  rw [classify_ofSources h]
  cases hfind : (sources.flatMap Source.entries).find? fun pe => pe.Holds n with
  | none =>
      have hnone := List.find?_eq_none.mp hfind
      simp only [decide_eq_true_eq] at hnone
      exact iff_of_true rfl hnone
  | some pe =>
      have hmem := List.mem_of_find?_eq_some hfind
      have hholds : pe.Holds n := by simpa using List.find?_some hfind
      obtain ⟨e, -, hstands⟩ := exists_of_forall₂_of_mem hentries.flip hmem
      rw [Option.bind_some, hstands.named]
      exact iff_of_false (Option.some_ne_none _) fun hnone => hnone pe hmem hholds

/-- Entries that compile hold scalar values only. -/
theorem not_holds_of_ofSources (h : ofSources sources = .ok c) {n : Nat}
    (hn : (0xD800 ≤ n ∧ n ≤ 0xDFFF) ∨ 0x10FFFF < n) {pe : PropertyEntry}
    (hpe : pe ∈ sources.flatMap Source.entries) : ¬pe.Holds n := by
  obtain ⟨hentries, -⟩ := exists_entries_of_ofSources h
  obtain ⟨e, -, hstands⟩ := exists_of_forall₂_of_mem hentries.flip hpe
  rw [← hstands.containsScalar_iff, Bool.not_eq_true]
  rcases hn with hsurrogate | hlarge
  · exact hstands.built.containsScalar_of_surrogate hsurrogate
  · exact hstands.built.containsScalar_of_lt hlarge

/-- The first entry that holds the number of a codepoint is the first that accepts its
units. -/
theorem classifyCodepoint_eq_find?_accepts (h : ofSources sources = .ok c) (p : Codepoint) :
    c.classifyCodepoint p =
      (c.entries.find? fun e => e.matcher.accepts p.units).map Entry.property := by
  obtain ⟨-, hc⟩ := exists_entries_of_ofSources h
  have hbuilt : ∀ e ∈ c.entries, e.matcher.IsBuilt := fun e he => isBuilt_of_mem_entries h he
  have hclassify : c.classify p.value =
      (firstContaining? c.entries p.value).map Entry.property := by
    rw [← classify_ofEntries hbuilt, ← hc]
  rw [classifyCodepoint, hclassify, firstContaining?]
  congr 1
  apply List.find?_congr
  intro e he
  exact ((hbuilt e he).acceptsCodepoint_eq p).symm

/-- A classifier answers as a search through the entries of its sources does, in the order
in which they were added.  Every entry of the sources has become one of the classifier,
with the property that it names and the matcher of its bounds. -/
theorem classify_eq_of_first_entry (h : ofSources sources = .ok c) :
    List.Forall₂ StandsFor (sources.flatMap Source.entries) c.entries ∧
      (∀ n, c.classify n = ((sources.flatMap Source.entries).find? fun pe => pe.Holds n).bind
        fun pe => NamedProperty.ofName? pe.property) ∧
      (∀ n, c.classify n = none ↔ ∀ pe ∈ sources.flatMap Source.entries, ¬pe.Holds n) ∧
      (∀ n, (0xD800 ≤ n ∧ n ≤ 0xDFFF) ∨ 0x10FFFF < n → c.classify n = none) ∧
      ∀ p : Codepoint, c.classifyCodepoint p =
        (c.entries.find? fun e => e.matcher.accepts p.units).map Entry.property := by
  refine ⟨(exists_entries_of_ofSources h).1, classify_ofSources h, classify_eq_none_iff h,
    ?_, classifyCodepoint_eq_find?_accepts h⟩
  intro n hn
  rw [classify_eq_none_iff h]
  exact fun pe hpe => not_holds_of_ofSources h hn hpe

/-- Letters and marks that overlap, an empty entry, letters once more, and one entry of
another table. -/
def overlapping : List Source :=
  [.table ⟨"Overlapping", bundledVersion,
      [⟨"ALetter", [⟨0x41, 0x5A⟩]⟩, ⟨"Numeric", []⟩,
        ⟨"Extend", [⟨0x50, 0x60⟩, ⟨0xFF00, 0x10400⟩]⟩, ⟨"ALetter", [⟨0x58, 0x70⟩]⟩]⟩,
    .entry ⟨"Other", bundledVersion, [⟨"LF", [⟨0, 0x10⟩]⟩, ⟨"CR", [⟨0x60, 0x10FF⟩]⟩]⟩ "CR"]

/-- The first entry wins wherever entries overlap, and a surrogate between the numbers of
one entry has no property. -/
theorem classify_eq_of_first_entry_overlapping :
    ∃ c : Classifier Word.Property, ofSources overlapping = .ok c ∧
      c.classify 0x55 = some .aLetter ∧ c.classify 0x5C = some .extend ∧
      c.classify 0x65 = some .aLetter ∧ c.classify 0x71 = some .cr ∧ c.classify 0 = none ∧
      c.classifyCodepoint ⟨0x10400, by decide⟩ = some .extend ∧
      c.classifyCodepoint (.ofUnit 0xD800) = none := by
  obtain ⟨c, hc⟩ : ∃ c : Classifier Word.Property, ofSources overlapping = .ok c :=
    exists_ofSources (by decide +kernel)
  obtain ⟨-, hclassify, -, hnone, -⟩ := classify_eq_of_first_entry hc
  refine ⟨c, hc, ?_, ?_, ?_, ?_, ?_, ?_, hnone _ (.inl (by decide))⟩
  all_goals
    simp only [classifyCodepoint, hclassify]
    decide +kernel

end Classifier
end TextBoundary
