import TextBoundary.Proofs.Compilation
import TextBoundary.WordCharacter

/-!
# Matchers are canonical

Separated ranges are determined by the numbers they hold: the first range begins at the
least number, and it ends where the next number is missing.  A list of ranges therefore has
one normal form, lists that cover the same numbers share it, and since every part of a
matcher is computed from the normal form, they have equal matchers.

The word characters of a table are compiled from the ranges of all its entries.  Bounds that
hold the same numbers compile to the same matcher, however they are grouped, ordered or cut.
-/

namespace TextBoundary
namespace ScalarRange

variable {r s : ScalarRange} {l m : List ScalarRange} {n : Nat}

theorem isScalar_bounds (r : ScalarRange) : r.bounds.IsScalar :=
  ⟨r.first_le_last, r.last_le, r.avoids_surrogates⟩

theorem eq_of_ends (hfirst : r.first = s.first) (hlast : r.last = s.last) : r = s := by
  cases r
  cases s
  simp only at hfirst hlast
  subst hfirst hlast
  rfl

/-! ## Separated ranges are determined by what they hold -/

theorem Separated.last_lt_of_covered (h : Separated (r :: l)) (hn : Covered l n) :
    r.last + 1 < n := by
  obtain ⟨s, hs, hmem⟩ := hn
  have hgap := (List.pairwise_cons.mp h).1 s hs
  exact Nat.lt_of_lt_of_le hgap hmem.1

theorem Separated.first_le_of_covered (h : Separated (r :: l)) (hn : Covered (r :: l) n) :
    r.first ≤ n := by
  rcases (covered_cons r l n).mp hn with hr | hl
  · exact hr.1
  · have hafter := h.last_lt_of_covered hl
    have hle := r.first_le_last
    omega

/-- The number after the first range is missing. -/
theorem Separated.not_covered_succ (h : Separated (r :: l)) :
    ¬Covered (r :: l) (r.last + 1) := by
  rw [covered_cons, mem_iff]
  rintro (hr | hl)
  · omega
  · exact Nat.lt_irrefl _ (h.last_lt_of_covered hl)

theorem Separated.covered_tail_iff (h : Separated (r :: l)) (n : Nat) :
    Covered l n ↔ Covered (r :: l) n ∧ r.last < n := by
  rw [covered_cons, mem_iff]
  constructor
  · intro hl
    have hafter := h.last_lt_of_covered hl
    exact ⟨Or.inr hl, by omega⟩
  · rintro ⟨hr | hl, hafter⟩
    · omega
    · exact hl

/-- The first range does not end before that of another list with the same numbers. -/
theorem Separated.last_le_of_covered_iff (hl : Separated (r :: l))
    (h : ∀ n, Covered (r :: l) n ↔ Covered (s :: m) n) (hfirst : s.first ≤ r.first) :
    s.last ≤ r.last := by
  by_contra hlt
  have hmem : r.last + 1 ∈ s := by
    have hle := r.first_le_last
    rw [mem_iff]
    omega
  exact hl.not_covered_succ ((h _).mpr ((covered_cons s m _).mpr (Or.inl hmem)))

theorem Separated.eq_of_covered_iff (hl : Separated l) (hm : Separated m)
    (h : ∀ n, Covered l n ↔ Covered m n) : l = m := by
  induction l generalizing m with
  | nil =>
      cases m with
      | nil => rfl
      | cons s m => exact absurd ((h _).mpr (covered_first s m)) (covered_nil _)
  | cons r l ih =>
      cases m with
      | nil => exact absurd ((h _).mp (covered_first r l)) (covered_nil _)
      | cons s m =>
          have hrs := hl.first_le_of_covered ((h _).mpr (covered_first s m))
          have hsr := hm.first_le_of_covered ((h _).mp (covered_first r l))
          have hlast := hl.last_le_of_covered_iff h hsr
          have hlast' := hm.last_le_of_covered_iff (fun n => (h n).symm) hrs
          obtain rfl : r = s :=
            eq_of_ends (Nat.le_antisymm hrs hsr) (Nat.le_antisymm hlast' hlast)
          have htail : l = m := by
            apply ih (List.Pairwise.of_cons hl) (List.Pairwise.of_cons hm)
            intro n
            rw [hl.covered_tail_iff, hm.covered_tail_iff, h n]
          rw [htail]

/-! ## The normal form -/

/-- A normal form of a list covers the same numbers by scalar ranges in ascending order, and
between any two of them a number is missing. -/
structure IsNormalForm (l m : List ScalarRange) : Prop where
  scalar : ∀ r ∈ m, r.bounds.IsScalar
  separated : Separated m
  covered_iff : ∀ n, Covered m n ↔ Covered l n

theorem isNormalForm_normalize (l : List ScalarRange) : IsNormalForm l (normalize l) where
  scalar r _ := isScalar_bounds r
  separated := separated_normalize l
  covered_iff := covered_normalize l

/-- A list has no other normal form. -/
theorem IsNormalForm.eq_normalize (h : IsNormalForm l m) : m = normalize l := by
  apply h.separated.eq_of_covered_iff (separated_normalize l)
  intro n
  rw [h.covered_iff, covered_normalize]

theorem normalize_eq_iff (l m : List ScalarRange) :
    normalize l = normalize m ↔ ∀ n, Covered l n ↔ Covered m n := by
  constructor
  · intro h n
    rw [← covered_normalize l, h, covered_normalize]
  · intro h
    apply IsNormalForm.eq_normalize
    exact ⟨(isNormalForm_normalize l).scalar, separated_normalize l,
      fun n => (covered_normalize l n).trans (h n)⟩

end ScalarRange

/-! ## Compiled bounds -/

open ScalarRange

namespace Matcher

variable {bounds : List Bounds}

theorem ofRanges_eq_iff (l m : List ScalarRange) :
    ofRanges l = ofRanges m ↔ ∀ n, Covered l n ↔ Covered m n := by
  rw [← normalize_eq_iff]
  constructor
  · intro h
    have hranges := congrArg (fun matcher => matcher.ranges.toList) h
    simpa only [ranges_ofRanges] using hranges
  · intro h
    rw [ofRanges, ofRanges, h]

/-- A matcher can be compiled from the ranges that it keeps. -/
theorem ofRanges_toList_ranges (l : List ScalarRange) :
    ofRanges (ofRanges l).ranges.toList = ofRanges l := by
  rw [ranges_ofRanges, ofRanges_eq_iff]
  exact covered_normalize l

/-- Bounds of scalar ranges compile to ranges that cover what the bounds hold. -/
theorem exists_ofBoundsList_eq_ok (h : ∀ b ∈ bounds, b.IsScalar) :
    ∃ l, ofBoundsList bounds = .ok l ∧ ∀ n, Covered l n ↔ ∃ b ∈ bounds, n ∈ b := by
  obtain ⟨l, hl⟩ := exists_mapM_eq_ok fun b hb => (h b hb).exists_ofBounds
  exact ⟨l, hl, covered_of_ofBoundsList hl⟩

end Matcher

namespace Unicode
namespace PropertyTable

theorem exists_entryRanges (table : PropertyTable) {e : PropertyEntry}
    (h : ∀ b ∈ e.ranges, b.IsScalar) :
    ∃ l, table.entryRanges e = .ok l ∧ ∀ n, Covered l n ↔ e.Holds n := by
  obtain ⟨l, hl, hcovered⟩ := Matcher.exists_ofBoundsList_eq_ok h
  exact ⟨l, by rw [entryRanges, hl, Except.mapError], hcovered⟩

/-- Entries with bounds of scalar ranges compile, and their ranges cover together what the
entries hold. -/
theorem exists_mapM_entryRanges (table : PropertyTable) {entries : List PropertyEntry}
    (h : ∀ e ∈ entries, ∀ b ∈ e.ranges, b.IsScalar) :
    ∃ ranges, entries.mapM table.entryRanges = .ok ranges ∧
      ∀ n, Covered ranges.flatten n ↔ ∃ e ∈ entries, e.Holds n := by
  induction entries with
  | nil => exact ⟨[], rfl, by simp⟩
  | cons e entries ih =>
      obtain ⟨l, hl, hcovered⟩ := table.exists_entryRanges (h e (by simp))
      obtain ⟨ranges, hranges, hrest⟩ := ih fun e he => h e (List.mem_cons_of_mem _ he)
      refine ⟨l :: ranges, ?_, ?_⟩
      · simp [hl, hranges, bind, Except.bind, pure, Except.pure]
      · intro n
        rw [List.flatten_cons, covered_append, hcovered, hrest]
        simp

variable {table : PropertyTable}

theorem exists_wordCharacters (h : ∀ e ∈ table.entries, ∀ b ∈ e.ranges, b.IsScalar) :
    ∃ l, table.wordCharacters = .ok (.ofRanges l) ∧
      ∀ n, Covered l n ↔ ∃ e ∈ table.entries, e.Holds n := by
  obtain ⟨ranges, hranges, hcovered⟩ := table.exists_mapM_entryRanges h
  refine ⟨ranges.flatten, ?_, hcovered⟩
  simp [wordCharacters, hranges, bind, Except.bind, pure, Except.pure]

/-- The word characters of a table are compiled from any bounds that hold the same
numbers. -/
theorem wordCharacters_eq_ofBounds {bounds : List Bounds}
    (hentries : ∀ e ∈ table.entries, ∀ b ∈ e.ranges, b.IsScalar)
    (hbounds : ∀ b ∈ bounds, b.IsScalar)
    (hsame : ∀ n, (∃ b ∈ bounds, n ∈ b) ↔ ∃ e ∈ table.entries, e.Holds n) :
    ∃ m, table.wordCharacters = .ok m ∧ Matcher.ofBounds bounds = .ok m := by
  obtain ⟨l, hword, hl⟩ := exists_wordCharacters hentries
  obtain ⟨l', hl', hcovered⟩ := Matcher.exists_ofBoundsList_eq_ok hbounds
  have heq : Matcher.ofRanges l' = .ofRanges l := by
    rw [Matcher.ofRanges_eq_iff]
    intro n
    rw [hcovered, hsame, hl]
  refine ⟨.ofRanges l, hword, ?_⟩
  rw [Matcher.ofBounds, hl', Except.map, heq]

end PropertyTable
end Unicode

namespace Matcher

/-- Lists of ranges have one normal form.  Two lists have equal matchers exactly when they
cover the same numbers, so a matcher can be compiled again from its own ranges, and the word
characters of a table from any bounds that hold what its entries hold. -/
theorem ofRanges_canonical :
    (∀ l : List ScalarRange, IsNormalForm l (normalize l)) ∧
      (∀ l m : List ScalarRange,
        ofRanges l = ofRanges m ↔ ∀ n, Covered l n ↔ Covered m n) ∧
      (∀ l : List ScalarRange, ofRanges (ofRanges l).ranges.toList = ofRanges l) ∧
      ∀ (table : Unicode.PropertyTable) (bounds : List Bounds),
        (∀ e ∈ table.entries, ∀ b ∈ e.ranges, b.IsScalar) → (∀ b ∈ bounds, b.IsScalar) →
        (∀ n, (∃ b ∈ bounds, n ∈ b) ↔ ∃ e ∈ table.entries, e.Holds n) →
        ∃ m, table.wordCharacters = .ok m ∧ Matcher.ofBounds bounds = .ok m :=
  ⟨isNormalForm_normalize, ofRanges_eq_iff, ofRanges_toList_ranges,
    fun _ _ hentries hbounds hsame =>
      Unicode.PropertyTable.wordCharacters_eq_ofBounds hentries hbounds hsame⟩

/-- The bounds of two entries, out of order and cut at the end of the single units. -/
theorem ofRanges_canonical_two_entries :
    ∃ m, Unicode.PropertyTable.wordCharacters ⟨"Word_Class", Unicode.bundledVersion,
        [⟨"Letter", [⟨0x61, 0x7A⟩, ⟨0xFF00, 0x10401⟩]⟩, ⟨"Digit", [⟨0x30, 0x39⟩]⟩]⟩ = .ok m ∧
      Matcher.ofBounds
        [⟨0x10000, 0x10401⟩, ⟨0x30, 0x34⟩, ⟨0x61, 0x7A⟩, ⟨0xFF00, 0xFFFF⟩, ⟨0x33, 0x39⟩] =
          .ok m := by
  apply ofRanges_canonical.2.2.2
  · decide
  · decide
  · intro n
    simp only [Unicode.PropertyEntry.Holds, Bounds.mem_iff, List.mem_cons, List.not_mem_nil,
      or_false, exists_eq_or_imp, exists_eq_left]
    omega

end Matcher
end TextBoundary
