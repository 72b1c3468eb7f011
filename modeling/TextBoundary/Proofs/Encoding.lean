import TextBoundary.Proofs.Classification

/-!
# The units that a matcher accepts

UTF-16 writes a scalar value up to U+FFFF as one unit, and a larger one as a lead and a
trail.  `Encodes` states this rule by the numbers of the units.  Every sequence that a
matcher accepts is what some codepoint is written with, and codepoints other than lone
surrogates are written by the rule.  A matcher therefore accepts the encodings of its
scalar values and no other sequence, of whatever length.

Its bounds may come in any order, overlap, touch and repeat: only the numbers that they
hold between them matter, to the test of units and to the test of numbers alike.
-/

namespace TextBoundary

/-- UTF-16: the units that encode a scalar value. -/
inductive Encodes : Nat → List CodeUnit → Prop
  | single {n : Nat} {u : CodeUnit} (hscalar : n < 0xD800 ∨ 0xDFFF < n)
      (hunit : u.toNat = n) : Encodes n [u]
  | pair {n : Nat} {u v : CodeUnit} (hmin : 0x10000 ≤ n) (hmax : n ≤ 0x10FFFF)
      (hlead : u.toNat = 0xD800 + (n - 0x10000) / 0x400)
      (htrail : v.toNat = 0xDC00 + (n - 0x10000) % 0x400) : Encodes n [u, v]

/-! ## Codepoints are written by the rule -/

theorem Codepoint.encodes_units {c : Codepoint} (h : ¬c.IsLoneSurrogate) :
    Encodes c.value c.units := by
  rw [IsLoneSurrogate] at h
  rw [units]
  split
  next hbmp =>
    apply Encodes.single
    · omega
    · exact UInt16.toNat_ofNat_of_lt' hbmp
  next hbmp =>
    apply Encodes.pair
    · omega
    · exact c.value_le
    · exact CodeUnit.toNat_lead c.value_le
    · exact CodeUnit.toNat_trail c.value

/-- The encoding of a scalar value is what its codepoint is written with. -/
theorem Encodes.exists_codepoint {n : Nat} {units : List CodeUnit} (h : Encodes n units) :
    ∃ c : Codepoint, c.value = n ∧ ¬c.IsLoneSurrogate ∧ c.units = units := by
  cases h with
  | @single u hscalar hunit =>
      refine ⟨.ofUnit u, hunit, ?_, Codepoint.units_ofUnit u⟩
      simp only [Codepoint.IsLoneSurrogate, Codepoint.ofUnit]
      omega
  | @pair u v hmin hmax hlead htrail =>
      have hu : CodeUnit.lead n = u :=
        UInt16.toNat_inj.mp (by rw [CodeUnit.toNat_lead hmax, hlead])
      have hv : CodeUnit.trail n = v :=
        UInt16.toNat_inj.mp (by rw [CodeUnit.toNat_trail, htrail])
      refine ⟨⟨n, hmax⟩, rfl, ?_, ?_⟩
      · simp only [Codepoint.IsLoneSurrogate]
        omega
      · rw [Codepoint.units, if_neg (by simpa using hmin), hu, hv]

/-! ## Acceptance -/

namespace Matcher

variable {m : Matcher} {bounds : List Bounds} {units : List CodeUnit}

/-- A matcher accepts nothing but what one codepoint is written with. -/
theorem exists_codepoint_of_accepts (h : m.accepts units = true) :
    ∃ c : Codepoint, c.units = units ∧ m.acceptsCodepoint c = true := by
  unfold accepts at h
  split at h
  next u => exact ⟨.ofUnit u, Codepoint.units_ofUnit u, by simpa [acceptsCodepoint, accepts]⟩
  next u v =>
    have hpair : CodeUnit.IsPair u v := by simpa using (Bool.and_eq_true_iff.mp h).1
    exact ⟨.ofPair u v hpair, Codepoint.units_ofPair hpair, by
      simpa [acceptsCodepoint, accepts] using h⟩
  next => contradiction

theorem accepts_ofRanges (l : List ScalarRange) (units : List CodeUnit) :
    (ofRanges l).accepts units = true ↔ ∃ n, ScalarRange.Covered l n ∧ Encodes n units := by
  constructor
  · intro h
    obtain ⟨c, rfl, hc⟩ := exists_codepoint_of_accepts h
    have hcovered := (acceptsCodepoint_ofRanges l c).mp hc
    exact ⟨c.value, hcovered, Codepoint.encodes_units hcovered.not_surrogate⟩
  · rintro ⟨n, hcovered, hencodes⟩
    obtain ⟨c, rfl, -, rfl⟩ := hencodes.exists_codepoint
    exact (acceptsCodepoint_ofRanges l c).mpr hcovered

/-- A matcher accepts the encodings of the scalar values that its bounds hold and no other
sequence of units, and it contains the same values: no surrogate and nothing above
U+10FFFF. -/
theorem accepts_iff_encodes (h : ofBounds bounds = .ok m) :
    (∀ units, m.accepts units = true ↔ ∃ n, (∃ b ∈ bounds, n ∈ b) ∧ Encodes n units) ∧
      (∀ n, m.containsScalar n = true ↔ ∃ b ∈ bounds, n ∈ b) ∧
      ∀ n, m.containsScalar n = true → ¬(0xD800 ≤ n ∧ n ≤ 0xDFFF) ∧ n ≤ 0x10FFFF := by
  obtain ⟨ranges, hranges, rfl⟩ := exists_ranges_of_ofBounds h
  refine ⟨?_, ?_, ?_⟩
  · intro units
    rw [accepts_ofRanges]
    simp only [ScalarRange.covered_of_ofBoundsList hranges]
  · intro n
    rw [containsScalar_ofRanges, ScalarRange.covered_of_ofBoundsList hranges]
  · intro n hn
    have hcovered := (containsScalar_ofRanges ranges n).mp hn
    exact ⟨hcovered.not_surrogate, hcovered.le⟩

/-- Bounds that overlap, stand out of order and straddle the end of the single units:
values on both sides are accepted, and half of a pair is not. -/
theorem accepts_iff_encodes_straddling :
    ∃ m, ofBounds [⟨0xFF00, 0x10401⟩, ⟨0x41, 0x5A⟩, ⟨0x50, 0x60⟩] = .ok m ∧
      m.accepts [0x55] = true ∧ m.accepts [0xD801, 0xDC01] = true ∧
      m.accepts [0xD801] = false ∧ m.containsScalar 0x10000 = true := by
  obtain ⟨m, hm⟩ : ∃ m, ofBounds [⟨0xFF00, 0x10401⟩, ⟨0x41, 0x5A⟩, ⟨0x50, 0x60⟩] = .ok m :=
    ⟨_, rfl⟩
  obtain ⟨haccepts, hcontains, -⟩ := accepts_iff_encodes hm
  refine ⟨m, hm, ?_, ?_, ?_, ?_⟩
  · exact (haccepts _).mpr ⟨0x55, by decide, .single (by decide) rfl⟩
  · exact (haccepts _).mpr ⟨0x10401, by decide, .pair (by decide) (by decide) rfl rfl⟩
  · rw [Bool.eq_false_iff, ne_eq, haccepts]
    rintro ⟨n, -, hencodes⟩
    cases hencodes with
    | single hscalar hunit =>
        have hvalue : (0xD801 : CodeUnit).toNat = 0xD801 := rfl
        omega
  · exact (hcontains _).mpr (by decide)

end Matcher
end TextBoundary
