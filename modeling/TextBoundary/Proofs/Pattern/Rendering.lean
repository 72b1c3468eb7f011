import TextBoundary.Proofs.Encoding
import TextBoundary.Proofs.Pattern.Grammar

/-!
# The text of a matcher

A matcher answers from its step tables, but its text is written from its ranges and boxes.
Both describe the same sequences of units: the text of a matcher that is not empty is read
back as one pattern, and the pattern accepts what the matcher accepts.

A matcher without ranges has an empty text, which reads as an empty alternative.  That
accepts the empty sequence, and the matcher accepts nothing.
-/

namespace TextBoundary

/-! ## What a pattern accepts -/

/-- A class holds one unit, or the units of its spans. -/
def UnitClass.Matches : UnitClass → CodeUnit → Prop
  | .unit v, u => u = v
  | .spans l, u => ∃ s ∈ l, u ∈ s

instance : (c : UnitClass) → (u : CodeUnit) → Decidable (c.Matches u)
  | .unit v, u => inferInstanceAs (Decidable (u = v))
  | .spans l, u => inferInstanceAs (Decidable (∃ s ∈ l, u ∈ s))

/-- A pattern accepts a whole sequence when an alternative matches it, unit by unit. -/
def Pattern.Accepts (p : Pattern) (units : List CodeUnit) : Prop :=
  ∃ a ∈ p, List.Forall₂ UnitClass.Matches a units

instance (p : Pattern) (units : List CodeUnit) : Decidable (p.Accepts units) :=
  inferInstanceAs (Decidable (∃ a ∈ p, List.Forall₂ UnitClass.Matches a units))

/-- The ends of a span are in order. -/
def UnitSpan.Ordered (s : UnitSpan) : Prop :=
  s.min ≤ s.max

/-- The ends of all spans of a class are in order. -/
def UnitClass.Ordered : UnitClass → Prop
  | .unit _ => True
  | .spans l => ∀ s ∈ l, s.Ordered

/-! ## Texts are read back -/

theorem hexValue?_digitChar : ∀ n < 0x10, hexValue? (Nat.digitChar n) = some n := by
  decide

namespace Pattern

theorem escape_escape (u : CodeUnit) (rest : List Char) :
    Escape (UnitClass.escape u ++ rest) u rest := by
  have hu := u.toNat_lt
  apply Escape.mk
  · exact hexValue?_digitChar _ (by omega)
  · exact hexValue?_digitChar _ (by omega)
  · exact hexValue?_digitChar _ (by omega)
  · exact hexValue?_digitChar _ (by omega)
  · omega

theorem members_spanChars {s : UnitSpan} (h : s.Ordered) {text rest : List Char}
    {l : List UnitSpan} (hmembers : Members text l rest) :
    Members (UnitClass.spanChars s ++ text) (s :: l) rest := by
  rw [UnitClass.spanChars]
  split
  next hsingle =>
    have hspan : s = ⟨s.min, s.min⟩ := by
      rw [UnitSpan.IsSingle] at hsingle
      cases s
      simp only at hsingle
      rw [hsingle]
    rw [hspan]
    exact .unit (escape_escape _ _) hmembers
  next =>
    rw [List.append_assoc, List.cons_append]
    exact .range (escape_escape _ _) (escape_escape _ _) h hmembers

theorem members_flatMap {l : List UnitSpan} (h : ∀ s ∈ l, s.Ordered) (rest : List Char) :
    Members (l.flatMap UnitClass.spanChars ++ ']' :: rest) l rest := by
  induction l with
  | nil => exact .nil
  | cons s l ih =>
      rw [List.flatMap_cons, List.append_assoc]
      exact members_spanChars (h s (by simp)) (ih fun t ht => h t (List.mem_cons_of_mem s ht))

theorem item_chars {c : UnitClass} (h : c.Ordered) (rest : List Char) :
    Item (c.chars ++ rest) c rest := by
  cases c with
  | unit u => exact .unit (escape_escape u rest)
  | spans l =>
      rw [UnitClass.chars, List.cons_append, List.cons_append, List.append_assoc]
      exact .spans (members_flatMap h rest)

theorem alternative_flatMap {a : List UnitClass} (h : ∀ c ∈ a, c.Ordered) (rest : List Char) :
    Alternative (a.flatMap UnitClass.chars ++ rest) a rest := by
  induction a with
  | nil => exact .nil
  | cons c a ih =>
      rw [List.flatMap_cons, List.append_assoc]
      exact .cons (item_chars (h c (by simp)) _)
        (ih fun d hd => h d (List.mem_cons_of_mem c hd))

/-- A pattern that has alternatives is read back from its text. -/
theorem reads_chars {p : Pattern} (hne : p ≠ []) (h : ∀ a ∈ p, ∀ c ∈ a, c.Ordered) :
    Reads p.chars p := by
  induction p with
  | nil => contradiction
  | cons a p ih =>
      have ha := h a (by simp)
      cases p with
      | nil =>
          have halternative := alternative_flatMap ha []
          rw [List.append_nil] at halternative
          simpa [chars] using Reads.last halternative
      | cons b p =>
          have hrest := ih (by simp) fun d hd => h d (List.mem_cons_of_mem a hd)
          simpa [chars] using Reads.bar (alternative_flatMap ha _) hrest

theorem accepts_append {p q : Pattern} {units : List CodeUnit} :
    (p ++ q : Pattern).Accepts units ↔ p.Accepts units ∨ q.Accepts units := by
  simp only [Accepts, List.mem_append, or_and_right, exists_or]

end Pattern

namespace UnitClass

variable {l : List UnitSpan}

theorem ordered_ofSpans (h : ∀ s ∈ l, s.Ordered) : (ofSpans l).Ordered := by
  unfold ofSpans
  split
  next s =>
    split
    next => trivial
    next => exact h
  next => exact h

theorem matches_ofSpans (l : List UnitSpan) (u : CodeUnit) :
    (ofSpans l).Matches u ↔ ∃ s ∈ l, u ∈ s := by
  unfold ofSpans
  split
  next s =>
    split
    next hsingle =>
      have hmem : u ∈ s ↔ s.min.toNat ≤ u.toNat ∧ u.toNat ≤ s.max.toNat := UnitSpan.mem_iff
      rw [← hsingle, ← Nat.le_antisymm_iff, UInt16.toNat_inj, eq_comm] at hmem
      simpa [Matches] using hmem.symm
    next => rfl
  next => rfl

end UnitClass

namespace Matcher

variable {units : List CodeUnit}

/-! ## The pattern of a matcher -/

/-- The spans of single units have the bounds of the ranges that they come from. -/
theorem bounds_unitSpan {r s : ScalarRange} (h : r.bmp? = some s) :
    (⟨UInt16.ofNat s.first, UInt16.ofNat s.last⟩ : UnitSpan).bounds = s.bounds := by
  have hbounds := ScalarRange.bounds_of_bmp? h
  have hle := s.first_le_last
  simp only [ScalarRange.bounds, Bounds.mk.injEq] at hbounds
  have hfirst : (UInt16.ofNat s.first).toNat = s.first :=
    UInt16.toNat_ofNat_of_lt' (by simp only [UInt16.size]; omega)
  have hlast : (UInt16.ofNat s.last).toNat = s.last :=
    UInt16.toNat_ofNat_of_lt' (by simp only [UInt16.size]; omega)
  rw [UnitSpan.bounds, hfirst, hlast, ScalarRange.bounds]

theorem exists_mem_unitSpans (l : List ScalarRange) (u : CodeUnit) :
    (∃ s ∈ (ofRanges l).unitSpans, u ∈ s) ↔ ScalarRange.Covered l u.toNat := by
  rw [← ScalarRange.covered_normalize, ← exists_mem_unitMappings u.toNat_lt]
  simp only [unitSpans, unitMappings, ranges_ofRanges, List.mem_map, exists_exists_and_eq_and]
  apply exists_congr
  intro s
  apply and_congr_right
  intro hs
  obtain ⟨r, -, hr⟩ := List.mem_filterMap.mp hs
  rw [UnitSpan.mem_iff, ← bounds_unitSpan hr]
  rfl

theorem ordered_unitSpans (m : Matcher) : ∀ s ∈ m.unitSpans, s.Ordered := by
  intro s hs
  obtain ⟨t, ht, rfl⟩ := List.mem_map.mp hs
  obtain ⟨r, -, hr⟩ := List.mem_filterMap.mp ht
  have hbounds := bounds_unitSpan hr
  simp only [UnitSpan.bounds, ScalarRange.bounds, Bounds.mk.injEq] at hbounds
  rw [UnitSpan.Ordered, UInt16.le_iff_toNat_le, hbounds.1, hbounds.2]
  exact t.first_le_last

/-- The pattern of a matcher is made of ordered spans. -/
theorem ordered_pattern (l : List ScalarRange) :
    ∀ a ∈ (ofRanges l).pattern, ∀ c ∈ a, c.Ordered := by
  have hspans := UnitClass.ordered_ofSpans (ofRanges l).ordered_unitSpans
  intro a ha c hc
  rcases List.mem_append.mp ha with ha | ha
  · split at ha
    next => simp at ha
    next =>
      obtain rfl := List.mem_singleton.mp ha
      obtain rfl := List.mem_singleton.mp hc
      exact hspans
  · obtain ⟨b, hb, rfl⟩ := List.mem_map.mp ha
    rw [boxes_ofRanges] at hb
    have hwell := SurrogateBox.wellFormed_of_mem_flatMap hb
    rcases List.mem_pair.mp hc with rfl | rfl
    · apply UnitClass.ordered_ofSpans
      simpa [UnitSpan.Ordered, UInt16.le_iff_toNat_le] using hwell.leads_le
    · apply UnitClass.ordered_ofSpans
      simpa [UnitSpan.Ordered, UInt16.le_iff_toNat_le] using hwell.trails_le

/-- The alternative of a box matches the pairs that the box holds. -/
theorem forall₂_boxPattern_iff (b : SurrogateBox) :
    List.Forall₂ UnitClass.Matches (boxPattern b) units ↔
      ∃ u v, units = [u, v] ∧ b.Contains u v := by
  simp only [boxPattern, List.forall₂_cons_left_iff, List.forall₂_nil_left_iff,
    UnitClass.matches_ofSpans, List.mem_singleton, exists_eq_left]
  constructor
  · rintro ⟨u, rest, hu, ⟨v, rest', hv, rfl, rfl⟩, rfl⟩
    exact ⟨u, v, rfl, hu, hv⟩
  · rintro ⟨u, v, rfl, hu, hv⟩
    exact ⟨u, [v], hu, ⟨v, [], hv, rfl, rfl⟩, rfl⟩

/-- The pattern of a matcher accepts the units of its spans and the pairs of its boxes. -/
theorem accepts_pattern_iff (m : Matcher) :
    m.pattern.Accepts units ↔
      (∃ u, units = [u] ∧ ∃ s ∈ m.unitSpans, u ∈ s) ∨
        ∃ u v, units = [u, v] ∧ ∃ b ∈ m.boxes, b.Contains u v := by
  rw [pattern, Pattern.accepts_append]
  apply or_congr
  · split
    next hspans => simp [Pattern.Accepts, hspans]
    next =>
      simp [Pattern.Accepts, List.forall₂_cons_left_iff, UnitClass.matches_ofSpans, and_comm]
  · simp only [Pattern.Accepts, List.mem_map, exists_exists_and_eq_and, forall₂_boxPattern_iff]
    constructor
    · rintro ⟨b, hb, u, v, hunits, hcontains⟩
      exact ⟨u, v, hunits, b, hb, hcontains⟩
    · rintro ⟨u, v, hunits, b, hb, hcontains⟩
      exact ⟨b, hb, u, v, hunits, hcontains⟩

/-- The pattern of a matcher accepts what the matcher does. -/
theorem accepts_pattern (l : List ScalarRange) :
    (ofRanges l).pattern.Accepts units ↔ (ofRanges l).accepts units = true := by
  have hpair : ∀ u v, (∃ b ∈ (ofRanges l).boxes, b.Contains u v) ↔
      CodeUnit.IsPair u v ∧ ScalarRange.Covered l (CodeUnit.decode u v) := by
    intro u v
    rw [boxes_ofRanges, SurrogateBox.exists_flatMap_contains, ScalarRange.covered_normalize]
  simp only [accepts_pattern_iff, exists_mem_unitSpans, hpair]
  constructor
  · rintro (⟨u, rfl, hu⟩ | ⟨u, v, rfl, huv, hcovered⟩)
    · exact (acceptsUnit_ofRanges l u).mpr hu
    · rw [accepts, Bool.and_eq_true, decide_eq_true_eq]
      exact ⟨huv, (acceptsTrail_ofRanges l huv).mpr hcovered⟩
  · intro h
    unfold accepts at h
    split at h
    next u => exact Or.inl ⟨u, rfl, (acceptsUnit_ofRanges l u).mp h⟩
    next u v =>
      rw [Bool.and_eq_true, decide_eq_true_eq] at h
      exact Or.inr ⟨u, v, rfl, h.1, (acceptsTrail_ofRanges l h.1).mp h.2⟩
    next => contradiction

/-- The first value of a range is accepted, so its matcher has a pattern with alternatives. -/
theorem pattern_ne_nil {l : List ScalarRange} (h : l ≠ []) : (ofRanges l).pattern ≠ [] := by
  obtain ⟨r, l', rfl⟩ := List.exists_cons_of_ne_nil h
  intro hnil
  have haccepts := (acceptsCodepoint_ofRanges (r :: l')
    ⟨r.first, Nat.le_trans r.first_le_last r.last_le⟩).mpr (ScalarRange.covered_first r l')
  rw [acceptsCodepoint, ← accepts_pattern, hnil, Pattern.Accepts] at haccepts
  simp at haccepts

/-- The text of a matcher that is not empty has one reading, and the pattern that is read
accepts the sequences of units that the matcher accepts. -/
theorem reads_toString_accepts (l : List ScalarRange) (h : l ≠ []) :
    ∃ p : Pattern, (∀ q, Pattern.Reads (toString (ofRanges l)).toList q ↔ q = p) ∧
      ∀ units, p.Accepts units ↔ (ofRanges l).accepts units = true := by
  have hreads := Pattern.reads_chars (pattern_ne_nil h) (ordered_pattern l)
  have htext : (toString (ofRanges l)).toList = (ofRanges l).pattern.chars :=
    String.toList_ofList
  refine ⟨(ofRanges l).pattern, fun q => ?_, fun units => accepts_pattern l⟩
  rw [htext]
  constructor
  · intro hq
    exact hq.unique hreads
  · rintro rfl
    exact hreads

/-- A range that straddles the end of the single units. -/
theorem reads_toString_accepts_straddling :
    ∃ r, ScalarRange.ofBounds ⟨0xFF00, 0x10401⟩ = .ok r ∧
      toString (ofRanges [r]) =
        "[\\uff00-\\uffff]|\\ud800[\\udc00-\\udfff]|\\ud801[\\udc00-\\udc01]" ∧
      ∃ p : Pattern, (∀ q, Pattern.Reads (toString (ofRanges [r])).toList q ↔ q = p) ∧
        p.Accepts [0xFF21] ∧ p.Accepts [0xD801, 0xDC01] ∧ ¬p.Accepts [0xD801] ∧
        ¬p.Accepts [0xDC01, 0xD801] := by
  let r : ScalarRange := ⟨0xFF00, 0x10401, by decide, by decide, by decide⟩
  obtain ⟨p, hreads, haccepts⟩ := reads_toString_accepts [r] (by simp)
  refine ⟨r, rfl, by decide +kernel, p, hreads, ?_, ?_, ?_, ?_⟩
  · rw [haccepts, accepts_ofRanges]
    exact ⟨0xFF21, ⟨r, by simp, by decide⟩, .single (by decide) rfl⟩
  · rw [haccepts, accepts_ofRanges]
    exact ⟨0x10401, ⟨r, by simp, by decide⟩, .pair (by decide) (by decide) rfl rfl⟩
  · rw [haccepts]
    decide +kernel
  · rw [haccepts]
    decide +kernel

/-- Without ranges the text is empty.  It is read as an empty alternative, which accepts the
empty sequence. -/
example : toString (ofRanges []) = "" ∧ Pattern.Reads [] [[]] ∧ Pattern.Accepts [[]] [] ∧
    (ofRanges []).accepts [] = false :=
  ⟨by decide +kernel, .last .nil, by decide, rfl⟩

end Matcher
end TextBoundary
