import TextBoundary.Proofs.Boundary

/-!
# Slices at a position

A text that is cut at a position that splits no pair reads as its two slices one after
the other.  Rules that decide alike on both sides of their boundaries whether or not the
rest of the text is there find the same boundaries in a slice as in the text.
-/

namespace TextBoundary

/-- Rules are restartable when what lies beyond a boundary does not matter. -/
structure Rule.Restartable (rules : List Rule) : Prop where
  behind : ∀ {l r₁ r₂ : List Codepoint}, r₁ ≠ [] → Rule.Breaks rules l (r₁ ++ r₂) →
    (Rule.Breaks rules (l ++ r₁) r₂ ↔ Rule.Breaks rules r₁ r₂)
  ahead : ∀ {l₁ l₂ r : List Codepoint}, l₂ ≠ [] → Rule.Breaks rules (l₁ ++ l₂) r →
    (Rule.Breaks rules l₁ (l₂ ++ r) ↔ Rule.Breaks rules l₁ l₂)

namespace Text

variable {t : Text} {rules : List Rule} {b p q : Nat}

/-! ## Slices of slices -/

theorem slice_start_slice (h : q ≤ b) : (t.slice 0 b).slice p q = t.slice p q := by
  simp only [slice, Array.extract_extract, Nat.zero_add]
  rw [Nat.min_eq_left h]

theorem slice_stop_slice (h : b + q ≤ t.size) :
    (t.slice b t.size).slice p q = t.slice (b + p) (b + q) := by
  simp only [slice, Array.extract_extract]
  rw [Nat.min_eq_left h]

/-! ## What slices read -/

theorem units_slice : (t.slice p q).units.toList = (t.units.toList.take q).drop p := by
  rw [slice, Array.toList_extract, List.extract_eq_take_drop, List.drop_take]

theorem size_slice (hq : q ≤ t.size) : (t.slice p q).size = q - p := by
  rw [size] at *
  rw [slice, Array.size_extract, Nat.min_eq_left hq]

theorem units_slice_start : (t.slice 0 b).units.toList = t.units.toList.take b := by
  simp [slice]

theorem units_slice_stop : (t.slice b t.size).units.toList = t.units.toList.drop b := by
  simp [slice, size, List.take_of_length_le]

theorem size_slice_start (hb : b ≤ t.size) : (t.slice 0 b).size = b := by
  rw [size_slice hb, Nat.sub_zero]

theorem size_slice_stop : (t.slice b t.size).size = t.size - b :=
  size_slice (Nat.le_refl _)

theorem before_slice_start (hp : p ≤ b) : (t.slice 0 b).before p = t.before p := by
  rw [before, before, units_slice_start, List.take_take, Nat.min_eq_left hp]

theorem after_slice_stop : (t.slice b t.size).after q = t.after (b + q) := by
  rw [after, after, units_slice_stop, List.drop_drop]

theorem codepoints_slice_start : (t.slice 0 b).codepoints = t.before b := by
  rw [codepoints, units_slice_start, before]

theorem codepoints_slice_stop : (t.slice b t.size).codepoints = t.after b := by
  rw [codepoints, units_slice_stop, after]

theorem splitsPair_slice_start (hb : b ≤ t.size) (hp : p < b) :
    (t.slice 0 b).SplitsPair p ↔ t.SplitsPair p := by
  have hhead : ((t.units.toList.take b).drop p).head? = (t.units.toList.drop p).head? := by
    rw [List.drop_take, List.head?_take, if_neg (by omega)]
  rw [splitsPair_iff (by rw [size_slice_start hb]; omega), splitsPair_iff (by omega),
    units_slice_start, List.take_take, Nat.min_eq_left (by omega), Codepoint.MeetInPair,
    Codepoint.MeetInPair, hhead]

theorem splitsPair_slice_stop (hq : 0 < q) (hle : b + q ≤ t.size) :
    (t.slice b t.size).SplitsPair q ↔ t.SplitsPair (b + q) := by
  have hlast : ((t.units.toList.drop b).take q).getLast? =
      (t.units.toList.take (b + q)).getLast? := by
    rw [List.take_drop, List.getLast?_drop, if_neg]
    rw [List.length_take, length_units_toList]
    omega
  rw [splitsPair_iff (by rw [size_slice_stop]; omega), splitsPair_iff hle, units_slice_stop,
    List.drop_drop, Codepoint.MeetInPair, Codepoint.MeetInPair, hlast]

/-- What stands after a position is the rest of the slice and what stands after it. -/
theorem after_eq_append (hb : b ≤ t.size) (h : ¬t.SplitsPair b) (hp : p ≤ b) :
    t.after p = (t.slice 0 b).after p ++ t.after b := by
  rw [splitsPair_iff hb] at h
  have hsplit : t.units.toList.drop p =
      (t.units.toList.take b).drop p ++ t.units.toList.drop b := by
    rw [← List.drop_append_of_le_length, List.take_append_drop]
    rw [List.length_take, length_units_toList]
    omega
  rw [after, after, after, units_slice_start, hsplit, Codepoint.read_append]
  rintro ⟨u, v, hu, hv, hpair⟩
  rw [List.getLast?_drop] at hu
  split_ifs at hu
  exact h ⟨u, v, hu, hv, hpair⟩

/-- What stands before a position is what stands before the slice and its beginning. -/
theorem before_eq_append (hb : b ≤ t.size) (h : ¬t.SplitsPair b) :
    t.before (b + q) = t.before b ++ (t.slice b t.size).before q := by
  rw [splitsPair_iff hb] at h
  rw [before, before, before, units_slice_stop, List.take_add, Codepoint.read_append]
  rintro ⟨u, v, hu, hv, hpair⟩
  rw [List.head?_take] at hv
  split_ifs at hv
  exact h ⟨u, v, hu, hv, hpair⟩

/-- What stands before a position is what stands before a slice that ends there, and the
slice. -/
theorem before_eq_append_slice (hp : p ≤ t.size) (h : ¬t.SplitsPair p) (hpq : p ≤ q) :
    t.before q = t.before p ++ (t.slice p q).codepoints := by
  have hslice : (t.slice p q).codepoints = (t.slice p t.size).before (q - p) := by
    rw [codepoints, before, units_slice, units_slice_stop, List.drop_take]
  rw [hslice, ← before_eq_append hp h, Nat.add_sub_cancel' hpq]

/-- What stands after a position is the beginning of the slice from there and what stands
behind that. -/
theorem after_eq_before_append (hle : b + q ≤ t.size) (h : ¬t.SplitsPair (b + q)) :
    t.after b = (t.slice b t.size).before q ++ t.after (b + q) := by
  have hsplits : ¬(t.slice b t.size).SplitsPair q := by
    intro hsplits
    exact h ((splitsPair_slice_stop hsplits.pos hle).mp hsplits)
  rw [← codepoints_slice_stop, ← after_slice_stop]
  exact codepoints_eq_append (by rw [size_slice_stop]; omega) hsplits

/-! ## Boundaries in slices -/

/-- The boundaries before a boundary are those of the slice that ends there. -/
theorem isBoundary_slice_start_iff (hrules : Rule.Restartable rules) (hb : b ≤ t.size)
    (h : t.IsBoundary rules b) (hp : p < b) :
    (t.slice 0 b).IsBoundary rules p ↔ t.IsBoundary rules p := by
  rcases Nat.eq_zero_or_pos p with rfl | hpos
  · simp only [isBoundary_of_end (Or.inl rfl)]
  have hsize := size_slice_start hb
  rw [isBoundary_iff hpos (by omega), isBoundary_iff hpos (by omega),
    splitsPair_slice_start hb hp, before_slice_start (Nat.le_of_lt hp)]
  refine and_congr_right fun hsplits => ?_
  have hsplits' : ¬(t.slice 0 b).SplitsPair p := by rwa [splitsPair_slice_start hb hp]
  have hbefore : t.before b = t.before p ++ (t.slice 0 b).after p := by
    rw [← before_slice_start (Nat.le_of_lt hp), ← codepoints_slice_start]
    exact codepoints_eq_append (by omega) hsplits'
  have hne : (t.slice 0 b).after p ≠ [] := by
    rw [ne_eq, after_eq_nil_iff]
    omega
  have hafter := after_eq_append hb h.not_splitsPair (Nat.le_of_lt hp)
  rcases Nat.lt_or_eq_of_le hb with hlt | rfl
  · rw [isBoundary_iff (by omega) hlt, hbefore] at h
    rw [hafter, hrules.ahead hne h.2]
  · rw [hafter, after_eq_nil_iff.mpr (Nat.le_refl _), List.append_nil]

/-- The boundaries after a boundary are those of the slice that begins there. -/
theorem isBoundary_slice_stop_iff (hrules : Rule.Restartable rules) (hb : b ≤ t.size)
    (h : t.IsBoundary rules b) (hq : 0 < q) :
    (t.slice b t.size).IsBoundary rules q ↔ t.IsBoundary rules (b + q) := by
  have hsize : (t.slice b t.size).size = t.size - b := size_slice_stop
  by_cases hend : t.size ≤ b + q
  · have hsliceEnd : (t.slice b t.size).size ≤ q := by omega
    simp only [isBoundary_of_end (Or.inr hend), isBoundary_of_end (Or.inr hsliceEnd)]
  rw [isBoundary_iff hq (by omega), isBoundary_iff (by omega) (by omega),
    splitsPair_slice_stop hq (by omega), after_slice_stop]
  refine and_congr_right fun hsplits => ?_
  have hafter := after_eq_before_append (by omega) hsplits
  have hne : (t.slice b t.size).before q ≠ [] := by
    rw [ne_eq, before_eq_nil_iff (by omega)]
    omega
  have hbefore := before_eq_append (q := q) hb h.not_splitsPair
  rcases Nat.eq_zero_or_pos b with rfl | hpos
  · rw [hbefore, (before_eq_nil_iff (Nat.zero_le _)).mpr rfl, List.nil_append]
  · rw [isBoundary_iff hpos (by omega), hafter] at h
    rw [hbefore, hrules.behind hne h.2]

end Text
end TextBoundary
