import TextBoundary.Proofs.Slice

/-!
# Inserting a codepoint

A codepoint that is no lone surrogate begins with no trail and ends with no lead, so it
never pairs up with what it is put next to.  Inserted between two codepoints it is read
as itself, and all that stands around it is read as before.  Rules that do not see it on
either side therefore find the same boundaries before it and behind it.
-/

namespace TextBoundary

namespace Codepoint

variable {c : Codepoint}

theorem read_units (c : Codepoint) : read c.units = [c] := by
  rw [units]
  split
  next hbmp =>
    have hvalue : (UInt16.ofNat c.value).toNat = c.value := UInt16.toNat_ofNat_of_lt' hbmp
    simp [read, ofUnit, hvalue]
  next hbmp =>
    have hvalue := CodeUnit.decode_lead_trail (Nat.le_of_not_lt hbmp) c.value_le
    simp [read, ofPair, CodeUnit.isPair_lead_trail c.value_le, hvalue]

/-- Nothing before a codepoint pairs up with its first unit. -/
theorem not_meetInPair_units_append (us vs : List CodeUnit) (h : ¬c.IsLoneSurrogate) :
    ¬MeetInPair us (c.units ++ vs) := by
  rintro ⟨u, v, -, hv, -, htrail⟩
  rw [units] at hv
  split at hv
  next hbmp =>
    obtain rfl := Option.some.inj hv
    rw [CodeUnit.IsTrail, UInt16.toNat_ofNat_of_lt' hbmp] at htrail
    rw [IsLoneSurrogate] at h
    omega
  next hbmp =>
    obtain rfl := Option.some.inj hv
    exact (CodeUnit.isPair_lead_trail c.value_le).1.not_isTrail htrail

/-- Nothing behind a codepoint pairs up with its last unit. -/
theorem not_meetInPair_append_units (us vs : List CodeUnit) (h : ¬c.IsLoneSurrogate) :
    ¬MeetInPair (us ++ c.units) vs := by
  rintro ⟨u, v, hu, -, hlead, -⟩
  rw [units] at hu
  split at hu
  next hbmp =>
    obtain rfl : UInt16.ofNat c.value = u := by simpa using hu
    rw [CodeUnit.IsLead, UInt16.toNat_ofNat_of_lt' hbmp] at hlead
    rw [IsLoneSurrogate] at h
    omega
  next hbmp =>
    obtain rfl : CodeUnit.trail c.value = u := by simpa using hu
    exact hlead.not_isTrail (CodeUnit.isPair_lead_trail c.value_le).2

end Codepoint

namespace Text

/-- A text with a codepoint inserted at a position. -/
def insert (t : Text) (q : Nat) (c : Codepoint) : Text :=
  ⟨(t.slice 0 q).units ++ c.units.toArray ++ (t.slice q t.size).units⟩

variable {t : Text} {rules : List Rule} {c : Codepoint} {k p q : Nat}

theorem units_insert : (t.insert q c).units.toList =
    t.units.toList.take q ++ (c.units ++ t.units.toList.drop q) := by
  rw [insert, Array.toList_append, Array.toList_append, units_slice_start, units_slice_stop,
    List.append_assoc]

section Position

variable (hq : q ≤ t.size)
include hq

theorem length_take_units : (t.units.toList.take q).length = q := by
  rw [List.length_take, length_units_toList]
  exact Nat.min_eq_left hq

theorem size_insert : (t.insert q c).size = t.size + c.width := by
  rw [← length_units_toList, units_insert, List.length_append, List.length_append,
    length_take_units hq, Codepoint.length_units, List.length_drop, length_units_toList]
  omega

/-! ## What stands before and after a position -/

theorem before_insert_of_le (hp : p ≤ q) : (t.insert q c).before p = t.before p := by
  have hlength := length_take_units hq
  rw [before, before, units_insert, List.take_append_of_le_length (by omega), List.take_take,
    Nat.min_eq_left hp]

theorem after_insert_of_le (hc : ¬c.IsLoneSurrogate) (hp : p ≤ q) :
    (t.insert q c).after p = (t.slice 0 q).after p ++ c :: t.after q := by
  have hlength := length_take_units hq
  have hself : Codepoint.read (c.units ++ t.units.toList.drop q) = c :: t.after q := by
    have hend : ¬Codepoint.MeetInPair c.units (t.units.toList.drop q) :=
      Codepoint.not_meetInPair_append_units [] _ hc
    rw [Codepoint.read_append hend, Codepoint.read_units, after, List.singleton_append]
  rw [after, after, units_insert, units_slice_start,
    List.drop_append_of_le_length (by omega),
    Codepoint.read_append (Codepoint.not_meetInPair_units_append _ _ hc), hself]

theorem drop_units_insert : (t.insert q c).units.toList.drop (q + c.width + k) =
    t.units.toList.drop (q + k) := by
  have hlength : (t.units.toList.take q ++ c.units).length = q + c.width := by
    rw [List.length_append, length_take_units hq, Codepoint.length_units]
  rw [units_insert, ← List.append_assoc, ← hlength, List.drop_length_add_append, List.drop_drop]

theorem take_units_insert : (t.insert q c).units.toList.take (q + c.width + k) =
    t.units.toList.take q ++ c.units ++ (t.units.toList.drop q).take k := by
  have hlength : (t.units.toList.take q ++ c.units).length = q + c.width := by
    rw [List.length_append, length_take_units hq, Codepoint.length_units]
  rw [units_insert, ← List.append_assoc, ← hlength, List.take_length_add_append]

theorem after_insert_add : (t.insert q c).after (q + c.width + k) = t.after (q + k) := by
  rw [after, after, drop_units_insert hq]

theorem before_insert_add (hc : ¬c.IsLoneSurrogate) :
    (t.insert q c).before (q + c.width + k) =
      t.before q ++ c :: (t.slice q t.size).before k := by
  have hstart := Codepoint.not_meetInPair_units_append (t.units.toList.take q) [] hc
  rw [List.append_nil] at hstart
  rw [before, before, before, take_units_insert hq, units_slice_stop,
    Codepoint.read_append (Codepoint.not_meetInPair_append_units _ _ hc),
    Codepoint.read_append hstart, Codepoint.read_units, List.append_assoc, List.singleton_append]

/-! ## Pairs -/

theorem unit?_insert_of_lt (hp : p < q) : (t.insert q c).unit? p = t.unit? p := by
  have hlength := length_take_units hq
  rw [unit?, unit?, ← Array.getElem?_toList, ← Array.getElem?_toList, units_insert,
    List.getElem?_append_left (by omega), List.getElem?_take_of_lt hp]

theorem unit?_insert_self (hk : k < c.width) :
    (t.insert q c).unit? (q + k) = c.units[k]? := by
  have hlength := length_take_units hq
  rw [unit?, ← Array.getElem?_toList, units_insert, List.getElem?_append_right (by omega),
    hlength, Nat.add_sub_cancel_left, List.getElem?_append_left]
  rwa [Codepoint.length_units]

theorem unit?_insert_add : (t.insert q c).unit? (q + c.width + k) = t.unit? (q + k) := by
  rw [unit?_eq, unit?_eq, drop_units_insert hq]

theorem splitsPair_insert_of_lt (hp : p < q) :
    (t.insert q c).SplitsPair p ↔ t.SplitsPair p := by
  cases p with
  | zero => simp only [SplitsPair, unitBefore?, reduceCtorEq, false_and, exists_false]
  | succ p =>
      simp only [SplitsPair, unitBefore?, unit?_insert_of_lt hq hp,
        unit?_insert_of_lt hq (Nat.lt_of_succ_lt hp)]

/-- The end of the codepoint is not inside a pair, like the position at which it was
inserted, and behind it nothing has changed. -/
theorem splitsPair_insert_add (hc : ¬c.IsLoneSurrogate) (hsplits : ¬t.SplitsPair q) :
    (t.insert q c).SplitsPair (q + c.width + k) ↔ t.SplitsPair (q + k) := by
  cases k with
  | zero =>
      have hend : ¬(t.insert q c).SplitsPair (q + c.width + 0) := by
        have hle : q + c.width + 0 ≤ (t.insert q c).size := by
          rw [size_insert hq]
          omega
        rw [splitsPair_iff hle, take_units_insert hq, List.take_zero, List.append_nil]
        exact Codepoint.not_meetInPair_append_units _ _ hc
      exact iff_of_false hend hsplits
  | succ k =>
      have hunit := unit?_insert_add hq (c := c) (k := k + 1)
      simp only [← Nat.add_assoc] at hunit ⊢
      simp only [SplitsPair, unitBefore?, hunit, unit?_insert_add hq]

/-- Behind its first unit, a codepoint is split. -/
theorem splitsPair_insert_inside (hk : 0 < k) (hwidth : k < c.width) :
    (t.insert q c).SplitsPair (q + k) := by
  obtain ⟨k, rfl⟩ := Nat.exists_eq_add_one_of_ne_zero (Nat.pos_iff_ne_zero.mp hk)
  have hbmp : ¬c.value < 0x10000 := by
    intro hbmp
    rw [Codepoint.width, if_pos hbmp] at hwidth
    omega
  have hunits : c.units = [CodeUnit.lead c.value, CodeUnit.trail c.value] := by
    rw [Codepoint.units, if_neg hbmp]
  have hfirst : k = 0 := by
    rw [Codepoint.width, if_neg hbmp] at hwidth
    omega
  subst hfirst
  refine ⟨CodeUnit.lead c.value, CodeUnit.trail c.value, ?_, ?_,
    CodeUnit.isPair_lead_trail c.value_le⟩
  · have hunit := unit?_insert_self hq (t := t) c.width_pos
    rwa [hunits] at hunit
  · have hunit := unit?_insert_self hq (t := t) hwidth
    rwa [hunits] at hunit

/-! ## Boundaries -/

/-- Where the rules do not see a codepoint on the right of other codepoints, the
boundaries before it stay. -/
theorem isBoundary_insert_of_lt (hc : ¬c.IsLoneSurrogate) (hsplits : ¬t.SplitsPair q)
    (hrules : ∀ l m, m ≠ [] → (Rule.Breaks rules l (m ++ c :: t.after q) ↔
      Rule.Breaks rules l (m ++ t.after q))) (hp : p < q) :
    (t.insert q c).IsBoundary rules p ↔ t.IsBoundary rules p := by
  rcases Nat.eq_zero_or_pos p with rfl | hpos
  · simp only [isBoundary_of_end (Or.inl rfl)]
  have hsize := size_insert hq (c := c)
  have hslice := size_slice_start hq
  rw [isBoundary_iff hpos (by omega), isBoundary_iff hpos (by omega),
    splitsPair_insert_of_lt hq hp, before_insert_of_le hq (Nat.le_of_lt hp),
    after_insert_of_le hq hc (Nat.le_of_lt hp), after_eq_append hq hsplits (Nat.le_of_lt hp)]
  have hne : (t.slice 0 q).after p ≠ [] := by
    rw [ne_eq, after_eq_nil_iff]
    omega
  rw [hrules _ _ hne]

/-- Where the rules do not see a codepoint behind what it is inserted after, the
boundaries behind it move with it. -/
theorem isBoundary_insert_add (hc : ¬c.IsLoneSurrogate) (hsplits : ¬t.SplitsPair q)
    (hpos : 0 < q) (hrules : ∀ m r, m ++ r = t.after q → r ≠ [] →
      (Rule.Breaks rules (t.before q ++ c :: m) r ↔ Rule.Breaks rules (t.before q ++ m) r)) :
    (t.insert q c).IsBoundary rules (q + c.width + k) ↔ t.IsBoundary rules (q + k) := by
  have hsize := size_insert hq (c := c)
  have hslice : (t.slice q t.size).size = t.size - q := size_slice_stop
  by_cases hend : t.size ≤ q + k
  · have hendInsert : (t.insert q c).size ≤ q + c.width + k := by omega
    simp only [isBoundary_of_end (Or.inr hend), isBoundary_of_end (Or.inr hendInsert)]
  rw [isBoundary_iff (by omega) (by omega), isBoundary_iff (by omega) (by omega),
    splitsPair_insert_add hq hc hsplits, after_insert_add hq, before_insert_add hq hc,
    before_eq_append hq hsplits]
  refine and_congr_right fun hsplits' => hrules _ _ ?_ ?_
  · exact (after_eq_before_append (by omega) hsplits').symm
  · rw [ne_eq, after_eq_nil_iff]
    exact hend

end Position

end Text
end TextBoundary
