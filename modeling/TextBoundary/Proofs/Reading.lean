import Mathlib.Data.List.TakeWhile
import TextBoundary.Text.Scan

/-!
# Reading a text from the left

The codepoints of a text are read from the left: a lead followed by a trail is
one codepoint, and any other unit is one of its own.  This module says that the
readers of a text agree with that reading.  From a position that does not split
a pair, forward steps read what stands after it, and backward steps read in
reverse what stands before it.

Pairing is local.  Two sequences of units are read one after the other unless
they meet inside a pair, and this is what makes both directions agree on text
that is not well formed.
-/

namespace TextBoundary
namespace Codepoint

/-- The codepoints of a sequence of units, read from the left. -/
def read : List CodeUnit → List Codepoint
  | [] => []
  | [u] => [ofUnit u]
  | u :: v :: rest =>
      if h : CodeUnit.IsPair u v then ofPair u v h :: read rest
      else ofUnit u :: read (v :: rest)

/-- Two sequences of units meet inside a pair when the last unit of the one and
the first unit of the other are its halves. -/
def MeetInPair (xs ys : List CodeUnit) : Prop :=
  ∃ u v, xs.getLast? = some u ∧ ys.head? = some v ∧ CodeUnit.IsPair u v

/-- Sequences that do not meet inside a pair are read independently. -/
theorem read_append {xs ys : List CodeUnit} (h : ¬MeetInPair xs ys) :
    read (xs ++ ys) = read xs ++ read ys := by
  fun_induction read xs with
  | case1 => rfl
  | case2 u =>
      cases ys with
      | nil => rfl
      | cons v ys =>
          have hpair : ¬CodeUnit.IsPair u v := fun hp => h ⟨u, v, rfl, rfl, hp⟩
          simp [read, hpair]
  | case3 u v rest hpair ih =>
      have hrest : ¬MeetInPair rest ys := by
        rintro ⟨a, b, ha, hb, hab⟩
        exact h ⟨a, b, by simp [List.getLast?_cons, ha], hb, hab⟩
      simp [read, hpair, ih hrest]
  | case4 u v rest hpair ih =>
      have hrest : ¬MeetInPair (v :: rest) ys := by
        rintro ⟨a, b, ha, hb, hab⟩
        exact h ⟨a, b, by simpa [List.getLast?_cons] using ha, hb, hab⟩
      simp only [List.cons_append] at ih ⊢
      simp [read, hpair, ih hrest]

theorem read_concat_pair (xs : List CodeUnit) {u v : CodeUnit}
    (h : CodeUnit.IsPair u v) :
    read (xs ++ [u, v]) = read xs ++ [ofPair u v h] := by
  have hmeet : ¬MeetInPair xs [u, v] := by
    rintro ⟨a, b, -, hb, hab⟩
    obtain rfl : u = b := by simpa using hb
    exact h.1.not_isTrail hab.2
  simp [read_append hmeet, read, h]

theorem read_concat_unit {xs : List CodeUnit} {v : CodeUnit}
    (h : ¬MeetInPair xs [v]) : read (xs ++ [v]) = read xs ++ [ofUnit v] := by
  rw [read_append h, read]

/-- Nothing is lost in reading. -/
theorem flatMap_units_read (us : List CodeUnit) :
    (read us).flatMap units = us := by
  fun_induction read us with
  | case1 => rfl
  | case2 u => simp
  | case3 u v rest hpair ih => simp [ih]
  | case4 u v rest hpair ih => simp [ih]

/-- Every codepoint is written with some unit. -/
theorem eq_nil_of_flatMap_units {l : List Codepoint} (h : l.flatMap units = []) : l = [] := by
  cases l with
  | nil => rfl
  | cons c l =>
      rw [List.flatMap_cons, List.append_eq_nil_iff, ← List.length_eq_zero_iff,
        length_units] at h
      exact absurd h.1 (Nat.ne_of_gt c.width_pos)

@[simp] theorem read_eq_nil_iff {us : List CodeUnit} : read us = [] ↔ us = [] := by
  constructor
  · intro h
    have hunits := flatMap_units_read us
    rw [h] at hunits
    exact hunits.symm
  · rintro rfl
    rfl

end Codepoint

namespace Text

/-! ## What stands before and after a position -/

/-- The codepoints of a text, read from the left. -/
def codepoints (t : Text) : List Codepoint :=
  Codepoint.read t.units.toList

/-- The codepoints of the units before a position. -/
def before (t : Text) (pos : Nat) : List Codepoint :=
  Codepoint.read (t.units.toList.take pos)

/-- The codepoints of the units after a position. -/
def after (t : Text) (pos : Nat) : List Codepoint :=
  Codepoint.read (t.units.toList.drop pos)

/-- A position stands between two sequences of codepoints when the text reads as
the one followed by the other, and the first is written with the units before the
position. -/
structure Between (t : Text) (pos : Nat) (l r : List Codepoint) : Prop where
  reading : t.codepoints = l ++ r
  units : l.flatMap Codepoint.units = t.units.toList.take pos

@[simp] theorem length_units_toList (t : Text) : t.units.toList.length = t.size :=
  Array.length_toList

theorem unit?_eq (t : Text) (pos : Nat) :
    t.unit? pos = (t.units.toList.drop pos).head? := by
  simp [unit?, List.head?_drop]

theorem unitBefore?_eq {t : Text} {pos : Nat} (h : pos ≤ t.size) :
    t.unitBefore? pos = (t.units.toList.take pos).getLast? := by
  cases pos with
  | zero => rfl
  | succ pos =>
      have hlt : pos < t.units.size := h
      simp [unitBefore?, unit?, List.getLast?_take, Array.getElem?_eq_getElem hlt]

theorem splitsPair_iff {t : Text} {pos : Nat} (h : pos ≤ t.size) :
    t.SplitsPair pos ↔
      Codepoint.MeetInPair (t.units.toList.take pos) (t.units.toList.drop pos) := by
  simp only [SplitsPair, Codepoint.MeetInPair, unit?_eq, unitBefore?_eq h]

theorem SplitsPair.pos {t : Text} {pos : Nat} (h : t.SplitsPair pos) : 0 < pos := by
  obtain ⟨u, v, hu, -, -⟩ := h
  cases pos with
  | zero => simp [unitBefore?] at hu
  | succ pos => omega

theorem SplitsPair.lt_size {t : Text} {pos : Nat} (h : t.SplitsPair pos) :
    pos < t.size := by
  obtain ⟨u, v, -, hv, -⟩ := h
  rw [← unit?_isSome_iff, hv]
  rfl

/-- A position that splits no pair divides the reading of the text. -/
theorem codepoints_eq_append {t : Text} {pos : Nat} (hle : pos ≤ t.size)
    (h : ¬t.SplitsPair pos) : t.codepoints = t.before pos ++ t.after pos := by
  rw [splitsPair_iff hle] at h
  rw [before, after, ← Codepoint.read_append h, List.take_append_drop, codepoints]

theorem between_before_after {t : Text} {pos : Nat} (hle : pos ≤ t.size)
    (h : ¬t.SplitsPair pos) : t.Between pos (t.before pos) (t.after pos) where
  reading := codepoints_eq_append hle h
  units := Codepoint.flatMap_units_read _

/-- A position stands between no other two sequences. -/
theorem Between.unique {t : Text} {pos : Nat} {l r l' r' : List Codepoint}
    (h : t.Between pos l r) (h' : t.Between pos l' r') : l = l' ∧ r = r' := by
  have hreading := h.reading.symm.trans h'.reading
  have hunits := h.units.trans h'.units.symm
  rcases List.append_eq_append_iff.mp hreading with ⟨m, rfl, rfl⟩ | ⟨m, rfl, rfl⟩
  · rw [List.flatMap_append, List.self_eq_append_right] at hunits
    rw [Codepoint.eq_nil_of_flatMap_units hunits, List.append_nil, List.nil_append]
    exact ⟨rfl, rfl⟩
  · rw [List.flatMap_append, List.append_right_eq_self] at hunits
    rw [Codepoint.eq_nil_of_flatMap_units hunits, List.append_nil, List.nil_append]
    exact ⟨rfl, rfl⟩

theorem before_eq_nil_iff {t : Text} {pos : Nat} (hle : pos ≤ t.size) :
    t.before pos = [] ↔ pos = 0 := by
  rw [before, Codepoint.read_eq_nil_iff, ← List.length_eq_zero_iff,
    List.length_take, length_units_toList]
  omega

theorem after_eq_nil_iff {t : Text} {pos : Nat} :
    t.after pos = [] ↔ t.size ≤ pos := by
  rw [after, Codepoint.read_eq_nil_iff, List.drop_eq_nil_iff, length_units_toList]

/-! ## Steps read the same codepoints -/

theorem after_of_next? {t : Text} {pos : Nat} {c : Codepoint}
    (h : t.next? pos = some c) : t.after pos = c :: t.after (pos + c.width) := by
  have htail : t.units.toList.drop (pos + 1) = (t.units.toList.drop pos).tail := by
    rw [List.tail_drop]
  have htail2 : t.units.toList.drop (pos + 2) =
      (t.units.toList.drop pos).tail.tail := by
    rw [List.tail_drop, List.tail_drop]
  simp only [next?, unit?_eq, htail] at h
  rw [after, after]
  generalize t.units.toList.drop pos = us at *
  cases us with
  | nil => simp at h
  | cons u us =>
      cases us with
      | nil =>
          obtain rfl : Codepoint.ofUnit u = c := by simpa using h
          simp [Codepoint.read, htail]
      | cons v rest =>
          by_cases hpair : CodeUnit.IsPair u v
          · obtain rfl : Codepoint.ofPair u v hpair = c := by simpa [hpair] using h
            simp [Codepoint.read, hpair, htail2]
          · obtain rfl : Codepoint.ofUnit u = c := by simpa [hpair] using h
            simp [Codepoint.read, hpair, htail]

theorem take_pred_units {t : Text} {pos : Nat} (h : pos ≤ t.size) :
    t.units.toList.take (pos - 1) = (t.units.toList.take pos).dropLast := by
  rw [List.dropLast_eq_take, List.take_take, List.length_take, length_units_toList]
  congr 1
  omega

theorem before_of_prev? {t : Text} {pos : Nat} {c : Codepoint}
    (h : t.prev? pos = some c) :
    t.before pos = t.before (pos - c.width) ++ [c] := by
  have hpos : ¬(pos = 0 ∨ t.size < pos) := by
    rw [← prev?_eq_none_iff, h]
    simp
  have hle : pos ≤ t.size := by omega
  have hinit := take_pred_units hle
  have hinit2 : t.units.toList.take (pos - 2) =
      (t.units.toList.take pos).dropLast.dropLast := by
    rw [← hinit, ← take_pred_units (by omega), Nat.sub_sub]
  simp only [prev?, unitBefore?_eq hle,
    unitBefore?_eq (Nat.le_trans (Nat.sub_le pos 1) hle), hinit] at h
  rw [before, before]
  generalize t.units.toList.take pos = us at *
  rcases List.eq_nil_or_concat us with rfl | ⟨xs, v, rfl⟩
  · simp at h
  rcases List.eq_nil_or_concat xs with rfl | ⟨xs, u, rfl⟩
  · obtain rfl : Codepoint.ofUnit v = c := by simpa using h
    simp [hinit, Codepoint.read]
  by_cases hpair : CodeUnit.IsPair u v
  · obtain rfl : Codepoint.ofPair u v hpair = c := by simpa [hpair] using h
    simpa [hinit2] using Codepoint.read_concat_pair xs hpair
  · obtain rfl : Codepoint.ofUnit v = c := by simpa [hpair] using h
    have hmeet : ¬Codepoint.MeetInPair (xs ++ [u]) [v] := by
      simpa [Codepoint.MeetInPair] using hpair
    simpa [hinit] using Codepoint.read_concat_unit hmeet

theorem head?_after (t : Text) (pos : Nat) : (t.after pos).head? = t.next? pos := by
  cases h : t.next? pos with
  | none => rw [after_eq_nil_iff.mpr (next?_eq_none_iff.mp h), List.head?_nil]
  | some c => rw [after_of_next? h, List.head?_cons]

theorem getLast?_before_eq {t : Text} {pos : Nat} (hle : pos ≤ t.size) :
    (t.before pos).getLast? = t.prev? pos := by
  cases h : t.prev? pos with
  | none =>
      rw [prev?_eq_none_iff] at h
      rw [(before_eq_nil_iff hle).mpr (by omega), List.getLast?_nil]
  | some c => rw [before_of_prev? h, List.getLast?_concat]

/-- Forward steps read what stands after a position. -/
theorem map_codepoint_steps_forward (t : Text) (pos : Nat) :
    (t.steps .forward pos).map Step.codepoint = t.after pos := by
  generalize hd : Direction.forward = d
  fun_induction steps t d pos with
  | case1 pos h =>
      subst hd
      rw [step?, Option.map_eq_none_iff, next?_eq_none_iff] at h
      rw [after_eq_nil_iff.mpr h, List.map_nil]
  | case2 pos s h ih =>
      subst hd
      obtain ⟨c, hc, rfl⟩ := Option.map_eq_some_iff.mp h
      rw [List.map_cons, ih, after_of_next? hc]

/-- Backward steps read in reverse what stands before a position. -/
theorem map_codepoint_steps_backward {t : Text} {pos : Nat} (hle : pos ≤ t.size) :
    (t.steps .backward pos).map Step.codepoint = (t.before pos).reverse := by
  generalize hd : Direction.backward = d
  fun_induction steps t d pos with
  | case1 pos h =>
      subst hd
      rw [step?, Option.map_eq_none_iff, prev?_eq_none_iff] at h
      obtain rfl : pos = 0 := by omega
      rfl
  | case2 pos s h ih =>
      subst hd
      obtain ⟨c, hc, rfl⟩ := Option.map_eq_some_iff.mp h
      have hle' : pos - c.width ≤ t.size := by omega
      simpa [before_of_prev? hc] using ih hle'

/-- A step back crosses the last codepoint before a position. -/
theorem getLast?_before {t : Text} {pos : Nat} {s : Step}
    (h : t.step? .backward pos = some s) :
    (t.before pos).getLast? = some s.codepoint := by
  obtain ⟨c, hc, rfl⟩ := Option.map_eq_some_iff.mp h
  rw [before_of_prev? hc, List.getLast?_concat]

/-- A step forward crosses the first codepoint after a position. -/
theorem after_of_step? {t : Text} {pos : Nat} {s : Step}
    (h : t.step? .forward pos = some s) :
    t.after pos = s.codepoint :: t.after s.pos := by
  obtain ⟨c, hc, rfl⟩ := Option.map_eq_some_iff.mp h
  exact after_of_next? hc

theorem before_of_step? {t : Text} {pos : Nat} {s : Step}
    (h : t.step? .backward pos = some s) :
    t.before pos = t.before s.pos ++ [s.codepoint] := by
  obtain ⟨c, hc, rfl⟩ := Option.map_eq_some_iff.mp h
  exact before_of_prev? hc

/-! ## What a scan without bound finds -/

theorem scan_run (t : Text) (d : Direction) (skip : Codepoint → Bool) (pos : Nat) :
    (t.scan d skip none pos).run =
      ((t.steps d pos).map Step.codepoint).takeWhile skip := by
  rw [scan_eq, Scan.ofSteps, Reach.cut, List.takeWhile_map]
  rfl

/-- After the run come the codepoint that a scan finds and what follows it. -/
theorem dropWhile_of_scan_found {t : Text} {d : Direction} {skip : Codepoint → Bool}
    {pos : Nat} {s : Step} (h : (t.scan d skip none pos).found = some s) :
    ((t.steps d pos).map Step.codepoint).dropWhile skip =
      s.codepoint :: (t.steps d s.pos).map Step.codepoint := by
  rw [scan_eq] at h
  simp only [Scan.ofSteps, Reach.cut] at h
  fun_induction steps t d pos with
  | case1 pos hnone => simp at h
  | case2 pos s' hsome ih =>
      by_cases hskip : skip s'.codepoint
      · simp only [List.dropWhile_cons, hskip, if_true] at h
        simpa [hskip] using ih h
      · simp only [List.dropWhile_cons, hskip, if_false, List.head?_cons,
          Option.some.injEq, Bool.false_eq_true] at h
        subst h
        simp [hskip]

theorem dropWhile_of_scan_found_eq_none {t : Text} {d : Direction}
    {skip : Codepoint → Bool} {pos : Nat}
    (h : (t.scan d skip none pos).found = none) :
    ((t.steps d pos).map Step.codepoint).dropWhile skip = [] := by
  rw [scan_eq, Scan.ofSteps, Reach.cut, List.head?_eq_none_iff] at h
  rw [List.dropWhile_map]
  exact congrArg (List.map Step.codepoint) h

/-- A scan finds the first codepoint that it does not skip. -/
theorem map_codepoint_scan_found (t : Text) (d : Direction) (skip : Codepoint → Bool)
    (pos : Nat) :
    (t.scan d skip none pos).found.map Step.codepoint =
      (((t.steps d pos).map Step.codepoint).dropWhile skip).head? := by
  cases h : (t.scan d skip none pos).found with
  | none => rw [dropWhile_of_scan_found_eq_none h, Option.map_none, List.head?_nil]
  | some s => rw [dropWhile_of_scan_found h, Option.map_some, List.head?_cons]

theorem head?_dropWhile_eq_head?_filter {α : Type} (skip : α → Bool) (l : List α) :
    (l.dropWhile skip).head? = (l.filter fun c => !skip c).head? := by
  rw [List.head?_filter, List.find?_eq_head?_dropWhile_not]
  simp only [Bool.not_not]

theorem filter_eq_of_dropWhile {α : Type} {skip : α → Bool} {l m : List α} {c : α}
    (h : l.dropWhile skip = c :: m) :
    l.filter (fun c => !skip c) = c :: m.filter fun c => !skip c := by
  have hc : skip c = false := by
    have hhead := List.head?_dropWhile_not skip l
    rw [h] at hhead
    simpa using hhead
  have hrun : (l.takeWhile skip).filter (fun c => !skip c) = [] := by
    rw [List.filter_eq_nil_iff]
    intro d hd
    simp [List.mem_takeWhile_imp hd]
  rw [← List.takeWhile_append_dropWhile (p := skip) (l := l), List.filter_append, hrun, h]
  simp [hc]

end Text
end TextBoundary
