import Mathlib.Order.Bounds.Defs
import TextBoundary.Proofs.Grapheme.Partition
import TextBoundary.Proofs.Word.Restart

/-!
# Moving a caret from boundary to boundary

A caret moves to the nearest boundary, forward or back, from any position: also from one
inside a pair, where its first step reads half of the pair.  On boundaries the two moves undo
each other, so moving back from the end of a text visits in reverse what moving forward from
its beginning visits.

None of this depends on the rules.  It is enough that both ends of the text are boundaries
and that the middle of a pair is none.
-/

namespace TextBoundary
namespace Text

variable {t : Text} {stops : Nat → Bool} {pos : Nat}

/-- A caret moves between the positions at which a condition holds: forward to the least of
them that lies ahead, back to the greatest that lies behind. -/
structure CaretMoves (t : Text) (stops : Nat → Bool) (next prev : Nat → Nat) : Prop where
  isLeast_next : ∀ pos, pos < t.size → IsLeast {p | pos < p ∧ stops p = true} (next pos)
  next_le_size : ∀ pos, pos < t.size → next pos ≤ t.size
  isGreatest_prev : ∀ pos, 0 < pos → pos ≤ t.size →
    IsGreatest {p | p < pos ∧ stops p = true} (prev pos)
  next_of_size_le : ∀ pos, t.size ≤ pos → next pos = pos
  prev_zero : prev 0 = 0
  prev_of_size_lt : ∀ pos, t.size < pos → prev pos = pos
  next_not_splitsPair : ∀ pos, ¬t.SplitsPair (next pos)
  prev_not_splitsPair : ∀ pos, ¬t.SplitsPair (prev pos)
  prev_next : ∀ pos, pos < t.size → stops pos = true → prev (next pos) = pos
  next_prev : ∀ pos, 0 < pos → pos ≤ t.size → stops pos = true → next (prev pos) = pos

theorem not_splitsPair_of_end (h : pos = 0 ∨ t.size ≤ pos) : ¬t.SplitsPair pos := by
  intro hsplits
  have hpos := hsplits.pos
  have hlt := hsplits.lt_size
  omega

theorem Stops.not_splitsPair (h : t.Stops stops) (hpos : stops pos = true) :
    ¬t.SplitsPair pos := by
  intro hsplits
  rw [h.in_pair pos hsplits] at hpos
  contradiction

/-! ## One move -/

/-- Of the positions before the next one, the one that the caret came from is the
greatest. -/
theorem isGreatest_of_isLeast {next : Nat} (h : IsLeast {p | pos < p ∧ stops p = true} next)
    (hstop : stops pos = true) : IsGreatest {p | p < next ∧ stops p = true} pos := by
  refine ⟨⟨h.1.1, hstop⟩, ?_⟩
  rintro p ⟨hlt, hp⟩
  apply Nat.le_of_not_lt
  intro hpassed
  exact Nat.not_le.mpr hlt (h.2 ⟨hpassed, hp⟩)

theorem isLeast_of_isGreatest {prev : Nat} (h : IsGreatest {p | p < pos ∧ stops p = true} prev)
    (hstop : stops pos = true) : IsLeast {p | prev < p ∧ stops p = true} pos := by
  refine ⟨⟨h.1.1, hstop⟩, ?_⟩
  rintro p ⟨hlt, hp⟩
  apply Nat.le_of_not_lt
  intro hpassed
  exact Nat.not_le.mpr hlt (h.2 ⟨hpassed, hp⟩)

section Moves

variable (h : t.Stops stops)
include h

theorem isLeast_advance_forward (hpos : pos < t.size) :
    IsLeast {p | pos < p ∧ stops p = true} (t.advance .forward (fun s => stops s.pos) pos) := by
  obtain ⟨-, hfound, hbetween⟩ := advance_forward_spec h hpos
  refine ⟨⟨t.lt_advance_forward _ hpos, hfound⟩, ?_⟩
  rintro p ⟨hlt, hp⟩
  apply Nat.le_of_not_lt
  intro hpassed
  rw [hbetween p hlt hpassed] at hp
  contradiction

theorem advance_forward_not_splitsPair (pos : Nat) :
    ¬t.SplitsPair (t.advance .forward (fun s => stops s.pos) pos) := by
  rcases Nat.lt_or_ge pos t.size with hpos | hpos
  · exact h.not_splitsPair (isLeast_advance_forward h hpos).1.2
  · rw [advance_of_step?_eq_none (step?_forward_eq_none_iff.mpr hpos)]
    exact not_splitsPair_of_end (Or.inr hpos)

variable (hstart : stops 0 = true)
include hstart

theorem isGreatest_advance_backward (hpos : 0 < pos) (hle : pos ≤ t.size) :
    IsGreatest {p | p < pos ∧ stops p = true}
      (t.advance .backward (fun s => stops s.pos) pos) := by
  obtain ⟨hlt, hfound, hbetween⟩ := advance_backward_spec h hstart hpos hle
  refine ⟨⟨hlt, hfound⟩, ?_⟩
  rintro p ⟨hlt, hp⟩
  apply Nat.le_of_not_lt
  intro hpassed
  rw [hbetween p hpassed hlt] at hp
  contradiction

theorem advance_backward_not_splitsPair (pos : Nat) :
    ¬t.SplitsPair (t.advance .backward (fun s => stops s.pos) pos) := by
  by_cases hend : pos = 0 ∨ t.size < pos
  · rw [advance_of_step?_eq_none (step?_backward_eq_none_iff.mpr hend)]
    exact not_splitsPair_of_end (hend.imp_right Nat.le_of_lt)
  · have hpos : 0 < pos ∧ pos ≤ t.size := by omega
    exact h.not_splitsPair (isGreatest_advance_backward h hstart hpos.1 hpos.2).1.2

/-- A caret that stops by a condition moves between the positions at which it holds. -/
theorem caretMoves_advance :
    t.CaretMoves stops (t.advance .forward fun s => stops s.pos)
      (t.advance .backward fun s => stops s.pos) where
  isLeast_next _ hpos := isLeast_advance_forward h hpos
  next_le_size _ hpos := (advance_forward_spec h hpos).1
  isGreatest_prev _ hpos hle := isGreatest_advance_backward h hstart hpos hle
  next_of_size_le _ hpos := advance_of_step?_eq_none (step?_forward_eq_none_iff.mpr hpos)
  prev_zero := advance_of_step?_eq_none (step?_backward_eq_none_iff.mpr (Or.inl rfl))
  prev_of_size_lt _ hpos :=
    advance_of_step?_eq_none (step?_backward_eq_none_iff.mpr (Or.inr hpos))
  next_not_splitsPair := advance_forward_not_splitsPair h
  prev_not_splitsPair := advance_backward_not_splitsPair h hstart
  prev_next pos hpos hstop := by
    have hnext := isLeast_advance_forward h hpos
    have hlt : pos < t.advance .forward (fun s => stops s.pos) pos := hnext.1.1
    have hle := (advance_forward_spec h hpos).1
    exact (isGreatest_advance_backward h hstart (by omega) hle).unique
      (isGreatest_of_isLeast hnext hstop)
  next_prev pos hpos hle hstop := by
    have hprev := isGreatest_advance_backward h hstart hpos hle
    have hlt : t.advance .backward (fun s => stops s.pos) pos < pos := hprev.1.1
    exact (isLeast_advance_forward h (by omega)).unique (isLeast_of_isGreatest hprev hstop)

end Moves

/-! ## Many moves -/

/-- The last of the positions up to a given one, and those before it. -/
theorem filter_range_succ_of_isGreatest {prev : Nat} (hstop : stops pos = true)
    (hprev : IsGreatest {p | p < pos ∧ stops p = true} prev) :
    (List.range (pos + 1)).filter stops = (List.range (prev + 1)).filter stops ++ [pos] := by
  have hlt : prev < pos := hprev.1.1
  have hsplit : List.range pos =
      List.range (prev + 1) ++ List.range' (prev + 1) (pos - prev - 1) := by
    have happend := List.range'_append_1 (s := 0) (m := prev + 1) (n := pos - prev - 1)
    have hlength : prev + 1 + (pos - prev - 1) = pos := by omega
    rw [Nat.zero_add, hlength] at happend
    rw [List.range_eq_range', List.range_eq_range', happend]
  have hbetween : (List.range' (prev + 1) (pos - prev - 1)).filter stops = [] := by
    rw [List.filter_eq_nil_iff]
    intro p hp hp'
    rw [List.mem_range'_1] at hp
    have hle : p ≤ prev := hprev.2 ⟨by omega, hp'⟩
    omega
  rw [List.range_succ, List.filter_append, hsplit, List.filter_append, hbetween,
    List.append_nil, List.filter_cons_of_pos hstop, List.filter_nil]

/-- Moving back from a position that the caret stops at visits all such positions down to
the beginning of the text. -/
theorem CaretMoves.iterate_prev {next prev : Nat → Nat} (h : t.CaretMoves stops next prev)
    (hstart : stops 0 = true) (hpos : pos ≤ t.size) (hstop : stops pos = true) :
    List.iterate prev pos ((List.range (pos + 1)).filter stops).length =
      ((List.range (pos + 1)).filter stops).reverse := by
  induction pos using Nat.strong_induction_on with
  | h pos ih =>
      rcases Nat.eq_zero_or_pos pos with rfl | hlt
      · simp [hstart]
      · have hprev := h.isGreatest_prev pos hlt hpos
        have hback : prev pos < pos := hprev.1.1
        rw [filter_range_succ_of_isGreatest hstop hprev, List.length_append,
          List.length_singleton, List.iterate, ih _ hback (by omega) hprev.1.2,
          List.reverse_append, List.reverse_singleton, List.singleton_append]

end Text

/-! ## Both evaluators -/

namespace Word
namespace Evaluator

variable (e : Evaluator) (t : Text)

theorem isBreak_zero : e.isBreak t 0 = true := by
  have hprev : t.step? .backward 0 = none := Text.step?_backward_eq_none_iff.mpr (Or.inl rfl)
  rw [isBreak, hprev]

theorem caretMoves : t.CaretMoves (e.isBreak t) (e.nextBreak t) (e.prevBreak t) := by
  have hnext : e.nextBreak t = t.advance .forward fun s => e.isBreak t s.pos :=
    funext (e.moveBreak_eq_advance t .forward)
  have hprev : e.prevBreak t = t.advance .backward fun s => e.isBreak t s.pos :=
    funext (e.moveBreak_eq_advance t .backward)
  rw [hnext, hprev]
  exact Text.caretMoves_advance (e.stops_isBreak t) (e.isBreak_zero t)

theorem breaks_eq_filter_range :
    e.breaks t = (List.range (t.size + 1)).filter (e.isBreak t) := by
  rw [breaks_eq_filter, List.range_eq_range', List.range'_succ,
    List.filter_cons_of_pos (e.isBreak_zero t)]

end Evaluator
end Word

namespace Grapheme
namespace Evaluator

variable (e : Evaluator) (t : Text)

theorem isBreak_zero : e.isBreak t 0 = true := by
  have hprev : t.step? .backward 0 = none := Text.step?_backward_eq_none_iff.mpr (Or.inl rfl)
  rw [isBreak, hprev]

theorem caretMoves : t.CaretMoves (e.isBreak t) (e.nextBreak t) (e.prevBreak t) :=
  Text.caretMoves_advance (e.stops_isBreak t) (e.isBreak_zero t)

end Evaluator
end Grapheme

/-- Carets move exactly between the boundaries of words and of clusters, whatever the tables
and the limit on runs.  The list of word boundaries ascends through all of them, and moving
back from the end of the text visits the same list in reverse. -/
theorem caretMoves_between_breaks (w : Word.Evaluator) (g : Grapheme.Evaluator) (t : Text) :
    t.CaretMoves (w.isBreak t) (w.nextBreak t) (w.prevBreak t) ∧
      t.CaretMoves (g.isBreak t) (g.nextBreak t) (g.prevBreak t) ∧
      w.breaks t = (List.range (t.size + 1)).filter (w.isBreak t) ∧
      List.iterate (w.prevBreak t) t.size (w.breaks t).length = (w.breaks t).reverse := by
  refine ⟨w.caretMoves t, g.caretMoves t, w.breaks_eq_filter_range t, ?_⟩
  rw [w.breaks_eq_filter_range t]
  exact (w.caretMoves t).iterate_prev (w.isBreak_zero t) (Nat.le_refl _)
    (w.stops_isBreak t).at_end

end TextBoundary
