import Mathlib.Order.Bounds.Basic
import TextBoundary.Matcher.Search
import TextBoundary.Proofs.Classification
import TextBoundary.Proofs.Offsets
import TextBoundary.Proofs.Slice

/-!
# What a search finds

A matcher may be asked about any position of a text, also about one inside a pair, while a
search goes from codepoint to codepoint.  Both agree: inside a pair a lone trail is read,
and no matcher accepts a surrogate on its own.  The first match is therefore the one at the
least position at which there is any.

A search can be taken up again behind a match.  What is read from there on is the same in
the text and in what is left of it, so repeated searches find every accepted codepoint
once, from left to right.
-/

namespace TextBoundary
namespace Text

variable {t : Text} {b : Nat}

/-! ## The rest of a text -/

theorem unit?_slice_stop (t : Text) (b q : Nat) :
    (t.slice b t.size).unit? q = t.unit? (b + q) := by
  rw [unit?_eq, unit?_eq, units_slice_stop, List.drop_drop]

theorem next?_slice_stop (t : Text) (b q : Nat) :
    (t.slice b t.size).next? q = t.next? (b + q) := by
  simp only [next?, unit?_slice_stop, Nat.add_assoc]

/-- The rest of a text has the codepoints that the text has from there on. -/
theorem codepointsFrom_slice_stop (t : Text) (b q : Nat) :
    t.codepointsFrom (b + q) =
      ((t.slice b t.size).codepointsFrom q).map fun x => (b + x.1, x.2) := by
  generalize hl : (t.slice b t.size).codepointsFrom q = l
  induction l generalizing q with
  | nil =>
      cases hnext : t.next? (b + q) with
      | none => rw [codepointsFrom_of_next?_eq_none hnext, List.map_nil]
      | some c =>
          rw [← next?_slice_stop] at hnext
          rw [codepointsFrom_of_next? hnext] at hl
          contradiction
  | cons x l ih =>
      cases hnext : t.next? (b + q) with
      | none =>
          rw [← next?_slice_stop] at hnext
          rw [codepointsFrom_of_next?_eq_none hnext] at hl
          contradiction
      | some c =>
          have hslice := hnext
          rw [← next?_slice_stop] at hslice
          rw [codepointsFrom_of_next? hslice] at hl
          obtain ⟨rfl, hrest⟩ := List.cons_eq_cons.mp hl
          rw [codepointsFrom_of_next? hnext, List.map_cons, Nat.add_assoc, ih _ hrest]

theorem add_width_le_of_mem_steps {s : Step} (h : s ∈ t.steps .forward b) :
    b + s.codepoint.width ≤ s.pos := by
  generalize hd : Direction.forward = d at h
  fun_induction steps t d b with
  | case1 b hnone => contradiction
  | case2 b s' hsome ih =>
      subst hd
      obtain ⟨c, -, rfl⟩ := Option.map_eq_some_iff.mp hsome
      rcases List.mem_cons.mp h with rfl | hrest
      · exact Nat.le_refl _
      · have hle := ih hrest
        simp only at hle
        omega

end Text

namespace Matcher

variable {m : Matcher} {t : Text} {l : List ScalarRange} {p q n : Nat} {c : Codepoint}

/-- Where a codepoint starts and ends. -/
def span (x : Nat × Codepoint) : Nat × Nat :=
  (x.1, x.1 + x.2.width)

/-! ## One search -/

/-- A search finds the first codepoint accepted. -/
theorem find?_eq (m : Matcher) (t : Text) :
    m.find? t = ((t.codepointsFrom 0).find? fun x => m.acceptsCodepoint x.2).map span := by
  have hfirst : (t.scan .forward (fun c => !m.acceptsCodepoint c) none 0).found =
      (t.steps .forward 0).find? fun s => m.acceptsCodepoint s.codepoint := by
    rw [Text.scan_eq, List.find?_eq_head?_dropWhile_not]
    rfl
  rw [find?, hfirst, Text.codepointsFrom, List.find?_map, Option.map_map]
  apply Option.map_congr
  intro s hs
  have hle := Text.add_width_le_of_mem_steps (List.mem_of_find?_eq_some hs)
  simp only [span, Function.comp_apply, Prod.mk.injEq, true_and]
  omega

theorem find?_eq_none_iff :
    m.find? t = none ↔ ∀ x ∈ t.codepointsFrom 0, m.acceptsCodepoint x.2 = false := by
  rw [find?_eq, Option.map_eq_none_iff, List.find?_eq_none]
  simp only [Bool.not_eq_true]

/-- What is found is accepted, and nothing before it is. -/
theorem find?_eq_some_iff : m.find? t = some (p, q) ↔
    ∃ c before after, t.codepointsFrom 0 = before ++ (p, c) :: after ∧ q = p + c.width ∧
      m.acceptsCodepoint c = true ∧ ∀ x ∈ before, m.acceptsCodepoint x.2 = false := by
  rw [find?_eq, Option.map_eq_some_iff]
  simp only [List.find?_eq_some_iff_append, span, Prod.mk.injEq, Bool.not_eq_eq_eq_not,
    Bool.not_true]
  constructor
  · rintro ⟨⟨p, c⟩, ⟨haccepted, before, after, heq, hbefore⟩, rfl, rfl⟩
    exact ⟨c, before, after, heq, rfl, haccepted, hbefore⟩
  · rintro ⟨c, before, after, heq, rfl, haccepted, hbefore⟩
    exact ⟨(p, c), ⟨haccepted, before, after, heq, hbefore⟩, rfl, rfl⟩

/-- What is found is a codepoint of the text that is accepted. -/
theorem exists_accepted_of_find? (h : m.find? t = some (p, q)) :
    ∃ c, (p, c) ∈ t.codepointsFrom 0 ∧ q = p + c.width ∧ m.acceptsCodepoint c = true := by
  obtain ⟨c, before, after, heq, hq, haccepted, -⟩ := find?_eq_some_iff.mp h
  refine ⟨c, ?_, hq, haccepted⟩
  rw [heq]
  exact List.mem_append_right before List.mem_cons_self

theorem lt_of_find? (h : m.find? t = some (p, q)) : p < q ∧ q ≤ t.size := by
  obtain ⟨c, hmem, rfl, -⟩ := exists_accepted_of_find? h
  have hnext := (Text.mem_codepointsFrom_zero.mp hmem).2
  have hstep : t.step? .forward p = some ⟨c, p + c.width⟩ := by
    rw [Text.step?, hnext, Option.map_some]
  exact ⟨Text.lt_step?_pos hstep, Text.step?_pos_le hstep⟩

/-! ## Asking about a position -/

theorem not_acceptsCodepoint_of_isTrail {v : CodeUnit} (h : CodeUnit.IsTrail v) :
    ¬(ofRanges l).acceptsCodepoint (.ofUnit v) = true := by
  intro haccepted
  rw [acceptsCodepoint_ofRanges] at haccepted
  apply haccepted.not_surrogate
  simp only [CodeUnit.IsTrail] at h
  simp only [Codepoint.ofUnit]
  omega

/-- A match starts where a codepoint accepted does. -/
theorem matchAt?_eq_some_iff : (ofRanges l).matchAt? t p = some n ↔
    ∃ c, (p, c) ∈ t.codepointsFrom 0 ∧ c.width = n ∧ (ofRanges l).acceptsCodepoint c = true := by
  simp only [matchAt?, Option.map_eq_some_iff, Option.filter_eq_some_iff,
    Text.mem_codepointsFrom_zero]
  constructor
  · rintro ⟨c, ⟨hnext, haccepted⟩, hwidth⟩
    refine ⟨c, ⟨?_, hnext⟩, hwidth, haccepted⟩
    intro hsplits
    obtain ⟨v, -, htrail, htail, -⟩ := hsplits.next?_eq
    obtain rfl : .ofUnit v = c := Option.some.inj (htail.symm.trans hnext)
    exact not_acceptsCodepoint_of_isTrail htrail haccepted
  · rintro ⟨c, ⟨-, hnext⟩, hwidth, haccepted⟩
    exact ⟨c, ⟨hnext, haccepted⟩, hwidth⟩

/-- The positions of a text, its end among them, at which a matcher matches. -/
def matchPositions (m : Matcher) (t : Text) : Set Nat :=
  {p | p ≤ t.size ∧ ∃ n, m.matchAt? t p = some n}

/-- What a search finds is a match. -/
theorem matchAt?_of_find? (h : (ofRanges l).find? t = some (p, q)) :
    ∃ n, (ofRanges l).matchAt? t p = some n ∧ q = p + n := by
  obtain ⟨c, hmem, hq, haccepted⟩ := exists_accepted_of_find? h
  exact ⟨c.width, matchAt?_eq_some_iff.mpr ⟨c, hmem, rfl, haccepted⟩, hq⟩

/-- A search misses no match before the one that it finds. -/
theorem isLeast_of_find? (h : (ofRanges l).find? t = some (p, q)) :
    IsLeast ((ofRanges l).matchPositions t) p := by
  obtain ⟨n, hmatch, -⟩ := matchAt?_of_find? h
  obtain ⟨hlt, hle⟩ := lt_of_find? h
  refine ⟨⟨by omega, n, hmatch⟩, ?_⟩
  rintro p' ⟨-, n', hmatch'⟩
  obtain ⟨c', hmem, -, haccepted⟩ := matchAt?_eq_some_iff.mp hmatch'
  obtain ⟨c, before, after, heq, -, -, hbefore⟩ := find?_eq_some_iff.mp h
  have hordered := Text.pairwise_codepointsFrom t 0
  rw [heq] at hmem hordered
  rcases List.mem_append.mp hmem with hearlier | hlater
  · rw [hbefore _ hearlier] at haccepted
    contradiction
  · rcases List.mem_cons.mp hlater with hhere | hbehind
    · exact (congrArg Prod.fst hhere).ge
    · have hafter := (List.pairwise_append.mp hordered).2.1
      exact Nat.le_of_lt ((List.pairwise_cons.mp hafter).1 _ hbehind)

/-- A search finds the match at the least position. -/
theorem find?_eq_some_iff_isLeast : (ofRanges l).find? t = some (p, q) ↔
    IsLeast ((ofRanges l).matchPositions t) p ∧
      ∃ n, (ofRanges l).matchAt? t p = some n ∧ q = p + n := by
  constructor
  · intro h
    exact ⟨isLeast_of_find? h, matchAt?_of_find? h⟩
  · rintro ⟨hleast, n, hmatch, rfl⟩
    cases hfind : (ofRanges l).find? t with
    | none =>
        obtain ⟨c, hmem, -, haccepted⟩ := matchAt?_eq_some_iff.mp hmatch
        rw [find?_eq_none_iff.mp hfind _ hmem] at haccepted
        contradiction
    | some found =>
        obtain ⟨p', q'⟩ := found
        obtain rfl := hleast.unique (isLeast_of_find? hfind)
        obtain ⟨n', hmatch', rfl⟩ := matchAt?_of_find? hfind
        rw [Option.some.inj (hmatch.symm.trans hmatch')]

theorem find?_eq_none_iff_matchPositions :
    (ofRanges l).find? t = none ↔ (ofRanges l).matchPositions t = ∅ := by
  rw [Set.eq_empty_iff_forall_notMem]
  constructor
  · rintro h p ⟨-, n, hmatch⟩
    obtain ⟨c, hmem, -, haccepted⟩ := matchAt?_eq_some_iff.mp hmatch
    rw [find?_eq_none_iff.mp h _ hmem] at haccepted
    contradiction
  · intro h
    cases hfind : (ofRanges l).find? t with
    | none => rfl
    | some found => exact absurd (isLeast_of_find? hfind).1 (h found.1)

/-! ## Searching on -/

/-- All matches that searches find from a position on, each search in what is left of the
text behind the match before. -/
def matchesFrom (m : Matcher) (t : Text) (pos : Nat) : List (Nat × Nat) :=
  match _h : m.find? (t.slice pos t.size) with
  | none => []
  | some (start, stop) => (pos + start, pos + stop) :: m.matchesFrom t (pos + stop)
termination_by t.size - pos
decreasing_by
  have hle := lt_of_find? _h
  rw [Text.size_slice_stop] at hle
  omega

theorem filter_map_shift_eq_nil {before : List (Nat × Codepoint)}
    (h : ∀ x ∈ before, m.acceptsCodepoint x.2 = false) (pos : Nat) :
    (before.map fun x => (pos + x.1, x.2)).filter (fun x => m.acceptsCodepoint x.2) = [] := by
  rw [List.filter_map, List.map_eq_nil_iff, List.filter_eq_nil_iff]
  intro x hx
  simp [h x hx]

/-- Searches find the codepoints accepted, one after the other. -/
theorem matchesFrom_eq (m : Matcher) (t : Text) (pos : Nat) :
    m.matchesFrom t pos =
      ((t.codepointsFrom pos).filter fun x => m.acceptsCodepoint x.2).map span := by
  fun_induction matchesFrom m t pos with
  | case1 pos h =>
      have hrest := Text.codepointsFrom_slice_stop t pos 0
      rw [Nat.add_zero] at hrest
      rw [hrest, filter_map_shift_eq_nil (find?_eq_none_iff.mp h), List.map_nil]
  | case2 pos start stop h ih =>
      obtain ⟨c, before, after, heq, rfl, haccepted, hbefore⟩ := find?_eq_some_iff.mp h
      have hrest := Text.codepointsFrom_slice_stop t pos 0
      rw [Nat.add_zero, heq, List.map_append, List.map_cons] at hrest
      obtain ⟨-, -, hafter, -⟩ := Text.codepointsFrom_eq_append_cons hrest
      rw [hafter] at hrest
      have hkept : m.acceptsCodepoint (pos + start, c).2 = true := haccepted
      rw [ih, hrest, List.filter_append, filter_map_shift_eq_nil hbefore, List.nil_append,
        List.filter_cons, if_pos hkept, List.map_cons, ← Nat.add_assoc]
      rfl

/-! ## The whole search -/

/-- A matcher searches a text as if every position were tried: it matches at the codepoints
that it accepts, finds the match at the least position, and finds every one of them when
searched with again and again. -/
structure Searches (m : Matcher) (t : Text) : Prop where
  match_at : ∀ p n, m.matchAt? t p = some n ↔ ¬t.SplitsPair p ∧
    ∃ c, (p, c) ∈ t.codepointsFrom 0 ∧ c.width = n ∧ m.acceptsCodepoint c = true
  found : ∀ p q, m.find? t = some (p, q) ↔
    IsLeast (m.matchPositions t) p ∧ ∃ n, m.matchAt? t p = some n ∧ q = p + n
  not_found : m.find? t = none ↔ m.matchPositions t = ∅
  repeated : m.matchesFrom t 0 =
    ((t.codepointsFrom 0).filter fun x => m.acceptsCodepoint x.2).map span

/-- The matcher of some ranges accepts the codepoints in them, and searches for these. -/
theorem searches_ofRanges (l : List ScalarRange) (t : Text) :
    (∀ c : Codepoint, (ofRanges l).acceptsCodepoint c = true ↔ ScalarRange.Covered l c.value) ∧
      (ofRanges l).Searches t := by
  refine ⟨acceptsCodepoint_ofRanges l, ?_⟩
  exact {
    match_at := by
      intro p n
      rw [matchAt?_eq_some_iff]
      constructor
      · rintro ⟨c, hmem, hrest⟩
        exact ⟨(Text.mem_codepointsFrom_zero.mp hmem).1, c, hmem, hrest⟩
      · exact And.right
    found := fun _ _ => find?_eq_some_iff_isLeast
    not_found := find?_eq_none_iff_matchPositions
    repeated := matchesFrom_eq _ t 0 }

end Matcher
end TextBoundary
