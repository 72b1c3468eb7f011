import TextBoundary.Proofs.Movement
import TextBoundary.Proofs.Slice
import TextBoundary.Proofs.Word.Rules

/-!
# Word segmentation can be restarted at a boundary

What stands on one side of a boundary does not matter for the positions on the other
side.  The rules do look across: back over transparent codepoints and flag halves, and
one codepoint further than the neighbours in both directions.  Two facts make up for
that.  Where looking beyond the boundary would hold a position together, the opposite
rule holds the boundary together as well; and at a boundary inside a run of flag
halves, the number of halves before it is even.
-/

namespace TextBoundary
namespace Word
namespace Evaluator

variable {e : Evaluator} {k l l₁ l₂ m r r₁ r₂ : List Codepoint} {x : Codepoint}

/-! ## Base rules on both sides of a boundary -/

/-- Behind a boundary, the context on the left reaches up to the boundary. -/
theorem joins_contextOf_append (h : Rule.Breaks e.baseRules k (x :: (m ++ r))) :
    (e.contextOf (k ++ x :: m) r).joins = (e.contextOf (x :: m) r).joins := by
  rcases List.eq_nil_or_concat' m with rfl | ⟨m, d, rfl⟩
  · have hnot := (breaks_baseRules_iff.mp h).1
    simp only [contextOf, List.dropLast_concat, List.getLast?_concat, List.dropLast_singleton,
      List.getLast?_singleton, List.getLast?_nil, Option.bind_none, List.head?_cons,
      List.tail_cons, List.nil_append] at hnot ⊢
    rw [Bool.eq_iff_iff]
    constructor
    · intro hjoins
      by_contra hnone
      have hback := Context.joins_previous_of_lookback (k.dropLast.getLast?.bind e.propertyOf)
        hjoins (Bool.eq_false_iff.mpr hnone)
      rw [hnot] at hback
      contradiction
    · exact Context.joins_of_beforeLeft_none
  · rw [← List.cons_append, ← List.append_assoc]
    simp only [contextOf, List.dropLast_concat, List.getLast?_concat,
      List.getLast?_append_of_ne_nil k (List.cons_ne_nil x m)]

/-- Behind a boundary, runs of flag halves are counted from the boundary. -/
theorem odd_rtakeWhile_append (h : Rule.Breaks e.baseRules k (x :: (m ++ r))) :
    ((k ++ x :: m).rtakeWhile e.isRegional).length % 2 = 1 ↔
      ((x :: m).rtakeWhile e.isRegional).length % 2 = 1 := by
  apply append_mem_oddRun_iff
  intro hall
  have heven := (breaks_baseRules_iff.mp h).2
  have hx := isRegional_iff.mp (hall x List.mem_cons_self)
  rw [mem_oddRun]
  simp only [List.head?_cons, Option.bind_some, hx, and_true] at heven
  exact heven

theorem breaks_baseRules_append_left (h : Rule.Breaks e.baseRules k (x :: (m ++ r))) :
    Rule.Breaks e.baseRules (k ++ x :: m) r ↔ Rule.Breaks e.baseRules (x :: m) r := by
  rw [breaks_baseRules_iff, breaks_baseRules_iff, joins_contextOf_append h,
    odd_rtakeWhile_append h]

/-- No rule reads further than the second codepoint on the right. -/
theorem breaks_baseRules_append_right_of_ne_nil (hm : m ≠ []) :
    Rule.Breaks e.baseRules l (x :: (m ++ r)) ↔ Rule.Breaks e.baseRules l (x :: m) := by
  obtain ⟨d, m, rfl⟩ := List.exists_cons_of_ne_nil hm
  rw [breaks_baseRules_iff, breaks_baseRules_iff]
  simp [contextOf]

/-- An inert codepoint hides all that stands behind it, and itself. -/
theorem breaks_baseRules_cons_cons {y : Codepoint} (h : e.isInert y = true) :
    Rule.Breaks e.baseRules l (x :: y :: r) ↔ Rule.Breaks e.baseRules l [x] := by
  have hjoins : (e.contextOf l (x :: y :: r)).joins = (e.contextOf l [x]).joins :=
    Context.joins_of_afterRight_inert (by simpa [isInert] using h)
  rw [breaks_baseRules_iff, breaks_baseRules_iff, hjoins]
  simp

/-- Before a boundary, the context on the right reaches up to the boundary. -/
theorem breaks_baseRules_append_right (h : Rule.Breaks e.baseRules (l ++ x :: m) r) :
    Rule.Breaks e.baseRules l (x :: (m ++ r)) ↔ Rule.Breaks e.baseRules l (x :: m) := by
  by_cases hm : m = []
  · subst hm
    have hnot := (breaks_baseRules_iff.mp h).1
    have hjoins : (e.contextOf l (x :: r)).joins = (e.contextOf l [x]).joins := by
      simp only [contextOf, List.dropLast_concat, List.getLast?_concat, List.head?_cons,
        List.tail_cons, List.head?_nil, Option.bind_none, Option.bind_some] at hnot ⊢
      rw [Bool.eq_iff_iff]
      constructor
      · intro hjoins
        by_contra hnone
        have hahead := Context.joins_next_of_lookahead (r.tail.head?.bind e.propertyOf) hjoins
          (Bool.eq_false_iff.mpr hnone)
        rw [hnot] at hahead
        contradiction
      · exact Context.joins_of_afterRight_none
    rw [List.nil_append, breaks_baseRules_iff, breaks_baseRules_iff, hjoins]
    simp
  · exact breaks_baseRules_append_right_of_ne_nil hm

/-! ## All rules on both sides of a boundary -/

/-- At a boundary stands a line end, or the base rules put it there. -/
theorem breaks_rules_cases (h : Rule.Breaks e.rules l r) :
    (l.getLast?.bind e.propertyOf).any Property.isLineEnd = true ∨
      (r.head?.bind e.propertyOf).any Property.isLineEnd = true ∨
      ¬(r.head?.bind e.propertyOf).any Property.isTransparent ∧
        Rule.Breaks e.baseRules (leaveAside e.isTransparent l) (without e.isTransparent r) := by
  rw [breaks_rules_iff] at h
  grind

/-- Rules decide alike where the neighbours are the same and the base rules agree.  Those
are only asked between codepoints of which neither is a line end and the right one is
not transparent. -/
theorem breaks_rules_congr {l' r' : List Codepoint} (hl : l.getLast? = l'.getLast?)
    (hr : r.head? = r'.head?)
    (h : ¬(r.head?.bind e.propertyOf).any Property.isLineEnd →
      ¬(r.head?.bind e.propertyOf).any Property.isTransparent →
      (Rule.Breaks e.baseRules (leaveAside e.isTransparent l) (without e.isTransparent r) ↔
        Rule.Breaks e.baseRules (leaveAside e.isTransparent l')
          (without e.isTransparent r'))) :
    Rule.Breaks e.rules l r ↔ Rule.Breaks e.rules l' r' := by
  rw [breaks_rules_iff, breaks_rules_iff, ← hl, ← hr]
  grind

/-- Behind a boundary the rules decide as if the text began there. -/
theorem breaks_rules_append_left (hr : r₁ ≠ []) (h : Rule.Breaks e.rules l (r₁ ++ r₂)) :
    Rule.Breaks e.rules (l ++ r₁) r₂ ↔ Rule.Breaks e.rules r₁ r₂ := by
  apply breaks_rules_congr (List.getLast?_append_of_ne_nil l hr) rfl
  intro _ _
  rw [breaks_baseRules_leaveAside, breaks_baseRules_leaveAside, without_append]
  obtain ⟨x, m, rfl⟩ := List.exists_cons_of_ne_nil hr
  rcases breaks_rules_cases h with hleft | hright | ⟨htransparent, hbase⟩
  · -- A line end before the boundary hides all that stands before it.
    obtain ⟨a, hlast, -⟩ : ∃ a, l.getLast? = some a ∧ True := by
      cases hlast : l.getLast? with
      | none => simp [hlast] at hleft
      | some a => exact ⟨a, rfl, trivial⟩
    obtain ⟨l, rfl⟩ := List.getLast?_eq_some_iff.mp hlast
    have hend : (e.propertyOf a).any Property.isLineEnd = true := by simpa using hleft
    have hkeep : without e.isTransparent (l ++ [a]) = without e.isTransparent l ++ [a] := by
      rw [without_append, without_cons_of_neg (isTransparent_of_isLineEnd hend), without_nil]
    rw [hkeep, List.append_assoc, List.singleton_append,
      breaks_baseRules_append_cons (isInert_of_isLineEnd hend)]
  · -- A line end behind the boundary hides all that stands before it, too.
    have hend : (e.propertyOf x).any Property.isLineEnd = true := by simpa using hright
    have hinert := isInert_of_isLineEnd hend
    have halone := breaks_baseRules_append_cons (l := without e.isTransparent m)
      (r := without e.isTransparent r₂) hinert []
    rw [without_cons_of_neg (isTransparent_of_isLineEnd hend),
      breaks_baseRules_append_cons hinert, ← halone, List.nil_append]
  · have hx : e.isTransparent x = false := by simpa [isTransparent] using htransparent
    rw [List.cons_append, without_cons_of_neg hx, without_append,
      breaks_baseRules_leaveAside] at hbase
    rw [without_cons_of_neg hx, breaks_baseRules_append_left hbase]

/-- Before a boundary the rules decide as if the text ended there. -/
theorem breaks_rules_append_right (hl : l₂ ≠ []) (h : Rule.Breaks e.rules (l₁ ++ l₂) r) :
    Rule.Breaks e.rules l₁ (l₂ ++ r) ↔ Rule.Breaks e.rules l₁ l₂ := by
  obtain ⟨x, m, rfl⟩ := List.exists_cons_of_ne_nil hl
  refine breaks_rules_congr rfl rfl ?_
  intro hnotEnd htransparent
  have hx : e.isTransparent x = false := by simpa [isTransparent] using htransparent
  rw [List.cons_append, without_cons_of_neg hx, without_cons_of_neg hx, without_append,
    breaks_baseRules_leaveAside, breaks_baseRules_leaveAside]
  rcases breaks_rules_cases h with hleft | hright | ⟨-, hbase⟩
  · -- A line end before the boundary is the second codepoint on the right, or beyond it.
    have hne : without e.isTransparent m ≠ [] := by
      rcases List.eq_nil_or_concat' m with rfl | ⟨m, a, rfl⟩
      · simp at hleft hnotEnd
        simp [hnotEnd] at hleft
      · have hend : (e.propertyOf a).any Property.isLineEnd = true := by
          rw [← List.cons_append, ← List.append_assoc, List.getLast?_concat] at hleft
          exact hleft
        simp [isTransparent_of_isLineEnd hend]
    rw [breaks_baseRules_append_right_of_ne_nil hne]
  · -- A line end behind the boundary is inert.
    by_cases hm : without e.isTransparent m = []
    · cases r with
      | nil => simp at hright
      | cons y r =>
          have hend : (e.propertyOf y).any Property.isLineEnd = true := by simpa using hright
          rw [hm, List.nil_append, without_cons_of_neg (isTransparent_of_isLineEnd hend),
            breaks_baseRules_cons_cons (isInert_of_isLineEnd hend)]
    · rw [breaks_baseRules_append_right_of_ne_nil hm]
  · rw [breaks_baseRules_leaveAside, without_append, without_cons_of_neg hx] at hbase
    rw [breaks_baseRules_append_right hbase]

theorem restartable_rules (e : Evaluator) : Rule.Restartable e.rules where
  behind := breaks_rules_append_left
  ahead := breaks_rules_append_right

/-! ## The list of boundaries -/

/-- The ends of a text are boundaries for every evaluator, and the middle of a pair is
none. -/
theorem stops_isBreak (e : Evaluator) (t : Text) : t.Stops (e.isBreak t) where
  at_end := by
    have hnext : t.step? .forward t.size = none :=
      Text.step?_forward_eq_none_iff.mpr (Nat.le_refl _)
    rw [isBreak, hnext]
    cases t.step? .backward t.size <;> rfl
  in_pair p hp := by
    obtain ⟨prev, next, hprev, hnext⟩ := hp.exists_steps
    simp [isBreak, hprev, hnext, hp]

/-- A caret that stops everywhere moves by the boundaries alone. -/
theorem moveBreak_eq_advance (e : Evaluator) (t : Text) (d : Direction) (pos : Nat) :
    e.moveBreak t d false pos = t.advance d (fun s => e.isBreak t s.pos) pos := by
  have hstops : e.stopsAt t false = fun s => e.isBreak t s.pos := by
    funext s
    simp [stopsAt]
  rw [moveBreak, hstops]

/-- Moving on from boundary to boundary visits all of them. -/
theorem breaksAfter_eq_filter (e : Evaluator) (t : Text) (pos : Nat) :
    e.breaksAfter t pos = (List.range' (pos + 1) (t.size - pos)).filter (e.isBreak t) := by
  fun_induction breaksAfter e t pos with
  | case1 pos hpos hlt ih =>
      rw [← Text.stopsAfter, Text.stopsAfter_eq_cons (e.stops_isBreak t) hpos,
        ← moveBreak_eq_advance, ← nextBreak, ih, Text.stopsAfter]
  | case2 pos hpos => exact (Text.stopsAfter_of_size_le (Nat.le_of_not_lt hpos)).symm

theorem breaks_eq_filter (e : Evaluator) (t : Text) :
    e.breaks t = 0 :: (List.range' 1 t.size).filter (e.isBreak t) := by
  rw [breaks, breaksAfter_eq_filter, Nat.sub_zero]

/-! ## Restarting -/

section Slices

variable (hlimit : e.limit = none)
include hlimit

theorem isBreak_slice_start {t : Text} {b p : Nat} (hb : b ≤ t.size)
    (h : e.isBreak t b = true) (hp : p < b) :
    e.isBreak (t.slice 0 b) p = e.isBreak t p := by
  rw [Bool.eq_iff_iff, isBreak_iff hlimit, isBreak_iff hlimit]
  exact Text.isBoundary_slice_start_iff (restartable_rules e) hb
    ((isBreak_iff hlimit t b).mp h) hp

theorem isBreak_slice_stop {t : Text} {b q : Nat} (hb : b ≤ t.size)
    (h : e.isBreak t b = true) (hq : 0 < q) :
    e.isBreak (t.slice b t.size) q = e.isBreak t (b + q) := by
  rw [Bool.eq_iff_iff, isBreak_iff hlimit, isBreak_iff hlimit]
  exact Text.isBoundary_slice_stop_iff (restartable_rules e) hb
    ((isBreak_iff hlimit t b).mp h) hq

/-- The boundaries up to a boundary are those of the slice that ends there. -/
theorem filter_isBreak_slice_start {t : Text} {b : Nat} (hb : b ≤ t.size)
    (h : e.isBreak t b = true) :
    (List.range' 1 b).filter (e.isBreak t) =
      (List.range' 1 (t.slice 0 b).size).filter (e.isBreak (t.slice 0 b)) := by
  rw [Text.size_slice_start hb]
  apply List.filter_congr
  intro p hp
  rw [List.mem_range'_1] at hp
  rcases Nat.lt_or_eq_of_le (show p ≤ b by omega) with hlt | rfl
  · exact (isBreak_slice_start hlimit hb h hlt).symm
  · have hend := (e.stops_isBreak (t.slice 0 p)).at_end
    rw [Text.size_slice_start hb] at hend
    rw [h, hend]

/-- The boundaries after a boundary are those of the slice that begins there. -/
theorem filter_isBreak_slice_stop {t : Text} {b : Nat} (hb : b ≤ t.size)
    (h : e.isBreak t b = true) :
    (List.range' (b + 1) (t.size - b)).filter (e.isBreak t) =
      ((List.range' 1 (t.slice b t.size).size).filter
        (e.isBreak (t.slice b t.size))).map (b + ·) := by
  rw [Text.size_slice_stop, ← List.map_add_range', List.filter_map]
  congr 1
  apply List.filter_congr
  intro q hq
  rw [List.mem_range'_1] at hq
  exact (isBreak_slice_stop hlimit hb h (by omega)).symm

end Slices

/-- Word segmentation can be restarted at any boundary: the boundaries before it are
those of the slice that ends there, the boundaries after it are those of the slice that
begins there, and the list of all boundaries is made of both lists. -/
theorem breaks_restart {tables : Unicode.Tables} {e : Evaluator}
    (h : ofTables tables none = .ok e) {t : Text} {b : Nat} (hb : b ≤ t.size)
    (hbreak : e.isBreak t b = true) :
    (∀ p, p < b → e.isBreak t p = e.isBreak (t.slice 0 b) p) ∧
      (∀ p, b < p → e.isBreak t p = e.isBreak (t.slice b t.size) (p - b)) ∧
      e.breaks t =
        e.breaks (t.slice 0 b) ++ ((e.breaks (t.slice b t.size)).map (b + ·)).tail := by
  have hlimit := (compiled_of_ofTables h).limit_eq
  refine ⟨?_, ?_, ?_⟩
  · intro p hp
    exact (isBreak_slice_start hlimit hb hbreak hp).symm
  · intro p hp
    rw [isBreak_slice_stop hlimit hb hbreak (by omega), Nat.add_sub_cancel' (Nat.le_of_lt hp)]
  · have hsplit : List.range' 1 t.size = List.range' 1 b ++ List.range' (b + 1) (t.size - b) := by
      rw [Nat.add_comm b 1, List.range'_append_1, Nat.add_sub_cancel' hb]
    rw [breaks_eq_filter, breaks_eq_filter, breaks_eq_filter, hsplit,
      List.filter_append, filter_isBreak_slice_start hlimit hb hbreak,
      filter_isBreak_slice_stop hlimit hb hbreak]
    rfl

/-- Between a letter and a space. -/
theorem breaks_restart_letter_space :
    ∃ e, ofTables .bundled none = .ok e ∧ 1 ≤ (⟨#[0x61, 0x20]⟩ : Text).size ∧
      e.isBreak ⟨#[0x61, 0x20]⟩ 1 = true ∧
      e.breaks ⟨#[0x61, 0x20]⟩ = e.breaks (Text.slice ⟨#[0x61, 0x20]⟩ 0 1) ++
        ((e.breaks (Text.slice ⟨#[0x61, 0x20]⟩ 1 2)).map (1 + ·)).tail := by
  obtain ⟨e, he⟩ := exists_ofTables_bundled none
  have hcompiled := compiled_of_ofTables he
  have hleft : e.propertyOf (.ofUnit 0x61) = some .aLetter := by
    rw [propertyOf_eq hcompiled]
    decide +kernel
  have hright : e.propertyOf (.ofUnit 0x20) = some .wSegSpace := by
    rw [propertyOf_eq hcompiled]
    decide +kernel
  have hbreak : e.isBreak ⟨#[0x61, 0x20]⟩ 1 = true := by
    have hbefore : (⟨#[0x61, 0x20]⟩ : Text).before 1 = [.ofUnit 0x61] := rfl
    have hafter : (⟨#[0x61, 0x20]⟩ : Text).after 1 = [.ofUnit 0x20] := rfl
    have hbase : Rule.Breaks e.baseRules (leaveAside e.isTransparent [.ofUnit 0x61])
        (without e.isTransparent [.ofUnit 0x20]) := by
      have hkeep : e.isTransparent (.ofUnit 0x20) = false := by
        rw [isTransparent, hright]
        rfl
      rw [without_cons_of_neg hkeep, without_nil, leaveAside, breaks_baseRules_iff]
      simp only [List.take_succ_cons, List.take_zero, List.tail_cons, without_nil,
        List.append_nil, contextOf, List.dropLast_singleton, List.getLast?_nil,
        Option.bind_none, List.getLast?_singleton, Option.bind_some, hleft, List.head?_cons,
        hright, List.head?_nil]
      exact ⟨rfl, by simp⟩
    rw [isBreak_iff hcompiled.limit_eq, Text.isBoundary_iff (by decide) (by decide), hbefore,
      hafter, breaks_rules_iff]
    refine ⟨by decide, ?_⟩
    simp [hleft, hright, hbase, Property.isLineEnd, Property.isTransparent]
  exact ⟨e, he, by decide, hbreak, (breaks_restart he (by decide) hbreak).2.2⟩

end Evaluator
end Word
end TextBoundary
