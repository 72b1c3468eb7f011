import Mathlib.Data.List.Infix
import TextBoundary.Proofs.Grapheme.Rules
import TextBoundary.Proofs.Word.Rules

/-!
# Evaluators with a run limit

An evaluator with a run limit cuts its scans short.  Where every run that it would
follow is short enough, nothing is cut off, and it decides as it does without a limit.

A scan that asks what ends a run reads at most as many codepoints as the limit says, so
it needs runs shorter than the limit: a run of exactly that length hides what ends it.
The search for a base reads one codepoint more, and the count of flag halves need not
see the end, so both are content with runs as long as the limit.
-/

namespace TextBoundary

/-! ## Runs of a list -/

section Runs

variable {α : Type} {p q : α → Bool} {m n : Nat} {l l' : List α}

/-- All runs of members that satisfy a predicate have a bounded length.  A run is any
stretch of such members that follow one another. -/
def RunsWithin (p : α → Bool) (n : Nat) (l : List α) : Prop :=
  ∀ run, run <:+: l → (∀ c ∈ run, p c = true) → run.length ≤ n

theorem RunsWithin.mono (h : RunsWithin p m l) (hmn : m ≤ n) : RunsWithin p n l :=
  fun run hrun hall => Nat.le_trans (h run hrun hall) hmn

theorem RunsWithin.of_isInfix (h : RunsWithin p n l) (hl : l' <:+: l) : RunsWithin p n l' :=
  fun run hrun hall => h run (hrun.trans hl) hall

theorem RunsWithin.reverse (h : RunsWithin p n l) : RunsWithin p n l.reverse := by
  intro run hrun hall
  have hback : run.reverse <:+: l := by simpa using List.reverse_infix.mpr hrun
  have hlength := h run.reverse hback fun c hc => hall c (List.mem_reverse.mp hc)
  rwa [List.length_reverse] at hlength

/-- What is skipped at the beginning is a run. -/
theorem RunsWithin.length_takeWhile_le (h : RunsWithin p n l)
    (hqp : ∀ c, q c = true → p c = true) : (l.takeWhile q).length ≤ n := by
  apply h _ (List.takeWhile_prefix q).isInfix
  intro c hc
  exact hqp c (List.mem_takeWhile_imp hc)

/-- No run is longer than the number of members that could belong to it. -/
theorem runsWithin_of_countP_le (h : l.countP p ≤ n) : RunsWithin p n l := by
  intro run hrun hall
  have hcount := hrun.sublist.countP_le (p := p)
  rw [List.countP_eq_length.mpr hall] at hcount
  exact Nat.le_trans hcount h

end Runs

/-! ## Scans that are cut short -/

namespace Scan

variable {skip : Codepoint → Bool} {s : Text.Step} {steps : List Text.Step} {n : Nat}

theorem ofSteps_cons_of_pos (h : skip s.codepoint = true) :
    ofSteps skip (s :: steps) =
      ⟨s.codepoint :: (ofSteps skip steps).run, (ofSteps skip steps).found⟩ := by
  simp [ofSteps, h]

theorem ofSteps_cons_of_neg (h : skip s.codepoint = false) :
    ofSteps skip (s :: steps) = ⟨[], some s⟩ := by
  simp [ofSteps, h]

/-- A scan that may read one codepoint more than its run is not cut short. -/
theorem ofSteps_take_of_lt (h : (ofSteps skip steps).run.length < n) :
    ofSteps skip (steps.take n) = ofSteps skip steps := by
  induction steps generalizing n with
  | nil => rw [List.take_nil]
  | cons s steps ih =>
      obtain ⟨n, rfl⟩ := Nat.exists_eq_succ_of_ne_zero (Nat.ne_zero_of_lt h)
      rw [List.take_succ_cons]
      cases hs : skip s.codepoint with
      | true =>
          rw [ofSteps_cons_of_pos hs, List.length_cons] at h
          rw [ofSteps_cons_of_pos hs, ofSteps_cons_of_pos hs, ih (Nat.lt_of_succ_lt_succ h)]
      | false => rw [ofSteps_cons_of_neg hs, ofSteps_cons_of_neg hs]

/-- A scan that may read all of its run finds the run. -/
theorem run_ofSteps_take_of_le (h : (ofSteps skip steps).run.length ≤ n) :
    (ofSteps skip (steps.take n)).run = (ofSteps skip steps).run := by
  induction steps generalizing n with
  | nil => rw [List.take_nil]
  | cons s steps ih =>
      cases hs : skip s.codepoint with
      | true =>
          rw [ofSteps_cons_of_pos hs, List.length_cons] at h
          obtain ⟨n, rfl⟩ := Nat.exists_eq_succ_of_ne_zero (Nat.ne_zero_of_lt h)
          rw [List.take_succ_cons, ofSteps_cons_of_pos hs, ofSteps_cons_of_pos hs,
            ih (Nat.le_of_succ_le_succ h)]
      | false =>
          rw [ofSteps_cons_of_neg hs]
          cases n with
          | zero => rfl
          | succ n => rw [List.take_succ_cons, ofSteps_cons_of_neg hs]

/-- A scan that may read no more than its run finds nothing. -/
theorem found_ofSteps_take_of_le (h : n ≤ (ofSteps skip steps).run.length) :
    (ofSteps skip (steps.take n)).found = none := by
  induction steps generalizing n with
  | nil => rw [List.take_nil]; rfl
  | cons s steps ih =>
      cases n with
      | zero => rfl
      | succ n =>
          cases hs : skip s.codepoint with
          | true =>
              rw [ofSteps_cons_of_pos hs, List.length_cons] at h
              rw [List.take_succ_cons, ofSteps_cons_of_pos hs]
              exact ih (Nat.le_of_succ_le_succ h)
          | false => simp [ofSteps_cons_of_neg hs] at h

end Scan

namespace Text

variable {t : Text} {d : Direction} {skip p : Codepoint → Bool} {pos k n : Nat} {s : Step}

/-- The codepoints that steps from a position cross. -/
def crossed (t : Text) (d : Direction) (pos : Nat) : List Codepoint :=
  (t.steps d pos).map Step.codepoint

theorem crossed_of_step? (h : t.step? d pos = some s) :
    t.crossed d pos = s.codepoint :: t.crossed d s.pos := by
  rw [crossed, steps_of_step?_eq_some h, List.map_cons, crossed]

/-- Between two codepoints, what steps cross is part of the text, forward or backward. -/
theorem runsWithin_crossed (h : RunsWithin p n t.codepoints) (hle : pos ≤ t.size)
    (hsplits : ¬t.SplitsPair pos) : RunsWithin p n (t.crossed d pos) := by
  rw [codepoints_eq_append hle hsplits] at h
  cases d with
  | forward =>
      rw [crossed, map_codepoint_steps_forward]
      exact h.of_isInfix (List.suffix_append _ _).isInfix
  | backward =>
      rw [crossed, map_codepoint_steps_backward hle]
      exact (h.of_isInfix (List.prefix_append _ _).isInfix).reverse

theorem runsWithin_crossed_step? (h : RunsWithin p n (t.crossed d pos))
    (hs : t.step? d pos = some s) : RunsWithin p n (t.crossed d s.pos) := by
  rw [crossed_of_step? hs] at h
  exact h.of_isInfix (List.suffix_cons _ _).isInfix

theorem runsWithin_crossed_found (h : RunsWithin p n (t.crossed d pos))
    (hs : (t.scan d skip none pos).found = some s) : RunsWithin p n (t.crossed d s.pos) := by
  have hrest := dropWhile_of_scan_found hs
  apply h.of_isInfix
  apply List.IsSuffix.isInfix
  exact (hrest ▸ List.suffix_cons _ _).trans (List.dropWhile_suffix skip)

theorem length_run_scan_le (h : RunsWithin p n (t.crossed d pos))
    (hskip : ∀ c, skip c = true → p c = true) : (t.scan d skip none pos).run.length ≤ n := by
  rw [scan_run]
  exact h.length_takeWhile_le hskip

/-- A scan with a reach beyond every run is not cut short. -/
theorem scan_eq_scan_none (h : RunsWithin p n (t.crossed d pos))
    (hskip : ∀ c, skip c = true → p c = true) (hk : n < k) :
    t.scan d skip (some k) pos = t.scan d skip none pos := by
  have hrun := length_run_scan_le h hskip
  rw [scan_eq, Reach.cut] at hrun
  rw [scan_eq, scan_eq, Reach.cut, Reach.cut]
  exact Scan.ofSteps_take_of_lt (Nat.lt_of_le_of_lt hrun hk)

/-- A scan with a reach as long as every run finds the whole run. -/
theorem run_scan_eq_run_scan_none (h : RunsWithin p n (t.crossed d pos))
    (hskip : ∀ c, skip c = true → p c = true) (hk : n ≤ k) :
    (t.scan d skip (some k) pos).run = (t.scan d skip none pos).run := by
  have hrun := length_run_scan_le h hskip
  rw [scan_eq, Reach.cut] at hrun
  rw [scan_eq, scan_eq, Reach.cut, Reach.cut]
  exact Scan.run_ofSteps_take_of_le (Nat.le_trans hrun hk)

end Text

/-! ## Words -/

namespace Word
namespace Evaluator

variable {e : Evaluator} {t : Text} {d : Direction} {pos n : Nat} {base next prev : Text.Step}

/-- An evaluator with its run limit replaced. -/
def withLimit (e : Evaluator) (limit : RunLimit) : Evaluator :=
  { e with limit := limit }

/-- Whether a codepoint can stand in a run of flag halves. -/
def isFlagPart (e : Evaluator) (c : Codepoint) : Bool :=
  e.isRegional c || e.isTransparent c

@[simp] theorem limit_withLimit (limit : RunLimit) : (e.withLimit limit).limit = limit :=
  rfl

@[simp] theorem propertyOf_withLimit (limit : RunLimit) :
    (e.withLimit limit).propertyOf = e.propertyOf :=
  rfl

@[simp] theorem isTransparent_withLimit (limit : RunLimit) :
    (e.withLimit limit).isTransparent = e.isTransparent :=
  rfl

/-- Whether tables can be compiled does not depend on the run limit. -/
theorem ofTables_eq_map_withLimit (tables : Unicode.Tables) (limit : RunLimit) :
    ofTables tables limit = (ofTables tables none).map fun e => e.withLimit limit := by
  rw [ofTables, ofTables]
  cases Classifier.ofSources (α := Property) [.table tables.wordBreak, .table tables.emoji] with
  | error cause => rfl
  | ok c =>
      simp only [bind, Except.bind]
      cases c.matcher? Property.extendedPictographic <;> rfl

/-- The search for a base reads one codepoint more than the limit says. -/
theorem base?_withLimit (h : RunsWithin e.isTransparent n (t.crossed .backward pos)) :
    (e.withLimit (some n)).base? t pos = (e.withLimit none).base? t pos := by
  have hscan := Text.scan_eq_scan_none (k := n + 1) h (fun _ hc => hc) (Nat.lt_succ_self n)
  simp only [base?, isTransparent_withLimit, limit_withLimit, RunLimit.baseReach,
    Option.map_some, Option.map_none, hscan]

theorem significant_withLimit (h : RunsWithin e.isTransparent (n - 1) (t.crossed d pos)) :
    (e.withLimit (some n)).significant t d pos = (e.withLimit none).significant t d pos := by
  have hscan := Text.scan_eq_scan_none (k := max 1 n) h (fun _ hc => hc) (by omega)
  simp only [significant, isTransparent_withLimit, propertyOf_withLimit, limit_withLimit,
    RunLimit.contextReach, Option.map_some, Option.map_none, hscan]

theorem oddRegionalBefore_withLimit (h : RunsWithin e.isFlagPart n (t.crossed .backward pos)) :
    (e.withLimit (some n)).oddRegionalBefore t pos =
      (e.withLimit none).oddRegionalBefore t pos := by
  have hrun := Text.run_scan_eq_run_scan_none (k := max 1 n) h (fun _ hc => hc) (by omega)
  exact congrArg (fun run : List Codepoint => decide (run.countP e.isRegional % 2 = 1)) hrun

/-- The runs of a text that a word evaluator with a limit follows as one without a limit
does: transparent ones shorter than the limit, and flags not longer than it. -/
structure RunsFit (e : Evaluator) (n : Nat) (t : Text) : Prop where
  transparent : RunsWithin e.isTransparent (n - 1) t.codepoints
  flags : RunsWithin e.isFlagPart n t.codepoints

theorem separates_withLimit (h : e.RunsFit n t) (hle : pos ≤ t.size)
    (hsplits : ¬t.SplitsPair pos) (hnext : t.step? .forward pos = some next) :
    (e.withLimit (some n)).separates t pos prev next =
      (e.withLimit none).separates t pos prev next := by
  -- The scans start at the position, behind the base and after the right neighbour.
  have hbefore := Text.runsWithin_crossed (d := .backward) h.transparent hle hsplits
  have hafter := Text.runsWithin_crossed_step?
    (Text.runsWithin_crossed (d := .forward) h.transparent hle hsplits) hnext
  have hflags := Text.runsWithin_crossed (d := .backward) h.flags hle hsplits
  have hbase := base?_withLimit (hbefore.mono (Nat.sub_le n 1))
  unfold separates
  rw [hbase]
  cases hfound : (e.withLimit none).base? t pos with
  | none => rfl
  | some base =>
      have hbehind := Text.runsWithin_crossed_found hbefore hfound
      have hjoins : (e.withLimit (some n)).joins t pos base next =
          (e.withLimit none).joins t pos base next := by
        rw [joins, joins, significant_withLimit hbehind, significant_withLimit hafter,
          oddRegionalBefore_withLimit hflags]
        rfl
      simp only [hjoins]
      rfl

/-- Where no run that matters is cut short, a run limit changes no boundary. -/
theorem isBreak_withLimit (h : e.RunsFit n t) (pos : Nat) :
    (e.withLimit (some n)).isBreak t pos = (e.withLimit none).isBreak t pos := by
  unfold isBreak
  cases hprev : t.step? .backward pos with
  | none => rfl
  | some prev =>
      cases hnext : t.step? .forward pos with
      | none => rfl
      | some next =>
          by_cases hsplits : t.SplitsPair pos
          · simp [hsplits]
          · have hle : ¬t.size ≤ pos := by
              rw [← Text.step?_forward_eq_none_iff, hnext]
              simp
            simp only [separates_withLimit h (by omega) hsplits hnext]

end Evaluator
end Word

/-! ## Graphemes -/

namespace Grapheme
namespace Evaluator

variable {e : Evaluator} {t : Text} {pos n : Nat} {next prev : Text.Step}

/-- An evaluator with its run limit replaced. -/
def withLimit (e : Evaluator) (limit : RunLimit) : Evaluator :=
  { e with limit := limit }

/-- Whether a codepoint has the property Extend. -/
def isExtend (e : Evaluator) (c : Codepoint) : Bool :=
  e.propertyOf c = some .extend

/-- Whether a codepoint may stand between two consonants of a conjunct. -/
def isConjunctInner (e : Evaluator) (c : Codepoint) : Bool :=
  (e.conjunctOf c).any ConjunctProperty.isInner

@[simp] theorem limit_withLimit (limit : RunLimit) : (e.withLimit limit).limit = limit :=
  rfl

@[simp] theorem conjunctOf_withLimit (limit : RunLimit) :
    (e.withLimit limit).conjunctOf = e.conjunctOf :=
  rfl

/-- Whether tables can be compiled does not depend on the run limit. -/
theorem ofTables_eq_map_withLimit (tables : Unicode.Tables) (limit : RunLimit) :
    ofTables tables limit = (ofTables tables none).map fun e => e.withLimit limit := by
  rw [ofTables, ofTables]
  cases Classifier.ofSources (α := Property) [.table tables.graphemeBreak,
      .entry tables.emoji Property.extendedPictographic.name] with
  | error cause => rfl
  | ok c =>
      cases Classifier.ofSources (α := ConjunctProperty) [.table tables.conjunctBreak] with
      | error cause => rfl
      | ok conjuncts =>
          simp only [bind, Except.bind]
          cases c.matcher? Property.extendedPictographic <;> rfl

theorem followsLinkedConsonant_withLimit
    (h : RunsWithin e.isConjunctInner (n - 1) (t.crossed .backward pos)) :
    (e.withLimit (some n)).followsLinkedConsonant t pos =
      (e.withLimit none).followsLinkedConsonant t pos := by
  have hscan := Text.scan_eq_scan_none (k := max 1 n) h (fun _ hc => hc) (by omega)
  unfold isConjunctInner at hscan
  simp only [followsLinkedConsonant, conjunctOf_withLimit, limit_withLimit,
    RunLimit.contextReach, Option.map_some, Option.map_none, hscan]
  rfl

theorem followsPictographic_withLimit
    (h : RunsWithin e.isExtend (n - 1) (t.crossed .backward pos)) :
    (e.withLimit (some n)).followsPictographic t pos =
      (e.withLimit none).followsPictographic t pos := by
  have hskip : ∀ c, (!e.pictographic.acceptsCodepoint c && e.isExtend c) = true →
      e.isExtend c = true := fun c hc => (Bool.and_eq_true_iff.mp hc).2
  have hscan := Text.scan_eq_scan_none (k := max 1 n) h hskip (by omega)
  exact congrArg (fun scan : Scan =>
    scan.found.any fun s => e.pictographic.acceptsCodepoint s.codepoint) hscan

theorem oddRegionalBefore_withLimit (h : RunsWithin e.isRegional n (t.crossed .backward pos)) :
    (e.withLimit (some n)).oddRegionalBefore t pos =
      (e.withLimit none).oddRegionalBefore t pos := by
  have hrun := Text.run_scan_eq_run_scan_none (k := max 1 n) h (fun _ hc => hc) (by omega)
  exact congrArg (fun run : List Codepoint => decide (run.length % 2 = 1)) hrun

/-- The runs of a text that a grapheme evaluator with a limit follows as one without a
limit does: those that extend a codepoint or link a conjunct shorter than the limit, and
flags not longer than it. -/
structure RunsFit (e : Evaluator) (n : Nat) (t : Text) : Prop where
  extend : RunsWithin e.isExtend (n - 1) t.codepoints
  inner : RunsWithin e.isConjunctInner (n - 1) t.codepoints
  flags : RunsWithin e.isRegional n t.codepoints

theorem joinsByContext_withLimit (h : e.RunsFit n t) (hle : pos ≤ t.size)
    (hsplits : ¬t.SplitsPair pos) (hprev : t.step? .backward pos = some prev) :
    (e.withLimit (some n)).joinsByContext t pos prev next =
      (e.withLimit none).joinsByContext t pos prev next := by
  have hinner := Text.runsWithin_crossed (d := .backward) h.inner hle hsplits
  -- The search for a pictograph starts before the zero width joiner.
  have hextend := Text.runsWithin_crossed_step?
    (Text.runsWithin_crossed (d := .backward) h.extend hle hsplits) hprev
  have hflags := Text.runsWithin_crossed (d := .backward) h.flags hle hsplits
  rw [joinsByContext, joinsByContext, followsLinkedConsonant_withLimit hinner,
    followsPictographic_withLimit hextend, oddRegionalBefore_withLimit hflags]
  rfl

/-- Where no run that matters is cut short, a run limit changes no boundary. -/
theorem isBreak_withLimit (h : e.RunsFit n t) (pos : Nat) :
    (e.withLimit (some n)).isBreak t pos = (e.withLimit none).isBreak t pos := by
  unfold isBreak
  cases hprev : t.step? .backward pos with
  | none => rfl
  | some prev =>
      cases hnext : t.step? .forward pos with
      | none => rfl
      | some next =>
          by_cases hsplits : t.SplitsPair pos
          · simp [hsplits]
          · have hle : ¬t.size ≤ pos := by
              rw [← Text.step?_forward_eq_none_iff, hnext]
              simp
            have hcontext : (e.withLimit (some n)).joinsByContext t pos prev next =
                (e.withLimit none).joinsByContext t pos prev next :=
              joinsByContext_withLimit h (by omega) hsplits hprev
            have hseparates : (e.withLimit (some n)).separates t pos prev next =
                (e.withLimit none).separates t pos prev next := by
              rw [separates, separates, hcontext]
              rfl
            simp only [hseparates]

end Evaluator
end Grapheme

/-! ## Both evaluators -/

/-- A run limit changes no answer where every run that an evaluator follows fits: what it
skips is shorter than the limit, and flags are not longer than it. -/
theorem isBreak_eq_of_runsFit (tables : Unicode.Tables) (n : Nat) (t : Text) (pos : Nat) :
    (∀ e, Word.Evaluator.ofTables tables none = .ok e →
      ∃ limited, Word.Evaluator.ofTables tables (some n) = .ok limited ∧
        (e.RunsFit n t → limited.isBreak t pos = e.isBreak t pos)) ∧
    ∀ e, Grapheme.Evaluator.ofTables tables none = .ok e →
      ∃ limited, Grapheme.Evaluator.ofTables tables (some n) = .ok limited ∧
        (e.RunsFit n t → limited.isBreak t pos = e.isBreak t pos) := by
  constructor
  · intro e he
    have hlimit : e.withLimit none = e := by
      rw [Word.Evaluator.withLimit, ← (Word.Evaluator.compiled_of_ofTables he).limit_eq]
    refine ⟨e.withLimit (some n), ?_, ?_⟩
    · rw [Word.Evaluator.ofTables_eq_map_withLimit, he]
      rfl
    · intro hfit
      rw [Word.Evaluator.isBreak_withLimit hfit, hlimit]
  · intro e he
    have hlimit : e.withLimit none = e := by
      rw [Grapheme.Evaluator.withLimit, ← (Grapheme.Evaluator.compiled_of_ofTables he).limit_eq]
    refine ⟨e.withLimit (some n), ?_, ?_⟩
    · rw [Grapheme.Evaluator.ofTables_eq_map_withLimit, he]
      rfl
    · intro hfit
      rw [Grapheme.Evaluator.isBreak_withLimit hfit, hlimit]

/-! ### A limit that a run uses up -/

namespace Word

/-- Two letters with an apostrophe and a mark between them. -/
def elision : Text :=
  ⟨#[0x61, 0x27, 0x300, 0x61]⟩

namespace Evaluator

variable {limit : RunLimit} {e : Evaluator}

/-- What the bundled tables say of these codepoints. -/
theorem propertyOf_elision (h : Compiled .bundled limit e) :
    e.propertyOf (.ofUnit 0x61) = some .aLetter ∧
      e.propertyOf (.ofUnit 0x27) = some .singleQuote ∧
      e.propertyOf (.ofUnit 0x300) = some .extend := by
  rw [propertyOf_eq h, propertyOf_eq h, propertyOf_eq h]
  decide +kernel

theorem isTransparent_elision (h : Compiled .bundled limit e) :
    e.isTransparent (.ofUnit 0x61) = false ∧ e.isTransparent (.ofUnit 0x300) = true := by
  obtain ⟨hletter, -, hmark⟩ := propertyOf_elision h
  rw [isTransparent, isTransparent, hletter, hmark]
  exact ⟨rfl, rfl⟩

theorem runsWithin_elision (h : Compiled .bundled limit e) :
    RunsWithin e.isTransparent 1 elision.codepoints ∧
      RunsWithin e.isFlagPart 1 elision.codepoints := by
  obtain ⟨hletter, hquote, hmark⟩ := propertyOf_elision h
  have hcodepoints : elision.codepoints =
      [.ofUnit 0x61, .ofUnit 0x27, .ofUnit 0x300, .ofUnit 0x61] := by
    decide
  constructor
  · apply runsWithin_of_countP_le
    rw [hcodepoints]
    simp [isTransparent, hletter, hquote, hmark, Property.isTransparent]
  · apply runsWithin_of_countP_le
    rw [hcodepoints]
    simp [isFlagPart, isRegional, isTransparent, hletter, hquote, hmark,
      Property.isTransparent]

/-- Whether the apostrophe separates hangs on what stands behind it. -/
theorem isBreak_elision (h : Compiled .bundled limit e) :
    e.isBreak elision 1 = !(e.significant elision .forward 2).any Property.isLetter := by
  obtain ⟨hletter, hquote, -⟩ := propertyOf_elision h
  have hprev : elision.step? .backward 1 = some ⟨.ofUnit 0x61, 0⟩ := by decide
  have hnext : elision.step? .forward 1 = some ⟨.ofUnit 0x27, 2⟩ := by decide
  have hbase : e.base? elision 1 = some ⟨.ofUnit 0x61, 0⟩ := by
    rw [base?, Text.scan, hprev]
    cases e.limit <;> simp [RunLimit.baseReach, (isTransparent_elision h).1]
  have hbehind : e.significant elision .backward 0 = none := by
    have hstart : elision.step? .backward 0 = none := by decide
    rw [significant, Text.scan, hstart]
    simp
  have hsplits : ¬elision.SplitsPair 1 := by decide
  simp [isBreak, hprev, hnext, hsplits, separates, hletter, hquote, hbase, joins, hbehind,
    isRegional, Context.joins, Context.joinsLetters, Context.joinsHebrewQuote,
    Context.joinsNumbers, Context.joinsConnectors, Context.joinsModifier,
    Property.isLineEnd, Property.isTransparent, Property.isLetter, Property.isMidLetter]

theorem scan_elision (h : Compiled .bundled limit e) :
    Scan.ofSteps e.isTransparent (elision.steps .forward 2) =
      ⟨[.ofUnit 0x300], some ⟨.ofUnit 0x61, 4⟩⟩ := by
  obtain ⟨hletter, hmark⟩ := isTransparent_elision h
  rw [Text.steps_of_step?_eq_some (s := ⟨.ofUnit 0x300, 3⟩) (by decide),
    Text.steps_of_step?_eq_some (s := ⟨.ofUnit 0x61, 4⟩) (by decide),
    Scan.ofSteps_cons_of_pos hmark, Scan.ofSteps_cons_of_neg hletter]

/-- The letter behind the mark is seen where nothing limits the scan. -/
theorem isBreak_elision_none (h : Compiled .bundled none e) : e.isBreak elision 1 = false := by
  rw [isBreak_elision h, significant, Text.scan_eq, h.limit_eq]
  simp [RunLimit.contextReach, Reach.cut, scan_elision h, (propertyOf_elision h).1,
    Property.isLetter]

/-- The mark alone uses up a limit of one. -/
theorem isBreak_elision_one (h : Compiled .bundled (some 1) e) : e.isBreak elision 1 = true := by
  have hrun : 1 ≤ (Scan.ofSteps e.isTransparent (elision.steps .forward 2)).run.length := by
    simp [scan_elision h]
  rw [isBreak_elision h, significant, Text.scan_eq, h.limit_eq]
  simp [RunLimit.contextReach, Reach.cut, Scan.found_ofSteps_take_of_le hrun]

end Evaluator
end Word

namespace Grapheme

/-- Two consonants and the linker between them. -/
def conjunct : Text :=
  ⟨#[0x915, 0x94D, 0x915]⟩

namespace Evaluator

variable {limit : RunLimit} {e : Evaluator}

/-- What the bundled tables say of these codepoints. -/
theorem conjunctOf_conjunct (h : Compiled .bundled limit e) :
    e.conjunctOf (.ofUnit 0x915) = some .consonant ∧
      e.conjunctOf (.ofUnit 0x94D) = some .linker := by
  rw [conjunctOf_eq h, conjunctOf_eq h]
  decide +kernel

theorem propertyOf_conjunct (h : Compiled .bundled limit e) :
    e.propertyOf (.ofUnit 0x915) = none ∧ e.propertyOf (.ofUnit 0x94D) = some .extend := by
  rw [propertyOf_eq h (by decide), propertyOf_eq h (by decide)]
  decide +kernel

theorem runsWithin_conjunct (h : Compiled .bundled limit e) :
    RunsWithin e.isExtend 1 conjunct.codepoints ∧
      RunsWithin e.isConjunctInner 1 conjunct.codepoints ∧
      RunsWithin e.isRegional 1 conjunct.codepoints := by
  obtain ⟨hconsonant, hlinker⟩ := conjunctOf_conjunct h
  obtain ⟨hplain, hextend⟩ := propertyOf_conjunct h
  have hcodepoints : conjunct.codepoints = [.ofUnit 0x915, .ofUnit 0x94D, .ofUnit 0x915] := by
    decide
  rw [hcodepoints]
  refine ⟨?_, ?_, ?_⟩
  · apply runsWithin_of_countP_le
    simp [isExtend, hplain, hextend]
  · apply runsWithin_of_countP_le
    simp [isConjunctInner, hconsonant, hlinker, ConjunctProperty.isInner]
  · apply runsWithin_of_countP_le
    simp [isRegional, hplain, hextend]

/-- The second consonant is kept only by a linked consonant before it. -/
theorem isBreak_conjunct (h : Compiled .bundled limit e) :
    e.isBreak conjunct 2 = !e.followsLinkedConsonant conjunct 2 := by
  obtain ⟨hplain, hextend⟩ := propertyOf_conjunct h
  have hprev : conjunct.step? .backward 2 = some ⟨.ofUnit 0x94D, 1⟩ := by decide
  have hnext : conjunct.step? .forward 2 = some ⟨.ofUnit 0x915, 3⟩ := by decide
  have hsplits : ¬conjunct.SplitsPair 2 := by decide
  simp [isBreak, hprev, hnext, hsplits, separates, hplain, hextend, joinsByContext, isRegional,
    (conjunctOf_conjunct h).1, Property.isControl]

theorem scan_conjunct (h : Compiled .bundled limit e) :
    Scan.ofSteps (fun c => (e.conjunctOf c).any ConjunctProperty.isInner)
        (conjunct.steps .backward 2) =
      ⟨[.ofUnit 0x94D], some ⟨.ofUnit 0x915, 0⟩⟩ := by
  obtain ⟨hconsonant, hlinker⟩ := conjunctOf_conjunct h
  rw [Text.steps_of_step?_eq_some (s := ⟨.ofUnit 0x94D, 1⟩) (by decide),
    Text.steps_of_step?_eq_some (s := ⟨.ofUnit 0x915, 0⟩) (by decide),
    Scan.ofSteps_cons_of_pos (by simp [hlinker, ConjunctProperty.isInner]),
    Scan.ofSteps_cons_of_neg (by simp [hconsonant, ConjunctProperty.isInner])]

/-- The first consonant is seen where nothing limits the scan. -/
theorem isBreak_conjunct_none (h : Compiled .bundled none e) : e.isBreak conjunct 2 = false := by
  obtain ⟨hconsonant, hlinker⟩ := conjunctOf_conjunct h
  rw [isBreak_conjunct h, followsLinkedConsonant, Text.scan_eq, h.limit_eq]
  simp [RunLimit.contextReach, Reach.cut, scan_conjunct h, hconsonant, hlinker]

/-- The linker alone uses up a limit of one. -/
theorem isBreak_conjunct_one (h : Compiled .bundled (some 1) e) :
    e.isBreak conjunct 2 = true := by
  have hrun : 1 ≤ (Scan.ofSteps (fun c => (e.conjunctOf c).any ConjunctProperty.isInner)
      (conjunct.steps .backward 2)).run.length := by
    simp [scan_conjunct h]
  rw [isBreak_conjunct h, followsLinkedConsonant, Text.scan_eq, h.limit_eq]
  simp [RunLimit.contextReach, Reach.cut, Scan.found_ofSteps_take_of_le hrun]

end Evaluator
end Grapheme

/-- A limit that leaves room for one codepoint more than every run changes nothing. -/
theorem isBreak_eq_of_runsFit_two :
    (∃ e limited, Word.Evaluator.ofTables .bundled none = .ok e ∧
      Word.Evaluator.ofTables .bundled (some 2) = .ok limited ∧
      e.RunsFit 2 Word.elision ∧
      limited.isBreak Word.elision 1 = e.isBreak Word.elision 1) ∧
    ∃ e limited, Grapheme.Evaluator.ofTables .bundled none = .ok e ∧
      Grapheme.Evaluator.ofTables .bundled (some 2) = .ok limited ∧
      e.RunsFit 2 Grapheme.conjunct ∧
      limited.isBreak Grapheme.conjunct 2 =
        e.isBreak Grapheme.conjunct 2 := by
  constructor
  · obtain ⟨e, he⟩ := Word.Evaluator.exists_ofTables_bundled none
    obtain ⟨htransparent, hflags⟩ :=
      Word.Evaluator.runsWithin_elision (Word.Evaluator.compiled_of_ofTables he)
    have hfit : e.RunsFit 2 Word.elision := ⟨htransparent, hflags.mono (by decide)⟩
    obtain ⟨limited, hlimited, heq⟩ :=
      (isBreak_eq_of_runsFit .bundled 2 Word.elision 1).1 e he
    exact ⟨e, limited, he, hlimited, hfit, heq hfit⟩
  · obtain ⟨e, he⟩ := Grapheme.Evaluator.exists_ofTables_bundled none
    obtain ⟨hextend, hinner, hflags⟩ :=
      Grapheme.Evaluator.runsWithin_conjunct (Grapheme.Evaluator.compiled_of_ofTables he)
    have hfit : e.RunsFit 2 Grapheme.conjunct :=
      ⟨hextend, hinner, hflags.mono (by decide)⟩
    obtain ⟨limited, hlimited, heq⟩ :=
      (isBreak_eq_of_runsFit .bundled 2 Grapheme.conjunct 2).2 e he
    exact ⟨e, limited, he, hlimited, hfit, heq hfit⟩

/-- Runs as long as the limit are too long: none here is longer than one, and yet a limit
of one changes what both evaluators decide. -/
theorem isBreak_ne_of_runs_as_long_as_limit :
    (∃ e limited, Word.Evaluator.ofTables .bundled none = .ok e ∧
      Word.Evaluator.ofTables .bundled (some 1) = .ok limited ∧
      RunsWithin e.isTransparent 1 Word.elision.codepoints ∧
      RunsWithin e.isFlagPart 1 Word.elision.codepoints ∧
      limited.isBreak Word.elision 1 ≠ e.isBreak Word.elision 1) ∧
    ∃ e limited, Grapheme.Evaluator.ofTables .bundled none = .ok e ∧
      Grapheme.Evaluator.ofTables .bundled (some 1) = .ok limited ∧
      RunsWithin e.isExtend 1 Grapheme.conjunct.codepoints ∧
      RunsWithin e.isConjunctInner 1 Grapheme.conjunct.codepoints ∧
      RunsWithin e.isRegional 1 Grapheme.conjunct.codepoints ∧
      limited.isBreak Grapheme.conjunct 2 ≠
        e.isBreak Grapheme.conjunct 2 := by
  constructor
  · obtain ⟨e, he⟩ := Word.Evaluator.exists_ofTables_bundled none
    obtain ⟨limited, hlimited⟩ := Word.Evaluator.exists_ofTables_bundled (some 1)
    have hcompiled := Word.Evaluator.compiled_of_ofTables he
    obtain ⟨htransparent, hflags⟩ := Word.Evaluator.runsWithin_elision hcompiled
    refine ⟨e, limited, he, hlimited, htransparent, hflags, ?_⟩
    rw [Word.Evaluator.isBreak_elision_none hcompiled,
      Word.Evaluator.isBreak_elision_one (Word.Evaluator.compiled_of_ofTables hlimited)]
    decide
  · obtain ⟨e, he⟩ := Grapheme.Evaluator.exists_ofTables_bundled none
    obtain ⟨limited, hlimited⟩ := Grapheme.Evaluator.exists_ofTables_bundled (some 1)
    have hcompiled := Grapheme.Evaluator.compiled_of_ofTables he
    obtain ⟨hextend, hinner, hflags⟩ := Grapheme.Evaluator.runsWithin_conjunct hcompiled
    refine ⟨e, limited, he, hlimited, hextend, hinner, hflags, ?_⟩
    rw [Grapheme.Evaluator.isBreak_conjunct_none hcompiled,
      Grapheme.Evaluator.isBreak_conjunct_one (Grapheme.Evaluator.compiled_of_ofTables hlimited)]
    decide

end TextBoundary
