import TextBoundary.Proofs.Boundary
import TextBoundary.Proofs.Compilation
import TextBoundary.Proofs.Word.Context

/-!
# The word boundary rules

`Evaluator.rules` lists the word boundary rules in order.  The first of them speak
about neighbours as they stand.  The others are read with transparent codepoints
left aside, except for one at the very beginning, which has nothing to attach to.

An evaluator never builds the shortened sequence.  It takes the base of the left
side from one scan, further context from two others, and the parity of a run of
flag halves from a fourth.  The main step, `separates_iff`, says that this amounts
to the rules.  It rests on two facts about inert codepoints, the line ends and the
transparent ones: a scan that runs into one of them learns as much as a scan that
runs off the text, and a transparent codepoint at the beginning, which the rules
keep, joins nothing.  For the same reason it does not matter whether the rules keep
one directly after a line end.

The rules read codepoints through the evaluator.  What it takes from its tables is stated
by `ClassifiesBy`.
-/

namespace TextBoundary
namespace Word
namespace Evaluator

open scoped Computability

/-- The expression for one codepoint with one of some properties. -/
def having (e : Evaluator) (properties : List Property) : Language Codepoint :=
  single fun c => ∃ p ∈ properties, e.propertyOf c = some p

/-- The expression for one codepoint that counts as a pictograph, whatever its word
property is. -/
def pictograph (e : Evaluator) : Language Codepoint :=
  single fun c => e.pictographic.acceptsCodepoint c = true

/-- The rules about neighbours as they stand. -/
def adjacentRules (e : Evaluator) : List Rule :=
  [ -- WB3
    .join (e.having [.cr]) (e.having [.lf]),
    -- WB3a, WB3b
    .divide (e.having [.cr, .lf, .newline]) 1,
    .divide 1 (e.having [.cr, .lf, .newline]),
    -- WB3d
    .join (e.having [.wSegSpace]) (e.having [.wSegSpace]),
    -- WB3c
    .join (e.having [.zwj]) e.pictograph,
    -- WB4
    .join 1 (e.having [.extend, .format, .zwj])]

/-- The rules that are read with transparent codepoints left aside. -/
def baseRules (e : Evaluator) : List Rule :=
  let letter := e.having [.aLetter, .hebrewLetter]
  let midLetter := e.having [.midLetter, .midNumLet, .singleQuote]
  let hebrew := e.having [.hebrewLetter]
  let quote := e.having [.doubleQuote]
  let number := e.having [.numeric]
  let midNumber := e.having [.midNum, .midNumLet, .singleQuote]
  let katakana := e.having [.katakana]
  let connector := e.having [.extendNumLet]
  [ -- WB5, WB6, WB7
    .join letter letter,
    .join letter (midLetter * letter),
    .join (letter * midLetter) letter,
    -- WB7a, WB7b, WB7c
    .join hebrew (e.having [.singleQuote]),
    .join hebrew (quote * hebrew),
    .join (hebrew * quote) hebrew,
    -- WB8 to WB12
    .join number number,
    .join letter number,
    .join number letter,
    .join (number * midNumber) number,
    .join number (midNumber * number),
    -- WB13, WB13a, WB13b
    .join katakana katakana,
    .join (e.having [.aLetter, .hebrewLetter, .numeric, .katakana, .extendNumLet])
      connector,
    .join connector (e.having [.aLetter, .hebrewLetter, .numeric, .katakana]),
    -- Emoji modifiers.
    .join (e.having [.emojiModifierBase, .eBaseGaz]) (e.having [.emojiModifier]),
    -- WB15, WB16
    ⟨oddRun e.isRegional, e.having [.regionalIndicator] * ⊤, false⟩]

/-- The word boundary rules in order. -/
def rules (e : Evaluator) : List Rule :=
  e.adjacentRules ++ e.baseRules.map (Rule.leavingAside e.isTransparent)

/-- Whether a codepoint is a line end. -/
def isLineEnd (e : Evaluator) (c : Codepoint) : Bool :=
  (e.propertyOf c).any Property.isLineEnd

/-- The word boundary rules with one more exception: a transparent codepoint directly
after a line end has nothing to attach to and stays as well. -/
def strictRules (e : Evaluator) : List Rule :=
  e.adjacentRules ++ e.baseRules.map (Rule.leavingAsideAfter e.isTransparent e.isLineEnd)

variable {e : Evaluator} {k l r : List Codepoint} {ps qs : List Property} {c : Codepoint}

/-! ## What the rules ask for -/

theorem mem_top_mul_having :
    l ∈ ⊤ * e.having ps ↔ ∃ p ∈ ps, l.getLast?.bind e.propertyOf = some p := by
  simp only [having, mem_top_mul_single, Option.bind_eq_some_iff]
  grind

theorem mem_having_mul_top :
    r ∈ e.having ps * ⊤ ↔ ∃ p ∈ ps, r.head?.bind e.propertyOf = some p := by
  simp only [having, mem_single_mul_top, Option.bind_eq_some_iff]
  grind

theorem mem_top_mul_having_mul_having :
    l ∈ ⊤ * (e.having ps * e.having qs) ↔
      (∃ p ∈ ps, l.dropLast.getLast?.bind e.propertyOf = some p) ∧
        ∃ q ∈ qs, l.getLast?.bind e.propertyOf = some q := by
  simp only [having, mem_top_mul_single_mul_single, Option.bind_eq_some_iff]
  grind

theorem mem_having_mul_having_mul_top :
    r ∈ e.having ps * e.having qs * ⊤ ↔
      (∃ p ∈ ps, r.head?.bind e.propertyOf = some p) ∧
        ∃ q ∈ qs, r.tail.head?.bind e.propertyOf = some q := by
  simp only [having, mem_single_mul_single_mul_top, Option.bind_eq_some_iff]
  grind

/-- The properties around a position between two sequences. -/
def contextOf (e : Evaluator) (l r : List Codepoint) : Context where
  beforeLeft := l.dropLast.getLast?.bind e.propertyOf
  left := l.getLast?.bind e.propertyOf
  right := r.head?.bind e.propertyOf
  afterRight := r.tail.head?.bind e.propertyOf

theorem breaks_baseRules_iff :
    Rule.Breaks e.baseRules l r ↔
      (e.contextOf l r).joins = false ∧
        ¬((l.rtakeWhile e.isRegional).length % 2 = 1 ∧
          r.head?.bind e.propertyOf = some .regionalIndicator) := by
  rw [← Bool.not_eq_true, contextOf, Context.joins_iff]
  simp only [baseRules, Rule.breaks_join_cons, mem_top_mul_having, mem_having_mul_top,
    mem_top_mul_having_mul_having, mem_having_mul_having_mul_top,
    Rule.breaks_cons_of_not_isBreak, Rule.Applies, Rule.breaks_nil, mem_oddRun, and_true,
    Property.exists_mem_isLetter_iff, Property.exists_mem_isMidLetter_iff,
    Property.exists_mem_isMidNumber_iff, Property.exists_mem_isAlphanumeric_iff,
    Property.exists_mem_connectable_iff, Property.exists_mem_isModifierBase_iff,
    Property.exists_mem_singleton_iff, Bool.or_eq_true, decide_eq_true_eq, not_or, and_assoc]

theorem breaks_adjacentRules_append (rules : List Rule) :
    Rule.Breaks (e.adjacentRules ++ rules) l r ↔
      ¬(l.getLast?.bind e.propertyOf = some .cr ∧ r.head?.bind e.propertyOf = some .lf) ∧
        ((l.getLast?.bind e.propertyOf).any Property.isLineEnd ∨
          (r.head?.bind e.propertyOf).any Property.isLineEnd ∨
          ¬(l.getLast?.bind e.propertyOf = some .wSegSpace ∧
              r.head?.bind e.propertyOf = some .wSegSpace) ∧
            ¬(l.getLast?.bind e.propertyOf = some .zwj ∧
              r.head?.any e.pictographic.acceptsCodepoint) ∧
            ¬(r.head?.bind e.propertyOf).any Property.isTransparent ∧
            Rule.Breaks rules l r) := by
  simp only [adjacentRules, List.cons_append, List.nil_append, Rule.breaks_join_cons,
    Rule.breaks_divide_cons, mem_top_mul_having, mem_having_mul_top,
    Property.exists_mem_isLineEnd_iff, Property.exists_mem_isTransparent_iff,
    Property.exists_mem_singleton_iff, mem_top_mul_one, mem_one_mul_top, and_true, true_and,
    pictograph, mem_single_mul_top, Option.any_eq_true]

theorem breaks_rules_iff : Rule.Breaks e.rules l r ↔
    ¬(l.getLast?.bind e.propertyOf = some .cr ∧ r.head?.bind e.propertyOf = some .lf) ∧
      ((l.getLast?.bind e.propertyOf).any Property.isLineEnd ∨
        (r.head?.bind e.propertyOf).any Property.isLineEnd ∨
        ¬(l.getLast?.bind e.propertyOf = some .wSegSpace ∧
            r.head?.bind e.propertyOf = some .wSegSpace) ∧
          ¬(l.getLast?.bind e.propertyOf = some .zwj ∧
            r.head?.any e.pictographic.acceptsCodepoint) ∧
          ¬(r.head?.bind e.propertyOf).any Property.isTransparent ∧
          Rule.Breaks e.baseRules (leaveAside e.isTransparent l)
            (without e.isTransparent r)) := by
  rw [rules, breaks_adjacentRules_append, Rule.breaks_map_leavingAside]

/-! ## Inert codepoints -/

/-- Line ends and transparent codepoints. -/
def isInert (e : Evaluator) (c : Codepoint) : Bool :=
  (e.propertyOf c).any Property.isInert

theorem isInert_of_isTransparent (h : e.isTransparent c = true) :
    e.isInert c = true := by
  rw [isTransparent] at h
  rw [isInert]
  cases hp : e.propertyOf c with
  | none => simp [hp] at h
  | some p =>
      rw [hp, Option.any_some] at h
      simp [Property.isInert, h]

theorem isInert_of_isLineEnd (h : e.isLineEnd c = true) : e.isInert c = true := by
  obtain ⟨p, hp, hend⟩ := Option.any_eq_true _ _ |>.mp h
  simp [isInert, hp, Property.isInert, hend]

theorem isTransparent_of_isLineEnd (h : e.isLineEnd c = true) : e.isTransparent c = false := by
  obtain ⟨p, hp, hend⟩ := Option.any_eq_true _ _ |>.mp h
  rw [isTransparent, hp, Option.any_some]
  cases p <;> simp [Property.isLineEnd] at hend <;> rfl

theorem isLineEnd_of_isTransparent (h : e.isTransparent c = true) : e.isLineEnd c = false := by
  by_contra hend
  simp [isTransparent_of_isLineEnd (Bool.not_eq_false _ ▸ hend)] at h

theorem isRegional_iff : e.isRegional c = true ↔ e.propertyOf c = some .regionalIndicator := by
  rw [isRegional, decide_eq_true_eq]

theorem isRegional_of_isInert (h : e.isInert c = true) :
    e.isRegional c = false := by
  by_contra hregional
  simp only [isRegional, Bool.not_eq_false, decide_eq_true_eq] at hregional
  simp [isInert, hregional, Property.isInert, Property.isLineEnd, Property.isTransparent] at h

theorem isTransparent_of_isRegional (h : e.isRegional c = true) : e.isTransparent c = false := by
  by_contra htransparent
  rw [Bool.not_eq_false] at htransparent
  simp [isRegional_of_isInert (isInert_of_isTransparent htransparent)] at h

theorem breaks_baseRules_nil : Rule.Breaks e.baseRules [] r := by
  simp [breaks_baseRules_iff, contextOf, Context.joins_of_left_none]

/-- An inert codepoint hides all that stands before it, and itself. -/
theorem breaks_baseRules_append_cons (h : e.isInert c = true) (k : List Codepoint) :
    Rule.Breaks e.baseRules (k ++ c :: l) r ↔ Rule.Breaks e.baseRules l r := by
  rw [breaks_baseRules_iff, breaks_baseRules_iff,
    rtakeWhile_append_cons_of_neg (isRegional_of_isInert h)]
  have hjoins : (e.contextOf (k ++ c :: l) r).joins = (e.contextOf l r).joins := by
    rcases List.eq_nil_or_concat' l with rfl | ⟨l, d, rfl⟩
    · have hnone : (e.contextOf [] r).joins = false :=
        (breaks_baseRules_iff.mp breaks_baseRules_nil).1
      rw [hnone]
      exact Context.joins_of_left_inert (by simpa [contextOf, isInert] using h)
    · simp only [contextOf]
      rw [← List.cons_append, ← List.append_assoc, List.dropLast_concat,
        List.dropLast_concat, List.getLast?_concat, List.getLast?_concat]
      rcases List.eq_nil_or_concat' l with rfl | ⟨l, d, rfl⟩
      · simpa using Context.joins_of_beforeLeft_inert (by simpa [isInert] using h)
      · rw [← List.cons_append, ← List.append_assoc, List.getLast?_concat,
          List.getLast?_concat]
  rw [hjoins]

/-- A transparent codepoint at the beginning makes no difference. -/
theorem breaks_baseRules_leaveAside :
    Rule.Breaks e.baseRules (leaveAside e.isTransparent l) r ↔
      Rule.Breaks e.baseRules (without e.isTransparent l) r := by
  cases l with
  | nil => rfl
  | cons c l =>
      cases hc : e.isTransparent c with
      | true =>
          have hinert := isInert_of_isTransparent hc
          simpa [leaveAside, hc] using
            breaks_baseRules_append_cons (l := without e.isTransparent l) hinert []
      | false => simp [leaveAside, hc]

/-! ## Transparent codepoints after a line end -/

/-- On the left, it makes no difference whether a transparent codepoint stays at the
beginning and directly after line ends. -/
theorem breaks_baseRules_append_leaveAsideAfter {free : Bool}
    (hfree : free = true → k = [] ∨ ∃ m c, k = m ++ [c] ∧ e.isInert c = true) :
    Rule.Breaks e.baseRules (k ++ leaveAsideAfter e.isTransparent e.isLineEnd free l) r ↔
      Rule.Breaks e.baseRules (k ++ without e.isTransparent l) r := by
  induction l generalizing free k with
  | nil => rfl
  | cons c l ih =>
      cases hc : e.isTransparent c with
      | true =>
          have hend := isLineEnd_of_isTransparent hc
          have hrest : ∀ k', Rule.Breaks e.baseRules
              (k' ++ leaveAsideAfter e.isTransparent e.isLineEnd false l) r ↔
                Rule.Breaks e.baseRules (k' ++ without e.isTransparent l) r :=
            fun k' => ih (by simp)
          rw [without_cons_of_pos hc]
          cases hfreeEq : free with
          | false =>
              rw [leaveAsideAfter_cons_of_pos hc, hend]
              exact hrest k
          | true =>
              -- What stays hides all before it, and so does what it stays after.
              rw [leaveAsideAfter_cons_of_neg (Or.inr rfl), hend,
                breaks_baseRules_append_cons (isInert_of_isTransparent hc)]
              have halone := hrest []
              rw [List.nil_append, List.nil_append] at halone
              rw [halone]
              rcases hfree hfreeEq with rfl | ⟨m, d, rfl, hd⟩
              · rfl
              · rw [List.append_assoc, List.singleton_append, breaks_baseRules_append_cons hd]
      | false =>
          have hnext : Rule.Breaks e.baseRules
              (k ++ [c] ++ leaveAsideAfter e.isTransparent e.isLineEnd (e.isLineEnd c) l) r ↔
                Rule.Breaks e.baseRules (k ++ [c] ++ without e.isTransparent l) r :=
            ih fun hend => Or.inr ⟨k, c, rfl, isInert_of_isLineEnd hend⟩
          rw [leaveAsideAfter_cons_of_neg (Or.inl hc), without_cons_of_neg hc]
          simpa using hnext

theorem head?_leaveAsideAfter :
    (leaveAsideAfter e.isTransparent e.isLineEnd false l).head? =
      (without e.isTransparent l).head? := by
  induction l with
  | nil => rfl
  | cons c l ih =>
      cases hc : e.isTransparent c with
      | true =>
          rw [leaveAsideAfter_cons_of_pos hc, without_cons_of_pos hc,
            isLineEnd_of_isTransparent hc, ih]
      | false =>
          rw [leaveAsideAfter_cons_of_neg (Or.inl hc), without_cons_of_neg hc, List.head?_cons,
            List.head?_cons]

/-- On the right, too, as no base rule reads further than the second codepoint. -/
theorem breaks_baseRules_leaveAsideAfter (hend : e.isLineEnd c = false)
    (htransparent : e.isTransparent c = false) :
    Rule.Breaks e.baseRules l (leaveAsideAfter e.isTransparent e.isLineEnd false (c :: r)) ↔
      Rule.Breaks e.baseRules l (without e.isTransparent (c :: r)) := by
  rw [leaveAsideAfter_cons_of_neg (Or.inl htransparent), without_cons_of_neg htransparent, hend,
    breaks_baseRules_iff, breaks_baseRules_iff]
  simp only [contextOf, List.head?_cons, List.tail_cons, head?_leaveAsideAfter]

/-- It makes no difference whether a transparent codepoint directly after a line end
stays. -/
theorem breaks_strictRules_iff : Rule.Breaks e.strictRules l r ↔ Rule.Breaks e.rules l r := by
  have hleft : ∀ r, Rule.Breaks e.baseRules (leaveAsideAfter e.isTransparent e.isLineEnd true l) r ↔
      Rule.Breaks e.baseRules (leaveAside e.isTransparent l) r := by
    intro r
    rw [breaks_baseRules_leaveAside]
    exact breaks_baseRules_append_leaveAsideAfter (k := []) fun _ => Or.inl rfl
  rw [strictRules, breaks_adjacentRules_append, Rule.breaks_map_leavingAsideAfter,
    breaks_rules_iff, hleft]
  cases r with
  | nil => rfl
  | cons c r =>
      cases hend : e.isLineEnd c with
      | true =>
          rw [isLineEnd] at hend
          simp [hend]
      | false =>
          cases htransparent : e.isTransparent c with
          | true =>
              rw [isTransparent] at htransparent
              simp [htransparent]
          | false => rw [breaks_baseRules_leaveAsideAfter hend htransparent]

/-! ## What the scans find -/

theorem significant_eq (hlimit : e.limit = none) (t : Text) (d : Direction) (pos : Nat) :
    e.significant t d pos =
      (without e.isTransparent ((t.steps d pos).map Text.Step.codepoint)).head?.bind
        e.propertyOf := by
  rw [without, ← Text.head?_dropWhile_eq_head?_filter, ← Text.map_codepoint_scan_found,
    significant, hlimit, RunLimit.contextReach, Option.map_none]
  cases (t.scan d e.isTransparent none pos).found <;> rfl

theorem oddRegionalBefore_iff (hlimit : e.limit = none) {t : Text} {pos : Nat}
    (hle : pos ≤ t.size) :
    e.oddRegionalBefore t pos = true ↔
      ((without e.isTransparent (t.before pos)).rtakeWhile e.isRegional).length % 2 = 1 := by
  rw [oddRegionalBefore, hlimit, RunLimit.contextReach, Option.map_none, Text.scan_run,
    Text.map_codepoint_steps_backward hle,
    countP_takeWhile_or fun c => isTransparent_of_isRegional, without_reverse,
    List.rtakeWhile, List.length_reverse, decide_eq_true_eq]

/-- The base is the last codepoint before a position that is not transparent. -/
theorem without_before_of_base? (hlimit : e.limit = none) {t : Text} {pos : Nat}
    (hle : pos ≤ t.size) {base : Text.Step} (h : e.base? t pos = some base) :
    without e.isTransparent (t.before pos) =
      (without e.isTransparent
        ((t.steps .backward base.pos).map Text.Step.codepoint)).reverse ++
          [base.codepoint] := by
  rw [base?, hlimit, RunLimit.baseReach, Option.map_none] at h
  have hdrop := Text.dropWhile_of_scan_found h
  rw [Text.map_codepoint_steps_backward hle] at hdrop
  have hfilter := Text.filter_eq_of_dropWhile hdrop
  rwa [List.filter_reverse, List.reverse_eq_iff, List.reverse_cons] at hfilter

theorem without_before_of_base?_eq_none (hlimit : e.limit = none) {t : Text} {pos : Nat}
    (hle : pos ≤ t.size) (h : e.base? t pos = none) :
    without e.isTransparent (t.before pos) = [] := by
  rw [base?, hlimit, RunLimit.baseReach, Option.map_none] at h
  have hdrop := Text.dropWhile_of_scan_found_eq_none h
  rw [Text.map_codepoint_steps_backward hle, List.dropWhile_eq_nil_iff] at hdrop
  rw [without_eq_nil_iff]
  intro c hc
  exact hdrop c (List.mem_reverse.mpr hc)

/-! ## An evaluator follows the rules -/

/-- The context that an evaluator gathers around a position. -/
theorem contextOf_without (hlimit : e.limit = none) {t : Text} {pos : Nat}
    (hle : pos ≤ t.size) {base next : Text.Step} (hbase : e.base? t pos = some base)
    (hnext : t.step? .forward pos = some next)
    (htransparent : e.isTransparent next.codepoint = false) :
    e.contextOf (without e.isTransparent (t.before pos))
        (without e.isTransparent (t.after pos)) = {
      beforeLeft := e.significant t .backward base.pos
      left := e.propertyOf base.codepoint
      right := e.propertyOf next.codepoint
      afterRight := e.significant t .forward next.pos } := by
  rw [contextOf, without_before_of_base? hlimit hle hbase, Text.after_of_step? hnext,
    without_cons_of_neg htransparent, significant_eq hlimit, significant_eq hlimit,
    Text.map_codepoint_steps_forward]
  simp

theorem joins_eq_false_iff (hlimit : e.limit = none) {t : Text} {pos : Nat}
    (hle : pos ≤ t.size) {base next : Text.Step} (hbase : e.base? t pos = some base)
    (hnext : t.step? .forward pos = some next)
    (htransparent : e.isTransparent next.codepoint = false) :
    e.joins t pos base next = false ↔
      Rule.Breaks e.baseRules (leaveAside e.isTransparent (t.before pos))
        (without e.isTransparent (t.after pos)) := by
  have hbefore := without_before_of_base? hlimit hle hbase
  have hne : without e.isTransparent (t.before pos) ≠ [] := by simp [hbefore]
  have hright : (without e.isTransparent (t.after pos)).head? = some next.codepoint := by
    rw [Text.after_of_step? hnext, without_cons_of_neg htransparent, List.head?_cons]
  -- A run of flag halves before the position ends in the base.
  have hodd : e.oddRegionalBefore t pos = true → e.isRegional base.codepoint = true := by
    rw [oddRegionalBefore_iff hlimit hle, hbefore]
    intro hodd
    by_contra hregional
    simp [hregional] at hodd
  rw [breaks_baseRules_leaveAside, breaks_baseRules_iff,
    contextOf_without hlimit hle hbase hnext htransparent, hright, Option.bind_some,
    ← oddRegionalBefore_iff hlimit hle, joins, Bool.or_eq_false_iff]
  simp only [isRegional, Bool.and_eq_false_iff, decide_eq_false_iff_not,
    decide_eq_true_eq] at hodd ⊢
  grind

/-- Between two codepoints an evaluator decides as the rules do. -/
theorem separates_iff (hlimit : e.limit = none) {t : Text} {pos : Nat} (hle : pos ≤ t.size)
    {prev next : Text.Step} (hprev : t.step? .backward pos = some prev)
    (hnext : t.step? .forward pos = some next) :
    e.separates t pos prev next = true ↔
      Rule.Breaks e.rules (t.before pos) (t.after pos) := by
  have hhead : (t.after pos).head? = some next.codepoint := by
    rw [Text.after_of_step? hnext, List.head?_cons]
  rw [breaks_rules_iff, Text.getLast?_before hprev, hhead]
  simp only [Option.bind_some, Option.any_some]
  unfold separates
  dsimp only
  split_ifs with hcrlf hends hspaces hzwj htransparent
  · grind
  · grind
  · grind
  · grind
  · grind
  · cases hbase : e.base? t pos with
    | none =>
        have hbreaks : Rule.Breaks e.baseRules (leaveAside e.isTransparent (t.before pos))
            (without e.isTransparent (t.after pos)) := by
          rw [breaks_baseRules_leaveAside, without_before_of_base?_eq_none hlimit hle hbase]
          exact breaks_baseRules_nil
        grind
    | some base =>
        have hjoins := joins_eq_false_iff hlimit hle hbase hnext
          (Bool.eq_false_iff.mpr htransparent)
        simp only [Bool.not_eq_true', hjoins]
        grind

theorem isBreak_iff (hlimit : e.limit = none) (t : Text) (pos : Nat) :
    e.isBreak t pos = true ↔ t.IsBoundary e.rules pos := by
  apply Text.iff_isBoundary_of_steps
  · rintro (hprev | hnext)
    · rw [isBreak, hprev]
    · rw [isBreak, hnext]
      cases t.step? .backward pos <;> rfl
  · intro prev next hprev hnext hle
    rw [isBreak, hprev, hnext, ← separates_iff hlimit hle hprev hnext]
    simp

/-- A codepoint has the property of the first entry of the tables that holds it. -/
theorem propertyOf_eq {tables : Unicode.Tables} {limit : RunLimit}
    (h : Compiled tables limit e) (c : Codepoint) :
    e.propertyOf c =
      (((sources tables).flatMap Classifier.Source.entries).find? fun pe =>
        pe.Holds c.value).bind fun pe => NamedProperty.ofName? pe.property :=
  Classifier.classify_ofSources h.classifier c.value

/-- An evaluator knows of a codepoint what tables say: the property of the first entry that
holds it, and whether the first entry for pictographs holds it. -/
structure ClassifiesBy (e : Evaluator) (tables : Unicode.Tables) : Prop where
  property : ∀ c : Codepoint, e.propertyOf c =
    (((sources tables).flatMap Classifier.Source.entries).find? fun pe =>
      pe.Holds c.value).bind fun pe => NamedProperty.ofName? pe.property
  pictographic : ∀ c : Codepoint, e.pictographic.acceptsCodepoint c =
    (((sources tables).flatMap Classifier.Source.entries).find? fun pe =>
      NamedProperty.ofName? pe.property = some Property.extendedPictographic).any fun pe =>
        pe.Holds c.value

theorem classifiesBy_of_compiled {tables : Unicode.Tables} {limit : RunLimit}
    (h : Compiled tables limit e) : e.ClassifiesBy tables where
  property := propertyOf_eq h
  pictographic := Classifier.acceptsCodepoint_eq_of_matcher? h.classifier h.pictographic

/-- Two digits with a comma and a mark between them, and a space behind. -/
def decimal : Text :=
  ⟨#[0x31, 0x2C, 0x301, 0x32, 0x20]⟩

/-- What the bundled tables say of these codepoints. -/
theorem propertyOf_decimal (h : e.ClassifiesBy .bundled) :
    e.propertyOf (.ofUnit 0x31) = some .numeric ∧ e.propertyOf (.ofUnit 0x2C) = some .midNum ∧
      e.propertyOf (.ofUnit 0x301) = some .extend ∧
      e.propertyOf (.ofUnit 0x32) = some .numeric ∧
      e.propertyOf (.ofUnit 0x20) = some .wSegSpace := by
  simp only [h.property]
  decide +kernel

/-- The rules for numbers keep the comma with both digits, as the mark behind it is left
aside, and no rule keeps the space. -/
theorem breaks_rules_decimal (h : e.ClassifiesBy .bundled) :
    ¬Rule.Breaks e.rules (decimal.before 1) (decimal.after 1) ∧
      ¬Rule.Breaks e.rules (decimal.before 3) (decimal.after 3) ∧
      Rule.Breaks e.rules (decimal.before 4) (decimal.after 4) := by
  obtain ⟨hone, hcomma, hmark, htwo, hspace⟩ := propertyOf_decimal h
  have hread : decimal.before 1 = [.ofUnit 0x31] ∧
      decimal.after 1 = [.ofUnit 0x2C, .ofUnit 0x301, .ofUnit 0x32, .ofUnit 0x20] ∧
      decimal.before 3 = [.ofUnit 0x31, .ofUnit 0x2C, .ofUnit 0x301] ∧
      decimal.after 3 = [.ofUnit 0x32, .ofUnit 0x20] ∧
      decimal.before 4 = [.ofUnit 0x31, .ofUnit 0x2C, .ofUnit 0x301, .ofUnit 0x32] ∧
      decimal.after 4 = [.ofUnit 0x20] := by
    decide
  obtain ⟨hbefore, hafter, hbefore', hafter', hbefore'', hafter''⟩ := hread
  rw [hbefore, hafter, hbefore', hafter', hbefore'', hafter'']
  simp only [breaks_rules_iff, breaks_baseRules_iff, contextOf]
  simp [leaveAside, without, isTransparent, hone, hcomma, hmark, htwo, hspace,
    Property.isLineEnd, Property.isTransparent, Property.isLetter, Property.isMidLetter,
    Property.isMidNumber, Property.isAlphanumeric, Property.isModifierBase, Context.joins,
    Context.joinsLetters, Context.joinsHebrewQuote, Context.joinsNumbers,
    Context.joinsConnectors, Context.joinsModifier]

/-- Without a run limit, an evaluator decides every position of every text by the word
boundary rules, whether or not a transparent codepoint directly after a line end is left
aside.  The rules read the properties off the tables, and lone surrogates have none. -/
theorem isBreak_decidedBy_wordRules {tables : Unicode.Tables} {e : Evaluator}
    (h : ofTables tables none = .ok e) :
    e.ClassifiesBy tables ∧
      (∀ c : Codepoint, c.IsLoneSurrogate → e.propertyOf c = none) ∧
      ∀ (t : Text) (pos : Nat), t.DecidedBy e.rules pos (e.isBreak t pos) ∧
        t.DecidedBy e.strictRules pos (e.isBreak t pos) := by
  have hcompiled := compiled_of_ofTables h
  refine ⟨classifiesBy_of_compiled hcompiled, ?_, ?_⟩
  · intro c hc
    exact Classifier.classifyCodepoint_of_lone hcompiled.classifier hc
  · intro t pos
    have hrules := isBreak_iff hcompiled.limit_eq t pos
    have hstrict : e.isBreak t pos = true ↔ t.IsBoundary e.strictRules pos := by
      simp only [hrules, Text.IsBoundary, breaks_strictRules_iff]
    exact ⟨Text.decidedBy_of_iff hrules, Text.decidedBy_of_iff hstrict⟩

/-- The bundled tables have an evaluator that decides by the rules, among them the one that
keeps a comma in a number. -/
theorem isBreak_decidedBy_wordRules_bundled :
    ∃ e, ofTables .bundled none = .ok e ∧
      (∀ (t : Text) (pos : Nat), t.DecidedBy e.rules pos (e.isBreak t pos) ∧
        t.DecidedBy e.strictRules pos (e.isBreak t pos)) ∧
      e.isBreak decimal 1 = false ∧ e.isBreak decimal 3 = false ∧
      e.isBreak decimal 4 = true := by
  obtain ⟨e, he⟩ := exists_ofTables_bundled none
  obtain ⟨hclassifies, -, hdecided⟩ := isBreak_decidedBy_wordRules he
  obtain ⟨hcomma, hmark, hspace⟩ := breaks_rules_decimal hclassifies
  refine ⟨e, he, hdecided, ?_, ?_, ?_⟩
  · rwa [← Bool.not_eq_true,
      (hdecided decimal 1).1.iff_breaks (by decide) (by decide) (by decide)]
  · rwa [← Bool.not_eq_true,
      (hdecided decimal 3).1.iff_breaks (by decide) (by decide) (by decide)]
  · rwa [(hdecided decimal 4).1.iff_breaks (by decide) (by decide) (by decide)]

end Evaluator
end Word
end TextBoundary
