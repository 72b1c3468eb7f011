import Mathlib.Computability.Language
import Mathlib.Data.List.DropRight
import TextBoundary.Codepoint

/-!
# Boundary rules

A boundary rule is written with a cross or a division sign between two regular
expressions: what the text before a position has to end in, and what the text
after it has to begin with.  The cross keeps both sides together, and the
division sign puts a boundary between them.  Of a list of rules the first one
that applies decides, and where none applies there is a boundary.

Regular expressions are languages of codepoints, so a rule is a pair of
languages and a verdict.
-/

namespace TextBoundary

open scoped Computability

/-- The expression for one codepoint that satisfies a predicate. -/
def single (p : Codepoint → Prop) : Language Codepoint :=
  {l | ∃ c, p c ∧ l = [c]}

/-- One match of an expression, or several in a row. -/
def plus (x : Language Codepoint) : Language Codepoint :=
  x * x∗

/-- What ends in an odd number of codepoints that satisfy a predicate, where no
further one stands before them. -/
def oddRun (p : Codepoint → Bool) : Language Codepoint :=
  {l | (l.rtakeWhile p).length % 2 = 1}

/-- A sequence without the codepoints that satisfy `skip`. -/
def without (skip : Codepoint → Bool) (l : List Codepoint) : List Codepoint :=
  l.filter fun c => !skip c

/-- What is left of a sequence when the codepoints that satisfy `skip` are left
aside.  The first one has nothing that it could belong to and stays. -/
def leaveAside (skip : Codepoint → Bool) (l : List Codepoint) : List Codepoint :=
  l.take 1 ++ without skip l.tail

/-- What is left of a sequence when the codepoints that satisfy `skip` are left aside,
except directly after those that satisfy `stop`.  The flag says whether the first one is
such an exception. -/
def leaveAsideAfter (skip stop : Codepoint → Bool) : Bool → List Codepoint → List Codepoint
  | _, [] => []
  | free, c :: l =>
      if skip c && !free then leaveAsideAfter skip stop (stop c) l
      else c :: leaveAsideAfter skip stop (stop c) l

/-- A rule about the positions that have a member of `before` on their left and a
member of `after` on their right. -/
structure Rule where
  before : Language Codepoint
  after : Language Codepoint
  /-- The verdict: whether such a position is a boundary. -/
  isBreak : Bool

namespace Rule

/-- The rule `x × y`: what ends in `x` stays together with what begins with
`y`. -/
def join (x y : Language Codepoint) : Rule :=
  ⟨⊤ * x, y * ⊤, false⟩

/-- The rule `x ÷ y`: what ends in `x` is divided from what begins with `y`. -/
def divide (x y : Language Codepoint) : Rule :=
  ⟨⊤ * x, y * ⊤, true⟩

/-- Whether a rule speaks about a position, given both sides of it. -/
def Applies (rule : Rule) (l r : List Codepoint) : Prop :=
  l ∈ rule.before ∧ r ∈ rule.after

/-- Whether the first rule that applies puts a boundary between two sides; where
no rule applies there is one. -/
def Breaks : List Rule → List Codepoint → List Codepoint → Prop
  | [], _, _ => True
  | rule :: rules, l, r =>
      rule.Applies l r ∧ rule.isBreak = true ∨ ¬rule.Applies l r ∧ Breaks rules l r

/-- A rule read on what two functions make of both sides. -/
def through (f g : List Codepoint → List Codepoint) (rule : Rule) : Rule where
  before := {l | f l ∈ rule.before}
  after := {r | g r ∈ rule.after}
  isBreak := rule.isBreak

/-- A rule read with the codepoints that satisfy `skip` left aside. -/
def leavingAside (skip : Codepoint → Bool) (rule : Rule) : Rule :=
  rule.through (leaveAside skip) (without skip)

/-- A rule read with the codepoints that satisfy `skip` left aside, except directly after
those that satisfy `stop`. -/
def leavingAsideAfter (skip stop : Codepoint → Bool) (rule : Rule) : Rule :=
  rule.through (leaveAsideAfter skip stop true) (leaveAsideAfter skip stop false)

theorem breaks_nil (l r : List Codepoint) : Breaks [] l r :=
  trivial

theorem breaks_cons_of_isBreak {rule : Rule} (h : rule.isBreak = true)
    (rules : List Rule) (l r : List Codepoint) :
    Breaks (rule :: rules) l r ↔ rule.Applies l r ∨ Breaks rules l r := by
  simp only [Breaks, h, and_true]
  tauto

theorem breaks_cons_of_not_isBreak {rule : Rule} (h : rule.isBreak = false)
    (rules : List Rule) (l r : List Codepoint) :
    Breaks (rule :: rules) l r ↔ ¬rule.Applies l r ∧ Breaks rules l r := by
  simp [Breaks, h]

theorem breaks_join_cons (x y : Language Codepoint) (rules : List Rule)
    (l r : List Codepoint) :
    Breaks (join x y :: rules) l r ↔
      ¬(l ∈ ⊤ * x ∧ r ∈ y * ⊤) ∧ Breaks rules l r :=
  breaks_cons_of_not_isBreak rfl rules l r

theorem breaks_divide_cons (x y : Language Codepoint) (rules : List Rule)
    (l r : List Codepoint) :
    Breaks (divide x y :: rules) l r ↔
      (l ∈ ⊤ * x ∧ r ∈ y * ⊤) ∨ Breaks rules l r :=
  breaks_cons_of_isBreak rfl rules l r

/-- Rules read through two functions are the rules on what the functions make. -/
theorem breaks_map_through (f g : List Codepoint → List Codepoint) (rules : List Rule)
    (l r : List Codepoint) :
    Breaks (rules.map (through f g)) l r ↔ Breaks rules (f l) (g r) := by
  induction rules with
  | nil => rfl
  | cons rule rules ih =>
      rw [List.map_cons, Breaks, Breaks, ih]
      rfl

/-- Rules that leave codepoints aside are the rules on what remains. -/
theorem breaks_map_leavingAside (skip : Codepoint → Bool) (rules : List Rule)
    (l r : List Codepoint) :
    Breaks (rules.map (leavingAside skip)) l r ↔
      Breaks rules (leaveAside skip l) (without skip r) :=
  breaks_map_through _ _ rules l r

theorem breaks_map_leavingAsideAfter (skip stop : Codepoint → Bool) (rules : List Rule)
    (l r : List Codepoint) :
    Breaks (rules.map (leavingAsideAfter skip stop)) l r ↔
      Breaks rules (leaveAsideAfter skip stop true l) (leaveAsideAfter skip stop false r) :=
  breaks_map_through _ _ rules l r

end Rule

/-! ## Leaving codepoints aside -/

section Without

variable {skip : Codepoint → Bool} {c : Codepoint} {l r : List Codepoint}

@[simp] theorem without_nil : without skip [] = [] :=
  rfl

@[simp] theorem without_cons_of_pos (h : skip c = true) :
    without skip (c :: l) = without skip l := by
  simp [without, h]

@[simp] theorem without_cons_of_neg (h : skip c = false) :
    without skip (c :: l) = c :: without skip l := by
  simp [without, h]

@[simp] theorem without_append : without skip (l ++ r) = without skip l ++ without skip r :=
  List.filter_append l r

@[simp] theorem without_reverse : without skip l.reverse = (without skip l).reverse :=
  List.filter_reverse

theorem leaveAsideAfter_cons_of_pos {stop : Codepoint → Bool} (h : skip c = true) :
    leaveAsideAfter skip stop false (c :: l) = leaveAsideAfter skip stop (stop c) l := by
  simp [leaveAsideAfter, h]

theorem leaveAsideAfter_cons_of_neg {stop : Codepoint → Bool} {free : Bool}
    (h : skip c = false ∨ free = true) :
    leaveAsideAfter skip stop free (c :: l) = c :: leaveAsideAfter skip stop (stop c) l := by
  rcases h with h | h
  · simp [leaveAsideAfter, h]
  · simp [leaveAsideAfter, h]

theorem without_eq_nil_iff : without skip l = [] ↔ ∀ c ∈ l, skip c = true := by
  simp [without, List.filter_eq_nil_iff]

/-- Reading both sides of a position separately is reading the whole sequence: only
its very first codepoint is kept whatever it is. -/
theorem leaveAside_append (hl : l ≠ []) :
    leaveAside skip (l ++ r) = leaveAside skip l ++ without skip r := by
  obtain ⟨c, l, rfl⟩ := List.exists_cons_of_ne_nil hl
  simp [leaveAside]

end Without

/-! ## Runs at the end of a sequence -/

theorem rtakeWhile_append_cons_of_neg {α : Type} {p : α → Bool} {c : α}
    (hc : p c = false) (k l : List α) :
    (k ++ c :: l).rtakeWhile p = l.rtakeWhile p := by
  induction l using List.reverseRecOn with
  | nil => simp [hc]
  | append_singleton l d ih =>
      rw [← List.cons_append, ← List.append_assoc, List.rtakeWhile_concat,
        List.rtakeWhile_concat, ih]

theorem rtakeWhile_append_of_all {α : Type} {p : α → Bool} {l : List α}
    (hl : ∀ c ∈ l, p c = true) (k : List α) :
    (k ++ l).rtakeWhile p = k.rtakeWhile p ++ l := by
  induction l using List.reverseRecOn with
  | nil => simp
  | append_singleton l d ih =>
      have hd : p d = true := hl d (by simp)
      rw [← List.append_assoc, List.rtakeWhile_concat, if_pos hd,
        ih fun c hc => hl c (by simp [hc]), List.append_assoc]

theorem rtakeWhile_append_of_none {α : Type} {p : α → Bool} {k : List α}
    (hk : ∀ c ∈ k, p c = false) (l : List α) :
    (k ++ l).rtakeWhile p = l.rtakeWhile p := by
  rcases List.eq_nil_or_concat' k with rfl | ⟨k, c, rfl⟩
  · rfl
  · rw [List.append_assoc, List.singleton_append,
      rtakeWhile_append_cons_of_neg (hk c (by simp))]

/-- Counting the members of a run that others may stand among is measuring the
run that remains without the others. -/
theorem countP_takeWhile_or {p skip : Codepoint → Bool}
    (h : ∀ c, p c = true → skip c = false) (l : List Codepoint) :
    (l.takeWhile fun c => p c || skip c).countP p =
      ((without skip l).takeWhile p).length := by
  induction l with
  | nil => rfl
  | cons c l ih =>
      by_cases hp : p c = true
      · simp [hp, h c hp, ih]
      · by_cases hskip : skip c = true
        · simp [hp, hskip, ih]
        · simp [hp, hskip]

/-! ## Membership in short expressions -/

variable {p q : Codepoint → Prop} {x : Language Codepoint} {l r : List Codepoint}

theorem mem_single : l ∈ single p ↔ ∃ c, p c ∧ l = [c] :=
  Iff.rfl

theorem mem_top_language : l ∈ (⊤ : Language Codepoint) :=
  trivial

theorem mem_oddRun {p : Codepoint → Bool} :
    l ∈ oddRun p ↔ (l.rtakeWhile p).length % 2 = 1 :=
  Iff.rfl

theorem mem_mul_single : l ∈ x * single p ↔ ∃ m c, m ∈ x ∧ p c ∧ l = m ++ [c] := by
  rw [Language.mem_mul]
  constructor
  · rintro ⟨m, hm, _, ⟨c, hc, rfl⟩, rfl⟩
    exact ⟨m, c, hm, hc, rfl⟩
  · rintro ⟨m, c, hm, hc, rfl⟩
    exact ⟨m, hm, [c], ⟨c, hc, rfl⟩, rfl⟩

theorem mem_single_mul : l ∈ single p * x ↔ ∃ c m, p c ∧ m ∈ x ∧ l = c :: m := by
  rw [Language.mem_mul]
  constructor
  · rintro ⟨_, ⟨c, hc, rfl⟩, m, hm, rfl⟩
    exact ⟨c, m, hc, hm, rfl⟩
  · rintro ⟨c, m, hc, hm, rfl⟩
    exact ⟨[c], ⟨c, hc, rfl⟩, m, hm, rfl⟩

/-- Ending in one codepoint. -/
theorem mem_top_mul_single :
    l ∈ ⊤ * single p ↔ ∃ c, l.getLast? = some c ∧ p c := by
  rw [mem_mul_single]
  constructor
  · rintro ⟨m, c, -, hc, rfl⟩
    exact ⟨c, List.getLast?_concat, hc⟩
  · rintro ⟨c, hlast, hc⟩
    obtain ⟨m, rfl⟩ := List.getLast?_eq_some_iff.mp hlast
    exact ⟨m, c, mem_top_language, hc, rfl⟩

/-- Ending in two codepoints. -/
theorem mem_top_mul_single_mul_single :
    l ∈ ⊤ * (single p * single q) ↔
      (∃ c, l.dropLast.getLast? = some c ∧ p c) ∧
        ∃ c, l.getLast? = some c ∧ q c := by
  rw [← mul_assoc, mem_mul_single]
  constructor
  · rintro ⟨m, c, hm, hc, rfl⟩
    rw [List.dropLast_concat, List.getLast?_concat]
    exact ⟨mem_top_mul_single.mp hm, c, rfl, hc⟩
  · rintro ⟨hp, c, hlast, hc⟩
    obtain ⟨m, rfl⟩ := List.getLast?_eq_some_iff.mp hlast
    rw [List.dropLast_concat] at hp
    exact ⟨m, c, mem_top_mul_single.mpr hp, hc, rfl⟩

/-- Beginning with one codepoint. -/
theorem mem_single_mul_top :
    r ∈ single p * ⊤ ↔ ∃ c, r.head? = some c ∧ p c := by
  rw [mem_single_mul]
  constructor
  · rintro ⟨c, m, hc, -, rfl⟩
    exact ⟨c, rfl, hc⟩
  · rintro ⟨c, hhead, hc⟩
    obtain ⟨m, rfl⟩ := List.head?_eq_some_iff.mp hhead
    exact ⟨c, m, hc, mem_top_language, rfl⟩

/-- Beginning with two codepoints. -/
theorem mem_single_mul_single_mul_top :
    r ∈ single p * single q * ⊤ ↔
      (∃ c, r.head? = some c ∧ p c) ∧ ∃ c, r.tail.head? = some c ∧ q c := by
  rw [mul_assoc, mem_single_mul]
  constructor
  · rintro ⟨c, m, hc, hm, rfl⟩
    exact ⟨⟨c, rfl, hc⟩, mem_single_mul_top.mp hm⟩
  · rintro ⟨⟨c, hhead, hc⟩, hq⟩
    obtain ⟨m, rfl⟩ := List.head?_eq_some_iff.mp hhead
    exact ⟨c, m, hc, mem_single_mul_top.mpr hq, rfl⟩

theorem mem_top_mul_one : l ∈ (⊤ * 1 : Language Codepoint) := by
  rw [mul_one]
  exact mem_top_language

theorem mem_one_mul_top : r ∈ (1 * ⊤ : Language Codepoint) := by
  rw [one_mul]
  exact mem_top_language

/-- Repetitions of one codepoint. -/
theorem mem_kstar_single : l ∈ (single p)∗ ↔ ∀ c ∈ l, p c := by
  rw [Language.mem_kstar]
  constructor
  · rintro ⟨parts, rfl, hparts⟩ c hc
    obtain ⟨part, hpart, hmem⟩ := List.mem_flatten.mp hc
    obtain ⟨d, hd, rfl⟩ := hparts part hpart
    rw [List.mem_singleton.mp hmem]
    exact hd
  · intro h
    refine ⟨l.map fun c => [c], ?_, ?_⟩
    · simp [← List.flatMap_def]
    · intro part hpart
      obtain ⟨c, hc, rfl⟩ := List.mem_map.mp hpart
      exact ⟨c, h c hc, rfl⟩

/-- Repetitions of one codepoint with a certain one among them. -/
theorem mem_kstar_mul_single_mul_kstar (h : ∀ c, p c → q c) :
    l ∈ (single q)∗ * (single p * (single q)∗) ↔ (∀ c ∈ l, q c) ∧ ∃ c ∈ l, p c := by
  rw [Language.mem_mul]
  constructor
  · rintro ⟨xs, hxs, _, hcys, rfl⟩
    obtain ⟨c, ys, hc, hys, rfl⟩ := mem_single_mul.mp hcys
    rw [mem_kstar_single] at hxs hys
    refine ⟨?_, c, by simp, hc⟩
    intro d hd
    rcases List.mem_append.mp hd with hd | hd
    · exact hxs d hd
    · rcases List.mem_cons.mp hd with rfl | hd
      · exact h d hc
      · exact hys d hd
  · rintro ⟨hall, c, hmem, hc⟩
    obtain ⟨xs, ys, rfl⟩ := List.append_of_mem hmem
    refine ⟨xs, ?_, c :: ys, ?_, rfl⟩
    · exact mem_kstar_single.mpr fun d hd => hall d (by simp [hd])
    · exact mem_single_mul.mpr
        ⟨c, ys, hc, mem_kstar_single.mpr fun d hd => hall d (by simp [hd]), rfl⟩

theorem exists_getLast?_of_mem_oddRun {p : Codepoint → Bool} (h : l ∈ oddRun p) :
    ∃ c, l.getLast? = some c ∧ p c = true := by
  rw [mem_oddRun] at h
  rcases List.eq_nil_or_concat' l with rfl | ⟨l, c, rfl⟩
  · simp at h
  · refine ⟨c, List.getLast?_concat, ?_⟩
    by_contra hc
    simp [hc] at h

/-- A run that reaches beyond a place before which it has even length is odd when what
stands behind the place is. -/
theorem append_mem_oddRun_iff {p : Codepoint → Bool}
    (heven : (∀ c ∈ r, p c = true) → l ∉ oddRun p) : l ++ r ∈ oddRun p ↔ r ∈ oddRun p := by
  rw [mem_oddRun, mem_oddRun]
  by_cases hall : ∀ c ∈ r, p c = true
  · have hl := heven hall
    have hrun : r.rtakeWhile p = r := by simpa using rtakeWhile_append_of_all hall []
    rw [mem_oddRun] at hl
    rw [rtakeWhile_append_of_all hall, hrun, List.length_append]
    omega
  · push Not at hall
    obtain ⟨c, hc, hnot⟩ := hall
    obtain ⟨xs, ys, rfl⟩ := List.append_of_mem hc
    rw [ne_eq, Bool.not_eq_true] at hnot
    rw [← List.append_assoc, rtakeWhile_append_cons_of_neg hnot,
      rtakeWhile_append_cons_of_neg hnot]

/-- Ending in a codepoint and a match of an expression after it. -/
theorem mem_top_mul_single_mul :
    l ∈ ⊤ * (single p * x) ↔ ∃ k c m, p c ∧ m ∈ x ∧ l = k ++ c :: m := by
  rw [Language.mem_mul]
  constructor
  · rintro ⟨k, -, _, hcm, rfl⟩
    obtain ⟨c, m, hc, hm, rfl⟩ := mem_single_mul.mp hcm
    exact ⟨k, c, m, hc, hm, rfl⟩
  · rintro ⟨k, c, m, hc, hm, rfl⟩
    exact ⟨k, mem_top_language, c :: m, mem_single_mul.mpr ⟨c, m, hc, hm, rfl⟩, rfl⟩

/-! ## Scanning back over a run -/

/-- What a scan back finds after a run, where the run is made of codepoints that it
may pass and ends before the first that it looks for. -/
theorem any_head?_dropWhile_iff {p q : Codepoint → Bool} :
    ((l.reverse.dropWhile fun c => !p c && q c).head?.any p) = true ↔
      l ∈ ⊤ * (single (p · = true) * (single (q · = true))∗) := by
  rw [mem_top_mul_single_mul]
  constructor
  · intro h
    obtain ⟨c, hhead, hc⟩ := Option.any_eq_true _ _ |>.mp h
    obtain ⟨k, hdrop⟩ := List.head?_eq_some_iff.mp hhead
    have hsplit := List.takeWhile_append_dropWhile (p := fun c => !p c && q c) (l := l.reverse)
    rw [hdrop, ← List.reverse_inj] at hsplit
    refine ⟨k.reverse, c, (l.reverse.takeWhile fun c => !p c && q c).reverse, hc, ?_, ?_⟩
    · rw [mem_kstar_single]
      intro d hd
      have hpass := List.mem_takeWhile_imp (List.mem_reverse.mp hd)
      exact (Bool.and_eq_true_iff.mp hpass).2
    · simpa using hsplit.symm
  · rintro ⟨k, c, run, hc, hrun, rfl⟩
    rw [mem_kstar_single] at hrun
    rw [List.reverse_append, List.reverse_cons, List.append_assoc]
    have hback : ∀ d ∈ run.reverse, q d = true := fun d hd => hrun d (List.mem_reverse.mp hd)
    generalize run.reverse = back at hback
    -- The nearest codepoint that is looked for may come before `c`.
    induction back with
    | nil => simp [hc]
    | cons d back ih =>
        by_cases hd : p d = true
        · simp [hd]
        · have hq := hback d (by simp)
          simpa [hd, hq] using ih fun b hb => hback b (List.mem_cons_of_mem d hb)

/-- What a scan back passes and finds, where nothing that it looks for belongs to the
run. -/
theorem any_takeWhile_and_any_head?_dropWhile_iff {p q s : Codepoint → Bool}
    (hp : ∀ c, p c = true → q c = false) (hs : ∀ c, s c = true → q c = true) :
    ((l.reverse.takeWhile q).any s && (l.reverse.dropWhile q).head?.any p) = true ↔
      l ∈ ⊤ * (single (p · = true) *
        ((single (q · = true))∗ * (single (s · = true) * (single (q · = true))∗))) := by
  rw [mem_top_mul_single_mul, Bool.and_eq_true]
  constructor
  · rintro ⟨hrun, hfound⟩
    obtain ⟨c, hhead, hc⟩ := Option.any_eq_true _ _ |>.mp hfound
    obtain ⟨k, hdrop⟩ := List.head?_eq_some_iff.mp hhead
    have hsplit := List.takeWhile_append_dropWhile (p := q) (l := l.reverse)
    rw [hdrop, ← List.reverse_inj] at hsplit
    refine ⟨k.reverse, c, (l.reverse.takeWhile q).reverse, hc, ?_, ?_⟩
    · rw [mem_kstar_mul_single_mul_kstar hs]
      constructor
      · intro d hd
        exact List.mem_takeWhile_imp (List.mem_reverse.mp hd)
      · obtain ⟨d, hd, hds⟩ := List.any_eq_true.mp hrun
        exact ⟨d, List.mem_reverse.mpr hd, hds⟩
    · simpa using hsplit.symm
  · rintro ⟨k, c, run, hc, hrun, rfl⟩
    obtain ⟨hall, d, hd, hds⟩ := (mem_kstar_mul_single_mul_kstar hs).mp hrun
    have hback : ∀ d ∈ run.reverse, q d = true := fun d hd => hall d (List.mem_reverse.mp hd)
    rw [List.reverse_append, List.reverse_cons, List.append_assoc,
      List.takeWhile_append_of_pos hback, List.dropWhile_append_of_pos hback]
    have hany : run.reverse.any s = true :=
      List.any_eq_true.mpr ⟨d, List.mem_reverse.mpr hd, hds⟩
    constructor
    · simp [hp c hc, hany]
    · simp [hp c hc, hc]

end TextBoundary
