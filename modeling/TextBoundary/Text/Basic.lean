import TextBoundary.Codepoint

/-!
# Text as code units

A text is any sequence of code units; nothing requires its surrogates to be
paired.  Positions count code units, and a position may lie beyond the text.

Both readers join a lead surrogate with the trail that follows it and read
every other unit on its own.  A step crosses one codepoint, forward or
backward, and always gets closer to the end it moves to, so a text is walked
by recursion on `Text.distance`.
-/

namespace TextBoundary

/-- A sequence of code units, well formed or not. -/
structure Text where
  units : Array CodeUnit
deriving DecidableEq, Inhabited

/-- A direction in which a text is read. -/
inductive Direction where
  | forward
  | backward
deriving DecidableEq

namespace Text

/-- The number of code units. -/
def size (t : Text) : Nat :=
  t.units.size

/-- The units from `start` up to, but not including, `stop`. -/
def slice (t : Text) (start stop : Nat) : Text :=
  ⟨t.units.extract start stop⟩

/-- The unit at a position. -/
def unit? (t : Text) (pos : Nat) : Option CodeUnit :=
  t.units[pos]?

/-- The unit that ends at a position. -/
def unitBefore? (t : Text) : Nat → Option CodeUnit
  | 0 => none
  | pos + 1 => t.unit? pos

/-- A position splits a pair when its two neighbours are the halves of one. -/
def SplitsPair (t : Text) (pos : Nat) : Prop :=
  ∃ u v, t.unitBefore? pos = some u ∧ t.unit? pos = some v ∧ CodeUnit.IsPair u v

instance (t : Text) (pos : Nat) : Decidable (t.SplitsPair pos) :=
  match hu : t.unitBefore? pos, hv : t.unit? pos with
  | some u, some v =>
      decidable_of_iff (CodeUnit.IsPair u v) (by simp [SplitsPair, hu, hv])
  | none, _ => isFalse (by simp [SplitsPair, hu])
  | some _, none => isFalse (by simp [SplitsPair, hv])

/-- The codepoint that starts at a position.  On the trail half of a pair it is
the lone trail. -/
def next? (t : Text) (pos : Nat) : Option Codepoint :=
  match t.unit? pos, t.unit? (pos + 1) with
  | none, _ => none
  | some u, none => some (.ofUnit u)
  | some u, some v =>
      if h : CodeUnit.IsPair u v then some (.ofPair u v h) else some (.ofUnit u)

/-- The codepoint that ends at a position.  On the lead half of a pair it is
the lone lead. -/
def prev? (t : Text) (pos : Nat) : Option Codepoint :=
  match t.unitBefore? pos, t.unitBefore? (pos - 1) with
  | none, _ => none
  | some v, none => some (.ofUnit v)
  | some v, some u =>
      if h : CodeUnit.IsPair u v then some (.ofPair u v h) else some (.ofUnit v)

/-- A codepoint crossed, and the position reached on its far side. -/
structure Step where
  codepoint : Codepoint
  pos : Nat
deriving DecidableEq

/-- The step from a position in a direction. -/
def step? (t : Text) (d : Direction) (pos : Nat) : Option Step :=
  match d with
  | .forward => (t.next? pos).map fun c => ⟨c, pos + c.width⟩
  | .backward => (t.prev? pos).map fun c => ⟨c, pos - c.width⟩

/-- The number of units between a position and the end it moves to. -/
def distance (t : Text) (d : Direction) (pos : Nat) : Nat :=
  match d with
  | .forward => t.size - pos
  | .backward => pos

theorem unit?_eq_none_iff {t : Text} {pos : Nat} :
    t.unit? pos = none ↔ t.size ≤ pos := by
  simp [unit?, size]

theorem unit?_isSome_iff {t : Text} {pos : Nat} :
    (t.unit? pos).isSome ↔ pos < t.size := by
  simp [unit?, size]

/-- A codepoint starts at every position before the end, and at no other. -/
theorem next?_eq_none_iff {t : Text} {pos : Nat} :
    t.next? pos = none ↔ t.size ≤ pos := by
  rw [← unit?_eq_none_iff]
  unfold next?
  split
  · simp_all
  · simp_all
  · split <;> simp_all

/-- A codepoint ends at every position from the first to the size. -/
theorem prev?_eq_none_iff {t : Text} {pos : Nat} :
    t.prev? pos = none ↔ pos = 0 ∨ t.size < pos := by
  have hunit : t.unitBefore? pos = none ↔ pos = 0 ∨ t.size < pos := by
    cases pos with
    | zero => simp [unitBefore?]
    | succ pos =>
        simp only [unitBefore?, unit?_eq_none_iff]
        omega
  rw [← hunit]
  unfold prev?
  split
  · simp_all
  · simp_all
  · split <;> simp_all

/-- A step leaves less to cross. -/
theorem distance_lt_of_step? {t : Text} {d : Direction} {pos : Nat} {s : Step}
    (h : t.step? d pos = some s) : t.distance d s.pos < t.distance d pos := by
  cases d with
  | forward =>
      obtain ⟨c, hc, rfl⟩ := Option.map_eq_some_iff.mp h
      have hpos : ¬t.size ≤ pos := by
        rw [← next?_eq_none_iff, hc]
        simp
      have := c.width_pos
      simp only [distance]
      omega
  | backward =>
      obtain ⟨c, hc, rfl⟩ := Option.map_eq_some_iff.mp h
      have hpos : ¬(pos = 0 ∨ t.size < pos) := by
        rw [← prev?_eq_none_iff, hc]
        simp
      have := c.width_pos
      simp only [distance]
      omega

/-- All steps from a position to the end of the text in a direction. -/
def steps (t : Text) (d : Direction) (pos : Nat) : List Step :=
  match _h : t.step? d pos with
  | none => []
  | some s => s :: t.steps d s.pos
termination_by t.distance d pos
decreasing_by exact distance_lt_of_step? _h

theorem steps_of_step?_eq_none {t : Text} {d : Direction} {pos : Nat}
    (h : t.step? d pos = none) : t.steps d pos = [] := by
  rw [steps]
  split
  · rfl
  · simp_all

theorem steps_of_step?_eq_some {t : Text} {d : Direction} {pos : Nat} {s : Step}
    (h : t.step? d pos = some s) : t.steps d pos = s :: t.steps d s.pos := by
  rw [steps]
  split
  · simp_all
  · simp_all

/-- Moves step by step until a step satisfies `stop`, or to the end. -/
def advance (t : Text) (d : Direction) (stop : Step → Bool) (pos : Nat) : Nat :=
  match _h : t.step? d pos with
  | none => pos
  | some s => if stop s then s.pos else t.advance d stop s.pos
termination_by t.distance d pos
decreasing_by exact distance_lt_of_step? _h

/-- Moving looks at the steps one after the other. -/
theorem advance_eq (t : Text) (d : Direction) (stop : Step → Bool) (pos : Nat) :
    t.advance d stop pos =
      match (t.steps d pos).find? stop with
      | some s => s.pos
      | none => ((t.steps d pos).getLast?.map Step.pos).getD pos := by
  fun_induction advance t d stop pos with
  | case1 pos h => simp [steps_of_step?_eq_none h]
  | case2 pos s h hstop => simp [steps_of_step?_eq_some h, hstop]
  | case3 pos s h hstop ih =>
      rw [ih, steps_of_step?_eq_some h, List.find?_cons_of_neg hstop]
      split
      · rfl
      · cases t.steps d s.pos <;> simp [List.getLast?_cons]

theorem le_advance_forward (t : Text) (stop : Step → Bool) (pos : Nat) :
    pos ≤ t.advance .forward stop pos := by
  generalize hd : Direction.forward = d
  fun_induction advance t d stop pos with
  | case1 pos h => exact Nat.le_refl pos
  | case2 pos s h hstop =>
      subst hd
      obtain ⟨c, hc, rfl⟩ := Option.map_eq_some_iff.mp h
      exact Nat.le_add_right pos c.width
  | case3 pos s h hstop ih =>
      subst hd
      obtain ⟨c, hc, rfl⟩ := Option.map_eq_some_iff.mp h
      exact Nat.le_trans (Nat.le_add_right pos c.width) ih

/-- Before the end, moving forward crosses something. -/
theorem lt_advance_forward (t : Text) (stop : Step → Bool) {pos : Nat}
    (h : pos < t.size) : pos < t.advance .forward stop pos := by
  rw [advance]
  split
  next hnone =>
    rw [step?, Option.map_eq_none_iff, next?_eq_none_iff] at hnone
    omega
  next s hsome =>
    obtain ⟨c, hc, rfl⟩ := Option.map_eq_some_iff.mp hsome
    have hwidth := c.width_pos
    have hle := t.le_advance_forward stop (pos + c.width)
    split
    · simp only
      omega
    · simp only at hle ⊢
      omega

end Text
end TextBoundary
