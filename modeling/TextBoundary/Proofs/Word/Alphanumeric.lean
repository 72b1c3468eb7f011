import TextBoundary.Proofs.Caret

/-!
# Moving on to the end of a word

A caret that looks for letters and digits goes forward to a boundary directly behind one of
them.  It therefore ends where the first segment ends whose last codepoint is a letter or a
digit, and it passes over spaces and punctuation.

Letters elsewhere in a segment do not stop the caret: a word that ends in a combining mark is
passed over as a whole.
-/

namespace TextBoundary
namespace Word
namespace Evaluator

variable {e : Evaluator} {t : Text} {a b pos n : Nat} {wanted : List Codepoint → Prop}

/-- Letters and digits, the codepoints that a caret looks for. -/
def isAlphanumeric (e : Evaluator) (c : Codepoint) : Bool :=
  (e.propertyOf c).any Property.isAlphanumeric

/-- What stands between two neighbouring boundaries: a word, or what separates words. -/
structure IsSegment (e : Evaluator) (t : Text) (a b : Nat) : Prop where
  lt : a < b
  le_size : b ≤ t.size
  start : e.isBreak t a = true
  stop : e.isBreak t b = true
  inner : ∀ p, a < p → p < b → e.isBreak t p = false

/-- The end of the first segment that ends after a position and whose codepoints from that
position on are wanted.  Where there is no such segment, it is the end of the text. -/
inductive EndsFirst (e : Evaluator) (t : Text) (wanted : List Codepoint → Prop) (pos : Nat) :
    Nat → Prop
  | found {a b : Nat} (segment : e.IsSegment t a b) (lt : pos < b)
      (here : wanted (t.slice (max a pos) b).codepoints)
      (first : ∀ a' b', e.IsSegment t a' b' → pos < b' → b' < b →
        ¬wanted (t.slice (max a' pos) b').codepoints) : EndsFirst e t wanted pos b
  | missing (none : ∀ a b, e.IsSegment t a b → pos < b →
      ¬wanted (t.slice (max a pos) b).codepoints) : EndsFirst e t wanted pos t.size

/-- Some codepoint is a letter or a digit. -/
def HoldsAlphanumeric (e : Evaluator) (l : List Codepoint) : Prop :=
  ∃ c ∈ l, e.isAlphanumeric c = true

/-- The last codepoint is a letter or a digit. -/
def EndsAlphanumeric (e : Evaluator) (l : List Codepoint) : Prop :=
  ∃ c ∈ l.getLast?, e.isAlphanumeric c = true

/-! ## Segments -/

/-- Every boundary but the first ends a segment. -/
theorem isSegment_prevBreak (hpos : 0 < b) (hle : b ≤ t.size) (hstop : e.isBreak t b = true) :
    e.IsSegment t (e.prevBreak t b) b := by
  have hprev := (e.caretMoves t).isGreatest_prev b hpos hle
  refine ⟨hprev.1.1, hle, hprev.1.2, hstop, ?_⟩
  intro p hp hlt
  rw [← Bool.not_eq_true]
  intro hbreak
  exact Nat.not_le.mpr hp (hprev.2 ⟨hlt, hbreak⟩)

/-- The part of a segment after a position ends as the text before the end of the segment
does. -/
theorem IsSegment.getLast?_slice (h : e.IsSegment t a b) (hsplits : ¬t.SplitsPair pos)
    (hlt : pos < b) : (t.slice (max a pos) b).codepoints.getLast? = (t.before b).getLast? := by
  have hmax : max a pos < b := max_lt h.lt hlt
  have hsplits' : ¬t.SplitsPair (max a pos) := by
    rcases max_choice a pos with heq | heq
    · rw [heq]
      exact (e.stops_isBreak t).not_splitsPair h.start
    · rwa [heq]
  have hbefore := Text.before_eq_append_slice (Nat.le_trans (Nat.le_of_lt hmax) h.le_size)
    hsplits' (Nat.le_of_lt hmax)
  have hne : (t.slice (max a pos) b).codepoints ≠ [] := by
    rw [Text.codepoints, ne_eq, Codepoint.read_eq_nil_iff, ← List.length_eq_zero_iff,
      Text.length_units_toList, Text.size_slice h.le_size]
    omega
  rw [hbefore, List.getLast?_append_of_ne_nil _ hne]

/-- No segment that is wanted ends before the first one. -/
theorem EndsFirst.le (h : e.EndsFirst t wanted pos n) (hsegment : e.IsSegment t a b)
    (hlt : pos < b) (hwanted : wanted (t.slice (max a pos) b).codepoints) : n ≤ b := by
  cases h with
  | found _ _ _ first =>
      apply Nat.le_of_not_lt
      intro hbefore
      exact first a b hsegment hlt hbefore hwanted
  | missing none => exact absurd hwanted (none a b hsegment hlt)

/-! ## The move -/

/-- A boundary directly behind a letter or a digit. -/
def endsWord (e : Evaluator) (t : Text) (p : Nat) : Bool :=
  e.isBreak t p && (t.before p).getLast?.any e.isAlphanumeric

theorem IsSegment.endsWord_iff (h : e.IsSegment t a b) (hsplits : ¬t.SplitsPair pos)
    (hlt : pos < b) :
    e.endsWord t b = true ↔ e.EndsAlphanumeric (t.slice (max a pos) b).codepoints := by
  rw [EndsAlphanumeric, h.getLast?_slice hsplits hlt, endsWord, h.stop, Bool.true_and,
    Option.any_eq_true]
  simp only [Option.mem_def]

/-- Between codepoints, the codepoint that was crossed is the last one before the caret. -/
theorem moveBreak_forward_eq (hle : pos ≤ t.size) (hsplits : ¬t.SplitsPair pos) :
    e.moveBreak t .forward true pos = t.advance .forward (fun s => e.endsWord t s.pos) pos := by
  apply Text.advance_forward_congr hle hsplits
  intro p s hp hsplits hstep
  rw [stopsAt, endsWord, Text.before_step?_pos hp hsplits hstep, List.getLast?_concat]
  rfl

/-- A caret that looks for letters and digits moves forward to the end of the first segment
that ends in one of them, from any position between two codepoints. -/
theorem moveBreak_endsFirst (hle : pos ≤ t.size) (hsplits : ¬t.SplitsPair pos) :
    e.EndsFirst t e.EndsAlphanumeric pos (e.moveBreak t .forward true pos) := by
  have hpair : ∀ p, t.SplitsPair p → e.endsWord t p = false := by
    intro p hp
    rw [endsWord, (e.stops_isBreak t).in_pair p hp, Bool.false_and]
  rw [moveBreak_forward_eq hle hsplits]
  generalize hn : t.advance .forward (fun s => e.endsWord t s.pos) pos = n
  rcases Text.advance_forward_cases hpair hle with ⟨hlt, hend, hword, hbetween⟩ | ⟨hend, hnone⟩
  · rw [hn] at hlt hend hword hbetween
    have hbreak : e.isBreak t n = true := (Bool.and_eq_true_iff.mp hword).1
    have hsegment := isSegment_prevBreak (by omega) hend hbreak
    refine .found hsegment hlt ((hsegment.endsWord_iff hsplits hlt).mp hword) ?_
    intro a b hab hpos hbefore hwanted
    rw [← hab.endsWord_iff hsplits hpos, hbetween b hpos hbefore] at hwanted
    contradiction
  · rw [hn] at hend
    subst hend
    apply EndsFirst.missing
    intro a b hab hpos hwanted
    rw [← hab.endsWord_iff hsplits hpos, hnone b hpos hab.le_size] at hwanted
    contradiction

/-! ## A word that ends in a mark -/

/-- A letter with a combining mark, and a letter on the next line. -/
def accented : Text :=
  ⟨#[0x61, 0x301, 0xA, 0x62]⟩

/-- What the bundled tables say of these codepoints. -/
theorem propertyOf_accented {limit : RunLimit} (h : Compiled .bundled limit e) :
    e.propertyOf (.ofUnit 0x61) = some .aLetter ∧ e.propertyOf (.ofUnit 0x301) = some .extend ∧
      e.propertyOf (.ofUnit 0xA) = some .lf ∧ e.propertyOf (.ofUnit 0x62) = some .aLetter := by
  rw [propertyOf_eq h, propertyOf_eq h, propertyOf_eq h, propertyOf_eq h]
  decide +kernel

/-- The mark stays with its letter, and the line end stands on its own. -/
theorem isBreak_accented {limit : RunLimit} (h : Compiled .bundled limit e) :
    e.isBreak accented 1 = false ∧ e.isBreak accented 2 = true ∧
      e.isBreak accented 3 = true := by
  obtain ⟨hletter, hmark, hend, hlast⟩ := propertyOf_accented h
  have hback₁ : accented.step? .backward 1 = some ⟨.ofUnit 0x61, 0⟩ := by decide
  have hback₂ : accented.step? .backward 2 = some ⟨.ofUnit 0x301, 1⟩ := by decide
  have hback₃ : accented.step? .backward 3 = some ⟨.ofUnit 0xA, 2⟩ := by decide
  have hstep₁ : accented.step? .forward 1 = some ⟨.ofUnit 0x301, 2⟩ := by decide
  have hstep₂ : accented.step? .forward 2 = some ⟨.ofUnit 0xA, 3⟩ := by decide
  have hstep₃ : accented.step? .forward 3 = some ⟨.ofUnit 0x62, 4⟩ := by decide
  have hsplits : ¬accented.SplitsPair 2 ∧ ¬accented.SplitsPair 3 := by decide
  refine ⟨?_, ?_, ?_⟩
  · simp [isBreak, hback₁, hstep₁, separates, hletter, hmark, Property.isLineEnd,
      Property.isTransparent]
  · simp [isBreak, hback₂, hstep₂, hsplits, separates, hmark, hend, Property.isLineEnd]
  · simp [isBreak, hback₃, hstep₃, hsplits, separates, hend, hlast, Property.isLineEnd]

theorem moveBreak_accented {limit : RunLimit} (h : Compiled .bundled limit e) :
    e.moveBreak accented .forward true 0 = 4 := by
  obtain ⟨-, hmark, hend, hlast⟩ := propertyOf_accented h
  obtain ⟨hbreak₁, hbreak₂, hbreak₃⟩ := isBreak_accented h
  have hbreak₄ : e.isBreak accented 4 = true := (e.stops_isBreak accented).at_end
  rw [moveBreak, Text.advance_of_step?_eq_some (s := ⟨.ofUnit 0x61, 1⟩) (by decide),
    Text.advance_of_step?_eq_some (s := ⟨.ofUnit 0x301, 2⟩) (by decide),
    Text.advance_of_step?_eq_some (s := ⟨.ofUnit 0xA, 3⟩) (by decide),
    Text.advance_of_step?_eq_some (s := ⟨.ofUnit 0x62, 4⟩) (by decide)]
  simp [stopsAt, hbreak₁, hbreak₂, hbreak₃, hbreak₄, hmark, hend, hlast,
    Property.isAlphanumeric]

/-- Beyond the marked letter, the next word ends in a letter. -/
theorem moveBreak_endsFirst_accented :
    ∃ e, ofTables .bundled none = .ok e ∧ 0 ≤ accented.size ∧ ¬accented.SplitsPair 0 ∧
      e.moveBreak accented .forward true 0 = 4 ∧
      e.EndsFirst accented e.EndsAlphanumeric 0 (e.moveBreak accented .forward true 0) := by
  obtain ⟨e, he⟩ := exists_ofTables_bundled none
  exact ⟨e, he, Nat.zero_le _, by decide, moveBreak_accented (compiled_of_ofTables he),
    moveBreak_endsFirst (Nat.zero_le _) (by decide)⟩

/-- The caret passes over the whole of a word that holds a letter but ends in a mark. -/
theorem moveBreak_passes_marked_word :
    ∃ e, ofTables .bundled none = .ok e ∧ 0 ≤ accented.size ∧ ¬accented.SplitsPair 0 ∧
      e.IsSegment accented 0 2 ∧ e.HoldsAlphanumeric (accented.slice 0 2).codepoints ∧
      ¬e.EndsFirst accented e.HoldsAlphanumeric 0 (e.moveBreak accented .forward true 0) := by
  obtain ⟨e, he⟩ := exists_ofTables_bundled none
  have hcompiled := compiled_of_ofTables he
  obtain ⟨hbreak₁, hbreak₂, -⟩ := isBreak_accented hcompiled
  have hsegment : e.IsSegment accented 0 2 := by
    refine ⟨by decide, by decide, e.isBreak_zero accented, hbreak₂, ?_⟩
    intro p hp hlt
    obtain rfl : p = 1 := by omega
    exact hbreak₁
  have hletter : e.HoldsAlphanumeric (accented.slice 0 2).codepoints := by
    refine ⟨.ofUnit 0x61, by decide, ?_⟩
    rw [isAlphanumeric, (propertyOf_accented hcompiled).1]
    rfl
  refine ⟨e, he, Nat.zero_le _, by decide, hsegment, hletter, ?_⟩
  intro hfirst
  have hle := hfirst.le hsegment (by decide) hletter
  rw [moveBreak_accented hcompiled] at hle
  exact absurd hle (by decide)

end Evaluator
end Word
end TextBoundary
