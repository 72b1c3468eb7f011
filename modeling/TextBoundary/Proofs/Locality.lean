import TextBoundary.Proofs.Compilation
import TextBoundary.Proofs.Movement
import TextBoundary.Proofs.Slice

/-!
# A limit on runs bounds what is read

A step reads two units, and a scan takes no more steps than its reach.  So an evaluator
with a run limit reads no further than a number of units that follows from the limit, and
a slice that holds these units gives the same answer as the text.  It does not matter
where the slice is cut, inside a pair or inside a run: what is cut is never read.
-/

namespace TextBoundary

theorem Codepoint.width_le_two (c : Codepoint) : c.width ≤ 2 := by
  unfold width
  split <;> decide

/-- A step in a slice that begins at `lo`, as a step in the text. -/
def Text.Step.shift (lo : Nat) (s : Step) : Step :=
  ⟨s.codepoint, lo + s.pos⟩

/-- A scan in a slice that begins at `lo`, as a scan in the text. -/
def Scan.shift (lo : Nat) (scan : Scan) : Scan :=
  ⟨scan.run, scan.found.map (Text.Step.shift lo)⟩

namespace Text

/-- The slice from `lo` to `hi` shows enough of a text for `k` steps from its position
`q`: it has the units that as many pairs take, unless it reaches to the end of the text. -/
structure Shows (t : Text) (lo hi : Nat) (d : Direction) (k q : Nat) : Prop where
  stop_le : hi ≤ t.size
  le_stop : lo + q ≤ hi
  room : match d with
    | .forward => hi = t.size ∨ lo + q + 2 * k ≤ hi
    | .backward => lo = 0 ∨ 2 * k ≤ q

variable {t : Text} {lo hi k m q : Nat} {d : Direction} {s : Step} {skip : Codepoint → Bool}

theorem Shows.mono (h : t.Shows lo hi d k q) (hm : m ≤ k) : t.Shows lo hi d m q := by
  refine ⟨h.stop_le, h.le_stop, ?_⟩
  have hroom := h.room
  cases d with
  | forward =>
      simp only at hroom ⊢
      omega
  | backward =>
      simp only at hroom ⊢
      omega

/-! ## Units -/

theorem unit?_slice (hstop : hi ≤ t.size) (h : hi = t.size ∨ lo + q < hi) :
    (t.slice lo hi).unit? q = t.unit? (lo + q) := by
  rw [unit?, unit?, slice, Array.getElem?_extract]
  rw [size] at hstop h
  split
  next => rfl
  next hend =>
    rw [Array.getElem?_eq_none_iff.mpr]
    omega

theorem unitBefore?_slice (hstop : hi ≤ t.size) (hle : lo + q ≤ hi) (h : lo = 0 ∨ 0 < q) :
    (t.slice lo hi).unitBefore? q = t.unitBefore? (lo + q) := by
  cases q with
  | zero =>
      obtain rfl : lo = 0 := by omega
      rfl
  | succ q => exact unit?_slice hstop (Or.inr hle)

theorem splitsPair_slice (hback : t.Shows lo hi .backward 1 q)
    (hahead : t.Shows lo hi .forward 1 q) :
    (t.slice lo hi).SplitsPair q ↔ t.SplitsPair (lo + q) := by
  have hroomBack := hback.room
  have hroomAhead := hahead.room
  simp only at hroomBack hroomAhead
  rw [SplitsPair, SplitsPair, unit?_slice hahead.stop_le (by omega),
    unitBefore?_slice hback.stop_le hback.le_stop (by omega)]

theorem next?_slice (h : t.Shows lo hi .forward 1 q) :
    (t.slice lo hi).next? q = t.next? (lo + q) := by
  have hroom := h.room
  simp only at hroom
  rw [next?, next?, unit?_slice h.stop_le (by omega), unit?_slice h.stop_le (by omega),
    Nat.add_assoc]

theorem prev?_slice (h : t.Shows lo hi .backward 1 q) :
    (t.slice lo hi).prev? q = t.prev? (lo + q) := by
  have hroom := h.room
  have hle := h.le_stop
  simp only at hroom
  have hsub : lo + q - 1 = lo + (q - 1) := by omega
  rw [prev?, prev?, unitBefore?_slice h.stop_le hle (by omega), hsub,
    unitBefore?_slice h.stop_le (by omega) (by omega)]

/-! ## Steps -/

/-- A step that a slice shows is a step of the text. -/
theorem step?_slice (h : t.Shows lo hi d 1 q) :
    t.step? d (lo + q) = ((t.slice lo hi).step? d q).map (Step.shift lo) := by
  cases d with
  | forward =>
      rw [step?, step?, next?_slice h, Option.map_map]
      apply Option.map_congr
      intro c _
      simp only [Function.comp_apply, Step.shift, Nat.add_assoc]
  | backward =>
      rw [step?, step?, prev?_slice h, Option.map_map]
      apply Option.map_congr
      intro c _
      have hroom := h.room
      have hwidth := c.width_le_two
      simp only [Function.comp_apply, Step.shift, Step.mk.injEq, true_and] at hroom ⊢
      omega

/-- Behind a step, there is room for one step less. -/
theorem Shows.step (h : t.Shows lo hi d (k + 1) q) (hs : (t.slice lo hi).step? d q = some s) :
    t.Shows lo hi d k s.pos := by
  have hsize := size_slice h.stop_le (p := lo)
  have hle := h.le_stop
  have hroom := h.room
  cases d with
  | forward =>
      have hend := step?_pos_le hs
      obtain ⟨c, hc, rfl⟩ := Option.map_eq_some_iff.mp hs
      have hwidth := c.width_le_two
      simp only at hroom hend
      refine ⟨h.stop_le, ?_, ?_⟩
      · simp only
        omega
      · simp only
        omega
  | backward =>
      obtain ⟨c, hc, rfl⟩ := Option.map_eq_some_iff.mp hs
      have hwidth := c.width_le_two
      simp only at hroom
      refine ⟨h.stop_le, ?_, ?_⟩
      · simp only
        omega
      · simp only
        omega

/-! ## Scans -/

theorem scan_zero (t : Text) (d : Direction) (skip : Codepoint → Bool) (pos : Nat) :
    t.scan d skip (some 0) pos = ⟨[], none⟩ := by
  rw [scan, if_pos rfl]

theorem scan_succ (t : Text) (d : Direction) (skip : Codepoint → Bool) (k pos : Nat) :
    t.scan d skip (some (k + 1)) pos =
      match t.step? d pos with
      | none => ⟨[], none⟩
      | some s =>
          if skip s.codepoint then
            ⟨s.codepoint :: (t.scan d skip (some k) s.pos).run,
              (t.scan d skip (some k) s.pos).found⟩
          else ⟨[], some s⟩ := by
  rw [scan, if_neg (by simp)]
  split
  next hnone => rw [hnone]
  next s hs =>
    rw [hs]
    rfl

/-- A scan with a reach that a slice shows is a scan of the text. -/
theorem scan_slice (h : t.Shows lo hi d k q) :
    t.scan d skip (some k) (lo + q) = ((t.slice lo hi).scan d skip (some k) q).shift lo := by
  induction k generalizing q with
  | zero =>
      rw [scan_zero, scan_zero]
      rfl
  | succ k ih =>
      rw [scan_succ, scan_succ, step?_slice (h.mono (Nat.le_add_left 1 k))]
      cases hs : (t.slice lo hi).step? d q with
      | none => rfl
      | some s =>
          have hrest := ih (h.step hs)
          simp only [Option.map_some, Step.shift]
          by_cases hskip : skip s.codepoint
          · simp only [hskip, if_true, hrest, Scan.shift]
          · simp [hskip, Scan.shift, Step.shift]

/-- Behind what a scan finds, there is room for what its reach has left over. -/
theorem Shows.found (h : t.Shows lo hi d (k + m) q)
    (hs : ((t.slice lo hi).scan d skip (some k) q).found = some s) :
    t.Shows lo hi d m s.pos := by
  induction k generalizing q with
  | zero =>
      rw [scan_zero] at hs
      contradiction
  | succ k ih =>
      rw [scan_succ] at hs
      rw [Nat.add_right_comm] at h
      split at hs
      next => contradiction
      next s' hs' =>
        split at hs
        next => exact ih (h.step hs') hs
        next =>
          obtain rfl := Option.some.inj hs
          exact (h.step hs').mono (Nat.le_add_left m k)

end Text

/-! ## Words -/

namespace Word
namespace Evaluator

variable {e : Evaluator} {t : Text} {lo hi n q : Nat} {d : Direction} {base next prev : Text.Step}
  (hlimit : e.limit = some n)
include hlimit

theorem base?_slice (h : t.Shows lo hi .backward (n + 1) q) :
    e.base? t (lo + q) = (e.base? (t.slice lo hi) q).map (Text.Step.shift lo) := by
  rw [base?, base?, hlimit, RunLimit.baseReach, Option.map_some, Text.scan_slice h, Scan.shift]

theorem significant_slice (h : t.Shows lo hi d (max 1 n) q) :
    e.significant t d (lo + q) = e.significant (t.slice lo hi) d q := by
  rw [significant, significant, hlimit, RunLimit.contextReach, Option.map_some,
    Text.scan_slice h, Scan.shift]
  cases ((t.slice lo hi).scan d e.isTransparent (some (max 1 n)) q).found <;> rfl

theorem oddRegionalBefore_slice (h : t.Shows lo hi .backward (max 1 n) q) :
    e.oddRegionalBefore t (lo + q) = e.oddRegionalBefore (t.slice lo hi) q := by
  rw [oddRegionalBefore, oddRegionalBefore, hlimit, RunLimit.contextReach, Option.map_some,
    Text.scan_slice h, Scan.shift]

/-- The search for a base reads one codepoint more than the limit says, and the search
behind the base as many as the limit says. -/
theorem separates_slice (hback : t.Shows lo hi .backward (2 * n + 2) q)
    (hnext : t.Shows lo hi .forward (max 1 n) next.pos) :
    e.separates t (lo + q) (prev.shift lo) (next.shift lo) =
      e.separates (t.slice lo hi) q prev next := by
  have hreach : t.Shows lo hi .backward (n + 1 + max 1 n) q := hback.mono (by omega)
  unfold separates
  rw [base?_slice hlimit (hreach.mono (Nat.le_add_right _ _))]
  cases hfound : e.base? (t.slice lo hi) q with
  | none => rfl
  | some base =>
      rw [base?, hlimit, RunLimit.baseReach, Option.map_some] at hfound
      have hjoins : e.joins t (lo + q) (base.shift lo) (next.shift lo) =
          e.joins (t.slice lo hi) q base next := by
        rw [joins, joins, Text.Step.shift, Text.Step.shift,
          significant_slice hlimit (hreach.found hfound), significant_slice hlimit hnext,
          oddRegionalBefore_slice hlimit (hreach.mono (Nat.le_add_left _ _))]
      simp only [Option.map_some, hjoins]
      rfl

theorem isBreak_slice (hback : t.Shows lo hi .backward (2 * n + 2) q)
    (hahead : t.Shows lo hi .forward (n + 2) q) :
    e.isBreak (t.slice lo hi) q = e.isBreak t (lo + q) := by
  have hbackOne : t.Shows lo hi .backward 1 q := hback.mono (by omega)
  have haheadOne : t.Shows lo hi .forward 1 q := hahead.mono (by omega)
  rw [isBreak, isBreak, Text.step?_slice hbackOne, Text.step?_slice haheadOne]
  cases (t.slice lo hi).step? .backward q with
  | none => rfl
  | some prev =>
      cases hnext : (t.slice lo hi).step? .forward q with
      | none => rfl
      | some next =>
          have hreach : t.Shows lo hi .forward (max 1 n + 1) q := hahead.mono (by omega)
          simp only [Option.map_some, separates_slice hlimit hback (hreach.step hnext),
            Text.splitsPair_slice hbackOne haheadOne]

end Evaluator
end Word

/-! ## Graphemes -/

namespace Grapheme
namespace Evaluator

variable {e : Evaluator} {t : Text} {lo hi n q : Nat} {next prev : Text.Step}
  (hlimit : e.limit = some n)
include hlimit

theorem followsLinkedConsonant_slice (h : t.Shows lo hi .backward (max 1 n) q) :
    e.followsLinkedConsonant t (lo + q) = e.followsLinkedConsonant (t.slice lo hi) q := by
  rw [followsLinkedConsonant, followsLinkedConsonant, hlimit, RunLimit.contextReach,
    Option.map_some, Text.scan_slice h, Scan.shift, Option.any_map]
  rfl

theorem followsPictographic_slice (h : t.Shows lo hi .backward (max 1 n) q) :
    e.followsPictographic t (lo + q) = e.followsPictographic (t.slice lo hi) q := by
  rw [followsPictographic, followsPictographic, hlimit, RunLimit.contextReach,
    Option.map_some, Text.scan_slice h, Scan.shift, Option.any_map]
  rfl

theorem oddRegionalBefore_slice (h : t.Shows lo hi .backward (max 1 n) q) :
    e.oddRegionalBefore t (lo + q) = e.oddRegionalBefore (t.slice lo hi) q := by
  rw [oddRegionalBefore, oddRegionalBefore, hlimit, RunLimit.contextReach, Option.map_some,
    Text.scan_slice h, Scan.shift]

/-- The search for a pictograph starts before the left neighbour, all others at the
position. -/
theorem joinsByContext_slice (h : t.Shows lo hi .backward (max 1 n) q)
    (hprev : t.Shows lo hi .backward (max 1 n) prev.pos) :
    e.joinsByContext t (lo + q) (prev.shift lo) (next.shift lo) =
      e.joinsByContext (t.slice lo hi) q prev next := by
  rw [joinsByContext, joinsByContext, Text.Step.shift, Text.Step.shift,
    followsLinkedConsonant_slice hlimit h, followsPictographic_slice hlimit hprev,
    oddRegionalBefore_slice hlimit h]

theorem isBreak_slice (hback : t.Shows lo hi .backward (n + 2) q)
    (hahead : t.Shows lo hi .forward 1 q) :
    e.isBreak (t.slice lo hi) q = e.isBreak t (lo + q) := by
  have hbackOne : t.Shows lo hi .backward 1 q := hback.mono (by omega)
  have hreach : t.Shows lo hi .backward (max 1 n + 1) q := hback.mono (by omega)
  rw [isBreak, isBreak, Text.step?_slice hbackOne, Text.step?_slice hahead]
  cases hprev : (t.slice lo hi).step? .backward q with
  | none => rfl
  | some prev =>
      cases (t.slice lo hi).step? .forward q with
      | none => rfl
      | some next =>
          have hseparates : e.separates t (lo + q) (prev.shift lo) (next.shift lo) =
              e.separates (t.slice lo hi) q prev next := by
            rw [separates, separates, joinsByContext_slice hlimit
              (hreach.mono (Nat.le_add_right _ _)) (hreach.step hprev)]
            rfl
          simp only [Option.map_some, hseparates, Text.splitsPair_slice hbackOne hahead]

end Evaluator
end Grapheme

/-! ## Both evaluators -/

namespace Text

/-- Where the window of a position begins under a limit on runs. -/
def windowStart (n pos : Nat) : Nat :=
  pos - (4 * n + 4)

/-- The units around a position that a query with a limit on runs can depend on. -/
def window (t : Text) (n pos : Nat) : Text :=
  t.slice (windowStart n pos) (min t.size (pos + (2 * n + 4)))

variable {t : Text} {n pos : Nat}

theorem shows_window_backward (hpos : pos ≤ t.size) :
    t.Shows (windowStart n pos) (min t.size (pos + (2 * n + 4))) .backward (2 * n + 2)
      (pos - windowStart n pos) := by
  refine ⟨Nat.min_le_left _ _, ?_, ?_⟩
  · rw [windowStart]
    omega
  · rw [windowStart]
    simp only
    omega

theorem shows_window_forward (hpos : pos ≤ t.size) :
    t.Shows (windowStart n pos) (min t.size (pos + (2 * n + 4))) .forward (n + 2)
      (pos - windowStart n pos) := by
  refine ⟨Nat.min_le_left _ _, ?_, ?_⟩
  · rw [windowStart]
    omega
  · rw [windowStart]
    simp only
    omega

theorem windowStart_add_sub (n pos : Nat) :
    windowStart n pos + (pos - windowStart n pos) = pos :=
  Nat.add_sub_cancel' (Nat.sub_le _ _)

end Text

/-- With a limit on runs, both evaluators decide a position by the window around it. -/
theorem isBreak_window_eq (tables : Unicode.Tables) (n : Nat) {t : Text} {pos : Nat}
    (hpos : pos ≤ t.size) :
    (∀ e, Word.Evaluator.ofTables tables (some n) = .ok e →
      e.isBreak (t.window n pos) (pos - Text.windowStart n pos) = e.isBreak t pos) ∧
    ∀ e, Grapheme.Evaluator.ofTables tables (some n) = .ok e →
      e.isBreak (t.window n pos) (pos - Text.windowStart n pos) = e.isBreak t pos := by
  have hback := Text.shows_window_backward (n := n) hpos
  have hahead := Text.shows_window_forward (n := n) hpos
  constructor
  · intro e he
    have hlimit := (Word.Evaluator.compiled_of_ofTables he).limit_eq
    rw [Text.window, Word.Evaluator.isBreak_slice hlimit hback hahead, Text.windowStart_add_sub]
  · intro e he
    have hlimit := (Grapheme.Evaluator.compiled_of_ofTables he).limit_eq
    rw [Text.window, Grapheme.Evaluator.isBreak_slice hlimit (hback.mono (by omega))
      (hahead.mono (by omega)), Text.windowStart_add_sub]

/-- A text of words between two pairs. -/
def wordsBetweenPairs : Text :=
  ⟨#[0xD83D, 0xDE00, 0x61, 0x27, 0x300, 0x61, 0x61, 0x27, 0xD83D, 0xDE00]⟩

/-- With a limit of zero, the window of the middle of this text is cut inside both pairs. -/
theorem isBreak_window_eq_zero :
    ∃ e g, Word.Evaluator.ofTables .bundled (some 0) = .ok e ∧
      Grapheme.Evaluator.ofTables .bundled (some 0) = .ok g ∧ 5 ≤ wordsBetweenPairs.size ∧
      wordsBetweenPairs.SplitsPair 1 ∧ wordsBetweenPairs.SplitsPair 9 ∧
      wordsBetweenPairs.window 0 5 =
        ⟨#[0xDE00, 0x61, 0x27, 0x300, 0x61, 0x61, 0x27, 0xD83D]⟩ ∧
      e.isBreak (wordsBetweenPairs.window 0 5) 4 = e.isBreak wordsBetweenPairs 5 ∧
      g.isBreak (wordsBetweenPairs.window 0 5) 4 = g.isBreak wordsBetweenPairs 5 := by
  obtain ⟨e, he⟩ := Word.Evaluator.exists_ofTables_bundled (some 0)
  obtain ⟨g, hg⟩ := Grapheme.Evaluator.exists_ofTables_bundled (some 0)
  have hsize : 5 ≤ wordsBetweenPairs.size := by decide
  obtain ⟨hwords, hgraphemes⟩ := isBreak_window_eq .bundled 0 hsize
  exact ⟨e, g, he, hg, hsize, by decide, by decide, by decide, hwords e he, hgraphemes g hg⟩

end TextBoundary
