import Mathlib.Data.List.Sort
import TextBoundary.Proofs.Movement

/-!
# Codepoints and their offsets

Going forward through a text, one meets each codepoint together with the offset at which it
starts.  The offsets are all positions before the end that split no pair.  Going back from
the end, one meets the same codepoints at the same offsets, in reverse.

The two readers pair surrogates by looking in opposite directions.  They agree because a
pair is decided by its two units alone: a codepoint between two positions is read forward
from the one exactly if it is read backward from the other, as long as neither position
splits a pair.
-/

namespace TextBoundary
namespace Text

/-- The codepoints from a position to the end of the text, each with the offset at which it
starts. -/
def codepointsFrom (t : Text) (pos : Nat) : List (Nat × Codepoint) :=
  (t.steps .forward pos).map fun s => (s.pos - s.codepoint.width, s.codepoint)

/-- The codepoints from a position back to the beginning of the text, each with the offset
at which it starts. -/
def codepointsBack (t : Text) (pos : Nat) : List (Nat × Codepoint) :=
  (t.steps .backward pos).map fun s => (s.pos, s.codepoint)

variable {t : Text} {pos : Nat} {c : Codepoint} {x : Nat × Codepoint}
  {l r : List (Nat × Codepoint)}

/-! ## One codepoint -/

/-- A codepoint that starts at a position is a pair, or one unit that opens none. -/
theorem next?_eq_some_iff : t.next? pos = some c ↔
    (∃ u v, ∃ h : CodeUnit.IsPair u v, t.unit? pos = some u ∧ t.unit? (pos + 1) = some v ∧
      Codepoint.ofPair u v h = c) ∨
    ∃ u, t.unit? pos = some u ∧ ¬t.SplitsPair (pos + 1) ∧ Codepoint.ofUnit u = c := by
  unfold next? SplitsPair unitBefore?
  cases hu : t.unit? pos with
  | none => simp
  | some u =>
      cases hv : t.unit? (pos + 1) with
      | none => simp
      | some v =>
          by_cases hpair : CodeUnit.IsPair u v
          · simp [hu, hpair]
          · simp [hu, hpair]

/-- A codepoint that ends behind a unit is a pair, or that unit if it closes none. -/
theorem prev?_succ_eq_some_iff : t.prev? (pos + 1) = some c ↔
    (∃ u v, ∃ h : CodeUnit.IsPair u v, t.unitBefore? pos = some u ∧ t.unit? pos = some v ∧
      Codepoint.ofPair u v h = c) ∨
    ∃ v, t.unit? pos = some v ∧ ¬t.SplitsPair pos ∧ Codepoint.ofUnit v = c := by
  have hunit : t.unitBefore? (pos + 1) = t.unit? pos := rfl
  unfold prev? SplitsPair
  rw [hunit, Nat.add_sub_cancel]
  cases hv : t.unit? pos with
  | none => simp
  | some v =>
      cases hu : t.unitBefore? pos with
      | none => simp
      | some u =>
          by_cases hpair : CodeUnit.IsPair u v
          · simp [hpair]
          · simp [hpair]

/-- A trail closes a pair if any, and opens none. -/
theorem not_splitsPair_succ {v : CodeUnit} (hv : t.unit? pos = some v)
    (htrail : CodeUnit.IsTrail v) : ¬t.SplitsPair (pos + 1) := by
  rintro ⟨a, b, ha, -, hab⟩
  obtain rfl : v = a := Option.some.inj (hv.symm.trans ha)
  exact hab.1.not_isTrail htrail

theorem lt_size_of_next? (h : t.next? pos = some c) : pos < t.size := by
  apply Nat.lt_of_not_le
  rw [← next?_eq_none_iff, h]
  simp

/-- From a position that splits no pair, a codepoint is read forward exactly if it is read
backward from its other end, and that end splits no pair either. -/
theorem next?_eq_some_iff_prev? (h : ¬t.SplitsPair pos) :
    t.next? pos = some c ↔
      t.prev? (pos + c.width) = some c ∧ ¬t.SplitsPair (pos + c.width) := by
  constructor
  · intro hnext
    rcases next?_eq_some_iff.mp hnext with ⟨u, v, hpair, hu, hv, rfl⟩ | ⟨u, hu, hend, rfl⟩
    · rw [Codepoint.width_ofPair]
      refine ⟨prev?_succ_eq_some_iff.mpr (Or.inl ⟨u, v, hpair, hu, hv, rfl⟩), ?_⟩
      exact not_splitsPair_succ hv hpair.2
    · rw [Codepoint.width_ofUnit]
      exact ⟨prev?_succ_eq_some_iff.mpr (Or.inr ⟨u, hu, h, rfl⟩), hend⟩
  · rintro ⟨hprev, hend⟩
    obtain ⟨k, hk⟩ := Nat.exists_eq_add_one_of_ne_zero (Nat.ne_of_gt c.width_pos)
    rw [hk, ← Nat.add_assoc] at hprev hend
    rcases prev?_succ_eq_some_iff.mp hprev with ⟨u, v, hpair, hu, hv, rfl⟩ | ⟨v, hv, -, rfl⟩
    · obtain rfl : k = 1 := by simpa using hk.symm
      exact next?_eq_some_iff.mpr (Or.inl ⟨u, v, hpair, hu, hv, rfl⟩)
    · obtain rfl : k = 0 := by simpa using hk.symm
      exact next?_eq_some_iff.mpr (Or.inr ⟨v, hv, hend, rfl⟩)

/-- Inside a pair, its trail is read alone. -/
theorem SplitsPair.next?_eq (h : t.SplitsPair pos) :
    ∃ v, t.unit? pos = some v ∧ CodeUnit.IsTrail v ∧ t.next? pos = some (.ofUnit v) ∧
      ¬t.SplitsPair (pos + 1) := by
  obtain ⟨u, v, -, hv, hpair⟩ := h
  have hend := not_splitsPair_succ hv hpair.2
  exact ⟨v, hv, hpair.2, next?_eq_some_iff.mpr (Or.inr ⟨v, hv, hend, rfl⟩), hend⟩

/-! ## All codepoints forward -/

theorem codepointsFrom_of_next?_eq_none (h : t.next? pos = none) :
    t.codepointsFrom pos = [] := by
  have hstep : t.step? .forward pos = none := by rw [step?, h, Option.map_none]
  rw [codepointsFrom, steps_of_step?_eq_none hstep, List.map_nil]

theorem codepointsFrom_of_next? (h : t.next? pos = some c) :
    t.codepointsFrom pos = (pos, c) :: t.codepointsFrom (pos + c.width) := by
  have hstep : t.step? .forward pos = some ⟨c, pos + c.width⟩ := by
    rw [step?, h, Option.map_some]
  rw [codepointsFrom, steps_of_step?_eq_some hstep, List.map_cons, Nat.add_sub_cancel]
  rfl

theorem map_snd_codepointsFrom (t : Text) (pos : Nat) :
    (t.codepointsFrom pos).map Prod.snd = t.after pos := by
  rw [← map_codepoint_steps_forward, codepointsFrom, List.map_map]
  rfl

/-- What is met behind a codepoint is what is met from its end. -/
theorem codepointsFrom_eq_append_cons (h : t.codepointsFrom pos = l ++ x :: r) :
    pos ≤ x.1 ∧ t.next? x.1 = some x.2 ∧ r = t.codepointsFrom (x.1 + x.2.width) ∧
      (¬t.SplitsPair pos → ¬t.SplitsPair x.1) := by
  induction l generalizing pos with
  | nil =>
      cases hnext : t.next? pos with
      | none => simp [codepointsFrom_of_next?_eq_none hnext] at h
      | some c =>
          rw [codepointsFrom_of_next? hnext, List.nil_append] at h
          obtain ⟨rfl, rfl⟩ := List.cons_eq_cons.mp h
          exact ⟨Nat.le_refl _, hnext, rfl, id⟩
  | cons y l ih =>
      cases hnext : t.next? pos with
      | none => simp [codepointsFrom_of_next?_eq_none hnext] at h
      | some c =>
          rw [codepointsFrom_of_next? hnext, List.cons_append] at h
          obtain ⟨rfl, hrest⟩ := List.cons_eq_cons.mp h
          obtain ⟨hle, hx, hr, hsplits⟩ := ih hrest
          refine ⟨by omega, hx, hr, ?_⟩
          intro hpos
          exact hsplits ((next?_eq_some_iff_prev? hpos).mp hnext).2

theorem le_of_mem_codepointsFrom (h : x ∈ t.codepointsFrom pos) : pos ≤ x.1 := by
  obtain ⟨l, r, hlr⟩ := List.append_of_mem h
  exact (codepointsFrom_eq_append_cons hlr).1

/-! ## The same codepoints backward -/

theorem codepointsBack_zero (t : Text) : t.codepointsBack 0 = [] := by
  have hstep : t.step? .backward 0 = none := rfl
  rw [codepointsBack, steps_of_step?_eq_none hstep, List.map_nil]

theorem codepointsBack_of_prev? (h : t.prev? pos = some c) :
    t.codepointsBack pos = (pos - c.width, c) :: t.codepointsBack (pos - c.width) := by
  have hstep : t.step? .backward pos = some ⟨c, pos - c.width⟩ := by
    rw [step?, h, Option.map_some]
  rw [codepointsBack, steps_of_step?_eq_some hstep, List.map_cons]
  rfl

/-- A codepoint that ends at a position starts at one that splits no pair. -/
theorem exists_start_of_prev? (h : t.prev? pos = some c) :
    ∃ start, pos = start + c.width ∧ ¬t.SplitsPair start := by
  cases pos with
  | zero => contradiction
  | succ pos =>
      rcases prev?_succ_eq_some_iff.mp h with ⟨u, v, hpair, hu, -, rfl⟩ | ⟨v, -, hpos, rfl⟩
      · cases pos with
        | zero => contradiction
        | succ start =>
            refine ⟨start, by simp, ?_⟩
            -- The unit at the start opens a pair, so it closes none.
            rintro ⟨a, b, -, hb, hab⟩
            obtain rfl : u = b := Option.some.inj (hu.symm.trans hb)
            exact hpair.1.not_isTrail hab.2
      · exact ⟨pos, by simp, hpos⟩

theorem lt_of_mem_codepointsBack (h : x ∈ t.codepointsBack pos) : x.1 < pos := by
  induction pos using Nat.strong_induction_on with
  | h pos ih =>
      cases hprev : t.prev? pos with
      | none =>
          have hstep : t.step? .backward pos = none := by rw [step?, hprev, Option.map_none]
          simp [codepointsBack, steps_of_step?_eq_none hstep] at h
      | some c =>
          obtain ⟨start, rfl, -⟩ := exists_start_of_prev? hprev
          have hwidth := c.width_pos
          rw [codepointsBack_of_prev? hprev, Nat.add_sub_cancel] at h
          rcases List.mem_cons.mp h with rfl | hrest
          · exact Nat.lt_add_of_pos_right hwidth
          · exact Nat.lt_add_right _ (ih start (Nat.lt_add_of_pos_right hwidth) hrest)

/-- A position that splits no pair divides the codepoints into those met going back from it
and those met going forward. -/
theorem codepointsFrom_zero_eq_append (hle : pos ≤ t.size) (h : ¬t.SplitsPair pos) :
    t.codepointsFrom 0 = (t.codepointsBack pos).reverse ++ t.codepointsFrom pos := by
  induction pos using Nat.strong_induction_on with
  | h pos ih =>
      cases hprev : t.prev? pos with
      | none =>
          rw [prev?_eq_none_iff] at hprev
          obtain rfl : pos = 0 := by omega
          rw [codepointsBack_zero, List.reverse_nil, List.nil_append]
      | some c =>
          obtain ⟨start, rfl, hstart⟩ := exists_start_of_prev? hprev
          have hnext := (next?_eq_some_iff_prev? hstart).mpr ⟨hprev, h⟩
          have hearlier := ih start (Nat.lt_add_of_pos_right c.width_pos) (by omega) hstart
          rw [hearlier, codepointsFrom_of_next? hnext, codepointsBack_of_prev? hprev,
            Nat.add_sub_cancel, List.reverse_cons, List.append_assoc, List.singleton_append]

/-- The codepoints from a position are those that start there or later. -/
theorem codepointsFrom_eq_filter (hle : pos ≤ t.size) (h : ¬t.SplitsPair pos) :
    t.codepointsFrom pos = (t.codepointsFrom 0).filter fun x => pos ≤ x.1 := by
  have hback : (t.codepointsBack pos).reverse.filter (fun x => pos ≤ x.1) = [] := by
    rw [List.filter_eq_nil_iff]
    intro x hx
    have hlt := lt_of_mem_codepointsBack (List.mem_reverse.mp hx)
    simpa using hlt
  have hforward : (t.codepointsFrom pos).filter (fun x => pos ≤ x.1) = t.codepointsFrom pos := by
    rw [List.filter_eq_self]
    intro x hx
    simpa using le_of_mem_codepointsFrom hx
  rw [codepointsFrom_zero_eq_append hle h, List.filter_append, hback, hforward, List.nil_append]

/-- A codepoint is met at an offset when it starts there and the offset splits no pair. -/
theorem mem_codepointsFrom_zero :
    (pos, c) ∈ t.codepointsFrom 0 ↔ ¬t.SplitsPair pos ∧ t.next? pos = some c := by
  constructor
  · intro h
    obtain ⟨l, r, hlr⟩ := List.append_of_mem h
    obtain ⟨-, hnext, -, hsplits⟩ := codepointsFrom_eq_append_cons hlr
    exact ⟨hsplits (fun hzero => Nat.lt_irrefl 0 hzero.pos), hnext⟩
  · rintro ⟨hsplits, hnext⟩
    have hle := Nat.le_of_lt (lt_size_of_next? hnext)
    rw [codepointsFrom_zero_eq_append hle hsplits, codepointsFrom_of_next? hnext]
    simp

theorem pairwise_codepointsFrom (t : Text) (pos : Nat) :
    (t.codepointsFrom pos).Pairwise fun x y => x.1 < y.1 := by
  generalize hl : t.codepointsFrom pos = l
  induction l generalizing pos with
  | nil => exact List.Pairwise.nil
  | cons x l ih =>
      obtain ⟨-, -, hrest, -⟩ := codepointsFrom_eq_append_cons (l := []) hl
      refine List.pairwise_cons.mpr ⟨?_, ih _ hrest.symm⟩
      intro y hy
      rw [hrest] at hy
      have hwidth := x.2.width_pos
      have hle := le_of_mem_codepointsFrom hy
      omega

/-- The offsets are the positions before the end that split no pair. -/
theorem map_fst_codepointsFrom_zero (t : Text) :
    (t.codepointsFrom 0).map Prod.fst =
      (List.range t.size).filter fun p => ¬t.SplitsPair p := by
  apply List.Pairwise.eq_of_mem_iff (r := (· < ·))
  · exact List.pairwise_map.mpr (pairwise_codepointsFrom t 0)
  · exact List.pairwise_lt_range.filter _
  · intro p
    rw [List.mem_map, List.mem_filter, List.mem_range, decide_eq_true_eq]
    constructor
    · rintro ⟨⟨p, c⟩, hmem, rfl⟩
      obtain ⟨hsplits, hnext⟩ := mem_codepointsFrom_zero.mp hmem
      exact ⟨lt_size_of_next? hnext, hsplits⟩
    · rintro ⟨hlt, hsplits⟩
      have hsome : t.next? p ≠ none := by
        rw [ne_eq, next?_eq_none_iff]
        exact Nat.not_le.mpr hlt
      obtain ⟨c, hnext⟩ := Option.ne_none_iff_exists'.mp hsome
      exact ⟨(p, c), mem_codepointsFrom_zero.mpr ⟨hsplits, hnext⟩, rfl⟩

/-! ## Both directions -/

/-- A text reads alike in both directions, and from any position on. -/
structure ReadsAlike (t : Text) : Prop where
  units : ((t.codepointsFrom 0).flatMap fun x => x.2.units) = t.units.toList
  offsets : (t.codepointsFrom 0).map Prod.fst =
    (List.range t.size).filter fun p => ¬t.SplitsPair p
  backward : t.codepointsBack t.size = (t.codepointsFrom 0).reverse
  next_iff_prev : ∀ p c, ¬t.SplitsPair p →
    (t.next? p = some c ↔ t.prev? (p + c.width) = some c ∧ ¬t.SplitsPair (p + c.width))
  unpaired : ∀ p c, (p, c) ∈ t.codepointsFrom 0 → c.width = 1 →
    ¬t.SplitsPair p ∧ ¬t.SplitsPair (p + 1)
  inside_pair : ∀ p, t.SplitsPair p → ∃ v, t.unit? p = some v ∧ CodeUnit.IsTrail v ∧
    t.codepointsFrom p =
      (p, .ofUnit v) :: (t.codepointsFrom 0).filter fun x => p + 1 ≤ x.1

theorem readsAlike (t : Text) : t.ReadsAlike where
  units := by
    have hunits := Codepoint.flatMap_units_read t.units.toList
    have hread : (t.codepointsFrom 0).map Prod.snd = Codepoint.read t.units.toList :=
      map_snd_codepointsFrom t 0
    rwa [← hread, List.flatMap_map] at hunits
  offsets := map_fst_codepointsFrom_zero t
  backward := by
    have hend : ¬t.SplitsPair t.size := fun h => Nat.lt_irrefl _ h.lt_size
    have hnone : t.codepointsFrom t.size = [] :=
      codepointsFrom_of_next?_eq_none (next?_eq_none_iff.mpr (Nat.le_refl _))
    rw [codepointsFrom_zero_eq_append (Nat.le_refl _) hend, hnone, List.append_nil,
      List.reverse_reverse]
  next_iff_prev p c h := next?_eq_some_iff_prev? h
  unpaired p c hmem hwidth := by
    obtain ⟨hsplits, hnext⟩ := mem_codepointsFrom_zero.mp hmem
    have hend := ((next?_eq_some_iff_prev? hsplits).mp hnext).2
    rw [hwidth] at hend
    exact ⟨hsplits, hend⟩
  inside_pair p h := by
    obtain ⟨v, hv, htrail, hnext, hend⟩ := h.next?_eq
    refine ⟨v, hv, htrail, ?_⟩
    rw [codepointsFrom_of_next? hnext, Codepoint.width_ofUnit,
      codepointsFrom_eq_filter (Nat.succ_le_of_lt h.lt_size) hend]

end Text
end TextBoundary
