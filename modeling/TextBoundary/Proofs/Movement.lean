import TextBoundary.Proofs.Boundary

/-!
# Where a move ends

A step crosses a whole codepoint in the direction in which it goes.  A step forward never
lands inside a pair, and the only positions that a step passes over, forward or back, are
inside one.  A move that stops by a condition on positions therefore ends at the nearest
position in its direction at which the condition holds, as long as the condition never
holds inside a pair and always holds where the text ends.
-/

namespace TextBoundary
namespace Text

variable {t : Text} {pos : Nat} {s : Step}

/-- A step forward crosses a pair, or one unit that opens none. -/
theorem step?_forward_cases (h : t.step? .forward pos = some s) :
    (∃ u, t.unit? pos = some u ∧ s.pos = pos + 1 ∧
      ∀ v, t.unit? (pos + 1) = some v → ¬CodeUnit.IsPair u v) ∨
    ∃ u v, t.unit? pos = some u ∧ t.unit? (pos + 1) = some v ∧ CodeUnit.IsPair u v ∧
      s.pos = pos + 2 := by
  obtain ⟨c, hc, rfl⟩ := Option.map_eq_some_iff.mp h
  unfold next? at hc
  split at hc
  next => contradiction
  next u hu hnone =>
    obtain rfl := Option.some.inj hc
    refine Or.inl ⟨u, hu, by simp, ?_⟩
    intro v hv
    rw [hnone] at hv
    contradiction
  next u v hu hv =>
    split at hc
    next hpair =>
      obtain rfl := Option.some.inj hc
      exact Or.inr ⟨u, v, hu, hv, hpair, by simp⟩
    next hpair =>
      obtain rfl := Option.some.inj hc
      refine Or.inl ⟨u, hu, by simp, ?_⟩
      intro v' hv'
      rw [hv] at hv'
      obtain rfl := Option.some.inj hv'
      exact hpair

/-- A step forward lands between two codepoints. -/
theorem not_splitsPair_of_step? (h : t.step? .forward pos = some s) :
    ¬t.SplitsPair s.pos := by
  rintro ⟨a, b, ha, hb, hab⟩
  rcases step?_forward_cases h with ⟨u, hu, hpos, hnot⟩ | ⟨u, v, hu, hv, hpair, hpos⟩
  · rw [hpos] at ha hb
    rw [unitBefore?, hu] at ha
    obtain rfl := Option.some.inj ha
    exact hnot b hb hab
  · -- The unit before the position reached closes a pair, so it opens none.
    rw [hpos] at ha
    rw [unitBefore?, hv] at ha
    obtain rfl := Option.some.inj ha
    exact hab.1.not_isTrail hpair.2

theorem step?_pos_le (h : t.step? .forward pos = some s) : s.pos ≤ t.size := by
  have hlt : ∀ {p u}, t.unit? p = some u → p < t.size := by
    intro p u hu
    rw [← unit?_isSome_iff, hu]
    rfl
  rcases step?_forward_cases h with ⟨u, hu, hpos, -⟩ | ⟨u, v, -, hv, -, hpos⟩
  · have := hlt hu
    omega
  · have := hlt hv
    omega

theorem lt_step?_pos (h : t.step? .forward pos = some s) : pos < s.pos := by
  rcases step?_forward_cases h with ⟨-, -, hpos, -⟩ | ⟨-, -, -, -, -, hpos⟩
  · omega
  · omega

theorem advance_of_step?_eq_none {d : Direction} {stop : Step → Bool}
    (h : t.step? d pos = none) : t.advance d stop pos = pos := by
  rw [advance]
  split
  next => rfl
  next s hs =>
    rw [h] at hs
    contradiction

theorem advance_of_step?_eq_some {d : Direction} {stop : Step → Bool}
    (h : t.step? d pos = some s) :
    t.advance d stop pos = if stop s then s.pos else t.advance d stop s.pos := by
  rw [advance]
  split
  next hnone =>
    rw [h] at hnone
    contradiction
  next s' hs =>
    rw [h] at hs
    rw [Option.some.inj hs]

/-- A step forward adds the codepoint that it crosses to what stands before it. -/
theorem before_step?_pos (hle : pos ≤ t.size) (hpos : ¬t.SplitsPair pos)
    (h : t.step? .forward pos = some s) : t.before s.pos = t.before pos ++ [s.codepoint] := by
  have hsame := (codepoints_eq_append hle hpos).symm.trans
    (codepoints_eq_append (step?_pos_le h) (not_splitsPair_of_step? h))
  rw [after_of_step? h, ← List.singleton_append, ← List.append_assoc] at hsame
  exact (List.append_cancel_right hsame).symm

/-- What a step forward passes over is inside a pair. -/
theorem splitsPair_of_lt_step? (h : t.step? .forward pos = some s) {p : Nat} (hpos : pos < p)
    (hp : p < s.pos) : t.SplitsPair p := by
  rcases step?_forward_cases h with ⟨u, -, hs, -⟩ | ⟨u, v, hu, hv, hpair, hs⟩
  · omega
  · obtain rfl : p = pos + 1 := by omega
    exact ⟨u, v, hu, hv, hpair⟩

/-- A condition on positions that a forward move can stop by. -/
structure Stops (t : Text) (stops : Nat → Bool) : Prop where
  at_end : stops t.size = true
  in_pair : ∀ p, t.SplitsPair p → stops p = false

/-- A move can stop by the boundaries of a list of rules. -/
theorem stops_of_iff {rules : List Rule} {stops : Nat → Bool}
    (h : ∀ p, stops p = true ↔ t.IsBoundary rules p) : t.Stops stops where
  at_end := (h t.size).mpr (isBoundary_of_end (Or.inr (Nat.le_refl _)))
  in_pair p hp := by
    rw [← Bool.not_eq_true, h]
    exact fun hboundary => hboundary.not_splitsPair hp

/-- A forward move ends at the first position ahead that it can stop at, or at the end of the
text if there is none. -/
theorem advance_forward_cases {stops : Nat → Bool}
    (hpair : ∀ p, t.SplitsPair p → stops p = false) (hle : pos ≤ t.size) :
    (pos < t.advance .forward (fun s => stops s.pos) pos ∧
        t.advance .forward (fun s => stops s.pos) pos ≤ t.size ∧
        stops (t.advance .forward (fun s => stops s.pos) pos) = true ∧
        ∀ p, pos < p → p < t.advance .forward (fun s => stops s.pos) pos → stops p = false) ∨
      t.advance .forward (fun s => stops s.pos) pos = t.size ∧
        ∀ p, pos < p → p ≤ t.size → stops p = false := by
  generalize hd : Direction.forward = d
  fun_induction advance t d (fun s => stops s.pos) pos with
  | case1 pos hnone =>
      subst hd
      rw [step?_forward_eq_none_iff] at hnone
      exact Or.inr ⟨by omega, fun p hp hp' => by omega⟩
  | case2 pos s hsome hstop =>
      subst hd
      refine Or.inl ⟨lt_step?_pos hsome, step?_pos_le hsome, hstop, ?_⟩
      intro p hp hlt
      exact hpair p (splitsPair_of_lt_step? hsome hp hlt)
  | case3 pos s hsome hstop ih =>
      subst hd
      have hforward := lt_step?_pos hsome
      have hpassed : ∀ p, pos < p → p ≤ s.pos → stops p = false := by
        intro p hp hps
        rcases Nat.lt_or_eq_of_le hps with hlt | rfl
        · exact hpair p (splitsPair_of_lt_step? hsome hp hlt)
        · simpa using hstop
      refine (ih (step?_pos_le hsome)).imp ?_ ?_
      · rintro ⟨hnext, hend, hfound, hbetween⟩
        refine ⟨by omega, hend, hfound, ?_⟩
        intro p hp hlt
        rcases Nat.lt_or_ge s.pos p with hps | hps
        · exact hbetween p hps hlt
        · exact hpassed p hp hps
      · rintro ⟨hend, hnone⟩
        refine ⟨hend, ?_⟩
        intro p hp hle
        rcases Nat.lt_or_ge s.pos p with hps | hps
        · exact hnone p hps hle
        · exact hpassed p hp hps

/-- A forward move ends at the first position that it can stop at. -/
theorem advance_forward_spec {stops : Nat → Bool} (h : t.Stops stops) (hpos : pos < t.size) :
    t.advance .forward (fun s => stops s.pos) pos ≤ t.size ∧
      stops (t.advance .forward (fun s => stops s.pos) pos) = true ∧
      ∀ p, pos < p → p < t.advance .forward (fun s => stops s.pos) pos → stops p = false := by
  rcases advance_forward_cases h.in_pair (Nat.le_of_lt hpos) with hfound | ⟨-, hnone⟩
  · exact hfound.2
  · have hend := hnone t.size hpos (Nat.le_refl _)
    rw [h.at_end] at hend
    contradiction

/-- Conditions that agree on the steps between codepoints stop a forward move alike. -/
theorem advance_forward_congr {stop stop' : Step → Bool} (hle : pos ≤ t.size)
    (hpos : ¬t.SplitsPair pos)
    (h : ∀ p s, p ≤ t.size → ¬t.SplitsPair p → t.step? .forward p = some s →
      stop s = stop' s) :
    t.advance .forward stop pos = t.advance .forward stop' pos := by
  generalize hd : Direction.forward = d at h
  fun_induction advance t d stop pos with
  | case1 pos hnone => rw [advance_of_step?_eq_none hnone]
  | case2 pos s hsome hstop =>
      rw [advance_of_step?_eq_some hsome, if_pos]
      rw [← h pos s hle hpos hsome, hstop]
  | case3 pos s hsome hstop ih =>
      subst hd
      rw [advance_of_step?_eq_some hsome, if_neg]
      · exact ih (step?_pos_le hsome) (not_splitsPair_of_step? hsome)
      · rwa [← h pos s hle hpos hsome]

/-- A step back crosses one unit that closes no pair, or a pair. -/
theorem step?_backward_cases (h : t.step? .backward pos = some s) :
    (∃ v, t.unit? s.pos = some v ∧ pos = s.pos + 1 ∧
      ∀ u, t.unitBefore? s.pos = some u → ¬CodeUnit.IsPair u v) ∨
    ∃ u v, t.unit? s.pos = some u ∧ t.unit? (s.pos + 1) = some v ∧ CodeUnit.IsPair u v ∧
      pos = s.pos + 2 := by
  obtain ⟨c, hc, rfl⟩ := Option.map_eq_some_iff.mp h
  cases pos with
  | zero => simp [prev?, unitBefore?] at hc
  | succ pos =>
      rw [prev?, unitBefore?, Nat.add_sub_cancel] at hc
      split at hc
      next => contradiction
      next v hv hnone =>
        obtain rfl := Option.some.inj hc
        refine Or.inl ⟨v, by simpa using hv, by simp, ?_⟩
        simp [hnone]
      next v u hv hu =>
        split at hc
        next hpair =>
          obtain rfl := Option.some.inj hc
          cases pos with
          | zero => simp [unitBefore?] at hu
          | succ pos =>
              exact Or.inr ⟨u, v, by simpa [unitBefore?] using hu, by simpa using hv, hpair, by simp⟩
        next hpair =>
          obtain rfl := Option.some.inj hc
          refine Or.inl ⟨v, by simpa using hv, by simp, ?_⟩
          simpa [hu] using hpair

theorem step?_pos_lt (h : t.step? .backward pos = some s) : s.pos < pos := by
  rcases step?_backward_cases h with ⟨-, -, hpos, -⟩ | ⟨-, -, -, -, -, hpos⟩
  · omega
  · omega

/-- What a step back passes over is inside a pair. -/
theorem splitsPair_of_step?_lt (h : t.step? .backward pos = some s) {p : Nat} (hp : s.pos < p)
    (hpos : p < pos) : t.SplitsPair p := by
  rcases step?_backward_cases h with ⟨u, -, hs, -⟩ | ⟨u, v, hu, hv, hpair, hs⟩
  · omega
  · obtain rfl : p = s.pos + 1 := by omega
    exact ⟨u, v, hu, hv, hpair⟩

/-- A move back ends at the last position that it can stop at, if it can stop at the
beginning of the text. -/
theorem advance_backward_spec {stops : Nat → Bool} (h : t.Stops stops) (hstart : stops 0 = true)
    (hpos : 0 < pos) (hle : pos ≤ t.size) :
    t.advance .backward (fun s => stops s.pos) pos < pos ∧
      stops (t.advance .backward (fun s => stops s.pos) pos) = true ∧
      ∀ p, t.advance .backward (fun s => stops s.pos) pos < p → p < pos → stops p = false := by
  generalize hd : Direction.backward = d
  fun_induction advance t d (fun s => stops s.pos) pos with
  | case1 pos hnone =>
      subst hd
      rw [step?_backward_eq_none_iff] at hnone
      omega
  | case2 pos s hsome hstop =>
      subst hd
      refine ⟨step?_pos_lt hsome, hstop, ?_⟩
      intro p hp hlt
      exact h.in_pair p (splitsPair_of_step?_lt hsome hp hlt)
  | case3 pos s hsome hstop ih =>
      subst hd
      have hlt := step?_pos_lt hsome
      have hne : s.pos ≠ 0 := by
        intro heq
        rw [heq] at hstop
        exact hstop hstart
      obtain ⟨hback, hfound, hbetween⟩ := ih (by omega) (by omega)
      refine ⟨by omega, hfound, ?_⟩
      intro p hp hupper
      rcases Nat.lt_trichotomy p s.pos with hlower | rfl | hpassed
      · exact hbetween p hp hlower
      · simpa using hstop
      · exact h.in_pair p (splitsPair_of_step?_lt hsome hpassed hupper)

/-- The positions after a given one, up to the end of the text, at which a condition
holds. -/
def stopsAfter (t : Text) (stops : Nat → Bool) (pos : Nat) : List Nat :=
  (List.range' (pos + 1) (t.size - pos)).filter stops

theorem stopsAfter_of_size_le {stops : Nat → Bool} (h : t.size ≤ pos) :
    t.stopsAfter stops pos = [] := by
  rw [stopsAfter, Nat.sub_eq_zero_of_le h]
  rfl

/-- The first of these positions is where a forward move ends. -/
theorem stopsAfter_eq_cons {stops : Nat → Bool} (h : t.Stops stops) (hpos : pos < t.size) :
    t.stopsAfter stops pos =
      t.advance .forward (fun s => stops s.pos) pos ::
        t.stopsAfter stops (t.advance .forward (fun s => stops s.pos) pos) := by
  obtain ⟨hle, hstop, hnone⟩ := advance_forward_spec h hpos
  have hforward := t.lt_advance_forward (fun s => stops s.pos) hpos
  generalize t.advance .forward (fun s => stops s.pos) pos = next at *
  have hsplit : List.range' (pos + 1) (t.size - pos) =
      List.range' (pos + 1) (next - pos - 1) ++
        next :: List.range' (next + 1) (t.size - next) := by
    have happend := List.range'_append_1 (s := pos + 1) (m := next - pos - 1)
      (n := t.size - next + 1)
    have hstart : pos + 1 + (next - pos - 1) = next := by omega
    have hlength : next - pos - 1 + (t.size - next + 1) = t.size - pos := by omega
    rw [hstart, hlength] at happend
    rw [← List.range'_succ, happend]
  have hbetween : (List.range' (pos + 1) (next - pos - 1)).filter stops = [] := by
    rw [List.filter_eq_nil_iff]
    intro p hp
    rw [List.mem_range'_1] at hp
    simp [hnone p (by omega) (by omega)]
  rw [stopsAfter, stopsAfter, hsplit, List.filter_append, hbetween,
    List.filter_cons_of_pos hstop, List.nil_append]

end Text
end TextBoundary
