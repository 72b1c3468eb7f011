import TextBoundary.Proofs.Grapheme.Splitting

/-!
# Clusters partition a text

The clusters of a text are the slices between its boundaries, whether or not a limit on
runs moves the boundaries.  They can be had one at a time: at every point of a run of
calls, the clusters that the calls have answered with and those that are left make up the
list of all clusters, and the offset stands between the two.
-/

namespace TextBoundary

/-! ## Cutting a text at ascending positions -/

namespace Text

variable {t : Text} {p n : Nat} {ns : List Nat} {stops : Nat → Bool}

/-- The offsets at which consecutive parts end when the first of them begins at `p`. -/
def ends : Nat → List Text → List Nat
  | _, [] => []
  | p, part :: parts => (p + part.size) :: ends (p + part.size) parts

/-- The slices between neighbours in a list of positions that begins with `p`. -/
def pieces (t : Text) (p : Nat) (ns : List Nat) : List Text :=
  List.zipWith t.slice (p :: ns) ns

/-- Positions that ascend from `p` to the end of the text. -/
inductive Cuts (t : Text) : Nat → List Nat → Prop
  | done : Cuts t t.size []
  | cut {p n : Nat} {ns : List Nat} (hlt : p < n) (rest : Cuts t n ns) : Cuts t p (n :: ns)

/-- Nonempty parts that follow one another from the beginning of a text to its end and
are cut at given positions. -/
structure PartitionAt (t : Text) (ns : List Nat) (parts : List Text) : Prop where
  slices : parts = t.pieces 0 ns
  nonempty : ∀ part ∈ parts, 0 < part.size
  concat : (parts.flatMap fun part => part.units.toList) = t.units.toList
  ends_eq : ends 0 parts = ns

theorem pieces_cons : t.pieces p (n :: ns) = t.slice p n :: t.pieces n ns :=
  rfl

theorem Cuts.le_size (h : t.Cuts p ns) : p ≤ t.size := by
  induction h with
  | done => exact Nat.le_refl _
  | cut hlt _ ih => exact Nat.le_trans (Nat.le_of_lt hlt) ih

theorem Cuts.ends_pieces (h : t.Cuts p ns) : ends p (t.pieces p ns) = ns := by
  induction h with
  | done => rfl
  | cut hlt rest ih =>
      rw [pieces_cons, ends, size_slice rest.le_size, Nat.add_sub_cancel' (Nat.le_of_lt hlt), ih]

theorem Cuts.size_pos (h : t.Cuts p ns) : ∀ part ∈ t.pieces p ns, 0 < part.size := by
  induction h with
  | done =>
      intro part hpart
      contradiction
  | cut hlt rest ih =>
      intro part hpart
      rcases List.mem_cons.mp (pieces_cons ▸ hpart) with rfl | hrest
      · rw [size_slice rest.le_size]
        exact Nat.sub_pos_of_lt hlt
      · exact ih part hrest

/-- The pieces make up what follows the first position. -/
theorem Cuts.flatMap_pieces (h : t.Cuts p ns) :
    ((t.pieces p ns).flatMap fun part => part.units.toList) = t.units.toList.drop p := by
  induction h with
  | done =>
      rw [← length_units_toList, List.drop_length]
      rfl
  | @cut p n ns hlt rest ih =>
      have hdrop : t.units.toList.drop p =
          (t.units.toList.take n).drop p ++ t.units.toList.drop n := by
        rw [← List.drop_append_of_le_length, List.take_append_drop]
        rw [List.length_take, length_units_toList]
        exact Nat.le_min.mpr ⟨Nat.le_of_lt hlt, Nat.le_trans (Nat.le_of_lt hlt) rest.le_size⟩
      rw [pieces_cons, List.flatMap_cons, units_slice, ih, hdrop]

/-- The positions that forward moves end at cut the text. -/
theorem cuts_stopsAfter (h : t.Stops stops) (hp : p ≤ t.size) :
    t.Cuts p (t.stopsAfter stops p) := by
  induction hk : t.size - p using Nat.strong_induction_on generalizing p with
  | h k ih =>
      rcases Nat.lt_or_eq_of_le hp with hlt | rfl
      · have hnext := t.lt_advance_forward (fun s => stops s.pos) hlt
        have hle := (advance_forward_spec h hlt).1
        rw [stopsAfter_eq_cons h hlt]
        exact .cut hnext (ih _ (by omega) hle rfl)
      · rw [stopsAfter_of_size_le (Nat.le_refl _)]
        exact .done

theorem partitionAt_stopsAfter (h : t.Stops stops) :
    t.PartitionAt (t.stopsAfter stops 0) (t.pieces 0 (t.stopsAfter stops 0)) :=
  have hcuts := cuts_stopsAfter h (Nat.zero_le _)
  { slices := rfl
    nonempty := hcuts.size_pos
    concat := hcuts.flatMap_pieces
    ends_eq := hcuts.ends_pieces }

end Text

namespace Grapheme

/-! ## All clusters -/

/-- The ends of a text are boundaries for every evaluator, and the middle of a pair is
none. -/
theorem Evaluator.stops_isBreak (e : Evaluator) (t : Text) : t.Stops (e.isBreak t) where
  at_end := by
    have hnext : t.step? .forward t.size = none :=
      Text.step?_forward_eq_none_iff.mpr (Nat.le_refl _)
    rw [isBreak, hnext]
    cases t.step? .backward t.size <;> rfl
  in_pair p hp := by
    obtain ⟨prev, next, hprev, hnext⟩ := hp.exists_steps
    simp [isBreak, hprev, hnext, hp]

theorem Evaluator.nextBreak_le_size (e : Evaluator) {t : Text} {p : Nat} (h : p < t.size) :
    e.nextBreak t p ≤ t.size :=
  (Text.advance_forward_spec (e.stops_isBreak t) h).1

namespace Clusters

variable {e : Evaluator} {t : Text} {p k : Nat}

/-- The clusters that remain are the slices between the boundaries that remain. -/
theorem toList_eq_pieces (e : Evaluator) (t : Text) (p : Nat) :
    toList ⟨e, t, p⟩ = t.pieces p (t.stopsAfter (e.isBreak t) p) := by
  induction hk : t.size - p using Nat.strong_induction_on generalizing p with
  | h k ih =>
      rcases Nat.lt_or_ge p t.size with hlt | hge
      · have hforward := e.lt_nextBreak hlt
        rw [toList_of_lt hlt, Text.stopsAfter_eq_cons (e.stops_isBreak t) hlt,
          Text.pieces_cons, ih _ (by omega) _ rfl]
        rfl
      · rw [toList_of_le hge, Text.stopsAfter_of_size_le hge]
        rfl

/-! ## One cluster after the other -/

/-- Asks for the next cluster a number of times: the answers in order, and what is left
after them.  Where nothing is left, a call changes nothing. -/
def calls : Nat → Clusters → List (Option Text) × Clusters
  | 0, c => ([], c)
  | k + 1, c =>
      match c.next? with
      | none => (none :: (calls k c).1, (calls k c).2)
      | some (cluster, rest) => (some cluster :: (calls k rest).1, (calls k rest).2)

/-- A run of `k` calls agrees with the list of all clusters of a text: the answers are the
first clusters and nothing once those are used up, the offset is the end of the last
cluster answered, and the other clusters are left. -/
structure Agrees (t : Text) (parts : List Text) (k : Nat) (answers : List (Option Text))
    (rest : Clusters) : Prop where
  answers_eq : answers =
    (parts.take k).map some ++ List.replicate (k - parts.length) none
  offset_eq : rest.offset = (Text.ends 0 (parts.take k)).getLastD 0
  toList_eq : rest.toList = parts.drop k
  exhausted : none ∈ answers → rest.offset = t.size

theorem calls_succ_of_lt (h : p < t.size) :
    calls (k + 1) ⟨e, t, p⟩ =
      (some (t.slice p (e.nextBreak t p)) :: (calls k ⟨e, t, e.nextBreak t p⟩).1,
        (calls k ⟨e, t, e.nextBreak t p⟩).2) := by
  rw [calls, next?, if_pos h, nextOffset]

/-- At the end of the text, all further calls answer nothing and change nothing. -/
theorem calls_of_le (h : t.size ≤ p) :
    calls k ⟨e, t, p⟩ = (List.replicate k none, ⟨e, t, p⟩) := by
  induction k with
  | zero => rfl
  | succ k ih =>
      rw [calls, next?, if_neg (Nat.not_lt.mpr h)]
      simp only [ih, List.replicate_succ]

theorem answers_calls (hp : p ≤ t.size) :
    (calls k ⟨e, t, p⟩).1 = ((toList ⟨e, t, p⟩).take k).map some ++
      List.replicate (k - (toList ⟨e, t, p⟩).length) none := by
  induction k generalizing p with
  | zero => simp [calls]
  | succ k ih =>
      rcases Nat.lt_or_eq_of_le hp with hlt | rfl
      · rw [calls_succ_of_lt hlt, toList_of_lt hlt, List.take_succ_cons, List.map_cons,
          List.cons_append, List.length_cons, Nat.succ_sub_succ, ih (e.nextBreak_le_size hlt)]
      · rw [calls_of_le (Nat.le_refl _), toList_of_le (Nat.le_refl _)]
        rfl

/-- Calls move the offset to the end of the last cluster, and nothing else. -/
theorem state_calls (hp : p ≤ t.size) :
    (calls k ⟨e, t, p⟩).2 =
      ⟨e, t, (Text.ends p ((toList ⟨e, t, p⟩).take k)).getLastD p⟩ := by
  induction k generalizing p with
  | zero => rfl
  | succ k ih =>
      rcases Nat.lt_or_eq_of_le hp with hlt | rfl
      · have hle := e.nextBreak_le_size hlt
        have hend : p + (t.slice p (e.nextBreak t p)).size = e.nextBreak t p := by
          rw [Text.size_slice hle]
          exact Nat.add_sub_cancel' (Nat.le_of_lt (e.lt_nextBreak hlt))
        rw [calls_succ_of_lt hlt, toList_of_lt hlt, List.take_succ_cons, Text.ends, hend,
          List.getLastD_cons]
        exact ih hle
      · rw [calls_of_le (Nat.le_refl _), toList_of_le (Nat.le_refl _)]
        rfl

theorem toList_calls (hp : p ≤ t.size) :
    (calls k ⟨e, t, p⟩).2.toList = (toList ⟨e, t, p⟩).drop k := by
  induction k generalizing p with
  | zero => rfl
  | succ k ih =>
      rcases Nat.lt_or_eq_of_le hp with hlt | rfl
      · rw [calls_succ_of_lt hlt, toList_of_lt hlt, List.drop_succ_cons]
        exact ih (e.nextBreak_le_size hlt)
      · rw [calls_of_le (Nat.le_refl _), toList_of_le (Nat.le_refl _)]
        rfl

/-- A call that answers nothing has reached the end of the text. -/
theorem offset_of_none_mem_calls (hp : p ≤ t.size) (h : none ∈ (calls k ⟨e, t, p⟩).1) :
    (calls k ⟨e, t, p⟩).2.offset = t.size := by
  induction k generalizing p with
  | zero => contradiction
  | succ k ih =>
      rcases Nat.lt_or_eq_of_le hp with hlt | rfl
      · rw [calls_succ_of_lt hlt] at h ⊢
        rcases List.mem_cons.mp h with hsome | hmem
        · contradiction
        · exact ih (e.nextBreak_le_size hlt) hmem
      · rw [calls_of_le (Nat.le_refl _)]

theorem agrees_calls (e : Evaluator) (t : Text) (k : Nat) :
    Agrees t (e.split t) k (calls k (start e t)).1 (calls k (start e t)).2 where
  answers_eq := answers_calls (Nat.zero_le _)
  offset_eq := by
    rw [start, state_calls (Nat.zero_le _)]
    rfl
  toList_eq := toList_calls (Nat.zero_le _)
  exhausted := offset_of_none_mem_calls (Nat.zero_le _)

end Clusters

/-- Whatever the tables of an evaluator and its limit on runs, the clusters of a text
partition it at its boundaries, and calling for them one at a time agrees with that at
every point of a run. -/
theorem Evaluator.partition_split_and_calls (e : Evaluator) (t : Text) :
    t.PartitionAt ((List.range' 1 t.size).filter (e.isBreak t)) (e.split t) ∧
      e.split ⟨#[]⟩ = [] ∧
      ∀ k, Clusters.Agrees t (e.split t) k (Clusters.calls k (Clusters.start e t)).1
        (Clusters.calls k (Clusters.start e t)).2 := by
  refine ⟨?_, ?_, Clusters.agrees_calls e t⟩
  · rw [split, Clusters.start, Clusters.toList_eq_pieces]
    exact Text.partitionAt_stopsAfter (e.stops_isBreak t)
  · exact Clusters.toList_of_le (Nat.le_refl _)

end Grapheme
end TextBoundary
