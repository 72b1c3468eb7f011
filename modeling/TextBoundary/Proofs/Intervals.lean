import Mathlib.Data.List.Chain
import Mathlib.Data.List.Sort
import TextBoundary.Proofs.StepTable

/-!
# The intervals of a step table

The rows of a table that is built from mappings ascend, and no two neighbours hold one
value: a row that would repeat the value of its neighbour is joined with it.  The intervals
between the ceilings are therefore stretches of the function that the table stands for: the
function has one value there, and has it on no larger interval.

The stretches are determined by the function, and the rows by the stretches.  Tables with
one ceiling are equal when they answer alike, whatever mappings and defaults they were built
from.
-/

namespace TextBoundary

variable {α : Type}

/-! ## Stretches of a function -/

/-- An interval on which a function has one value, and which lies in no larger interval with
this value throughout. -/
structure IsStretch (f : Nat → Option α) (m : Mapping α) : Prop where
  ordered : m.keys.min ≤ m.keys.max
  constant : ∀ key ∈ m.keys, f key = some m.step
  maximal : ∀ w : Bounds, w.Covers m.keys → (∀ key ∈ w, f key = some m.step) → w = m.keys

namespace IsStretch

variable {f : Nat → Option α} {m m' : Mapping α} {key : Nat}

/-- An interval is maximal if the function has another value on both sides of it. -/
theorem of_sides (hordered : m.keys.min ≤ m.keys.max)
    (hconstant : ∀ key ∈ m.keys, f key = some m.step)
    (hleft : ∀ key, key + 1 = m.keys.min → f key ≠ some m.step)
    (hright : f (m.keys.max + 1) ≠ some m.step) : IsStretch f m where
  ordered := hordered
  constant := hconstant
  maximal := by
    rintro ⟨lo, hi⟩ ⟨hlo, hhi⟩ hw
    have hw : ∀ key, lo ≤ key ∧ key ≤ hi → f key = some m.step := hw
    simp only at hlo hhi
    have hmin : ¬lo < m.keys.min := fun hlt =>
      hleft (m.keys.min - 1) (by omega) (hw _ (by omega))
    have hmax : ¬m.keys.max < hi := fun hlt => hright (hw _ (by omega))
    obtain rfl : lo = m.keys.min := by omega
    obtain rfl : hi = m.keys.max := by omega
    rfl

/-- Stretches that overlap are equal: together they would be a larger one. -/
theorem eq_of_mem (h : IsStretch f m) (h' : IsStretch f m') (hkey : key ∈ m.keys)
    (hkey' : key ∈ m'.keys) : m = m' := by
  obtain ⟨⟨lo, hi⟩, step⟩ := m
  obtain ⟨⟨lo', hi'⟩, step'⟩ := m'
  obtain rfl : step = step' :=
    Option.some.inj ((h.constant key hkey).symm.trans (h'.constant key hkey'))
  have hunion : ∀ n ∈ (⟨min lo lo', max hi hi'⟩ : Bounds), f n = some step := by
    intro n hn
    rw [Bounds.mem_iff] at hkey hkey' hn
    simp only at hkey hkey' hn
    by_cases hmem : lo ≤ n ∧ n ≤ hi
    · exact h.constant n hmem
    · exact h'.constant n ⟨by simp only; omega, by simp only; omega⟩
  have hcovers := h.maximal _ ⟨Nat.min_le_left _ _, Nat.le_max_left _ _⟩ hunion
  have hcovers' := h'.maximal _ ⟨Nat.min_le_right _ _, Nat.le_max_right _ _⟩ hunion
  simp only at hcovers hcovers'
  rw [← hcovers, hcovers']

end IsStretch

/-! ## Admissible mappings -/

namespace Mapping

variable {ceiling start : Nat} {mappings : List (Mapping α)} {m m' : Mapping α}

theorem value?_nil (key : Nat) : value? ([] : List (Mapping α)) key = none :=
  rfl

theorem Admissible.bounds (h : Admissible ceiling start mappings) (hm : m ∈ mappings) :
    start ≤ m.keys.min ∧ m.keys.min ≤ m.keys.max ∧ m.keys.max < ceiling := by
  induction mappings generalizing start with
  | nil => simp at hm
  | cons m₀ mappings ih =>
      obtain ⟨hstart, horder, hceiling, hrest⟩ := h
      rcases List.mem_cons.mp hm with rfl | hm
      · exact ⟨hstart, horder, hceiling⟩
      · have hlater := ih hrest hm
        omega

theorem Admissible.pairwise (h : Admissible ceiling start mappings) :
    mappings.Pairwise fun a b => a.keys.max < b.keys.min := by
  induction mappings generalizing start with
  | nil => exact List.Pairwise.nil
  | cons m mappings ih =>
      obtain ⟨-, -, -, hrest⟩ := h
      exact List.Pairwise.cons (fun m' hm' => (hrest.bounds hm').1) (ih hrest)

theorem Admissible.value?_eq (h : Admissible ceiling start mappings) (hm : m ∈ mappings)
    {key : Nat} (hkey : key ∈ m.keys) : value? mappings key = some m.step :=
  (value?_eq_some_iff h).mpr ⟨m, hm, hkey, rfl⟩

/-- Of two mappings, one ends before the other begins. -/
theorem Admissible.eq_or_lt (h : Admissible ceiling start mappings) (hm : m ∈ mappings)
    (hm' : m' ∈ mappings) :
    m = m' ∨ m.keys.max < m'.keys.min ∨ m'.keys.max < m.keys.min := by
  have hpairwise := h.pairwise
  obtain ⟨before, after, rfl⟩ := List.append_of_mem hm
  obtain ⟨-, hlater, hearlier⟩ := List.pairwise_append.mp hpairwise
  rcases List.mem_append.mp hm' with hbefore | hbehind
  · exact Or.inr (Or.inr (hearlier m' hbefore m List.mem_cons_self))
  · rcases List.mem_cons.mp hbehind with rfl | hafter
    · exact Or.inl rfl
    · exact Or.inr (Or.inl ((List.pairwise_cons.mp hlater).1 m' hafter))

/-- Where neighbours hold different values, so do mappings that touch. -/
theorem Admissible.step_ne_of_touch (h : Admissible ceiling start mappings)
    (hdistinct : mappings.IsChain fun a b => a.step ≠ b.step) (hm : m ∈ mappings)
    (hm' : m' ∈ mappings) (htouch : m.keys.max + 1 = m'.keys.min) : m.step ≠ m'.step := by
  have horder := (h.bounds hm).2.1
  have horder' := (h.bounds hm').2.1
  have hpairwise := h.pairwise
  obtain ⟨before, after, rfl⟩ := List.append_of_mem hm
  obtain ⟨-, hlater, hearlier⟩ := List.pairwise_append.mp hpairwise
  rcases List.mem_append.mp hm' with hbefore | hbehind
  · have hgt := hearlier m' hbefore m List.mem_cons_self
    omega
  · rcases List.mem_cons.mp hbehind with rfl | hafter
    · omega
    · cases after with
      | nil => simp at hafter
      | cons next after =>
          rcases List.mem_cons.mp hafter with rfl | hfurther
          · exact (List.isChain_append_cons_cons.mp hdistinct).2.1
          · -- Between mappings that touch there is no room for a third.
            obtain ⟨hnext, hrest⟩ := List.pairwise_cons.mp hlater
            have hlt := hnext next List.mem_cons_self
            have hlt' := (List.pairwise_cons.mp hrest).1 m' hfurther
            have horder_next := (h.bounds (m := next) (by simp)).2.1
            omega

/-- Mappings with different values on neighbours are the stretches of their values. -/
theorem Admissible.mem_iff_isStretch (h : Admissible ceiling start mappings)
    (hdistinct : mappings.IsChain fun a b => a.step ≠ b.step) :
    m ∈ mappings ↔ IsStretch (value? mappings) m := by
  have hstretch : ∀ m ∈ mappings, IsStretch (value? mappings) m := by
    intro m hm
    have horder := (h.bounds hm).2.1
    apply IsStretch.of_sides horder (fun key => h.value?_eq hm)
    · intro key hkey hvalue
      obtain ⟨m', hm', hmem, hstep⟩ := (value?_eq_some_iff h).mp hvalue
      rw [Bounds.mem_iff] at hmem
      rcases h.eq_or_lt hm' hm with rfl | hbefore | hafter
      · omega
      · exact h.step_ne_of_touch hdistinct hm' hm (by omega) hstep
      · omega
    · intro hvalue
      obtain ⟨m', hm', hmem, hstep⟩ := (value?_eq_some_iff h).mp hvalue
      rw [Bounds.mem_iff] at hmem
      rcases h.eq_or_lt hm hm' with rfl | hbefore | hafter
      · omega
      · exact h.step_ne_of_touch hdistinct hm hm' (by omega) hstep.symm
      · omega
  constructor
  · exact hstretch m
  · intro hm
    have hmin : m.keys.min ∈ m.keys := ⟨Nat.le_refl _, hm.ordered⟩
    obtain ⟨m', hm', hmem, -⟩ := (value?_eq_some_iff h).mp (hm.constant _ hmin)
    rwa [hm.eq_of_mem (hstretch m' hm') hmin hmem]

/-- The rows of admissible mappings end at the ceiling. -/
theorem Admissible.getLast?_rows (h : Admissible ceiling start mappings)
    (hstart : start ≤ ceiling) (default : α) :
    ((rows ceiling default start mappings).getLast?.map StepRow.ceiling).getD start =
      ceiling := by
  induction mappings generalizing start with
  | nil =>
      rw [rows]
      split
      next => rfl
      next hend =>
        obtain ⟨hge, -⟩ := not_or.mp hend
        exact Nat.le_antisymm hstart (Nat.not_lt.mp hge)
  | cons m mappings ih =>
      obtain ⟨-, -, hceiling, hrest⟩ := h
      have hlast : ((rows ceiling default (m.keys.max + 1) mappings).getLast?.getD
          ⟨m.keys.max + 1, m.step⟩).ceiling = ceiling :=
        (Option.getD_map StepRow.ceiling _ _).symm.trans (ih hrest hceiling)
      rw [rows]
      split
      · simp only [List.getLast?_cons, Option.getD_some, Option.map_some, hlast]
      · simp only [List.getLast?_cons, Option.getD_some, Option.map_some, hlast]

end Mapping

/-! ## Joined rows -/

namespace StepRow

/-- Rows in normal form: they ascend from above zero to the ceiling, and neighbours hold
different values. -/
structure Reduced (ceiling : Nat) (rows : List (StepRow α)) : Prop where
  positive : ∀ row ∈ rows, 0 < row.ceiling
  bounded : ∀ row ∈ rows, row.ceiling ≤ ceiling
  ascending : Ascending rows
  distinct : rows.IsChain fun a b => a.step ≠ b.step
  ends : rows.getLast?.map StepRow.ceiling = some ceiling

variable [DecidableEq α]

theorem getLast?_coalesce (rows : List (StepRow α)) :
    (coalesce rows).getLast? = rows.getLast? := by
  induction rows with
  | nil => rfl
  | cons row rows ih =>
      rw [coalesce]
      split
      next h =>
        rw [h, List.getLast?_nil, eq_comm, List.getLast?_eq_none_iff] at ih
        rw [ih]
      next next tail h =>
        rw [h] at ih
        split
        · rw [ih, List.getLast?_cons, ← ih, List.getLast?_cons, Option.getD_some]
        · rw [List.getLast?_cons, ih, List.getLast?_cons]

/-- Neighbours that remain hold different values. -/
theorem isChain_coalesce (rows : List (StepRow α)) :
    (coalesce rows).IsChain fun a b => a.step ≠ b.step := by
  induction rows with
  | nil => exact .nil
  | cons row rows ih =>
      rw [coalesce]
      split
      next => exact .singleton row
      next next tail h =>
        rw [h] at ih
        split
        next => exact ih
        next hstep => exact List.isChain_cons_cons.mpr ⟨hstep, ih⟩

end StepRow

namespace StepTable

open StepRow

variable {ceiling start : Nat} {rows : List (StepRow α)} {t t' : StepTable α}

/-! ## The intervals of rows -/

theorem admissible_go (hascending : Ascending rows) (hstart : ∀ row ∈ rows, start < row.ceiling)
    (hceiling : ∀ row ∈ rows, row.ceiling ≤ ceiling) :
    Mapping.Admissible ceiling start (intervals.go start rows) := by
  induction rows generalizing start with
  | nil => trivial
  | cons row rows ih =>
      obtain ⟨hfirst, hrest⟩ := List.pairwise_cons.mp hascending
      have hrow := hstart row List.mem_cons_self
      have hrow' := hceiling row List.mem_cons_self
      have hnext : row.ceiling - 1 + 1 = row.ceiling := by omega
      refine ⟨Nat.le_refl _, by simp only; omega, by simp only; omega, ?_⟩
      simp only [hnext]
      exact ih hrest hfirst fun r hr => hceiling r (List.mem_cons_of_mem _ hr)

/-- The intervals of rows have the values of the rows. -/
theorem value?_go (hascending : Ascending rows) (hstart : ∀ row ∈ rows, start < row.ceiling)
    {key : Nat} (hkey : start ≤ key) :
    Mapping.value? (intervals.go start rows) key = lookup rows key := by
  induction rows generalizing start with
  | nil => rfl
  | cons row rows ih =>
      obtain ⟨hfirst, hrest⟩ := List.pairwise_cons.mp hascending
      have hrow := hstart row List.mem_cons_self
      rw [intervals.go, Mapping.value?_cons, lookup_cons]
      have hmem : key ∈ (⟨start, row.ceiling - 1⟩ : Bounds) ↔ key < row.ceiling := by
        rw [Bounds.mem_iff]
        simp only
        omega
      simp only [hmem]
      split
      next => rfl
      next hge => exact ih hrest hfirst (Nat.not_lt.mp hge)

/-- Each interval begins where the one before it has ended. -/
theorem isChain_go (start : Nat) (hpositive : ∀ row ∈ rows, 0 < row.ceiling)
    (hdistinct : rows.IsChain fun a b => a.step ≠ b.step) :
    (intervals.go start rows).IsChain fun a b =>
      b.keys.min = a.keys.max + 1 ∧ a.step ≠ b.step := by
  induction rows generalizing start with
  | nil => exact .nil
  | cons row rows ih =>
      have hrow := hpositive row List.mem_cons_self
      cases rows with
      | nil => exact .singleton _
      | cons next rows =>
          obtain ⟨hstep, hrest⟩ := List.isChain_cons_cons.mp hdistinct
          refine List.isChain_cons_cons.mpr ⟨⟨?_, hstep⟩, ?_⟩
          · simp only
            omega
          · exact ih _ (fun r hr => hpositive r (List.mem_cons_of_mem _ hr)) hrest

theorem getLast?_go (start : Nat) (rows : List (StepRow α)) :
    ((intervals.go start rows).getLast?.map fun m => m.keys.max) =
      rows.getLast?.map fun row => row.ceiling - 1 := by
  induction rows generalizing start with
  | nil => rfl
  | cons row rows ih =>
      cases rows with
      | nil => rfl
      | cons next rows =>
          have hrest := ih row.ceiling
          rw [intervals.go] at hrest
          rw [intervals.go, intervals.go, List.getLast?_cons_cons, List.getLast?_cons_cons, hrest]

/-- The rows can be read off their intervals. -/
theorem map_go (start : Nat) (hpositive : ∀ row ∈ rows, 0 < row.ceiling) :
    ((intervals.go start rows).map fun m => (⟨m.keys.max + 1, m.step⟩ : StepRow α)) = rows := by
  induction rows generalizing start with
  | nil => rfl
  | cons row rows ih =>
      have hnext : row.ceiling - 1 + 1 = row.ceiling :=
        Nat.sub_add_cancel (hpositive row List.mem_cons_self)
      rw [intervals.go, List.map_cons, ih _ fun r hr => hpositive r (List.mem_cons_of_mem _ hr)]
      simp only [hnext]

/-! ## Tables in normal form -/

/-- A table with a ceiling is built from mappings over a default, or from a default alone. -/
inductive Built [DecidableEq α] (ceiling : Nat) : StepTable α → Prop
  | constant (default : α) : Built ceiling (constant ceiling default)
  | ofMappings (default : α) {mappings : List (Mapping α)}
      (h : Mapping.Admissible ceiling 0 mappings) :
      Built ceiling (ofMappings ceiling default mappings)

theorem constant_eq_ofMappings [DecidableEq α] (default : α) :
    constant ceiling default = ofMappings ceiling default [] := by
  rw [ofMappings, Mapping.rows, if_pos (Or.inr rfl)]
  rfl

theorem reduced_ofMappings [DecidableEq α] (hceiling : 0 < ceiling) (default : α)
    {mappings : List (Mapping α)} (h : Mapping.Admissible ceiling 0 mappings) :
    Reduced ceiling (ofMappings ceiling default mappings).rows.toList where
  positive row hrow := (Mapping.rows_bounds hceiling h row ((coalesce_sublist _).subset hrow)).1
  bounded row hrow := (Mapping.rows_bounds hceiling h row ((coalesce_sublist _).subset hrow)).2
  ascending := (Mapping.ascending_rows h).sublist (coalesce_sublist _)
  distinct := isChain_coalesce _
  ends := by
    have hlast := h.getLast?_rows (Nat.zero_le ceiling) default
    rw [← getLast?_coalesce] at hlast
    rw [ofMappings, List.toList_toArray]
    cases hrow : (coalesce (Mapping.rows ceiling default 0 mappings)).getLast? with
    | none =>
        rw [hrow, Option.map_none, Option.getD_none] at hlast
        omega
    | some row =>
        rw [hrow, Option.map_some, Option.getD_some] at hlast
        rw [Option.map_some, hlast]

theorem Built.reduced [DecidableEq α] (hceiling : 0 < ceiling) (h : Built ceiling t) :
    Reduced ceiling t.rows.toList := by
  cases h with
  | constant default =>
      rw [constant_eq_ofMappings]
      exact reduced_ofMappings hceiling default trivial
  | ofMappings default h => exact reduced_ofMappings hceiling default h

/-! ## Answers and intervals of tables in normal form -/

section Reduced

variable (h : Reduced ceiling t.rows.toList)
include h

theorem ceiling_eq : t.ceiling = ceiling := by
  have hends := h.ends
  rw [Array.getLast?_toList] at hends
  rw [StepTable.ceiling, hends, Option.getD_some]

theorem admissible_intervals : Mapping.Admissible ceiling 0 t.intervals :=
  admissible_go h.ascending h.positive h.bounded

/-- The intervals of a table hold its values. -/
theorem step?_eq_value? : t.step? = Mapping.value? t.intervals := by
  funext key
  rw [intervals, value?_go h.ascending h.positive (Nat.zero_le key)]
  exact step?_eq_lookup h.ascending key

/-- The intervals of a table are the stretches of its values. -/
theorem mem_intervals_iff (m : Mapping α) : m ∈ t.intervals ↔ IsStretch t.step? m := by
  have hchain := isChain_go 0 h.positive h.distinct
  rw [step?_eq_value? h]
  exact (admissible_intervals h).mem_iff_isStretch (hchain.imp fun _ _ hab => hab.2)

theorem pairwise_intervals : t.intervals.Pairwise fun a b => a.keys.min < b.keys.min := by
  refine (admissible_intervals h).pairwise.imp_of_mem ?_
  intro a b ha _ hab
  exact Nat.lt_of_le_of_lt ((admissible_intervals h).bounds ha).2.1 hab

theorem step?_eq_none_of_le {key : Nat} (hkey : ceiling ≤ key) : t.step? key = none := by
  rw [step?_eq_value? h, Mapping.value?, Option.map_eq_none_iff, List.find?_eq_none]
  intro m hm
  have hlt := ((admissible_intervals h).bounds hm).2.2
  rw [decide_eq_true_eq, Bounds.mem_iff]
  omega

/-- Tables in normal form are equal when they answer alike below the ceiling. -/
theorem eq_of_step?_eq (h' : Reduced ceiling t'.rows.toList)
    (hsame : ∀ key < ceiling, t.step? key = t'.step? key) : t = t' := by
  have hstep : t.step? = t'.step? := by
    funext key
    rcases Nat.lt_or_ge key ceiling with hlt | hge
    · exact hsame key hlt
    · rw [step?_eq_none_of_le h hge, step?_eq_none_of_le h' hge]
  have hintervals : t.intervals = t'.intervals := by
    have hirrefl : Std.Irrefl fun a b : Mapping α => a.keys.min < b.keys.min :=
      ⟨fun a => Nat.lt_irrefl _⟩
    apply (pairwise_intervals h).eq_of_mem_iff (pairwise_intervals h')
    intro m
    rw [mem_intervals_iff h, mem_intervals_iff h', hstep]
  have hrows : t.rows.toList = t'.rows.toList := by
    rw [← map_go 0 h.positive, ← map_go 0 h'.positive]
    exact congrArg _ hintervals
  cases t
  cases t'
  simpa using hrows

end Reduced

/-! ## Built tables -/

/-- A table answers with the value of the mapping that holds a number, with the default
below the ceiling where no mapping does, and with nothing from the ceiling on. -/
structure Answers (t : StepTable α) (ceiling : Nat) (default : α)
    (mappings : List (Mapping α)) : Prop where
  mapped : ∀ m ∈ mappings, ∀ key ∈ m.keys, t.step? key = some m.step
  unmapped : ∀ key < ceiling, (∀ m ∈ mappings, key ∉ m.keys) → t.step? key = some default
  beyond : ∀ key, ceiling ≤ key → t.step? key = none
  ceiling_eq : t.ceiling = ceiling

/-- The intervals of a table lead from zero to the ceiling without a gap, neighbours hold
different values, and they are all the stretches of its values. -/
structure ListsStretches (t : StepTable α) (ceiling : Nat) : Prop where
  starts : (t.intervals.head?.map fun m => m.keys.min) = some 0
  contiguous : t.intervals.IsChain fun a b => b.keys.min = a.keys.max + 1 ∧ a.step ≠ b.step
  ends : (t.intervals.getLast?.map fun m => m.keys.max) = some (ceiling - 1)
  mem_iff : ∀ m, m ∈ t.intervals ↔ IsStretch t.step? m

theorem listsStretches_of_reduced (h : Reduced ceiling t.rows.toList) :
    t.ListsStretches ceiling where
  starts := by
    have hends := h.ends
    rw [intervals]
    cases hrows : t.rows.toList with
    | nil => simp [hrows] at hends
    | cons row rows => rfl
  contiguous := isChain_go 0 h.positive h.distinct
  ends := by
    have hends := h.ends
    rw [intervals, getLast?_go]
    obtain ⟨row, hrow, rfl⟩ := Option.map_eq_some_iff.mp hends
    rw [hrow, Option.map_some]
  mem_iff := mem_intervals_iff h

variable [DecidableEq α]

theorem answers_ofMappings (hceiling : 0 < ceiling) (default : α) {mappings : List (Mapping α)}
    (h : Mapping.Admissible ceiling 0 mappings) :
    (ofMappings ceiling default mappings).Answers ceiling default mappings where
  mapped m hm key hkey := by
    have hlt := (h.bounds hm).2.2
    have hmax := hkey.2
    rw [step?_ofMappings h, if_pos (by omega), h.value?_eq hm hkey, Option.getD_some]
  unmapped key hlt hnot := by
    have hnone : Mapping.value? mappings key = none := by
      rw [Mapping.value?, Option.map_eq_none_iff, List.find?_eq_none]
      simpa using hnot
    rw [step?_ofMappings h, if_pos hlt, hnone, Option.getD_none]
  beyond key hge := by
    rw [step?_ofMappings h, if_neg (Nat.not_lt.mpr hge)]
  ceiling_eq := ceiling_eq (reduced_ofMappings hceiling default h)

/-- The bounds between which a table is true are its true stretches. -/
theorem mem_trueBounds_iff {t : StepTable Bool} (h : Reduced ceiling t.rows.toList)
    (w : Bounds) : w ∈ t.trueBounds ↔ IsStretch t.step? ⟨w, true⟩ := by
  rw [← mem_intervals_iff h, trueBounds, List.mem_map]
  constructor
  · rintro ⟨⟨keys, step⟩, hm, rfl⟩
    obtain ⟨hm, hstep⟩ := List.mem_filter.mp hm
    obtain rfl : step = true := hstep
    exact hm
  · intro hm
    exact ⟨⟨w, true⟩, List.mem_filter.mpr ⟨hm, rfl⟩, rfl⟩

theorem pairwise_trueBounds {t : StepTable Bool} (h : Reduced ceiling t.rows.toList) :
    t.trueBounds.Pairwise fun v w => v.max < w.min := by
  rw [trueBounds, List.pairwise_map]
  exact (admissible_intervals h).pairwise.filter _

/-- Tables of mappings over a default answer as the mappings do.  A table is determined by
its ceiling and its answers, however it was built, and its intervals are the stretches on
which the answers are constant. -/
theorem built_canonical (hceiling : 0 < ceiling) :
    (∀ (default : α) (mappings : List (Mapping α)), Mapping.Admissible ceiling 0 mappings →
        (ofMappings ceiling default mappings).Answers ceiling default mappings) ∧
      (∀ default : α, (constant ceiling default).Answers ceiling default []) ∧
      (∀ t t' : StepTable α, Built ceiling t → Built ceiling t' →
        (t = t' ↔ ∀ key < ceiling, t.step? key = t'.step? key)) ∧
      (∀ t : StepTable α, Built ceiling t → t.ListsStretches ceiling) ∧
      ∀ t : StepTable Bool, Built ceiling t →
        t.trueBounds.Pairwise (fun v w => v.max < w.min) ∧
          ∀ w, w ∈ t.trueBounds ↔ IsStretch t.step? ⟨w, true⟩ := by
  refine ⟨fun default _ h => answers_ofMappings hceiling default h, ?_, ?_,
    fun t h => listsStretches_of_reduced (h.reduced hceiling),
    fun t h => ⟨pairwise_trueBounds (h.reduced hceiling), mem_trueBounds_iff (h.reduced hceiling)⟩⟩
  · intro default
    rw [constant_eq_ofMappings]
    exact answers_ofMappings hceiling default trivial
  · intro t t' h h'
    constructor
    · rintro rfl key -
      rfl
    · exact eq_of_step?_eq (h.reduced hceiling) (h'.reduced hceiling)

/-- Twos on both sides of some ones. -/
def twosOverOnes : List (Mapping Nat) :=
  [⟨⟨0, 9⟩, 2⟩, ⟨⟨15, 0xFFFFFFFE⟩, 2⟩]

/-- The same ones in two pieces, and one piece that repeats the twos around it. -/
def onesOverTwos : List (Mapping Nat) :=
  [⟨⟨10, 12⟩, 1⟩, ⟨⟨13, 14⟩, 1⟩, ⟨⟨20, 29⟩, 2⟩]

/-- Both give one table of all numbers of 32 bits but the last. -/
theorem built_canonical_two_defaults :
    ofMappings 0xFFFFFFFF 1 twosOverOnes = ofMappings 0xFFFFFFFF 2 onesOverTwos ∧
      (ofMappings 0xFFFFFFFF 1 twosOverOnes).Answers 0xFFFFFFFF 1 twosOverOnes ∧
      (ofMappings 0xFFFFFFFF 1 twosOverOnes).ListsStretches 0xFFFFFFFF := by
  have hones : Mapping.Admissible 0xFFFFFFFF 0 twosOverOnes := by
    simp [twosOverOnes, Mapping.Admissible]
  have htwos : Mapping.Admissible 0xFFFFFFFF 0 onesOverTwos := by
    simp [onesOverTwos, Mapping.Admissible]
  have hceiling : 0 < 0xFFFFFFFF := by decide
  obtain ⟨hanswers, -, hequal, hstretches, -⟩ := built_canonical (α := Nat) hceiling
  refine ⟨?_, hanswers 1 _ hones, hstretches _ (.ofMappings 1 hones)⟩
  rw [hequal _ _ (.ofMappings 1 hones) (.ofMappings 2 htwos)]
  intro key hkey
  rw [step?_ofMappings hones, step?_ofMappings htwos, if_pos hkey, if_pos hkey]
  simp only [twosOverOnes, onesOverTwos, Mapping.value?_cons, Mapping.value?_nil, Bounds.mem_iff]
  grind

end StepTable
end TextBoundary
