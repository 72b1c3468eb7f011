import Mathlib.Data.List.Destutter
import TextBoundary.Proofs.Intervals
import TextBoundary.Proofs.Windows

/-!
# Checked construction of tables

Tables are computed with numbers of any size.  A machine computes with words: a sum must fit
in its word, and a difference must not fall below zero.  The functions here do the same work
with words.  They answer `none` as soon as a number leaves its word or a
condition on the arguments fails, so that an answer shows that neither happens.

Windows are computed without a fault when no bounds reach the end of the word.  A table is
filled row by row; this succeeds for admissible mappings and for no others, and gives the
rows that joining all of them at the end does.
-/

namespace TextBoundary

variable {α : Type}

/-! ## Words -/

namespace Checked

/-- A number that fits in a word, of which there are `size` many. -/
def word? (size n : Nat) : Option Nat :=
  if n < size then some n else none

/-- A difference that does not fall below zero. -/
def sub? (m n : Nat) : Option Nat :=
  if n ≤ m then some (m - n) else none

theorem word?_of_lt {size n : Nat} (h : n < size) : word? size n = some n :=
  if_pos h

theorem eq_of_word? {size m n : Nat} (h : word? size m = some n) : m = n := by
  rw [word?] at h
  split at h
  next => exact Option.some.inj h
  next => contradiction

theorem sub?_of_le {m n : Nat} (h : n ≤ m) : sub? m n = some (m - n) :=
  if_pos h

/-- A condition that holds lets the work go on. -/
theorem guard_of_pos {p : Prop} [Decidable p] (h : p) : (guard p : Option Unit) = some () :=
  if_pos h

/-- Work that has an answer hands it on. -/
theorem bind_of_eq_some {β : Type} {o : Option α} {a : α} (h : o = some a) (f : α → Option β) :
    (o >>= f) = f a := by
  rw [h]
  rfl

/-- Work on a list succeeds when it does on each element. -/
theorem mapM_eq_some_map {β : Type} {f : α → Option β} {g : α → β} {l : List α}
    (h : ∀ a ∈ l, f a = some (g a)) : l.mapM f = some (l.map g) := by
  induction l with
  | nil => rfl
  | cons a l ih =>
      rw [List.mapM_cons, h a List.mem_cons_self,
        ih fun b hb => h b (List.mem_cons_of_mem a hb)]
      rfl

end Checked

open Checked

/-! ## Windows -/

namespace Bounds

/-- The cuts of a list of bounds, in ascending order and each of them once. -/
def cuts? (l : List Bounds) : Option (List Nat) := do
  let ends ← l.mapM fun b => do
    let next ← word? UInt32.size (b.max + 1)
    return [b.min, next]
  return ends.flatten.mergeSort.destutter (· ≠ ·)

/-- The stretches between neighbouring cuts. -/
def windows? (l : List Bounds) : Option (List Bounds) := do
  let cuts ← cuts? l
  (cuts.zip cuts.tail).mapM fun (lo, next) => do
    let hi ← sub? next 1
    return ⟨lo, hi⟩

/-- Of two equal cuts one is left out. -/
theorem destutter_cons_cons_eq (a b : Nat) (l : List Nat) :
    (a :: b :: l).destutter (· ≠ ·) =
      if a = b then (b :: l).destutter (· ≠ ·) else a :: (b :: l).destutter (· ≠ ·) := by
  rw [List.destutter_cons_cons]
  by_cases heq : a = b
  · rw [if_neg (not_ne_iff.mpr heq), if_pos heq, heq]
    rfl
  · rw [if_pos heq, if_neg heq]
    rfl

theorem exists_destutter_cons (a : Nat) (l : List Nat) :
    ∃ rest, (a :: l).destutter (· ≠ ·) = a :: rest := by
  induction l generalizing a with
  | nil => exact ⟨[], rfl⟩
  | cons b l ih =>
      rw [destutter_cons_cons_eq]
      split
      next heq =>
        rw [heq]
        exact ih b
      next => exact ⟨_, rfl⟩

/-- Leaving out repeated cuts leaves out the stretches that hold no number. -/
theorem zip_tail_destutter {l : List Nat} (hsorted : l.Pairwise (· ≤ ·)) :
    (l.destutter (· ≠ ·)).zip (l.destutter (· ≠ ·)).tail =
      (l.zip l.tail).filter fun p => p.1 < p.2 := by
  induction l with
  | nil => rfl
  | cons a l ih =>
      cases l with
      | nil => rfl
      | cons b l =>
          obtain ⟨hle, hrest⟩ := List.pairwise_cons.mp hsorted
          have hab := hle b List.mem_cons_self
          have ih := ih hrest
          rw [destutter_cons_cons_eq, List.tail_cons, List.zip_cons_cons, List.filter_cons]
          by_cases heq : a = b
          · have hnot : ¬decide (a < b) = true := by
              rw [decide_eq_true_eq]
              omega
            rw [if_pos heq, if_neg hnot, ih, List.tail_cons]
          · have hlt : decide (a < b) = true := by
              rw [decide_eq_true_eq]
              omega
            obtain ⟨rest, hdestutter⟩ := exists_destutter_cons b l
            rw [hdestutter, List.tail_cons] at ih
            rw [if_neg heq, if_pos hlt, hdestutter, List.tail_cons, List.zip_cons_cons, ih,
              List.tail_cons]

theorem cuts?_eq {l : List Bounds} (h : ∀ b ∈ l, b.max + 1 < UInt32.size) :
    cuts? l = some ((cuts l).destutter (· ≠ ·)) := by
  have hends : (l.mapM fun b : Bounds => do
      let next ← word? UInt32.size (b.max + 1)
      return [b.min, next]) = some (l.map fun b => [b.min, b.max + 1]) := by
    apply mapM_eq_some_map
    intro b hb
    rw [bind_of_eq_some (word?_of_lt (h b hb))]
    rfl
  rw [cuts?, bind_of_eq_some hends, cuts, List.flatMap_def]
  rfl

theorem windows?_eq {l : List Bounds} (h : ∀ b ∈ l, b.max + 1 < UInt32.size) :
    windows? l = some (windows l) := by
  have hwindows : windows l =
      (((cuts l).zip (cuts l).tail).filter fun p => p.1 < p.2).map
        fun p => ⟨p.1, p.2 - 1⟩ := by
    rw [windows, ← List.filterMap_eq_map, List.filterMap_filter]
    simp only [decide_eq_true_eq, Function.comp_apply]
  rw [windows?, bind_of_eq_some (cuts?_eq h), hwindows, ← zip_tail_destutter (sorted_cuts l)]
  apply mapM_eq_some_map
  rintro ⟨lo, next⟩ hmem
  rw [zip_tail_destutter (sorted_cuts l), List.mem_filter, decide_eq_true_eq] at hmem
  have hlt : lo < next := hmem.2
  exact bind_of_eq_some (sub?_of_le (Nat.one_le_of_lt hlt)) _

end Bounds

/-! ## Step tables -/

namespace StepRow

variable [DecidableEq α]

/-- Adds a row behind others, of which the last one comes first.  A row that repeats the
value of the last one takes its place. -/
def push (rows : List (StepRow α)) (row : StepRow α) : List (StepRow α) :=
  match rows with
  | [] => [row]
  | last :: earlier => if last.step = row.step then row :: earlier else row :: last :: earlier

theorem coalesce_cons_cons (a b : StepRow α) (rows : List (StepRow α)) :
    coalesce (a :: b :: rows) =
      if a.step = b.step then coalesce (b :: rows) else a :: coalesce (b :: rows) := by
  obtain ⟨next, tail, hcons, hstep⟩ : ∃ next tail,
      coalesce (b :: rows) = next :: tail ∧ next.step = b.step := by
    rw [coalesce]
    split
    next => exact ⟨b, [], rfl, rfl⟩
    next next tail _ =>
      split
      next heq => exact ⟨next, tail, rfl, heq.symm⟩
      next => exact ⟨b, next :: tail, rfl, rfl⟩
  rw [coalesce, hcons]
  simp only [hstep]

/-- Rows that are added one by one are joined as they are in one go. -/
theorem reverse_foldl_push (rows : List (StepRow α)) (last : StepRow α)
    (earlier : List (StepRow α)) :
    (rows.foldl push (last :: earlier)).reverse = earlier.reverse ++ coalesce (last :: rows) := by
  induction rows generalizing last earlier with
  | nil => rw [List.foldl_nil, List.reverse_cons]; rfl
  | cons row rows ih =>
      rw [List.foldl_cons, push, coalesce_cons_cons]
      split
      next => exact ih row earlier
      next => rw [ih, List.reverse_cons, List.append_assoc, List.singleton_append]

theorem reverse_foldl_push_nil (rows : List (StepRow α)) :
    (rows.foldl push []).reverse = coalesce rows := by
  cases rows with
  | nil => rfl
  | cons row rows => exact reverse_foldl_push rows row []

end StepRow

theorem Mapping.step_of_mem_rows {ceiling start : Nat} {default : α}
    {mappings : List (Mapping α)} {row : StepRow α}
    (h : row ∈ rows ceiling default start mappings) :
    row.step = default ∨ ∃ m ∈ mappings, m.step = row.step := by
  induction mappings generalizing start with
  | nil =>
      rw [rows] at h
      split at h
      next => exact Or.inl (congrArg StepRow.step (List.mem_singleton.mp h))
      next => exact absurd h List.not_mem_nil
  | cons m mappings ih =>
      rcases mem_rows_cons.mp h with ⟨-, rfl⟩ | rfl | hrest
      · exact Or.inl rfl
      · exact Or.inr ⟨m, List.mem_cons_self, rfl⟩
      · rcases ih hrest with hdefault | ⟨m', hm', hstep⟩
        · exact Or.inl hdefault
        · exact Or.inr ⟨m', List.mem_cons_of_mem m hm', hstep⟩

namespace StepTable

open StepRow

/-- What a table answers is held by one of its rows. -/
theorem exists_mem_of_step? {table : StepTable α} {key : Nat} {value : α}
    (h : table.step? key = some value) : ∃ row ∈ table.rows, row.step = value := by
  obtain ⟨row, hrow, hstep⟩ := Option.map_eq_some_iff.mp h
  exact ⟨row, Array.mem_of_getElem? hrow, hstep⟩

variable [DecidableEq α] {ceiling : Nat} {default : α}

/-- Adds the rows of mappings behind the rows that end at `start`.  Each mapping is checked
before its rows are added. -/
def fill? (ceiling : Nat) (default : α) (rows : List (StepRow α)) (start : Nat) :
    List (Mapping α) → Option (List (StepRow α))
  | [] =>
      some (if start < ceiling ∨ rows = [] then push rows ⟨ceiling, default⟩ else rows)
  | m :: mappings => do
      guard (start ≤ m.keys.min ∧ m.keys.min ≤ m.keys.max ∧ m.keys.max < ceiling)
      let next ← word? UInt32.size (m.keys.max + 1)
      let rows := if start < m.keys.min then push rows ⟨m.keys.min, default⟩ else rows
      fill? ceiling default (push rows ⟨next, m.step⟩) next mappings

/-- The table of mappings over a default, filled from the front. -/
def ofMappings? (ceiling : Nat) (default : α) (mappings : List (Mapping α)) :
    Option (StepTable α) := do
  let rows ← fill? ceiling default [] 0 mappings
  return ⟨rows.reverse.toArray⟩

theorem push_ne_nil (rows : List (StepRow α)) (row : StepRow α) : push rows row ≠ [] := by
  cases rows with
  | nil => exact List.cons_ne_nil row []
  | cons last earlier =>
      rw [push]
      split
      next => exact List.cons_ne_nil _ _
      next => exact List.cons_ne_nil _ _

/-- Adds the rows of one mapping behind the rows that end at `start`. -/
def pushMapping (default : α) (rows : List (StepRow α)) (start : Nat) (m : Mapping α) :
    List (StepRow α) :=
  push (if start < m.keys.min then push rows ⟨m.keys.min, default⟩ else rows)
    ⟨m.keys.max + 1, m.step⟩

theorem pushMapping_ne_nil (rows : List (StepRow α)) (start : Nat) (m : Mapping α) :
    pushMapping default rows start m ≠ [] :=
  push_ne_nil _ _

theorem foldl_push_rows_cons (rows : List (StepRow α)) (start : Nat) (m : Mapping α)
    (mappings : List (Mapping α)) :
    (Mapping.rows ceiling default start (m :: mappings)).foldl push rows =
      (Mapping.rows ceiling default (m.keys.max + 1) mappings).foldl push
        (pushMapping default rows start m) := by
  rw [Mapping.rows, pushMapping]
  split
  next => rw [List.foldl_cons, List.foldl_cons]
  next => rw [List.foldl_cons]

theorem fill?_cons (hword : ceiling < UInt32.size) (rows : List (StepRow α)) (start : Nat)
    (m : Mapping α) (mappings : List (Mapping α)) :
    fill? ceiling default rows start (m :: mappings) =
      if start ≤ m.keys.min ∧ m.keys.min ≤ m.keys.max ∧ m.keys.max < ceiling then
        fill? ceiling default (pushMapping default rows start m) (m.keys.max + 1) mappings
      else none := by
  rw [fill?]
  by_cases h : start ≤ m.keys.min ∧ m.keys.min ≤ m.keys.max ∧ m.keys.max < ceiling
  · rw [bind_of_eq_some (guard_of_pos h),
      bind_of_eq_some (word?_of_lt (Nat.lt_of_le_of_lt h.2.2 hword)), if_pos h]
    rfl
  · rw [guard, if_neg h, if_neg h]
    rfl

/-- Filling succeeds for admissible mappings only, and adds their rows. -/
theorem fill?_eq_some_iff (hword : ceiling < UInt32.size) {rows result : List (StepRow α)}
    {start : Nat} {mappings : List (Mapping α)} (hrows : rows = [] ↔ start = 0) :
    fill? ceiling default rows start mappings = some result ↔
      Mapping.Admissible ceiling start mappings ∧
        (Mapping.rows ceiling default start mappings).foldl push rows = result := by
  induction mappings generalizing rows start with
  | nil =>
      simp only [fill?, Mapping.Admissible, Mapping.rows, true_and, Option.some.injEq, hrows]
      split
      next => rfl
      next => rfl
  | cons m mappings ih =>
      rw [fill?_cons hword, foldl_push_rows_cons, Mapping.Admissible]
      split
      next h =>
        rw [ih (iff_of_false (pushMapping_ne_nil rows start m) (Nat.succ_ne_zero _))]
        simp only [h.1, h.2.1, h.2.2, true_and]
      next h =>
        simp only [reduceCtorEq, false_iff]
        rintro ⟨⟨hstart, horder, hceiling, -⟩, -⟩
        exact h ⟨hstart, horder, hceiling⟩

/-- A table is filled without a fault from admissible mappings, and from no others. -/
theorem ofMappings?_eq_some_iff (hword : ceiling < UInt32.size)
    {mappings : List (Mapping α)} {table : StepTable α} :
    ofMappings? ceiling default mappings = some table ↔
      Mapping.Admissible ceiling 0 mappings ∧ ofMappings ceiling default mappings = table := by
  have hfill : ∀ result, fill? ceiling default [] 0 mappings = some result ↔
      Mapping.Admissible ceiling 0 mappings ∧
        (Mapping.rows ceiling default 0 mappings).foldl push [] = result :=
    fun _ => fill?_eq_some_iff hword (iff_of_true rfl rfl)
  simp only [ofMappings?, ofMappings, Option.bind_eq_bind, Option.bind_eq_some_iff, hfill,
    ← reverse_foldl_push_nil]
  constructor
  · rintro ⟨result, ⟨hadmissible, rfl⟩, htable⟩
    exact ⟨hadmissible, Option.some.inj htable⟩
  · rintro ⟨hadmissible, rfl⟩
    exact ⟨_, ⟨hadmissible, rfl⟩, rfl⟩

example : ofMappings? 0x80 0 [⟨⟨0x41, 0x5A⟩, 1⟩, ⟨⟨0x5A, 0x7A⟩, 2⟩] = none := by rfl

/-- A row of a table holds the default or what some mapping holds. -/
theorem step_of_mem_ofMappings {mappings : List (Mapping α)} {row : StepRow α}
    (h : row ∈ (ofMappings ceiling default mappings).rows) :
    row.step = default ∨ ∃ m ∈ mappings, m.step = row.step := by
  rw [ofMappings, List.mem_toArray] at h
  exact Mapping.step_of_mem_rows ((coalesce_sublist _).subset h)

end StepTable
end TextBoundary
