import Mathlib.Data.List.TakeWhile
import TextBoundary.StepTable

/-!
# Looking up a step table

A step table built from admissible mappings answers as the mappings do: with the
value of the mapping that holds the number, with the default where no mapping
does, and with nothing from the ceiling on.

The binary search is first replaced by a search from the front, which is
possible because the rows ascend.  Joining neighbours with one value then
changes no answer, and the rows before joining are read off the mappings.
-/

namespace TextBoundary

variable {α : Type}

/-- If no element that satisfies `p` comes after one that does not, none comes after the
first that does not. -/
theorem not_of_mem_dropWhile {l : List α} {p : α → Bool}
    (h : l.Pairwise fun a b => p b = true → p a = true) {a : α} (ha : a ∈ l.dropWhile p) :
    p a = false := by
  induction l with
  | nil => simp at ha
  | cons b l ih =>
      obtain ⟨hfirst, hrest⟩ := List.pairwise_cons.mp h
      by_cases hb : p b = true
      · rw [List.dropWhile_cons_of_pos hb] at ha
        exact ih hrest ha
      · rw [List.dropWhile_cons_of_neg hb] at ha
        rcases List.mem_cons.mp ha with rfl | ha
        · simpa using hb
        · exact Bool.eq_false_iff.mpr (mt (hfirst a ha) hb)

/-- In such a list, binary search finds the first element that does not satisfy `p`. -/
theorem getElem?_partitionPoint {l : List α} {p : α → Bool}
    (h : l.Pairwise fun a b => p b = true → p a = true) :
    l.toArray[partitionPoint l.toArray p]? = l.find? fun a => !p a := by
  have hsplit := List.takeWhile_append_dropWhile (p := p) (l := l)
  have hbefore : ∀ a ∈ l.takeWhile p, p a = true := fun a ha => List.mem_takeWhile_imp ha
  have hafter : ∀ a ∈ l.dropWhile p, p a = false := fun a ha => not_of_mem_dropWhile h ha
  rw [List.find?_eq_head?_dropWhile_not]
  simp only [Bool.not_not]
  generalize l.takeWhile p = run at hsplit hbefore
  generalize l.dropWhile p = rest at hsplit hafter
  subst hsplit
  have hpoint : partitionPoint (run ++ rest).toArray p = run.length := by
    apply partitionPoint_eq
    · simp
    · intro i hi hlt
      apply hbefore
      simp [List.getElem_append_left hlt]
    · intro i hi hge
      apply hafter
      simp [List.getElem_append_right hge]
  rw [hpoint]
  simp [List.getElem?_append_right, List.head?_eq_getElem?]

namespace StepRow

/-- The step of the first row whose ceiling exceeds a number. -/
def lookup (rows : List (StepRow α)) (key : Nat) : Option α :=
  (rows.find? fun row => key < row.ceiling).map step

/-- Rows ascend when the ceiling of each is below those of all that follow. -/
def Ascending (rows : List (StepRow α)) : Prop :=
  rows.Pairwise fun a b => a.ceiling < b.ceiling

theorem lookup_cons (row : StepRow α) (rows : List (StepRow α)) (key : Nat) :
    lookup (row :: rows) key =
      if key < row.ceiling then some row.step else lookup rows key := by
  by_cases h : key < row.ceiling
  · simp [lookup, h]
  · simp [lookup, h]

theorem coalesce_sublist [DecidableEq α] (rows : List (StepRow α)) :
    (coalesce rows).Sublist rows := by
  induction rows with
  | nil => exact List.Sublist.refl []
  | cons row rows ih =>
      rw [coalesce]
      split
      next h =>
        rw [h] at ih
        exact List.Sublist.cons_cons row ih
      next next tail h =>
        rw [h] at ih
        split
        · exact List.Sublist.cons row ih
        · exact List.Sublist.cons_cons row ih

/-- Joining neighbours that hold one value changes no answer. -/
theorem lookup_coalesce [DecidableEq α] {rows : List (StepRow α)}
    (h : Ascending rows) (key : Nat) :
    lookup (coalesce rows) key = lookup rows key := by
  induction rows with
  | nil => rfl
  | cons row rows ih =>
      have ih := ih h.tail
      rw [coalesce, lookup_cons row rows]
      split
      next hnil => rw [lookup_cons, ← ih, hnil]
      next next tail hcons =>
        rw [← ih, hcons]
        split
        next hstep =>
          have hmem : next ∈ rows := (coalesce_sublist rows).subset (by simp [hcons])
          have hlt := List.rel_of_pairwise_cons h hmem
          rw [lookup_cons]
          split_ifs with hnext hrow
          · rw [hstep]
          · rfl
          · omega
          · rfl
        next => rw [lookup_cons]

end StepRow

namespace Mapping

/-- A mapping gives a row of its own, and one for the gap before it. -/
theorem mem_rows_cons {ceiling start : Nat} {default : α} {m : Mapping α}
    {mappings : List (Mapping α)} {row : StepRow α} :
    row ∈ rows ceiling default start (m :: mappings) ↔
      start < m.keys.min ∧ row = ⟨m.keys.min, default⟩ ∨ row = ⟨m.keys.max + 1, m.step⟩ ∨
        row ∈ rows ceiling default (m.keys.max + 1) mappings := by
  rw [rows]
  split
  next hgap => simp [hgap]
  next hgap => simp [hgap]

/-- The rows of admissible mappings end after the start, and at the ceiling at most.  At a
ceiling of zero the one row ends at the start. -/
theorem rows_bounds {ceiling start : Nat} {default : α} {mappings : List (Mapping α)}
    (hpos : 0 < ceiling) (h : Admissible ceiling start mappings) :
    ∀ row ∈ rows ceiling default start mappings,
      start < row.ceiling ∧ row.ceiling ≤ ceiling := by
  induction mappings generalizing start with
  | nil =>
      intro row hrow
      unfold rows at hrow
      split at hrow
      next hlast =>
        rw [List.mem_singleton.mp hrow]
        simp only
        omega
      next => simp at hrow
  | cons m mappings ih =>
      obtain ⟨hstart, horder, hceiling, hrest⟩ := h
      intro row hrow
      rcases mem_rows_cons.mp hrow with ⟨hgap, rfl⟩ | rfl | hrow
      · simp only
        omega
      · simp only
        omega
      · have := ih hrest row hrow
        omega

theorem ascending_rows {ceiling start : Nat} {default : α} {mappings : List (Mapping α)}
    (h : Admissible ceiling start mappings) :
    StepRow.Ascending (rows ceiling default start mappings) := by
  induction mappings generalizing start with
  | nil =>
      unfold rows
      split
      · exact List.pairwise_singleton _ _
      · exact List.Pairwise.nil
  | cons m mappings ih =>
      obtain ⟨hstart, horder, hceiling, hrest⟩ := h
      have hpos : 0 < ceiling := Nat.zero_lt_of_lt hceiling
      have hafter : ∀ row ∈ rows ceiling default (m.keys.max + 1) mappings,
          m.keys.max + 1 < row.ceiling := fun row hrow => (rows_bounds hpos hrest row hrow).1
      unfold rows
      dsimp only
      split
      next hgap =>
        refine List.Pairwise.cons ?_ (List.Pairwise.cons hafter (ih hrest))
        intro row hrow
        rcases List.mem_cons.mp hrow with rfl | hrow
        · simp only
          omega
        · have := hafter row hrow
          simp only
          omega
      next => exact List.Pairwise.cons hafter (ih hrest)

/-- The step of the first mapping that holds a number. -/
def value? (mappings : List (Mapping α)) (key : Nat) : Option α :=
  (mappings.find? fun m => key ∈ m.keys).map step

theorem value?_cons (m : Mapping α) (mappings : List (Mapping α)) (key : Nat) :
    value? (m :: mappings) key =
      if key ∈ m.keys then some m.step else value? mappings key := by
  by_cases h : key ∈ m.keys
  · simp [value?, h]
  · simp [value?, h]

theorem value?_eq_none_of_lt {ceiling start : Nat} {mappings : List (Mapping α)}
    (h : Admissible ceiling start mappings) {key : Nat} (hkey : key < start) :
    value? mappings key = none := by
  induction mappings generalizing start with
  | nil => rfl
  | cons m mappings ih =>
      obtain ⟨hstart, horder, -, hrest⟩ := h
      have hnot : key ∉ m.keys := by
        rw [Bounds.mem_iff]
        omega
      rw [value?_cons, if_neg hnot]
      exact ih hrest (by omega)

/-- Of admissible mappings at most one holds a number. -/
theorem value?_eq_some_iff {ceiling start : Nat} {mappings : List (Mapping α)}
    (h : Admissible ceiling start mappings) {key : Nat} {value : α} :
    value? mappings key = some value ↔
      ∃ m ∈ mappings, key ∈ m.keys ∧ m.step = value := by
  induction mappings generalizing start with
  | nil => simp [value?]
  | cons m mappings ih =>
      obtain ⟨-, -, -, hrest⟩ := h
      simp only [value?_cons, List.mem_cons, or_and_right, exists_or, exists_eq_left]
      rw [← ih hrest]
      split
      next hkey =>
        have hnone := value?_eq_none_of_lt hrest (Nat.lt_succ_of_le hkey.2)
        simp [hkey, hnone]
      next hkey => simp [hkey]

/-- The rows of admissible mappings answer with the mapping that holds a number,
or else with the default. -/
theorem lookup_rows {ceiling start : Nat} {default : α} {mappings : List (Mapping α)}
    (h : Admissible ceiling start mappings) {key : Nat} (hkey : start ≤ key) :
    StepRow.lookup (rows ceiling default start mappings) key =
      if key < ceiling then some ((value? mappings key).getD default) else none := by
  induction mappings generalizing start with
  | nil =>
      unfold rows
      split
      next => rw [StepRow.lookup_cons]; rfl
      next hle => rw [if_neg (by omega)]; rfl
  | cons m mappings ih =>
      obtain ⟨hstart, horder, hceiling, hrest⟩ := h
      have hgap : StepRow.lookup (rows ceiling default start (m :: mappings)) key =
          if key < m.keys.min then some default
          else if key < m.keys.max + 1 then some m.step
          else StepRow.lookup (rows ceiling default (m.keys.max + 1) mappings) key := by
        rw [rows]
        split
        next => rw [StepRow.lookup_cons, StepRow.lookup_cons]
        next => rw [StepRow.lookup_cons, if_neg (by omega : ¬key < m.keys.min)]
      rw [hgap, value?_cons]
      by_cases hbelow : key < m.keys.min
      · have hnot : key ∉ m.keys := by
          rw [Bounds.mem_iff]
          omega
        rw [if_pos hbelow, if_neg hnot, if_pos (by omega),
          value?_eq_none_of_lt hrest (by omega), Option.getD_none]
      · by_cases hwithin : key < m.keys.max + 1
        · have hin : key ∈ m.keys := by
            rw [Bounds.mem_iff]
            omega
          rw [if_neg hbelow, if_pos hwithin, if_pos hin, if_pos (by omega),
            Option.getD_some]
        · have hnot : key ∉ m.keys := by
            rw [Bounds.mem_iff]
            omega
          rw [if_neg hbelow, if_neg hwithin, if_neg hnot, ih hrest (by omega)]

end Mapping

namespace StepTable

open StepRow

/-- In ascending rows, binary search finds what a search from the front finds. -/
theorem step?_eq_lookup {rows : List (StepRow α)} (h : Ascending rows) (key : Nat) :
    (⟨rows.toArray⟩ : StepTable α).step? key = lookup rows key := by
  have hpairwise : rows.Pairwise fun a b =>
      decide (b.ceiling ≤ key) = true → decide (a.ceiling ≤ key) = true := by
    apply h.imp
    intro a b hab
    simp only [decide_eq_true_eq]
    omega
  rw [step?, getElem?_partitionPoint hpairwise, lookup]
  congr 2
  funext row
  rw [← decide_not, decide_eq_decide]
  omega

/-- A table of admissible mappings answers as the mappings do. -/
theorem step?_ofMappings [DecidableEq α] {ceiling : Nat} {default : α}
    {mappings : List (Mapping α)} (h : Mapping.Admissible ceiling 0 mappings)
    (key : Nat) :
    (ofMappings ceiling default mappings).step? key =
      if key < ceiling then some ((Mapping.value? mappings key).getD default)
      else none := by
  have hrows : Ascending (Mapping.rows ceiling default 0 mappings) := Mapping.ascending_rows h
  have hjoined : Ascending (coalesce (Mapping.rows ceiling default 0 mappings)) :=
    hrows.sublist (coalesce_sublist _)
  rw [ofMappings, step?_eq_lookup hjoined, lookup_coalesce hrows,
    Mapping.lookup_rows h (Nat.zero_le key)]

end StepTable
end TextBoundary
