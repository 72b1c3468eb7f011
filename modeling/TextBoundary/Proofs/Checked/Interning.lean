import TextBoundary.Proofs.Acceptance
import TextBoundary.Proofs.Checked.Tables

/-!
# Sets of trails, one row after the other

Rows with the same trails share one set.  Going through the rows, a list of trails that has
been met keeps its place, and a new one gets the place behind all others, once its table is
there.  The places that result are those in the list of different trails, and the tables are
those of its members.
-/

namespace TextBoundary

open Checked

/-! ## Different members, one after the other -/

section Distinct

variable {α : Type} [BEq α] [LawfulBEq α] {l : List α} {a : α}

theorem eraseDups_concat_of_mem (h : a ∈ l) : (l ++ [a]).eraseDups = l.eraseDups := by
  rw [List.eraseDups_append, List.cons_removeAll, if_neg (by simpa using h),
    List.nil_removeAll, List.eraseDups_nil, List.append_nil]

theorem eraseDups_concat_of_not_mem (h : a ∉ l) :
    (l ++ [a]).eraseDups = l.eraseDups ++ [a] := by
  rw [List.eraseDups_append, List.cons_removeAll, if_pos (by simpa using h),
    List.nil_removeAll, List.eraseDups_cons, List.filter_nil, List.eraseDups_nil]

/-- A new member gets the place behind all others. -/
theorem idxOf_eraseDups_concat (h : a ∉ l) :
    (l ++ [a]).eraseDups.idxOf a = l.eraseDups.length := by
  rw [eraseDups_concat_of_not_mem h,
    List.idxOf_append_of_notMem (mt List.mem_eraseDups.mp h), List.idxOf_cons_self,
    Nat.add_zero]

/-- A member keeps its place when others follow. -/
theorem idxOf_eraseDups_append (h : a ∈ l) (m : List α) :
    (l ++ m).eraseDups.idxOf a = l.eraseDups.idxOf a := by
  rw [List.eraseDups_append, List.idxOf_append_of_mem (List.mem_eraseDups.mpr h)]

end Distinct

namespace Matcher

/-- A table of units or of leads is filled from admissible mappings without a fault. -/
theorem ofMappings?_eq {α : Type} [DecidableEq α] {default : α} {mappings : List (Mapping α)}
    (h : Mapping.Admissible unitCeiling 0 mappings) :
    StepTable.ofMappings? unitCeiling default mappings =
      some (.ofMappings unitCeiling default mappings) :=
  (StepTable.ofMappings?_eq_some_iff (by decide)).mpr ⟨h, rfl⟩

/-- The sets of trails that have been met. -/
structure TrailSets where
  /-- The places of the lists of trails. -/
  places : List (List UnitSpan × Nat)
  /-- The tables at these places. -/
  tables : Array (StepTable Bool)

namespace TrailSets

/-- No trails have been met. -/
def empty : TrailSets :=
  ⟨[], #[]⟩

/-- The place of a list of trails, whose table is added when it is met for the first time. -/
def intern? (sets : TrailSets) (trails : List UnitSpan) : Option (Nat × TrailSets) :=
  match sets.places.lookup trails with
  | some place => some (place, sets)
  | none => do
      let table ← StepTable.ofMappings? unitCeiling false (trailMappings trails)
      let tables := sets.tables.push table
      let place ← sub? tables.size 1
      return (place, ⟨(trails, place) :: sets.places, tables⟩)

/-- The mappings of rows, and the sets with those of the rows. -/
def internRows? (sets : TrailSets) : List Row → Option (List (Mapping (Option Nat)) × TrailSets)
  | [] => some ([], sets)
  | row :: rows => do
      let (place, sets) ← sets.intern? row.trails
      let (mappings, sets) ← sets.internRows? rows
      return (⟨row.leads, some place⟩ :: mappings, sets)

/-- The sets are those of the lists of trails met so far. -/
structure Holds (sets : TrailSets) (met : List (List UnitSpan)) : Prop where
  places : ∀ trails, sets.places.lookup trails =
    if trails ∈ met then some (met.eraseDups.idxOf trails) else none
  tables : sets.tables = (met.eraseDups.map fun trails =>
    StepTable.ofMappings unitCeiling false (trailMappings trails)).toArray

variable {sets : TrailSets} {met : List (List UnitSpan)} {trails : List UnitSpan}

theorem holds_empty : empty.Holds [] where
  places := fun _ => rfl
  tables := rfl

/-- Trails that have been met change nothing. -/
theorem Holds.concat_of_mem (h : sets.Holds met) (hmem : trails ∈ met) :
    sets.Holds (met ++ [trails]) where
  places := by
    intro other
    have hiff : other ∈ met ++ [trails] ↔ other ∈ met := by
      rw [List.mem_append, List.mem_singleton]
      exact or_iff_left_of_imp fun heq => heq ▸ hmem
    rw [h.places, eraseDups_concat_of_mem hmem]
    simp only [hiff]
  tables := by rw [h.tables, eraseDups_concat_of_mem hmem]

/-- New trails get the place behind all others. -/
theorem Holds.concat_of_not_mem (h : sets.Holds met) (hmem : trails ∉ met) :
    Holds ⟨(trails, met.eraseDups.length) :: sets.places,
      sets.tables.push (.ofMappings unitCeiling false (trailMappings trails))⟩
      (met ++ [trails]) where
  places := by
    intro other
    rw [List.lookup_cons, h.places]
    by_cases heq : other = trails
    · rw [heq, beq_self_eq_true, if_pos List.mem_concat_self, idxOf_eraseDups_concat hmem]
    · have hiff : other ∈ met ++ [trails] ↔ other ∈ met := by
        rw [List.mem_append, List.mem_singleton, or_iff_left heq]
      rw [beq_false_of_ne heq]
      by_cases hother : other ∈ met
      · rw [if_pos hother, if_pos (hiff.mpr hother), idxOf_eraseDups_append hother]
      · rw [if_neg hother, if_neg (mt hiff.mp hother)]
  tables := by
    rw [h.tables, eraseDups_concat_of_not_mem hmem, List.push_toArray, List.map_append,
      List.map_singleton]

/-- Interning gives the place of the trails among all that have been met, theirs included. -/
theorem Holds.exists_intern? (h : sets.Holds met)
    (hadmissible : Mapping.Admissible unitCeiling 0 (trailMappings trails)) :
    ∃ sets' : TrailSets, sets.intern? trails =
        some ((met ++ [trails]).eraseDups.idxOf trails, sets') ∧
      sets'.Holds (met ++ [trails]) := by
  by_cases hmem : trails ∈ met
  · refine ⟨sets, ?_, h.concat_of_mem hmem⟩
    rw [intern?, h.places, if_pos hmem, eraseDups_concat_of_mem hmem]
  · have hsize : (sets.tables.push (.ofMappings unitCeiling false (trailMappings trails))).size =
        met.eraseDups.length + 1 := by
      rw [Array.size_push, h.tables, List.size_toArray, List.length_map]
    have hlast : sub? (sets.tables.push (.ofMappings unitCeiling false
        (trailMappings trails))).size 1 = some met.eraseDups.length := by
      rw [hsize, sub?_of_le (Nat.le_add_left 1 _), Nat.add_sub_cancel]
    refine ⟨_, ?_, h.concat_of_not_mem hmem⟩
    rw [intern?, h.places, if_neg hmem, idxOf_eraseDups_concat hmem]
    dsimp only
    rw [bind_of_eq_some (ofMappings?_eq hadmissible), bind_of_eq_some hlast]
    rfl

/-- Rows get the places of their trails among all that are met. -/
theorem Holds.exists_internRows? (h : sets.Holds met) {rows : List Row}
    (hadmissible : ∀ row ∈ rows, Mapping.Admissible unitCeiling 0 (trailMappings row.trails)) :
    ∃ sets' : TrailSets, sets.internRows? rows =
        some (rows.map fun row =>
          ⟨row.leads, some ((met ++ rows.map Row.trails).eraseDups.idxOf row.trails)⟩, sets') ∧
      sets'.Holds (met ++ rows.map Row.trails) := by
  induction rows generalizing sets met with
  | nil => exact ⟨sets, rfl, by rwa [List.map_nil, List.append_nil]⟩
  | cons row rows ih =>
      obtain ⟨sets₁, hintern, hholds₁⟩ := h.exists_intern? (hadmissible row List.mem_cons_self)
      obtain ⟨sets₂, hrows, hholds₂⟩ :=
        ih hholds₁ fun r hr => hadmissible r (List.mem_cons_of_mem row hr)
      have happend : met ++ (row :: rows).map Row.trails =
          met ++ [row.trails] ++ rows.map Row.trails := by
        rw [List.map_cons, List.append_assoc, List.singleton_append]
      have hplace := idxOf_eraseDups_append (a := row.trails) (l := met ++ [row.trails])
        (by simp) (rows.map Row.trails)
      -- The place of the first row was found before the others were met, and stays the same.
      refine ⟨sets₂, ?_, happend ▸ hholds₂⟩
      rw [internRows?, bind_of_eq_some hintern]
      dsimp only
      rw [bind_of_eq_some hrows, happend, List.map_cons, hplace]
      rfl

/-- From the beginning, rows get the places and the sets that they have in a matcher. -/
theorem exists_internRows?_empty {rows : List Row}
    (h : ∀ row ∈ rows, Mapping.Admissible unitCeiling 0 (trailMappings row.trails)) :
    ∃ sets : TrailSets, empty.internRows? rows = some (leadMappings rows, sets) ∧
      sets.tables = ((distinctTrails rows).map fun trails =>
        StepTable.ofMappings unitCeiling false (trailMappings trails)).toArray := by
  obtain ⟨sets, hrows, hholds⟩ := holds_empty.exists_internRows? h
  rw [List.nil_append] at hrows hholds
  exact ⟨sets, hrows, hholds.tables⟩

end TrailSets
end Matcher
end TextBoundary
