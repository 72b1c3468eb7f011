import TextBoundary.Bounds
import TextBoundary.Search

/-!
# Step tables

A step table is a function from the numbers below a ceiling to values, stored
as rows.  A row holds the value of all numbers below its own ceiling that are
not below the ceiling of the row before it.  Lookup is a binary search.

`StepTable.ofMappings` builds a table from mappings over a default.  It leaves
no two neighbouring rows with one value, so a table has as few rows as its
values allow.
-/

namespace TextBoundary

/-- A value held by all numbers within bounds. -/
structure Mapping (α : Type) where
  keys : Bounds
  step : α
deriving DecidableEq

/-- A value held up to an exclusive ceiling. -/
structure StepRow (α : Type) where
  ceiling : Nat
  step : α
deriving DecidableEq, Inhabited

/-- A piecewise constant function on the numbers below a ceiling. -/
structure StepTable (α : Type) where
  rows : Array (StepRow α)
deriving DecidableEq, Inhabited

namespace Mapping

variable {α : Type}

/-- Mappings are admissible from `start` when each is in order, they ascend
without overlap, and they stay below the ceiling. -/
def Admissible (ceiling start : Nat) : List (Mapping α) → Prop
  | [] => True
  | m :: rest =>
      start ≤ m.keys.min ∧ m.keys.min ≤ m.keys.max ∧ m.keys.max < ceiling ∧
        Admissible ceiling (m.keys.max + 1) rest

/-- The rows of admissible mappings from `start` on, with default rows in the
gaps between them.  Without mappings there is one row even at a ceiling of zero:
only before the first mapping is `start` zero. -/
def rows (ceiling : Nat) (default : α) (start : Nat) :
    List (Mapping α) → List (StepRow α)
  | [] => if start < ceiling ∨ start = 0 then [⟨ceiling, default⟩] else []
  | m :: rest =>
      let mapped := ⟨m.keys.max + 1, m.step⟩ :: rows ceiling default (m.keys.max + 1) rest
      if start < m.keys.min then ⟨m.keys.min, default⟩ :: mapped else mapped

end Mapping

/-- Joins neighbouring rows that hold one value. -/
def StepRow.coalesce {α : Type} [DecidableEq α] : List (StepRow α) → List (StepRow α)
  | [] => []
  | row :: rest =>
      match coalesce rest with
      | [] => [row]
      | next :: tail =>
          if row.step = next.step then next :: tail else row :: next :: tail

namespace StepTable

variable {α : Type}

/-- The table that maps every number below the ceiling to one value. -/
def constant (ceiling : Nat) (default : α) : StepTable α :=
  ⟨#[⟨ceiling, default⟩]⟩

/-- The table of admissible mappings over a default. -/
def ofMappings [DecidableEq α] (ceiling : Nat) (default : α)
    (mappings : List (Mapping α)) : StepTable α :=
  ⟨(StepRow.coalesce (Mapping.rows ceiling default 0 mappings)).toArray⟩

/-- The value at a number, or `none` from the ceiling on. -/
def step? (table : StepTable α) (key : Nat) : Option α :=
  table.rows[partitionPoint table.rows fun row => row.ceiling ≤ key]?.map StepRow.step

/-- The exclusive upper bound of the numbers that have a value. -/
def ceiling (table : StepTable α) : Nat :=
  (table.rows.back?.map StepRow.ceiling).getD 0

/-- The number of rows. -/
def size (table : StepTable α) : Nat :=
  table.rows.size

/-- The rows with the bounds between which they hold, in ascending order. -/
def intervals (table : StepTable α) : List (Mapping α) :=
  go 0 table.rows.toList
where
  /-- The bounds of rows whose first number is `start`. -/
  go (start : Nat) : List (StepRow α) → List (Mapping α)
    | [] => []
    | row :: rest => ⟨⟨start, row.ceiling - 1⟩, row.step⟩ :: go row.ceiling rest

/-- The bounds between which a table of truth values is true. -/
def trueBounds (table : StepTable Bool) : List Bounds :=
  (table.intervals.filter Mapping.step).map Mapping.keys

end StepTable
end TextBoundary
