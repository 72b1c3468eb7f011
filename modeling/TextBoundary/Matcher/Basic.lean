import TextBoundary.Codepoint
import TextBoundary.StepTable
import TextBoundary.SurrogateBox

/-!
# Matchers

A matcher accepts exactly the encodings of a set of scalar values.  One unit is
looked up in a step table.  Of a pair, the lead selects one of a few sets of
trails, and the trail is looked up there.  Leads with the same trails share one
set, so a large set of values needs few of them.

Every part of a matcher is computed from the normal form of its ranges, so
matchers of the same scalar values are equal.
-/

namespace TextBoundary

/-- Accepts the encodings of a set of scalar values. -/
structure Matcher where
  /-- The scalar values, in normal form. -/
  ranges : Array ScalarRange
  /-- The single units accepted. -/
  units : StepTable Bool
  /-- The pairs accepted, as boxes. -/
  boxes : List SurrogateBox
  /-- The place of the set of trails that may follow a lead. -/
  leads : StepTable (Option Nat)
  /-- The sets of trails, in order of first use. -/
  trailSets : Array (StepTable Bool)
deriving DecidableEq

namespace Matcher

/-- Leads that may be followed by the same trails. -/
structure Row where
  leads : Bounds
  trails : List UnitSpan

/-- The exclusive ceiling of code units. -/
def unitCeiling : Nat := 0x10000

/-- The single units of a list of ranges. -/
def unitMappings (ranges : List ScalarRange) : List (Mapping Bool) :=
  (ranges.filterMap ScalarRange.bmp?).map fun r => ⟨r.bounds, true⟩

/-- The trails that boxes allow after every lead of a window. -/
def trailsOver (boxes : List SurrogateBox) (window : Bounds) : List UnitSpan :=
  ((boxes.filter fun b => b.leads.bounds.Covers window).map
    SurrogateBox.trails).mergeSort UnitSpan.le

/-- The windows of leads that open a pair, each with its trails. -/
def rows (boxes : List SurrogateBox) : List Row :=
  ((Bounds.windows (boxes.map fun b => b.leads.bounds)).map fun window =>
    (⟨window, trailsOver boxes window⟩ : Row)).filter fun row => !row.trails.isEmpty

/-- The different lists of trails of some rows, in order of first use. -/
def distinctTrails (rows : List Row) : List (List UnitSpan) :=
  (rows.map Row.trails).eraseDups

/-- The mapping from leads to the place of their trails. -/
def leadMappings (rows : List Row) : List (Mapping (Option Nat)) :=
  rows.map fun row => ⟨row.leads, some ((distinctTrails rows).idxOf row.trails)⟩

/-- The mappings of a list of trails. -/
def trailMappings (spans : List UnitSpan) : List (Mapping Bool) :=
  spans.map fun s => ⟨s.bounds, true⟩

/-- The matcher of a list of ranges, in any order. -/
def ofRanges (l : List ScalarRange) : Matcher :=
  let ranges := ScalarRange.normalize l
  let boxes := ranges.flatMap SurrogateBox.ofRange
  let rows := rows boxes
  { ranges := ranges.toArray
    units := .ofMappings unitCeiling false (unitMappings ranges)
    boxes := boxes
    leads := .ofMappings unitCeiling none (leadMappings rows)
    trailSets := ((distinctTrails rows).map fun spans =>
      StepTable.ofMappings unitCeiling false (trailMappings spans)).toArray }

/-- The matcher of a list of bounds, unless one of them is malformed. -/
def ofBounds (l : List Bounds) : Except RangeError Matcher :=
  (ScalarRange.ofBoundsList l).map ofRanges

/-- A matcher that accepts nothing. -/
def isEmpty (m : Matcher) : Bool :=
  m.ranges.isEmpty

/-- Whether a number is one of the scalar values. -/
def containsScalar (m : Matcher) (n : Nat) : Bool :=
  match m.ranges[partitionPoint m.ranges fun r => r.last < n]? with
  | none => false
  | some r => n ∈ r

/-- Whether a unit on its own is accepted. -/
def acceptsUnit (m : Matcher) (u : CodeUnit) : Bool :=
  m.units.step? u.toNat == some true

/-- Whether the trail is among those that may follow the lead. -/
def acceptsTrail (m : Matcher) (u v : CodeUnit) : Bool :=
  match m.leads.step? u.toNat with
  | some (some place) =>
      match m.trailSets[place]? with
      | none => false
      | some trails => trails.step? v.toNat == some true
  | _ => false

/-- Whether a sequence of units is the encoding of one of the scalar values. -/
def accepts (m : Matcher) : List CodeUnit → Bool
  | [u] => m.acceptsUnit u
  | [u, v] => CodeUnit.IsPair u v && m.acceptsTrail u v
  | _ => false

/-- Whether a codepoint is accepted as it is written. -/
def acceptsCodepoint (m : Matcher) (c : Codepoint) : Bool :=
  m.accepts c.units

end Matcher
end TextBoundary
