import TextBoundary.CodeUnit
import TextBoundary.ScalarRange

/-!
# Surrogate boxes

Every lead opens a row of 1024 pairs, so the pairs of a range of supplementary
values form a staircase: the end of the row of the first value, whole rows, and
the beginning of the row of the last value.  A box is a rectangle of pairs, and
a staircase takes at most three.

A row that an end of the range covers completely counts as a whole row, which
keeps the number of boxes as small as possible.
-/

namespace TextBoundary

/-- An inclusive span of code units. -/
structure UnitSpan where
  min : CodeUnit
  max : CodeUnit
deriving DecidableEq

namespace UnitSpan

instance : Membership CodeUnit UnitSpan where
  mem s u := s.min ≤ u ∧ u ≤ s.max

instance (u : CodeUnit) (s : UnitSpan) : Decidable (u ∈ s) :=
  inferInstanceAs (Decidable (_ ∧ _))

/-- A span with one member. -/
def IsSingle (s : UnitSpan) : Prop :=
  s.min = s.max

instance (s : UnitSpan) : Decidable s.IsSingle :=
  inferInstanceAs (Decidable (_ = _))

/-- The bounds of a span, as numbers. -/
def bounds (s : UnitSpan) : Bounds :=
  ⟨s.min.toNat, s.max.toNat⟩

/-- The order of spans: by the least unit, then by the greatest. -/
def le (s t : UnitSpan) : Bool :=
  s.min < t.min || (s.min == t.min && s.max ≤ t.max)

end UnitSpan

/-- A rectangle of pairs: every lead of one span with every trail of another. -/
structure SurrogateBox where
  leads : UnitSpan
  trails : UnitSpan
deriving DecidableEq

namespace SurrogateBox

/-- A box holds a pair when its lead and its trail lie in the spans. -/
def Contains (b : SurrogateBox) (u v : CodeUnit) : Prop :=
  u ∈ b.leads ∧ v ∈ b.trails

instance (b : SurrogateBox) (u v : CodeUnit) : Decidable (b.Contains u v) :=
  inferInstanceAs (Decidable (_ ∧ _))

/-- The least scalar value of a box. -/
def first (b : SurrogateBox) : Nat :=
  CodeUnit.decode b.leads.min b.trails.min

/-- The greatest scalar value of a box. -/
def last (b : SurrogateBox) : Nat :=
  CodeUnit.decode b.leads.max b.trails.max

/-- The row of a supplementary value. -/
def row (scalar : Nat) : Nat :=
  (scalar - 0x10000) / 0x400

/-- The lead that opens a row. -/
def rowLead (n : Nat) : CodeUnit :=
  UInt16.ofNat (0xD800 + n)

/-- The boxes of the values from `first` to `last`, all above U+FFFF. -/
def ofSupplementary (first last : Nat) : List SurrogateBox :=
  if row first = row last then
    [⟨⟨rowLead (row first), rowLead (row first)⟩,
      ⟨CodeUnit.trail first, CodeUnit.trail last⟩⟩]
  else
    -- The whole rows run from the first row that starts at or after `first` to
    -- the last one that ends at or before `last`.
    let wholeFrom := row (first + 0x3FF)
    let wholeTo := row (last - 0x3FF)
    let head : List SurrogateBox :=
      if row first < wholeFrom then
        [⟨⟨rowLead (row first), rowLead (row first)⟩, ⟨CodeUnit.trail first, 0xDFFF⟩⟩]
      else []
    let body : List SurrogateBox :=
      if wholeFrom ≤ wholeTo then
        [⟨⟨rowLead wholeFrom, rowLead wholeTo⟩, ⟨0xDC00, 0xDFFF⟩⟩]
      else []
    let foot : List SurrogateBox :=
      if wholeTo < row last then
        [⟨⟨rowLead (row last), rowLead (row last)⟩, ⟨0xDC00, CodeUnit.trail last⟩⟩]
      else []
    head ++ body ++ foot

/-- The boxes of the supplementary part of a range, in ascending order. -/
def ofRange (r : ScalarRange) : List SurrogateBox :=
  match r.supplementary? with
  | none => []
  | some s => ofSupplementary s.first s.last

end SurrogateBox
end TextBoundary
