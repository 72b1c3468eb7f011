import TextBoundary.Bounds

/-!
# Ranges of scalar values

A scalar range lies within U+0000 to U+10FFFF and avoids the surrogate block,
so every member has an encoding.  Bounds that break one of these conditions are
refused, and the error says which.

A list of ranges is put into normal form by sorting it and joining ranges that
overlap or touch.  Joining cannot bridge the surrogate block: a range below it
and a range above it never touch.
-/

namespace TextBoundary

/-- Why bounds are not a scalar range. -/
inductive RangeError where
  /-- The lower bound exceeds the upper one. -/
  | inverted (bounds : Bounds)
  /-- The upper bound lies above U+10FFFF. -/
  | outOfRange (bounds : Bounds)
  /-- The bounds enclose a surrogate. -/
  | surrogate (bounds : Bounds)
deriving DecidableEq

/-- A nonempty range of scalar values, both ends included. -/
structure ScalarRange where
  first : Nat
  last : Nat
  first_le_last : first ≤ last
  last_le : last ≤ 0x10FFFF
  avoids_surrogates : last < 0xD800 ∨ 0xDFFF < first

namespace ScalarRange

/-- Ranges are compared by their ends. -/
instance : DecidableEq ScalarRange := fun r s =>
  decidable_of_iff (r.first = s.first ∧ r.last = s.last) (by
    cases r
    cases s
    simp)

/-- Checks bounds: their order first, then their size, then the surrogates. -/
def ofBounds (b : Bounds) : Except RangeError ScalarRange :=
  if hinverted : b.max < b.min then .error (.inverted b)
  else if hbound : 0x10FFFF < b.max then .error (.outOfRange b)
  else if hsurrogate : b.min ≤ 0xDFFF ∧ 0xD800 ≤ b.max then .error (.surrogate b)
  else .ok {
    first := b.min
    last := b.max
    first_le_last := by omega
    last_le := by omega
    avoids_surrogates := by omega }

/-- Checks bounds one after the other and stops at the first that fails. -/
def ofBoundsList (l : List Bounds) : Except RangeError (List ScalarRange) :=
  l.mapM ofBounds

instance : Membership Nat ScalarRange where
  mem r n := r.first ≤ n ∧ n ≤ r.last

instance (n : Nat) (r : ScalarRange) : Decidable (n ∈ r) :=
  inferInstanceAs (Decidable (_ ∧ _))

theorem mem_iff {n : Nat} {r : ScalarRange} : n ∈ r ↔ r.first ≤ n ∧ n ≤ r.last :=
  Iff.rfl

/-- The bounds of a range. -/
def bounds (r : ScalarRange) : Bounds :=
  ⟨r.first, r.last⟩

/-- The number of scalar values in a range. -/
def count (r : ScalarRange) : Nat :=
  r.last - r.first + 1

/-- The members up to U+FFFF, which one code unit encodes. -/
def bmp? (r : ScalarRange) : Option ScalarRange :=
  if h : r.first ≤ 0xFFFF then
    some {
      first := r.first
      last := min r.last 0xFFFF
      first_le_last := by
        have := r.first_le_last
        omega
      last_le := by omega
      avoids_surrogates := by
        have := r.avoids_surrogates
        omega }
  else none

/-- The members above U+FFFF, which a surrogate pair encodes. -/
def supplementary? (r : ScalarRange) : Option ScalarRange :=
  if h : 0xFFFF < r.last then
    some {
      first := max r.first 0x10000
      last := r.last
      first_le_last := by
        have := r.first_le_last
        omega
      last_le := r.last_le
      avoids_surrogates := by omega }
  else none

/-- The order of ranges: by the first member, then by the last. -/
def le (r s : ScalarRange) : Bool :=
  r.first < s.first || (r.first == s.first && r.last ≤ s.last)

/-- Two ranges that overlap or touch, joined. -/
def join (r s : ScalarRange) (h : s.first ≤ r.last + 1) : ScalarRange where
  first := r.first
  last := max r.last s.last
  first_le_last := by
    have := r.first_le_last
    omega
  last_le := by
    have := r.last_le
    have := s.last_le
    omega
  avoids_surrogates := by
    have := r.avoids_surrogates
    have := s.avoids_surrogates
    have := s.first_le_last
    omega

/-- Joins the ranges of a sorted list with the range before them, as long as
they overlap or touch it. -/
def coalesce (r : ScalarRange) : List ScalarRange → List ScalarRange
  | [] => [r]
  | s :: rest =>
      if h : s.first ≤ r.last + 1 then coalesce (r.join s h) rest
      else r :: coalesce s rest

/-- The normal form of a list of ranges: sorted, with a gap between any two. -/
def normalize (l : List ScalarRange) : List ScalarRange :=
  match l.mergeSort le with
  | [] => []
  | r :: rest => coalesce r rest

end ScalarRange
end TextBoundary
