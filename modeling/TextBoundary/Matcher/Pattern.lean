import TextBoundary.Matcher.Basic

/-!
# Matchers as patterns

A matcher can be written as a regular expression over code units.  The pattern
is a list of alternatives: the class of single units, if there are any, and one
alternative for each surrogate box, a class of leads followed by a class of
trails.

A unit is written as an escape of four hexadecimal digits.  A class with one
member is written as that unit, and every other class in brackets.
-/

namespace TextBoundary

/-- A choice among code units. -/
inductive UnitClass where
  /-- One unit. -/
  | unit (u : CodeUnit)
  /-- The members of some spans. -/
  | spans (l : List UnitSpan)
deriving DecidableEq

namespace UnitClass

/-- The class of the members of some spans. -/
def ofSpans : List UnitSpan → UnitClass
  | [s] => if s.IsSingle then .unit s.min else .spans [s]
  | l => .spans l

/-- The escape of a unit: four hexadecimal digits in lower case. -/
def escape (u : CodeUnit) : List Char :=
  let n := u.toNat
  ['\\', 'u', Nat.digitChar (n / 0x1000), Nat.digitChar (n / 0x100 % 0x10),
    Nat.digitChar (n / 0x10 % 0x10), Nat.digitChar (n % 0x10)]

/-- A span inside brackets: one unit, or its ends with a hyphen between. -/
def spanChars (s : UnitSpan) : List Char :=
  if s.IsSingle then escape s.min else escape s.min ++ '-' :: escape s.max

/-- The text of a class. -/
def chars : UnitClass → List Char
  | .unit u => escape u
  | .spans l => '[' :: l.flatMap spanChars ++ [']']

end UnitClass

/-- Alternatives, each a sequence of classes. -/
abbrev Pattern := List (List UnitClass)

namespace Pattern

/-- The text of a pattern: its alternatives with bars between. -/
def chars (p : Pattern) : List Char :=
  ['|'].intercalate (p.map fun alternative => alternative.flatMap UnitClass.chars)

end Pattern

namespace Matcher

/-- The spans of single units of a matcher. -/
def unitSpans (m : Matcher) : List UnitSpan :=
  (m.ranges.toList.filterMap ScalarRange.bmp?).map fun r =>
    ⟨UInt16.ofNat r.first, UInt16.ofNat r.last⟩

/-- The alternatives of a box: its leads and then its trails. -/
def boxPattern (b : SurrogateBox) : List UnitClass :=
  [.ofSpans [b.leads], .ofSpans [b.trails]]

/-- The pattern of a matcher. -/
def pattern (m : Matcher) : Pattern :=
  let singles := match m.unitSpans with
    | [] => []
    | spans => [[UnitClass.ofSpans spans]]
  singles ++ m.boxes.map boxPattern

instance : ToString Matcher where
  toString m := String.ofList m.pattern.chars

end Matcher
end TextBoundary
