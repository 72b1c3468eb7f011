import TextBoundary.Bounds

/-!
# Property tables

A property table lists named properties in order of declaration, each with the
bounds of its scalar values.  A table is plain data: nothing is checked until
it is compiled.
-/

namespace TextBoundary
namespace Unicode

/-- A version of the Unicode Standard. -/
structure Version where
  major : Nat
  minor : Nat
  update : Nat
deriving DecidableEq, Ord

instance : ToString Version where
  toString v := s!"{v.major}.{v.minor}.{v.update}"

/-- The version of the bundled tables. -/
def bundledVersion : Version := ⟨16, 0, 0⟩

/-- A named property and the bounds of its scalar values. -/
structure PropertyEntry where
  property : String
  ranges : List Bounds
deriving DecidableEq

/-- Properties in order of declaration. -/
structure PropertyTable where
  name : String
  version : Version
  entries : List PropertyEntry
deriving DecidableEq

namespace PropertyTable

/-- The first entry with a given name. -/
def find? (table : PropertyTable) (property : String) : Option PropertyEntry :=
  table.entries.find? fun e => e.property == property

/-- The names of the entries, in order. -/
def propertyNames (table : PropertyTable) : List String :=
  table.entries.map PropertyEntry.property

end PropertyTable
end Unicode
end TextBoundary
