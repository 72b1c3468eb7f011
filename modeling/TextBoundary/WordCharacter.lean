import TextBoundary.Classifier

/-!
# Word characters

The word characters of a table are the scalar values of all its entries
together.  The names of the entries do not matter.
-/

namespace TextBoundary
namespace Unicode
namespace PropertyTable

/-- The ranges of an entry, whatever its name. -/
def entryRanges (table : PropertyTable) (e : PropertyEntry) :
    Except TableError (List ScalarRange) :=
  (ScalarRange.ofBoundsList e.ranges).mapError (.inProperty table.name e.property)

/-- The matcher of the union of all entries. -/
def wordCharacters (table : PropertyTable) : Except TableError Matcher := do
  let ranges ← table.entries.mapM table.entryRanges
  return .ofRanges ranges.flatten

end PropertyTable
end Unicode
end TextBoundary
