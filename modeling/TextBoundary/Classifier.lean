import TextBoundary.Matcher.Basic
import TextBoundary.TableError
import TextBoundary.Unicode.PropertyTable

/-!
# Classifiers

A classifier assigns a codepoint the first property, in order of declaration,
whose scalar values contain it.  The order is resolved once, when the
classifier is built: over each window between cuts every entry holds all values
or none, so the first entry that holds the least value decides for the window.
Classifying is then a lookup in a step table.
-/

namespace TextBoundary

/-- A finite type of properties with the names that tables use. -/
class NamedProperty (α : Type) where
  values : List α
  name : α → String

/-- The property with a given name. -/
def NamedProperty.ofName? {α : Type} [NamedProperty α] (s : String) : Option α :=
  (values : List α).find? fun p => name p == s

namespace Classifier

/-- A property with the matcher of its scalar values. -/
structure Entry (α : Type) where
  property : α
  matcher : Matcher

variable {α : Type}

/-- The first entry that holds a number. -/
def firstContaining? (entries : List (Entry α)) (n : Nat) : Option (Entry α) :=
  entries.find? fun e => e.matcher.containsScalar n

/-- The bounds of all ranges of some entries. -/
def bounds (entries : List (Entry α)) : List Bounds :=
  entries.flatMap fun e => e.matcher.ranges.toList.map ScalarRange.bounds

/-- The windows that an entry holds, each with the first such property. -/
def mappings (entries : List (Entry α)) : List (Mapping (Option α)) :=
  (Bounds.windows (bounds entries)).filterMap fun window =>
    (firstContaining? entries window.min).map fun e => ⟨window, some e.property⟩

end Classifier

/-- Assigns codepoints the first property that contains them. -/
structure Classifier (α : Type) where
  /-- Properties in order of priority. -/
  entries : List (Classifier.Entry α)
  lookup : StepTable (Option α)

namespace Classifier

variable {α : Type} [DecidableEq α]

/-- The exclusive ceiling of scalar values. -/
def scalarCeiling : Nat := 0x110000

/-- The classifier of some entries, of which the earlier have priority. -/
def ofEntries (entries : List (Entry α)) : Classifier α where
  entries := entries
  lookup := .ofMappings scalarCeiling none (mappings entries)

/-- The property of a scalar value. -/
def classify (c : Classifier α) (n : Nat) : Option α :=
  (c.lookup.step? n).join

/-- The property of a codepoint; a lone surrogate has none. -/
def classifyCodepoint (c : Classifier α) (p : Codepoint) : Option α :=
  c.classify p.value

/-- The matcher of the first entry with a property. -/
def matcher? (c : Classifier α) (property : α) : Option Matcher :=
  (c.entries.find? fun e => e.property = property).map Entry.matcher

/-- The properties in order of priority, repetitions included. -/
def properties (c : Classifier α) : List α :=
  c.entries.map Entry.property

end Classifier

namespace Unicode
namespace PropertyTable

variable {α : Type} [NamedProperty α]

/-- Compiles an entry of a table: its name first, then its ranges. -/
def compileEntry (table : PropertyTable) (e : PropertyEntry) :
    Except TableError (Classifier.Entry α) :=
  match NamedProperty.ofName? e.property with
  | none => .error (.unknownProperty table.name e.property)
  | some property =>
      match Matcher.ofBounds e.ranges with
      | .error cause => .error (.inProperty table.name e.property cause)
      | .ok matcher => .ok ⟨property, matcher⟩

end PropertyTable
end Unicode

namespace Classifier

/-- What can be added to a classifier. -/
inductive Source where
  /-- Every entry of a table, in order of declaration. -/
  | table (t : Unicode.PropertyTable)
  /-- The one entry of a table that has a given name. -/
  | entry (t : Unicode.PropertyTable) (property : String)

/-- The entries that a source adds, or what is wrong with the first of them that
cannot be compiled. -/
def Source.compile {α : Type} [NamedProperty α] :
    Source → Except TableError (List (Entry α))
  | .table t => t.entries.mapM t.compileEntry
  | .entry t property =>
      match t.find? property with
      | none => .error (.unknownProperty t.name property)
      | some e => (t.compileEntry e).map fun entry => [entry]

/-- The classifier of some sources, of which the earlier have priority. -/
def ofSources {α : Type} [DecidableEq α] [NamedProperty α] (sources : List Source) :
    Except TableError (Classifier α) :=
  (sources.mapM Source.compile).map fun entries => ofEntries entries.flatten

end Classifier
end TextBoundary
