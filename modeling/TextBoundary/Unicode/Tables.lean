import TextBoundary.Unicode.CharacterClass
import TextBoundary.Unicode.ConjunctBreak
import TextBoundary.Unicode.Emoji
import TextBoundary.Unicode.GraphemeBreak
import TextBoundary.Unicode.WordBreak

/-!
# The tables of one Unicode version

Segmentation draws on five property tables.  The bundled ones are those of
Unicode 16.0.0; any of them may be replaced.
-/

namespace TextBoundary
namespace Unicode

/-- The property tables of one version of Unicode. -/
structure Tables where
  version : Version
  /-- Values of Word_Break. -/
  wordBreak : PropertyTable
  /-- Values of Grapheme_Cluster_Break. -/
  graphemeBreak : PropertyTable
  /-- Extended_Pictographic and the emoji modifiers. -/
  emoji : PropertyTable
  /-- Values of Indic_Conjunct_Break. -/
  conjunctBreak : PropertyTable
  /-- The classes whose union is the set of word characters. -/
  characterClass : PropertyTable
deriving DecidableEq

namespace Tables

/-- The tables of Unicode 16.0.0. -/
def bundled : Tables where
  version := bundledVersion
  wordBreak := WordBreak.table
  graphemeBreak := GraphemeBreak.table
  emoji := Emoji.table
  conjunctBreak := ConjunctBreak.table
  characterClass := CharacterClass.table

/-- All tables, in a fixed order. -/
def toList (tables : Tables) : List PropertyTable :=
  [tables.wordBreak, tables.graphemeBreak, tables.emoji, tables.conjunctBreak,
    tables.characterClass]

end Tables
end Unicode
end TextBoundary
