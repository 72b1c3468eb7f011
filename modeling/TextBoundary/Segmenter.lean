import TextBoundary.Grapheme.Clusters
import TextBoundary.Word.Evaluator
import TextBoundary.WordCharacter

/-!
# Segmenters

A segmenter holds everything that is compiled from one set of tables: the word
evaluator, the grapheme evaluator and the matcher of word characters.  It is
built once and then only read.
-/

namespace TextBoundary

/-- Both evaluators and the word characters of one set of tables. -/
structure Segmenter where
  version : Unicode.Version
  limit : RunLimit
  word : Word.Evaluator
  grapheme : Grapheme.Evaluator
  wordCharacters : Matcher

namespace Segmenter

/-- Compiles a set of tables: words first, then graphemes, then word characters.
The first error ends the work. -/
def ofTables (tables : Unicode.Tables) (limit : RunLimit) :
    Except TableError Segmenter := do
  let word ← Word.Evaluator.ofTables tables limit
  let grapheme ← Grapheme.Evaluator.ofTables tables limit
  let wordCharacters ← tables.characterClass.wordCharacters
  return { version := tables.version, limit, word, grapheme, wordCharacters }

/-- The segmenter of the bundled tables, without a run limit. -/
def bundled : Except TableError Segmenter :=
  ofTables .bundled none

end Segmenter
end TextBoundary
