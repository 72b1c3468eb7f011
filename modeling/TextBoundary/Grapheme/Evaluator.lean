import TextBoundary.Grapheme.Property
import TextBoundary.Text.Scan
import TextBoundary.Unicode.Tables

/-!
# Grapheme cluster boundaries

The extended grapheme cluster rules of the Unicode Standard.  The codepoint on
either side of a position settles most questions.  Three rules ask what stands
further to the left: whether a conjunct is being linked, whether an emoji
precedes a zero width joiner, and whether flag halves pair up.
-/

namespace TextBoundary
namespace Grapheme

/-- Decides grapheme cluster boundaries by the properties of one set of
tables. -/
structure Evaluator where
  classifier : Classifier Property
  conjuncts : Classifier ConjunctProperty
  /-- The codepoints with the property Extended_Pictographic, whatever else
  they are. -/
  pictographic : Matcher
  limit : RunLimit

namespace Evaluator

/-- Compiles the Grapheme_Cluster_Break table, then Extended_Pictographic from
the emoji table, then the Indic_Conjunct_Break table. -/
def ofTables (tables : Unicode.Tables) (limit : RunLimit) :
    Except TableError Evaluator := do
  let classifier ← Classifier.ofSources
    [.table tables.graphemeBreak, .entry tables.emoji Property.extendedPictographic.name]
  let conjuncts ← Classifier.ofSources [.table tables.conjunctBreak]
  match classifier.matcher? .extendedPictographic with
  | none =>
      .error (.unknownProperty tables.emoji.name Property.extendedPictographic.name)
  | some pictographic => .ok { classifier, conjuncts, pictographic, limit }

/-- The grapheme property of a codepoint; a lone surrogate is a control. -/
def propertyOf (e : Evaluator) (c : Codepoint) : Option Property :=
  if c.IsLoneSurrogate then some .control else e.classifier.classifyCodepoint c

/-- The part that a codepoint plays in a conjunct. -/
def conjunctOf (e : Evaluator) (c : Codepoint) : Option ConjunctProperty :=
  e.conjuncts.classifyCodepoint c

/-- Whether a codepoint is half of a flag. -/
def isRegional (e : Evaluator) (c : Codepoint) : Bool :=
  e.propertyOf c = some .regionalIndicator

/-- Whether a position has a consonant before it with at least one linker, and
otherwise only linkers and extenders, in between. -/
def followsLinkedConsonant (e : Evaluator) (t : Text) (pos : Nat) : Bool :=
  let scan := t.scan .backward (fun c => (e.conjunctOf c).any ConjunctProperty.isInner)
    e.limit.contextReach pos
  scan.run.any (fun c => e.conjunctOf c = some .linker)
    && scan.found.any (fun s => e.conjunctOf s.codepoint = some .consonant)

/-- Whether a position has a pictographic codepoint before it with only
extending codepoints in between. -/
def followsPictographic (e : Evaluator) (t : Text) (pos : Nat) : Bool :=
  let scan := t.scan .backward
    (fun c => !e.pictographic.acceptsCodepoint c && e.propertyOf c = some .extend)
    e.limit.contextReach pos
  scan.found.any fun s => e.pictographic.acceptsCodepoint s.codepoint

/-- Whether an odd number of flag halves ends at a position. -/
def oddRegionalBefore (e : Evaluator) (t : Text) (pos : Nat) : Bool :=
  (t.scan .backward e.isRegional e.limit.contextReach pos).run.length % 2 = 1

/-- Whether what stands further to the left keeps the two sides of a position
together: GB9c, GB11, GB12, GB13. -/
def joinsByContext (e : Evaluator) (t : Text) (pos : Nat) (prev next : Text.Step) :
    Bool :=
  e.conjunctOf next.codepoint = some .consonant && e.followsLinkedConsonant t pos
    || e.propertyOf prev.codepoint = some .zwj
        && e.pictographic.acceptsCodepoint next.codepoint
        && e.followsPictographic t prev.pos
    || e.isRegional prev.codepoint && e.isRegional next.codepoint
        && e.oddRegionalBefore t pos

/-- Whether a position between two codepoints is a cluster boundary, given the
steps across its neighbours. -/
def separates (e : Evaluator) (t : Text) (pos : Nat) (prev next : Text.Step) : Bool :=
  let left := e.propertyOf prev.codepoint
  let right := e.propertyOf next.codepoint
  -- GB3, GB4, GB5: controls and line ends.
  if left = some .cr ∧ right = some .lf then false
  else if left.any Property.isControl ∨ right.any Property.isControl then true
  -- GB6, GB7, GB8: Hangul syllables.
  else if left.any (fun p => right.any p.joinsSyllable) then false
  -- GB9, GB9a, GB9b: codepoints that attach to a neighbour.
  else if right.any Property.attaches ∨ left = some .prepend then false
  else !e.joinsByContext t pos prev next

/-- Whether a position is a cluster boundary.  Both ends of the text and all
positions beyond it are; a position inside a pair is not. -/
def isBreak (e : Evaluator) (t : Text) (pos : Nat) : Bool :=
  match t.step? .backward pos, t.step? .forward pos with
  | some prev, some next => !decide (t.SplitsPair pos) && e.separates t pos prev next
  | _, _ => true

/-- The boundary to which a caret moves from a position. -/
def moveBreak (e : Evaluator) (t : Text) (d : Direction) (pos : Nat) : Nat :=
  t.advance d (fun s => e.isBreak t s.pos) pos

/-- The next boundary. -/
def nextBreak (e : Evaluator) (t : Text) (pos : Nat) : Nat :=
  e.moveBreak t .forward pos

/-- The previous boundary. -/
def prevBreak (e : Evaluator) (t : Text) (pos : Nat) : Nat :=
  e.moveBreak t .backward pos

/-- The next boundary is further on. -/
theorem lt_nextBreak (e : Evaluator) {t : Text} {pos : Nat} (h : pos < t.size) :
    pos < e.nextBreak t pos :=
  t.lt_advance_forward _ h

end Evaluator
end Grapheme
end TextBoundary
