import TextBoundary.Text.Scan
import TextBoundary.Unicode.Tables
import TextBoundary.Word.Context

/-!
# Word boundaries

The default word boundary rules of the Unicode Standard.  Every question is
answered from the text around the position: the codepoint on either side, and
where the rules ask for more, what a scan finds further out.

Transparent codepoints belong to the codepoint they follow, their base.  The
rules are therefore read with the base in the place of the left neighbour, and
scans for further context skip transparent codepoints.
-/

namespace TextBoundary
namespace Word

/-- Decides word boundaries by the properties of one set of tables. -/
structure Evaluator where
  classifier : Classifier Property
  /-- The codepoints with the property Extended_Pictographic, whatever else
  they are. -/
  pictographic : Matcher
  limit : RunLimit

namespace Evaluator

/-- Compiles the Word_Break table followed by the emoji table. -/
def ofTables (tables : Unicode.Tables) (limit : RunLimit) :
    Except TableError Evaluator := do
  let classifier ← Classifier.ofSources [.table tables.wordBreak, .table tables.emoji]
  match classifier.matcher? .extendedPictographic with
  | none =>
      .error (.unknownProperty tables.emoji.name Property.extendedPictographic.name)
  | some pictographic => .ok { classifier, pictographic, limit }

/-- The word property of a codepoint; a lone surrogate has none. -/
def propertyOf (e : Evaluator) (c : Codepoint) : Option Property :=
  e.classifier.classifyCodepoint c

/-- Whether a codepoint attaches to what precedes it. -/
def isTransparent (e : Evaluator) (c : Codepoint) : Bool :=
  (e.propertyOf c).any Property.isTransparent

/-- Whether a codepoint is half of a flag. -/
def isRegional (e : Evaluator) (c : Codepoint) : Bool :=
  e.propertyOf c = some .regionalIndicator

/-- The base to which the codepoints before a position belong: the nearest one
that is not transparent. -/
def base? (e : Evaluator) (t : Text) (pos : Nat) : Option Text.Step :=
  (t.scan .backward e.isTransparent e.limit.baseReach pos).found

/-- The property of the nearest codepoint in a direction that is not
transparent. -/
def significant (e : Evaluator) (t : Text) (d : Direction) (pos : Nat) :
    Option Property :=
  (t.scan d e.isTransparent e.limit.contextReach pos).found.bind fun s =>
    e.propertyOf s.codepoint

/-- Whether an odd number of flag halves ends at a position, transparent
codepoints among them left aside. -/
def oddRegionalBefore (e : Evaluator) (t : Text) (pos : Nat) : Bool :=
  let scan := t.scan .backward (fun c => e.isRegional c || e.isTransparent c)
    e.limit.contextReach pos
  scan.run.countP e.isRegional % 2 = 1

/-- Whether the two sides of a position stay together, given the base of the
left side and the step across the right neighbour: WB5 to WB16. -/
def joins (e : Evaluator) (t : Text) (pos : Nat) (base next : Text.Step) : Bool :=
  let context : Context := {
    beforeLeft := e.significant t .backward base.pos
    left := e.propertyOf base.codepoint
    right := e.propertyOf next.codepoint
    afterRight := e.significant t .forward next.pos }
  context.joins
    || e.isRegional base.codepoint && e.isRegional next.codepoint
        && e.oddRegionalBefore t pos

/-- Whether a position between two codepoints is a word boundary, given the
steps across its neighbours. -/
def separates (e : Evaluator) (t : Text) (pos : Nat) (prev next : Text.Step) : Bool :=
  let left := e.propertyOf prev.codepoint
  let right := e.propertyOf next.codepoint
  -- WB3, WB3a, WB3b: line ends.
  if left = some .cr ∧ right = some .lf then false
  else if left.any Property.isLineEnd ∨ right.any Property.isLineEnd then true
  -- WB3d: spaces.
  else if left = some .wSegSpace ∧ right = some .wSegSpace then false
  -- WB3c: emoji joined by a zero width joiner.
  else if left = some .zwj ∧ e.pictographic.acceptsCodepoint next.codepoint then false
  -- WB4: transparent codepoints attach, and are attached to a base.
  else if right.any Property.isTransparent then false
  else match e.base? t pos with
    | none => true
    | some base => !e.joins t pos base next

/-- Whether a position is a word boundary.  Both ends of the text and all
positions beyond it are; a position inside a pair is not. -/
def isBreak (e : Evaluator) (t : Text) (pos : Nat) : Bool :=
  match t.step? .backward pos, t.step? .forward pos with
  | some prev, some next => !decide (t.SplitsPair pos) && e.separates t pos prev next
  | _, _ => true

/-- Whether a caret that has just crossed a codepoint stops: at every boundary,
or only at those behind a letter or digit. -/
def stopsAt (e : Evaluator) (t : Text) (onlyAlphanumeric : Bool) (s : Text.Step) :
    Bool :=
  e.isBreak t s.pos
    && (!onlyAlphanumeric || (e.propertyOf s.codepoint).any Property.isAlphanumeric)

/-- The boundary to which a caret moves from a position. -/
def moveBreak (e : Evaluator) (t : Text) (d : Direction) (onlyAlphanumeric : Bool)
    (pos : Nat) : Nat :=
  t.advance d (e.stopsAt t onlyAlphanumeric) pos

/-- The next boundary. -/
def nextBreak (e : Evaluator) (t : Text) (pos : Nat) : Nat :=
  e.moveBreak t .forward false pos

/-- The previous boundary. -/
def prevBreak (e : Evaluator) (t : Text) (pos : Nat) : Nat :=
  e.moveBreak t .backward false pos

/-- The next boundary is further on. -/
theorem lt_nextBreak (e : Evaluator) {t : Text} {pos : Nat} (h : pos < t.size) :
    pos < e.nextBreak t pos :=
  t.lt_advance_forward _ h

/-- The boundaries that follow a position, one move after the other. -/
def breaksAfter (e : Evaluator) (t : Text) (pos : Nat) : List Nat :=
  if h : pos < t.size then
    have := e.lt_nextBreak h
    e.nextBreak t pos :: e.breaksAfter t (e.nextBreak t pos)
  else []
termination_by t.size - pos

/-- All word boundaries of a text, its two ends included. -/
def breaks (e : Evaluator) (t : Text) : List Nat :=
  0 :: e.breaksAfter t 0

end Evaluator
end Word
end TextBoundary
