import TextBoundary.Grapheme.Evaluator

/-!
# Grapheme clusters

The clusters of a text are the slices between neighbouring boundaries.  They
are found one at a time: a value of `Clusters` holds the offset up to which the
text has been cut, and `Clusters.next?` cuts off one more.  Nothing is shared
between two values, so one of them can be followed while the other is kept.
-/

namespace TextBoundary
namespace Grapheme

/-- A text that is being cut into clusters. -/
structure Clusters where
  evaluator : Evaluator
  text : Text
  /-- Where the next cluster starts. -/
  offset : Nat

namespace Clusters

/-- A text of which nothing has been cut off. -/
def start (e : Evaluator) (t : Text) : Clusters :=
  ⟨e, t, 0⟩

/-- The end of the next cluster. -/
def nextOffset (c : Clusters) : Nat :=
  c.evaluator.nextBreak c.text c.offset

/-- The next cluster and what then remains, unless the text is used up. -/
def next? (c : Clusters) : Option (Text × Clusters) :=
  if c.offset < c.text.size then
    some (c.text.slice c.offset c.nextOffset, { c with offset := c.nextOffset })
  else none

/-- The number of units that remain. -/
def remaining (c : Clusters) : Nat :=
  c.text.size - c.offset

/-- Cutting a cluster off leaves less. -/
theorem remaining_lt_of_next? {c rest : Clusters} {cluster : Text}
    (h : c.next? = some (cluster, rest)) : rest.remaining < c.remaining := by
  unfold next? at h
  split at h
  next hlt =>
    simp only [Option.some.injEq, Prod.mk.injEq] at h
    have hnext : c.offset < c.nextOffset := c.evaluator.lt_nextBreak hlt
    rw [← h.2]
    simp only [remaining]
    omega
  next => contradiction

/-- All clusters that remain. -/
def toList (c : Clusters) : List Text :=
  match _h : c.next? with
  | none => []
  | some (cluster, rest) => cluster :: rest.toList
termination_by c.remaining
decreasing_by exact remaining_lt_of_next? _h

end Clusters

/-- The clusters of a text. -/
def Evaluator.split (e : Evaluator) (t : Text) : List Text :=
  (Clusters.start e t).toList

end Grapheme
end TextBoundary
