import TextBoundary.Matcher.Basic
import TextBoundary.Text.Scan

/-!
# Searching a text with a matcher

A text is searched as it is read: codepoint by codepoint from the left.
-/

namespace TextBoundary
namespace Matcher

/-- The width of the codepoint that starts at a position, if it is accepted. -/
def matchAt? (m : Matcher) (t : Text) (pos : Nat) : Option Nat :=
  ((t.next? pos).filter m.acceptsCodepoint).map Codepoint.width

/-- The start and the end of the first codepoint accepted. -/
def find? (m : Matcher) (t : Text) : Option (Nat × Nat) :=
  (t.scan .forward (fun c => !m.acceptsCodepoint c) none 0).found.map fun s =>
    (s.pos - s.codepoint.width, s.pos)

end Matcher
end TextBoundary
