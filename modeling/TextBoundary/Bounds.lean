/-!
# Inclusive bounds and the windows they cut

`Bounds` is an inclusive pair of bounds on natural numbers, as written down in
a table; nothing requires the bounds to be in order.

Every lower bound, and every number just past an upper bound, is a cut.  The
windows of a list are the stretches from one cut to the next.  No bounds of the
list begin or end inside a window, so a question about membership has one
answer for a whole window, and it is enough to ask it at the least number.
-/

namespace TextBoundary

/-- Inclusive bounds, not necessarily in order. -/
structure Bounds where
  min : Nat
  max : Nat
deriving DecidableEq, Inhabited

namespace Bounds

instance : Membership Nat Bounds where
  mem b n := b.min ≤ n ∧ n ≤ b.max

instance (n : Nat) (b : Bounds) : Decidable (n ∈ b) :=
  inferInstanceAs (Decidable (_ ∧ _))

theorem mem_iff {n : Nat} {b : Bounds} : n ∈ b ↔ b.min ≤ n ∧ n ≤ b.max :=
  Iff.rfl

/-- One pair of bounds covers another when it holds both its ends. -/
def Covers (b w : Bounds) : Prop :=
  b.min ≤ w.min ∧ w.max ≤ b.max

instance (b w : Bounds) : Decidable (b.Covers w) :=
  inferInstanceAs (Decidable (_ ∧ _))

/-- The cuts of a list of bounds, in ascending order. -/
def cuts (l : List Bounds) : List Nat :=
  (l.flatMap fun b => [b.min, b.max + 1]).mergeSort

/-- The stretches between neighbouring cuts, in ascending order. -/
def windows (l : List Bounds) : List Bounds :=
  ((cuts l).zip (cuts l).tail).filterMap fun (lo, next) =>
    if lo < next then some ⟨lo, next - 1⟩ else none

end Bounds
end TextBoundary
