/-!
# Binary search

`partitionPoint a p` is meant for an array in which the elements that satisfy
`p` come first; it finds how many there are with a logarithmic number of tests.
-/

namespace TextBoundary

variable {α : Type}

/-- The least index of an element that fails `p`, if those that satisfy it come
first. -/
def partitionPoint (a : Array α) (p : α → Bool) : Nat :=
  go 0 a.size (Nat.le_refl _)
where
  /-- Searches between `lo` and `hi`: all before `lo` satisfy `p`, and none from
  `hi` on. -/
  go (lo hi : Nat) (hsize : hi ≤ a.size) : Nat :=
    if h : lo < hi then
      have hmid : (lo + hi) / 2 < a.size := by omega
      if p a[(lo + hi) / 2] then go ((lo + hi) / 2 + 1) hi hsize
      else go lo ((lo + hi) / 2) (by omega)
    else lo
  termination_by hi - lo

/-- Searching between the right bounds finds the number of elements that come
first. -/
theorem partitionPoint.go_eq {a : Array α} {p : α → Bool} {k : Nat}
    (hbefore : ∀ i (h : i < a.size), i < k → p a[i] = true)
    (hafter : ∀ i (h : i < a.size), k ≤ i → p a[i] = false)
    (lo hi : Nat) (hsize : hi ≤ a.size) (hlo : lo ≤ k) (hhi : k ≤ hi) :
    partitionPoint.go a p lo hi hsize = k := by
  fun_induction partitionPoint.go a p lo hi hsize with
  | case1 lo hi hsize h hmid hp ih =>
      apply ih
      · have hlt : (lo + hi) / 2 < k := by
          apply Decidable.byContradiction
          intro hge
          rw [hafter _ hmid (by omega)] at hp
          contradiction
        omega
      · exact hhi
  | case2 lo hi hsize h hmid hp ih =>
      apply ih
      · exact hlo
      · apply Decidable.byContradiction
        intro hlt
        exact hp (hbefore _ hmid (by omega))
  | case3 lo hi hsize h =>
      omega

/-- The partition point is where `p` turns from true to false. -/
theorem partitionPoint_eq {a : Array α} {p : α → Bool} {k : Nat} (hk : k ≤ a.size)
    (hbefore : ∀ i (h : i < a.size), i < k → p a[i] = true)
    (hafter : ∀ i (h : i < a.size), k ≤ i → p a[i] = false) :
    partitionPoint a p = k :=
  partitionPoint.go_eq hbefore hafter 0 a.size _ (Nat.zero_le k) hk

end TextBoundary
