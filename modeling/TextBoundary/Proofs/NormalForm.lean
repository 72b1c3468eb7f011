import TextBoundary.Proofs.StepTable
import TextBoundary.Matcher.Basic

/-!
# Ranges in normal form

Putting a list of ranges into normal form keeps the scalar values and leaves a
gap between any two neighbours.  A matcher keeps its ranges in normal form, so a
binary search among them finds the one range that can hold a number.
-/

namespace TextBoundary
namespace ScalarRange

/-- Every range ends with a gap before all that follow. -/
def Separated (l : List ScalarRange) : Prop :=
  l.Pairwise fun r s => r.last + 1 < s.first

/-- Some range of a list holds a number. -/
def Covered (l : List ScalarRange) (n : Nat) : Prop :=
  ∃ r ∈ l, n ∈ r

@[simp] theorem covered_nil (n : Nat) : ¬Covered [] n := by
  simp [Covered]

@[simp] theorem covered_cons (r : ScalarRange) (l : List ScalarRange) (n : Nat) :
    Covered (r :: l) n ↔ n ∈ r ∨ Covered l n := by
  simp [Covered]

theorem covered_append (l m : List ScalarRange) (n : Nat) :
    Covered (l ++ m) n ↔ Covered l n ∨ Covered m n := by
  simp only [Covered, List.mem_append, or_and_right, exists_or]

theorem covered_first (r : ScalarRange) (l : List ScalarRange) : Covered (r :: l) r.first :=
  ⟨r, List.mem_cons_self, Nat.le_refl _, r.first_le_last⟩

theorem mem_join_iff {r s : ScalarRange} (hfirst : r.first ≤ s.first)
    (h : s.first ≤ r.last + 1) (n : Nat) : n ∈ r.join s h ↔ n ∈ r ∨ n ∈ s := by
  have := s.first_le_last
  simp only [mem_iff, join]
  omega

/-- Joining the first two ranges of a sorted list leaves it sorted. -/
theorem sorted_join_cons {r s : ScalarRange} {l : List ScalarRange}
    (hsorted : (r :: s :: l).Pairwise fun a b => a.first ≤ b.first)
    (h : s.first ≤ r.last + 1) :
    (r.join s h :: l).Pairwise fun a b => a.first ≤ b.first := by
  obtain ⟨hfirst, hrest⟩ := List.pairwise_cons.mp hsorted
  exact List.pairwise_cons.mpr ⟨fun b hb => hfirst b (by simp [hb]), hrest.tail⟩

theorem covered_coalesce (r : ScalarRange) (l : List ScalarRange)
    (hsorted : (r :: l).Pairwise fun a b => a.first ≤ b.first) (n : Nat) :
    Covered (coalesce r l) n ↔ Covered (r :: l) n := by
  induction l generalizing r with
  | nil => rfl
  | cons s l ih =>
      rw [coalesce]
      have hrs := (List.pairwise_cons.mp hsorted).1
      split
      next h =>
        have hjoin : n ∈ r.join s h ↔ n ∈ r ∨ n ∈ s :=
          mem_join_iff (hrs s (by simp)) h n
        rw [ih _ (sorted_join_cons hsorted h), covered_cons, hjoin, covered_cons, covered_cons,
          or_assoc]
      next h => rw [covered_cons, ih _ hsorted.tail, covered_cons r]

theorem first_le_of_mem_coalesce {r : ScalarRange} {l : List ScalarRange}
    (hsorted : (r :: l).Pairwise fun a b => a.first ≤ b.first) :
    ∀ s ∈ coalesce r l, r.first ≤ s.first := by
  induction l generalizing r with
  | nil => simp [coalesce]
  | cons t l ih =>
      have hrt := (List.pairwise_cons.mp hsorted).1
      rw [coalesce]
      split
      next h => exact ih (sorted_join_cons hsorted h)
      next h =>
        intro s hs
        rcases List.mem_cons.mp hs with rfl | hs
        · exact Nat.le_refl _
        · exact Nat.le_trans (hrt t (by simp)) (ih hsorted.tail s hs)

theorem separated_coalesce (r : ScalarRange) (l : List ScalarRange)
    (hsorted : (r :: l).Pairwise fun a b => a.first ≤ b.first) :
    Separated (coalesce r l) := by
  induction l generalizing r with
  | nil => exact List.pairwise_singleton _ _
  | cons t l ih =>
      rw [coalesce]
      split
      next h => exact ih _ (sorted_join_cons hsorted h)
      next h =>
        refine List.Pairwise.cons ?_ (ih _ hsorted.tail)
        intro s hs
        have := first_le_of_mem_coalesce hsorted.tail s hs
        omega

theorem sorted_mergeSort (l : List ScalarRange) :
    (l.mergeSort le).Pairwise fun a b => a.first ≤ b.first := by
  have h : (l.mergeSort le).Pairwise fun a b => le a b = true :=
    List.pairwise_mergeSort (by simp [le]; omega) (by simp [le]; omega) l
  apply h.imp
  simp only [le, Bool.or_eq_true, Bool.and_eq_true, decide_eq_true_eq, beq_iff_eq]
  omega

/-- The normal form covers the same scalar values. -/
theorem covered_normalize (l : List ScalarRange) (n : Nat) :
    Covered (normalize l) n ↔ Covered l n := by
  have hperm := List.mergeSort_perm l le
  have hsame : Covered (l.mergeSort le) n ↔ Covered l n := by
    simp only [Covered, hperm.mem_iff]
  have hsorted := sorted_mergeSort l
  rw [normalize, ← hsame]
  split
  next h => rw [h]
  next r rest h =>
    rw [h] at hsorted ⊢
    exact covered_coalesce r rest hsorted n

theorem separated_normalize (l : List ScalarRange) : Separated (normalize l) := by
  have hsorted := sorted_mergeSort l
  rw [normalize]
  split
  next => exact List.Pairwise.nil
  next r rest h =>
    rw [h] at hsorted
    exact separated_coalesce r rest hsorted

/-- Among separated ranges, the first that does not end below a number is the
only one that can hold it. -/
theorem find?_separated {l : List ScalarRange} (h : Separated l) (n : Nat) :
    (l.find? fun r => !decide (r.last < n)).any (fun r => n ∈ r) = true ↔
      Covered l n := by
  induction l with
  | nil => simp
  | cons r l ih =>
      obtain ⟨hr, hl⟩ := List.pairwise_cons.mp h
      by_cases hlast : r.last < n
      · have hnot : n ∉ r := by
          rw [mem_iff]
          omega
        rw [List.find?_cons_of_neg (by simpa using hlast), ih hl, covered_cons]
        simp only [hnot, false_or]
      · have hnone : ¬Covered l n := by
          rintro ⟨s, hs, hn⟩
          have := hr s hs
          have := hn.1
          omega
        rw [List.find?_cons_of_pos (by simpa using hlast), covered_cons]
        simp [hnone]

end ScalarRange

namespace Matcher

theorem ranges_ofRanges (l : List ScalarRange) :
    (ofRanges l).ranges = (ScalarRange.normalize l).toArray :=
  rfl

/-- A matcher contains the scalar values of its ranges. -/
theorem containsScalar_ofRanges (l : List ScalarRange) (n : Nat) :
    (ofRanges l).containsScalar n = true ↔ ScalarRange.Covered l n := by
  have hseparated := ScalarRange.separated_normalize l
  have hpairwise : (ScalarRange.normalize l).Pairwise fun a b =>
      decide (b.last < n) = true → decide (a.last < n) = true := by
    apply hseparated.imp
    intro a b hab
    have := b.first_le_last
    simp only [decide_eq_true_eq]
    omega
  rw [← ScalarRange.covered_normalize, ← ScalarRange.find?_separated hseparated,
    ← getElem?_partitionPoint hpairwise, containsScalar, ranges_ofRanges]
  split
  next h => rw [h, Option.any_none]
  next r h => rw [h, Option.any_some]

end Matcher
end TextBoundary
