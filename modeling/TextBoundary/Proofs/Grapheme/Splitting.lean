import TextBoundary.Grapheme.Clusters
import TextBoundary.Proofs.Grapheme.Coherence
import TextBoundary.Proofs.Grapheme.Restart
import TextBoundary.Proofs.Movement

/-!
# Splitting a text at a boundary

For self-contained tables every boundary of a text can be taken for the end of one text
and the beginning of another.  The next boundary after a position is found within the part
that the position lies in, so cutting off cluster after cluster first yields the clusters
of the one part and then those of the other.
-/

namespace TextBoundary
namespace Grapheme
namespace Evaluator

variable {e : Evaluator} {t : Text} {b n p : Nat}

/-! ## The next boundary -/

section NextBoundary

variable (hlimit : e.limit = none)
include hlimit

/-- The next boundary is the first one further on. -/
theorem nextBreak_spec (hp : p < t.size) :
    e.nextBreak t p ≤ t.size ∧ t.IsBoundary e.rules (e.nextBreak t p) ∧
      ∀ q, p < q → q < e.nextBreak t p → ¬t.IsBoundary e.rules q := by
  have hspec := Text.advance_forward_spec (Text.stops_of_iff (isBreak_iff hlimit t)) hp
  simp only [isBreak_iff hlimit, ← Bool.not_eq_true] at hspec
  exact hspec

theorem nextBreak_le (hp : p < n) (hn : n ≤ t.size) (hbreak : t.IsBoundary e.rules n) :
    e.nextBreak t p ≤ n := by
  obtain ⟨-, -, hnone⟩ := nextBreak_spec hlimit (Nat.lt_of_lt_of_le hp hn)
  exact Nat.le_of_not_lt fun hlt => hnone n hp hlt hbreak

/-- A boundary with none before it is the next one. -/
theorem nextBreak_eq (hp : p < n) (hn : n ≤ t.size) (hbreak : t.IsBoundary e.rules n)
    (hnone : ∀ q, p < q → q < n → ¬t.IsBoundary e.rules q) : e.nextBreak t p = n := by
  have hsize : p < t.size := Nat.lt_of_lt_of_le hp hn
  obtain ⟨-, hnext, -⟩ := nextBreak_spec hlimit hsize
  apply Nat.le_antisymm (nextBreak_le hlimit hp hn hbreak)
  exact Nat.le_of_not_lt fun hlt => hnone _ (e.lt_nextBreak hsize) hlt hnext

end NextBoundary

/-! ## The parts at a boundary -/

section Parts

variable (he : e.SelfContained) (hlimit : e.limit = none) (hb : b ≤ t.size)
  (hbreak : t.IsBoundary e.rules b)
include he hlimit hb hbreak

/-- Before a boundary, the next one is that of the text that ends there. -/
theorem nextBreak_slice_start (hp : p < b) :
    e.nextBreak (t.slice 0 b) p = e.nextBreak t p := by
  have hsize : (t.slice 0 b).size = b := Text.size_slice_start hb
  have hlt : p < t.size := Nat.lt_of_lt_of_le hp hb
  have hle : e.nextBreak t p ≤ b := nextBreak_le hlimit hp hb hbreak
  obtain ⟨-, hnext, hnone⟩ := nextBreak_spec hlimit hlt
  have hsame : ∀ q, q < b → ((t.slice 0 b).IsBoundary e.rules q ↔ t.IsBoundary e.rules q) :=
    fun q hq => Text.isBoundary_slice_start_iff (restartable_rules he) hb hbreak hq
  apply nextBreak_eq hlimit (e.lt_nextBreak hlt) (by omega)
  · rcases Nat.lt_or_eq_of_le hle with hbelow | heq
    · exact (hsame _ hbelow).mpr hnext
    · exact Text.isBoundary_of_end (Or.inr (by omega))
  · intro q hpq hq
    rw [hsame q (by omega)]
    exact hnone q hpq hq

/-- After a boundary, the next one is that of the text that begins there. -/
theorem nextBreak_add (hp : b + p < t.size) :
    e.nextBreak t (b + p) = b + e.nextBreak (t.slice b t.size) p := by
  have hsize : (t.slice b t.size).size = t.size - b := Text.size_slice_stop
  have hlt : p < (t.slice b t.size).size := by omega
  have hforward := e.lt_nextBreak hlt
  obtain ⟨hle, hnext, hnone⟩ := nextBreak_spec hlimit hlt
  have hsame : ∀ q, 0 < q →
      ((t.slice b t.size).IsBoundary e.rules q ↔ t.IsBoundary e.rules (b + q)) :=
    fun q hq => Text.isBoundary_slice_stop_iff (restartable_rules he) hb hbreak hq
  apply nextBreak_eq hlimit (by omega) (by omega)
  · exact (hsame _ (by omega)).mp hnext
  · intro q hpq hq
    obtain ⟨k, rfl⟩ := Nat.exists_eq_add_of_le (show b ≤ q by omega)
    rw [← hsame k (by omega)]
    exact hnone k (by omega) (by omega)

end Parts

end Evaluator

/-! ## Clusters -/

namespace Clusters

variable {e : Evaluator} {t : Text} {b p : Nat}

theorem toList_of_le (h : t.size ≤ p) : toList ⟨e, t, p⟩ = [] := by
  rw [toList, next?, if_neg (Nat.not_lt.mpr h)]

theorem toList_of_lt (h : p < t.size) :
    toList ⟨e, t, p⟩ = t.slice p (e.nextBreak t p) :: toList ⟨e, t, e.nextBreak t p⟩ := by
  rw [toList, next?, if_pos h, nextOffset]

variable (he : e.SelfContained) (hlimit : e.limit = none) (hb : b ≤ t.size)
  (hbreak : t.IsBoundary e.rules b)
include he hlimit hb hbreak

/-- The clusters up to a boundary are those of the text that ends there. -/
theorem toList_eq_append (hp : p ≤ b) :
    toList ⟨e, t, p⟩ = toList ⟨e, t.slice 0 b, p⟩ ++ toList ⟨e, t, b⟩ := by
  have hsize : (t.slice 0 b).size = b := Text.size_slice_start hb
  -- The induction is on the distance to the boundary, which no cluster reaches over.
  induction hk : b - p using Nat.strong_induction_on generalizing p with
  | h k ih =>
      rcases Nat.lt_or_eq_of_le hp with hlt | rfl
      · have hfull : p < t.size := Nat.lt_of_lt_of_le hlt hb
        have hpart : p < (t.slice 0 b).size := by rwa [hsize]
        have hnext := Evaluator.nextBreak_slice_start he hlimit hb hbreak hlt
        have hle := Evaluator.nextBreak_le hlimit hlt hb hbreak
        have hforward := e.lt_nextBreak hfull
        rw [toList_of_lt hfull, toList_of_lt hpart, hnext, Text.slice_start_slice hle,
          List.cons_append, ih _ (by omega) hle rfl]
      · have hnil : toList ⟨e, t.slice 0 p, p⟩ = [] := toList_of_le (Nat.le_of_eq hsize)
        rw [hnil, List.nil_append]

/-- The clusters after a boundary are those of the text that begins there. -/
theorem toList_slice_stop (p : Nat) :
    toList ⟨e, t.slice b t.size, p⟩ = toList ⟨e, t, b + p⟩ := by
  have hsize : (t.slice b t.size).size = t.size - b := Text.size_slice_stop
  -- The induction is on what is left of the text, which both sides cut up alike.
  induction hk : t.size - (b + p) using Nat.strong_induction_on generalizing p with
  | h k ih =>
      rcases Nat.lt_or_ge (b + p) t.size with hlt | hge
      · have hpart : p < (t.slice b t.size).size := by omega
        have hnext := Evaluator.nextBreak_add he hlimit hb hbreak hlt
        have hforward := e.lt_nextBreak hpart
        have hle := (Evaluator.nextBreak_spec hlimit hpart).1
        rw [toList_of_lt hpart, toList_of_lt hlt, hnext, Text.slice_stop_slice (by omega),
          ih _ (by omega) _ rfl]
      · rw [toList_of_le (by omega), toList_of_le hge]

end Clusters

namespace Evaluator

variable {e : Evaluator}

/-- The clusters of a text are those of its two parts at any boundary. -/
theorem split_eq_append (he : e.SelfContained) (hlimit : e.limit = none) {t : Text} {b : Nat}
    (hb : b ≤ t.size) (hbreak : t.IsBoundary e.rules b) :
    e.split t = e.split (t.slice 0 b) ++ e.split (t.slice b t.size) := by
  have hrest := Clusters.toList_slice_stop he hlimit hb hbreak 0
  rw [split, split, split, Clusters.start, Clusters.start, Clusters.start, hrest, Nat.add_zero]
  exact Clusters.toList_eq_append he hlimit hb hbreak (Nat.zero_le b)

/-- Grapheme segmentation can be restarted at any boundary, for all tables that are
self-contained.  The bundled tables are. -/
theorem split_restart :
    (∀ tables e, ofTables tables none = .ok e → e.SelfContained →
      ∀ (t : Text) (b : Nat), b ≤ t.size → e.isBreak t b = true →
        e.split t = e.split (t.slice 0 b) ++ e.split (t.slice b t.size)) ∧
      ∃ e, ofTables .bundled none = .ok e ∧ e.SelfContained := by
  constructor
  · intro tables e he hself t b hb hbreak
    have hlimit := (compiled_of_ofTables he).limit_eq
    exact split_eq_append hself hlimit hb ((isBreak_iff hlimit t b).mp hbreak)
  · obtain ⟨e, he⟩ := exists_ofTables_bundled none
    have hcoherent := coherent_of_coherentTables coherentTables_bundled (compiled_of_ofTables he)
    exact ⟨e, he, hcoherent.selfContained⟩

/-- A line end divides what would be one conjunct without it. -/
theorem split_restart_divided_conjunct :
    ∃ e, ofTables .bundled none = .ok e ∧ e.SelfContained ∧
      e.isBreak ⟨#[0x915, 0x94D, 0x0A, 0x94D, 0x915]⟩ 3 = true ∧
      e.split ⟨#[0x915, 0x94D, 0x0A, 0x94D, 0x915]⟩ =
        e.split ⟨#[0x915, 0x94D, 0x0A]⟩ ++ e.split ⟨#[0x94D, 0x915]⟩ := by
  obtain ⟨hrestart, e, he, hself⟩ := split_restart
  have hlineEnd : e.propertyOf (.ofUnit 0x0A) = some .lf := by
    rw [propertyOf_eq (compiled_of_ofTables he) (by decide)]
    decide +kernel
  have hlinker : e.propertyOf (.ofUnit 0x94D) = some .extend := by
    rw [propertyOf_eq (compiled_of_ofTables he) (by decide)]
    decide +kernel
  have hbreak : e.isBreak ⟨#[0x915, 0x94D, 0x0A, 0x94D, 0x915]⟩ 3 = true := by
    have hprev : (⟨#[0x915, 0x94D, 0x0A, 0x94D, 0x915]⟩ : Text).step? .backward 3 =
        some ⟨.ofUnit 0x0A, 2⟩ := by decide
    have hnext : (⟨#[0x915, 0x94D, 0x0A, 0x94D, 0x915]⟩ : Text).step? .forward 3 =
        some ⟨.ofUnit 0x94D, 4⟩ := by decide
    have hsplits : ¬(⟨#[0x915, 0x94D, 0x0A, 0x94D, 0x915]⟩ : Text).SplitsPair 3 := by decide
    simp [isBreak, hprev, hnext, hsplits, separates, hlineEnd, hlinker, Property.isControl]
  exact ⟨e, he, hself, hbreak, hrestart _ e he hself _ 3 (by decide) hbreak⟩

end Evaluator
end Grapheme
end TextBoundary
