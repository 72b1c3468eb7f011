import Mathlib.Data.List.Perm.Subperm
import Mathlib.Tactic.Choose
import TextBoundary.Proofs.SurrogateBox

/-!
# As few boxes as possible

The boxes of a range divide its supplementary part into runs of consecutive values, and
no list of boxes that hold runs does so with fewer.  A box that holds a run and reaches
into two rows holds both of them whole.  Of any two boxes of a range, one begins in a row
that the range covers only in part, so no box that holds a run of the range takes pairs
from both.
-/

namespace TextBoundary
namespace SurrogateBox

open CodeUnit

/-- A box whose pairs are those of a run of consecutive values. -/
def IsRun (b : SurrogateBox) : Prop :=
  ∃ first last, b.Holds first last

/-- A division of the supplementary part of a range into at most three runs. -/
structure Divides (r : ScalarRange) (bs : List SurrogateBox) : Prop where
  wellFormed : ∀ b ∈ bs, b.WellFormed
  apart : bs.Pairwise Apart
  tiles : Tiles (max r.first 0x10000) bs (max (r.last + 1) 0x10000)
  contains_iff : ∀ u v, (∃ b ∈ bs, b.Contains u v) ↔
    ∃ n ∈ r, 0xFFFF < n ∧ u = lead n ∧ v = trail n
  length_le : bs.length ≤ 3

variable {b c : SurrogateBox} {bs cs : List SurrogateBox} {u u' v v' : CodeUnit}
  {first last m n start stop : Nat}

/-- The six conditions on the ends of the spans can be checked. -/
instance (b : SurrogateBox) : Decidable b.WellFormed :=
  decidable_of_iff (IsPair b.leads.min b.trails.min ∧ IsPair b.leads.max b.trails.max ∧
      b.leads.min.toNat ≤ b.leads.max.toNat ∧ b.trails.min.toNat ≤ b.trails.max.toNat)
    ⟨fun ⟨hmin, hmax, hleads, htrails⟩ => ⟨hmin.1, hmax.1, hleads, hmin.2, hmax.2, htrails⟩,
      fun h => ⟨⟨h.leads_min, h.trails_min⟩, ⟨h.leads_max, h.trails_max⟩, h.leads_le,
        h.trails_le⟩⟩

/-! ## Boxes that reach into two rows -/

theorem decode_row_begin_le (h : IsPair u v) : decode u 0xDC00 ≤ decode u v := by
  have hbegin : (0xDC00 : CodeUnit).toNat = 0xDC00 := rfl
  rw [decode_eq h, decode_eq ⟨h.1, by decide⟩, hbegin]
  omega

theorem decode_le_row_end (h : IsPair u v) : decode u v ≤ decode u 0xDFFF := by
  have hend : (0xDFFF : CodeUnit).toNat = 0xDFFF := rfl
  have htrail := h.2.2
  rw [decode_eq h, decode_eq ⟨h.1, by decide⟩, hend]
  omega

theorem decode_row_end_lt (hu : IsLead u) (hu' : IsLead u') (hlt : u.toNat < u'.toNat) :
    decode u 0xDFFF < decode u' 0xDC00 := by
  have hbegin : (0xDC00 : CodeUnit).toNat = 0xDC00 := rfl
  have hend : (0xDFFF : CodeUnit).toNat = 0xDFFF := rfl
  have hlead := hu.1
  rw [decode_eq ⟨hu, by decide⟩, decode_eq ⟨hu', by decide⟩, hbegin, hend]
  omega

/-- A run that reaches into two rows holds the one to its end and the other from its
beginning, so as a box it holds both of them whole. -/
theorem IsRun.contains_rows (h : b.IsRun) (hb : b.Contains u v) (hb' : b.Contains u' v')
    (hlt : u.toNat < u'.toNat) : b.Contains u 0xDC00 ∧ b.Contains u' 0xDFFF := by
  obtain ⟨first, last, hrun⟩ := h
  obtain ⟨hpair, hfirst, -⟩ := (hrun u v).mp hb
  obtain ⟨hpair', -, hlast⟩ := (hrun u' v').mp hb'
  have hfirst' : first ≤ decode u 0xDFFF := Nat.le_trans hfirst (decode_le_row_end hpair)
  have hbetween := decode_row_end_lt hpair.1 hpair'.1 hlt
  have hlast' : decode u' 0xDC00 ≤ last := Nat.le_trans (decode_row_begin_le hpair') hlast
  have hend : b.Contains u 0xDFFF :=
    (hrun u 0xDFFF).mpr ⟨⟨hpair.1, by decide⟩, hfirst',
      Nat.le_trans (Nat.le_of_lt hbetween) hlast'⟩
  have hbegin : b.Contains u' 0xDC00 :=
    (hrun u' 0xDC00).mpr ⟨⟨hpair'.1, by decide⟩,
      Nat.le_trans hfirst' (Nat.le_of_lt hbetween), hlast'⟩
  exact ⟨⟨hb.1, hbegin.2⟩, hb'.1, hend.2⟩

/-! ## Rows that a stretch covers in part -/

namespace Stretch

variable (h : Stretch first last)
include h

/-- A row at the beginning that is no whole row is entered late. -/
theorem row_begin_lt (hhead : row first < row (first + 0x3FF)) :
    decode (rowLead (row first)) 0xDC00 < first := by
  obtain ⟨hlt, hle, hmax⟩ := h
  have hbegin : (0xDC00 : CodeUnit).toNat = 0xDC00 := rfl
  rw [decode_rowLead (by unfold row; omega) (by decide), hbegin]
  unfold row at *
  omega

/-- A row at the end that is no whole row is left early. -/
theorem lt_row_end (hfoot : row (last - 0x3FF) < row last) :
    last < decode (rowLead (row last)) 0xDFFF := by
  obtain ⟨hlt, hle, hmax⟩ := h
  have hend : (0xDFFF : CodeUnit).toNat = 0xDFFF := rfl
  rw [decode_rowLead (by unfold row; omega) (by decide), hend]
  unfold row at *
  omega

/-- Of two boxes of a stretch, the first begins in a row that the stretch enters late, or
the second in a row that it leaves early. -/
theorem pairwise_ragged : (ofSupplementary first last).Pairwise fun b c =>
    decode b.leads.min 0xDC00 < first ∨ last < decode c.leads.min 0xDFFF := by
  rw [ofSupplementary]
  split
  next hrow => exact List.pairwise_singleton _ _
  next hrow =>
    simp only [List.pairwise_append, List.mem_append, List.mem_ite_nil_right, List.mem_singleton]
    refine ⟨⟨?_, ?_, ?_⟩, ?_, ?_⟩
    · split_ifs <;> simp
    · split_ifs <;> simp
    · rintro b ⟨hhead, rfl⟩ c -
      exact Or.inl (h.row_begin_lt hhead)
    · split_ifs <;> simp
    · rintro b - c ⟨hfoot, rfl⟩
      exact Or.inr (h.lt_row_end hfoot)

end Stretch

theorem length_ofSupplementary_le (first last : Nat) :
    (ofSupplementary first last).length ≤ 3 := by
  rw [ofSupplementary]
  split
  next => exact Nat.le_add_left 1 2
  next =>
    rw [List.length_append, List.length_append]
    split_ifs <;> simp only [List.length_cons, List.length_nil] <;> omega

/-! ## Boxes of a range -/

theorem tiles_ofRange (r : ScalarRange) :
    Tiles (max r.first 0x10000) (ofRange r) (max (r.last + 1) 0x10000) := by
  rw [ofRange]
  split
  next hnone =>
    rw [ScalarRange.supplementary?] at hnone
    split at hnone
    next => contradiction
    next hlast =>
      have hle := r.first_le_last
      rw [Tiles]
      omega
  next s hs =>
    have htiles := (stretch_of_supplementary? hs).1.tiles
    rw [ScalarRange.supplementary?] at hs
    split at hs
    next hlast =>
      obtain rfl := Option.some.inj hs
      rwa [Nat.max_eq_left (show 0x10000 ≤ r.last + 1 by omega)]
    next => contradiction

theorem divides_ofRange (r : ScalarRange) : Divides r (ofRange r) where
  wellFormed _ := wellFormed_of_mem_ofRange
  apart := pairwise_apart_ofRange r
  tiles := tiles_ofRange r
  contains_iff u v := by
    rw [exists_ofRange_contains]
    constructor
    · rintro ⟨hpair, hmem⟩
      exact ⟨decode u v, hmem, lt_decode u v, (lead_decode hpair).symm, (trail_decode hpair).symm⟩
    · rintro ⟨n, hmem, hlt, rfl, rfl⟩
      have hmax := Nat.le_trans hmem.2 r.last_le
      rw [decode_lead_trail hlt hmax]
      exact ⟨isPair_lead_trail hmax, hmem⟩
  length_le := by
    rw [ofRange]
    split
    next => decide
    next s _ => exact length_ofSupplementary_le s.first s.last

/-! ## No shorter list -/

/-- A list is no longer than another when its members have partners there and no two of
them have one in common. -/
theorem length_le_of_partners {α β : Type} {P : α → β → Prop} {as : List α}
    {bs : List β} (hpartner : ∀ a ∈ as, ∃ b ∈ bs, P a b)
    (hapart : as.Pairwise fun a a' => ∀ b ∈ bs, P a b → ¬P a' b) :
    as.length ≤ bs.length := by
  cases as with
  | nil => exact Nat.zero_le _
  | cons a as =>
      obtain ⟨b, -, -⟩ := hpartner a (by simp)
      have : Nonempty β := ⟨b⟩
      choose! f hmem hpartner using hpartner
      have hnodup : ((a :: as).map f).Nodup := by
        rw [List.Nodup, List.pairwise_map]
        apply hapart.imp_of_mem
        intro x y hx hy hxy heq
        exact hxy (f x) (hmem x hx) (hpartner x hx) (heq ▸ hpartner y hy)
      have hsubset : (a :: as).map f ⊆ bs := by
        intro y hy
        obtain ⟨x, hx, rfl⟩ := List.mem_map.mp hy
        exact hmem x hx
      simpa using (hnodup.subperm hsubset).length_le

theorem pairwise_leads_ofRange (r : ScalarRange) : (ofRange r).Pairwise fun b c =>
    b.leads.max.toNat < c.leads.min.toNat := by
  rw [ofRange]
  split
  next => exact List.Pairwise.nil
  next s hs => exact (stretch_of_supplementary? hs).1.pairwise_leads

/-- Of two boxes of a range, one begins in a row that the range covers only in part. -/
theorem pairwise_ragged_ofRange (r : ScalarRange) : (ofRange r).Pairwise fun b c =>
    decode b.leads.min 0xDC00 ∉ r ∨ decode c.leads.min 0xDFFF ∉ r := by
  rw [ofRange]
  split
  next => exact List.Pairwise.nil
  next s hs =>
    obtain ⟨hstretch, hmem⟩ := stretch_of_supplementary? hs
    apply hstretch.pairwise_ragged.imp
    intro b c hragged
    apply hragged.imp
    · intro hbegin hr
      exact Nat.not_le.mpr hbegin ((hmem _).mpr ⟨hr, lt_decode _ _⟩).1
    · intro hend hr
      exact Nat.not_le.mpr hend ((hmem _).mpr ⟨hr, lt_decode _ _⟩).2

/-- A box that holds a run of pairs of a range takes pairs from one of its boxes only. -/
theorem pairwise_not_shared {r : ScalarRange} (hrun : ∀ c ∈ cs, c.IsRun)
    (hmem : ∀ c ∈ cs, ∀ u v, c.Contains u v → decode u v ∈ r) :
    (ofRange r).Pairwise fun a b => ∀ c ∈ cs,
      c.Contains a.leads.min a.trails.min → ¬c.Contains b.leads.min b.trails.min := by
  apply ((pairwise_leads_ofRange r).and (pairwise_ragged_ofRange r)).imp_of_mem
  rintro a b ha - ⟨hleads, hragged⟩ c hc hca hcb
  have hlt : a.leads.min.toNat < b.leads.min.toNat :=
    Nat.lt_of_le_of_lt (wellFormed_of_mem_ofRange ha).leads_le hleads
  -- A box that is shared holds the first rows of both, and the range lacks part of one.
  obtain ⟨hbegin, hend⟩ := (hrun c hc).contains_rows hca hcb hlt
  rcases hragged with hnot | hnot
  · exact hnot (hmem c hc _ _ hbegin)
  · exact hnot (hmem c hc _ _ hend)

/-- A list of boxes that hold runs has the pairs of a range only if it is as long as the
list of boxes of the range. -/
theorem length_ofRange_le {r : ScalarRange} (hrun : ∀ c ∈ cs, c.IsRun)
    (hunion : ∀ u v, (∃ c ∈ cs, c.Contains u v) ↔ ∃ b ∈ ofRange r, b.Contains u v) :
    (ofRange r).length ≤ cs.length := by
  apply length_le_of_partners (P := fun b c => c.Contains b.leads.min b.trails.min)
  · intro b hb
    exact (hunion _ _).mpr ⟨b, hb, (wellFormed_of_mem_ofRange hb).contains_min⟩
  · apply pairwise_not_shared hrun
    intro c hc u v hcontains
    exact ((exists_ofRange_contains r u v).mp ((hunion u v).mp ⟨c, hc, hcontains⟩)).2

/-- The boxes of a range divide its supplementary part into runs, and no list of boxes
that hold runs has the same pairs with fewer boxes. -/
theorem divides_fewest (r : ScalarRange) :
    Divides r (ofRange r) ∧ ∀ cs : List SurrogateBox, (∀ c ∈ cs, c.IsRun) →
      (∀ u v, (∃ c ∈ cs, c.Contains u v) ↔ ∃ b ∈ ofRange r, b.Contains u v) →
        (ofRange r).length ≤ cs.length :=
  ⟨divides_ofRange r, fun _ => length_ofRange_le⟩

/-- A range with one whole row, one value before it and one after it. -/
def rowAndNeighbours : ScalarRange :=
  ⟨0x103FF, 0x10800, by decide, by decide, by decide⟩

/-- The pairs of this range with the row cut in two. -/
def rowInHalves : List SurrogateBox :=
  [⟨⟨0xD800, 0xD800⟩, ⟨0xDFFF, 0xDFFF⟩⟩, ⟨⟨0xD801, 0xD801⟩, ⟨0xDC00, 0xDDFF⟩⟩,
    ⟨⟨0xD801, 0xD801⟩, ⟨0xDE00, 0xDFFF⟩⟩, ⟨⟨0xD802, 0xD802⟩, ⟨0xDC00, 0xDC00⟩⟩]

/-- A whole row with a value on each side takes three boxes, and four will do, too. -/
theorem divides_fewest_rowInHalves :
    (∀ c ∈ rowInHalves, c.IsRun) ∧
      (∀ u v, (∃ c ∈ rowInHalves, c.Contains u v) ↔
        ∃ b ∈ ofRange rowAndNeighbours, b.Contains u v) ∧
      (ofRange rowAndNeighbours).length = 3 ∧
      Divides rowAndNeighbours (ofRange rowAndNeighbours) ∧
      (ofRange rowAndNeighbours).length ≤ rowInHalves.length := by
  have hshape : ∀ c ∈ rowInHalves, c.WellFormed ∧ c.leads.IsSingle := by decide
  have hrun : ∀ c ∈ rowInHalves, c.IsRun := by
    intro c hc
    obtain ⟨hwell, hsingle⟩ := hshape c hc
    exact ⟨c.first, c.last, hwell.holds (Or.inl hsingle)⟩
  have hunion : ∀ u v, (∃ c ∈ rowInHalves, c.Contains u v) ↔
      ∃ b ∈ ofRange rowAndNeighbours, b.Contains u v := by
    have hboxes : ofRange rowAndNeighbours =
        [⟨⟨0xD800, 0xD800⟩, ⟨0xDFFF, 0xDFFF⟩⟩, ⟨⟨0xD801, 0xD801⟩, ⟨0xDC00, 0xDFFF⟩⟩,
          ⟨⟨0xD802, 0xD802⟩, ⟨0xDC00, 0xDC00⟩⟩] := by decide
    intro u v
    rw [hboxes]
    simp only [rowInHalves, List.exists_mem_cons_iff, List.not_mem_nil, false_and, exists_false,
      or_false, contains_iff, UInt16.reduceToNat]
    omega
  obtain ⟨hdivides, hfewest⟩ := divides_fewest rowAndNeighbours
  exact ⟨hrun, hunion, by decide, hdivides, hfewest rowInHalves hrun hunion⟩

end SurrogateBox
end TextBoundary
