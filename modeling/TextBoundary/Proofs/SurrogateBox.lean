import TextBoundary.Proofs.NormalForm

/-!
# Boxes cover ranges

The boxes of a range hold consecutive runs of values.  Together they hold exactly
the pairs that encode its supplementary part, and no pair lies in two of them.
Both facts carry over to the boxes of ranges that are separated.
-/

namespace TextBoundary

open CodeUnit

theorem UnitSpan.mem_iff {s : UnitSpan} {u : CodeUnit} :
    u ∈ s ↔ s.min.toNat ≤ u.toNat ∧ u.toNat ≤ s.max.toNat := by
  rw [← UInt16.le_iff_toNat_le, ← UInt16.le_iff_toNat_le]
  rfl

namespace SurrogateBox

/-- The box spans leads and trails, and neither of its spans is empty. -/
structure WellFormed (b : SurrogateBox) : Prop where
  leads_min : IsLead b.leads.min
  leads_max : IsLead b.leads.max
  leads_le : b.leads.min.toNat ≤ b.leads.max.toNat
  trails_min : IsTrail b.trails.min
  trails_max : IsTrail b.trails.max
  trails_le : b.trails.min.toNat ≤ b.trails.max.toNat

/-- Two boxes that have no pair in common. -/
def Apart (b c : SurrogateBox) : Prop :=
  ∀ u v, ¬(b.Contains u v ∧ c.Contains u v)

/-- A box holds exactly the pairs of the values from `first` to `last`. -/
def Holds (b : SurrogateBox) (first last : Nat) : Prop :=
  ∀ u v, b.Contains u v ↔ IsPair u v ∧ first ≤ decode u v ∧ decode u v ≤ last

/-- Boxes that hold consecutive runs.  The first run begins at `start`, and the last one
ends before `stop`. -/
def Tiles : Nat → List SurrogateBox → Nat → Prop
  | start, [], stop => start = stop
  | start, b :: bs, stop =>
      b.first = start ∧ b.first ≤ b.last ∧ b.Holds b.first b.last ∧ Tiles (b.last + 1) bs stop

variable {b : SurrogateBox} {bs cs : List SurrogateBox} {u v v' : CodeUnit}
  {m n start stop : Nat}

theorem contains_iff :
    b.Contains u v ↔
      (b.leads.min.toNat ≤ u.toNat ∧ u.toNat ≤ b.leads.max.toNat) ∧
        b.trails.min.toNat ≤ v.toNat ∧ v.toNat ≤ b.trails.max.toNat := by
  rw [Contains, UnitSpan.mem_iff, UnitSpan.mem_iff]

/-! ## Boxes that hold a run -/

theorem WellFormed.isPair (h : b.WellFormed) (hb : b.Contains u v) : IsPair u v := by
  obtain ⟨⟨hu, hu'⟩, hv, hv'⟩ := contains_iff.mp hb
  have hmin := h.leads_min.1
  have hmax := h.leads_max.2
  have htrails_min := h.trails_min.1
  have htrails_max := h.trails_max.2
  exact ⟨⟨by omega, by omega⟩, by omega, by omega⟩

theorem WellFormed.contains_min (h : b.WellFormed) :
    b.Contains b.leads.min b.trails.min :=
  contains_iff.mpr ⟨⟨Nat.le_refl _, h.leads_le⟩, Nat.le_refl _, h.trails_le⟩

theorem WellFormed.first_eq (h : b.WellFormed) :
    b.first = 0x10000 + (b.leads.min.toNat - 0xD800) * 0x400 + (b.trails.min.toNat - 0xDC00) :=
  decode_eq ⟨h.leads_min, h.trails_min⟩

theorem WellFormed.last_eq (h : b.WellFormed) :
    b.last = 0x10000 + (b.leads.max.toNat - 0xD800) * 0x400 + (b.trails.max.toNat - 0xDC00) :=
  decode_eq ⟨h.leads_max, h.trails_max⟩

theorem WellFormed.first_le_last (h : b.WellFormed) : b.first ≤ b.last := by
  rw [h.first_eq, h.last_eq]
  have hleads := h.leads_le
  have htrails := h.trails_le
  omega

/-- A box that lies in a single row or is made of whole rows holds a run. -/
theorem WellFormed.holds (h : b.WellFormed)
    (hshape : b.leads.IsSingle ∨ b.trails = ⟨0xDC00, 0xDFFF⟩) : b.Holds b.first b.last := by
  intro u v
  rw [h.first_eq, h.last_eq]
  constructor
  · intro hb
    have hpair := h.isPair hb
    obtain ⟨⟨hu, hu'⟩, hv, hv'⟩ := contains_iff.mp hb
    rw [decode_eq hpair]
    exact ⟨hpair, by omega, by omega⟩
  · rintro ⟨hpair, hfirst, hlast⟩
    rw [decode_eq hpair] at hfirst hlast
    obtain ⟨⟨hu, hu'⟩, hv, hv'⟩ := hpair
    obtain ⟨⟨hmin, -⟩, ⟨-, hmax⟩, hle, ⟨htmin, -⟩, ⟨-, htmax⟩, htle⟩ := h
    rw [contains_iff]
    rcases hshape with hsingle | hwhole
    · have hrow : b.leads.min.toNat = b.leads.max.toNat := congrArg UInt16.toNat hsingle
      omega
    · have hfrom : b.trails.min.toNat = 0xDC00 := by
        rw [hwhole]
        rfl
      have hto : b.trails.max.toNat = 0xDFFF := by
        rw [hwhole]
        rfl
      omega

/-! ## Boxes over rows -/

theorem toNat_rowLead (h : n ≤ 0x3FF) : (rowLead n).toNat = 0xD800 + n := by
  rw [rowLead, UInt16.toNat_ofNat_of_lt']
  simp only [UInt16.size]
  omega

theorem isLead_rowLead (hn : n ≤ 0x3FF) : IsLead (rowLead n) := by
  rw [IsLead, toNat_rowLead hn]
  omega

theorem isTrail_trail (n : Nat) : IsTrail (trail n) := by
  rw [IsTrail, toNat_trail]
  omega

theorem wellFormed_rows (hmn : m ≤ n) (hn : n ≤ 0x3FF) (hv : IsTrail v) (hv' : IsTrail v')
    (hle : v.toNat ≤ v'.toNat) : WellFormed ⟨⟨rowLead m, rowLead n⟩, ⟨v, v'⟩⟩ where
  leads_min := isLead_rowLead (Nat.le_trans hmn hn)
  leads_max := isLead_rowLead hn
  leads_le := by
    have hm := toNat_rowLead (Nat.le_trans hmn hn)
    have hn' := toNat_rowLead hn
    simp only
    omega
  trails_min := hv
  trails_max := hv'
  trails_le := hle

theorem decode_rowLead (hn : n ≤ 0x3FF) (hv : IsTrail v) :
    decode (rowLead n) v = 0x10000 + n * 0x400 + (v.toNat - 0xDC00) := by
  rw [decode_eq ⟨isLead_rowLead hn, hv⟩, toNat_rowLead hn, Nat.add_sub_cancel_left]

/-! ## Boxes one after the other -/

theorem Tiles.le (h : Tiles start bs stop) : start ≤ stop := by
  induction bs generalizing start with
  | nil =>
      rw [Tiles] at h
      exact Nat.le_of_eq h
  | cons b bs ih =>
      obtain ⟨hfirst, hle, -, hrest⟩ := h
      have hstop := ih hrest
      omega

theorem Tiles.append (h : Tiles start bs n) (h' : Tiles n cs stop) :
    Tiles start (bs ++ cs) stop := by
  induction bs generalizing start with
  | nil =>
      obtain rfl : start = n := h
      exact h'
  | cons b bs ih =>
      obtain ⟨hfirst, hle, hholds, hrest⟩ := h
      exact ⟨hfirst, hle, hholds, ih hrest⟩

theorem WellFormed.tiles (h : b.WellFormed)
    (hshape : b.leads.IsSingle ∨ b.trails = ⟨0xDC00, 0xDFFF⟩) :
    Tiles b.first [b] (b.last + 1) :=
  ⟨rfl, h.first_le_last, h.holds hshape, rfl⟩

/-- Together, boxes hold the pairs of the values from the start to the stop. -/
theorem Tiles.exists_contains (h : Tiles start bs stop) (u v : CodeUnit) :
    (∃ b ∈ bs, b.Contains u v) ↔ IsPair u v ∧ start ≤ decode u v ∧ decode u v < stop := by
  induction bs generalizing start with
  | nil =>
      rw [Tiles] at h
      simp only [List.not_mem_nil, false_and, exists_false, false_iff]
      omega
  | cons b bs ih =>
      obtain ⟨hfirst, hle, hholds, hrest⟩ := h
      have hstop := hrest.le
      simp only [List.mem_cons, exists_eq_or_imp]
      rw [hholds u v, ih hrest, ← and_or_left]
      apply and_congr_right
      intro _
      omega

/-- A box that is only there on a condition. -/
theorem tiles_ite {p : Prop} [Decidable p] (hpos : p → Tiles start [b] stop)
    (hneg : ¬p → start = stop) : Tiles start (if p then [b] else []) stop := by
  split
  next hp => exact hpos hp
  next hp => exact hneg hp

/-- A box over the rows from `m` to `n` that begins at `start` and ends before `stop`. -/
theorem tiles_rows (hmn : m ≤ n) (hn : n ≤ 0x3FF) (hv : IsTrail v) (hv' : IsTrail v')
    (hle : v.toNat ≤ v'.toNat)
    (hshape : m = n ∨ (⟨v, v'⟩ : UnitSpan) = ⟨0xDC00, 0xDFFF⟩)
    (hstart : 0x10000 + m * 0x400 + (v.toNat - 0xDC00) = start)
    (hstop : 0x10000 + n * 0x400 + (v'.toNat - 0xDC00) + 1 = stop) :
    Tiles start [⟨⟨rowLead m, rowLead n⟩, ⟨v, v'⟩⟩] stop := by
  have hwell := wellFormed_rows hmn hn hv hv' hle
  have htiles := hwell.tiles (hshape.imp_left fun h => congrArg rowLead h)
  rw [SurrogateBox.first, SurrogateBox.last, decode_rowLead (Nat.le_trans hmn hn) hv,
    decode_rowLead hn hv', hstart, hstop] at htiles
  exact htiles

/-! ## The boxes of a stretch -/

/-- The first value of a stretch of supplementary values and the last one. -/
structure Stretch (first last : Nat) : Prop where
  lt_first : 0xFFFF < first
  first_le : first ≤ last
  last_le : last ≤ 0x10FFFF

namespace Stretch

variable {first last : Nat} (h : Stretch first last)
include h

theorem toNat_first : (rowLead (row first)).toNat = 0xD800 + (first - 0x10000) / 0x400 := by
  obtain ⟨hlt, hle, hmax⟩ := h
  exact toNat_rowLead (by unfold row; omega)

theorem toNat_last : (rowLead (row last)).toNat = 0xD800 + (last - 0x10000) / 0x400 := by
  obtain ⟨hlt, hle, hmax⟩ := h
  exact toNat_rowLead (by unfold row; omega)

theorem toNat_wholeFrom (hrow : row first ≠ row last) :
    (rowLead (row (first + 0x3FF))).toNat =
      0xD800 + (first + 0x3FF - 0x10000) / 0x400 := by
  obtain ⟨hlt, hle, hmax⟩ := h
  exact toNat_rowLead (by unfold row at *; omega)

theorem toNat_wholeTo :
    (rowLead (row (last - 0x3FF))).toNat =
      0xD800 + (last - 0x3FF - 0x10000) / 0x400 := by
  obtain ⟨hlt, hle, hmax⟩ := h
  exact toNat_rowLead (by unfold row; omega)

/-- The boxes of a stretch hold consecutive runs from its first value to its last. -/
theorem tiles : Tiles first (ofSupplementary first last) (last + 1) := by
  have hfirst := toNat_trail first
  have hlast := toNat_trail last
  have hfrom : (0xDC00 : CodeUnit).toNat = 0xDC00 := rfl
  have hto : (0xDFFF : CodeUnit).toNat = 0xDFFF := rfl
  obtain ⟨hlt, hle, hmax⟩ := h
  rw [ofSupplementary]
  split
  next hrow =>
    rw [hrow]
    unfold row at *
    exact tiles_rows (Nat.le_refl _) (by omega) (isTrail_trail first) (isTrail_trail last)
      (by omega) (Or.inl rfl) (by omega) (by omega)
  next hrow =>
    -- The whole rows begin and end at multiples of a row.  Where one of the three boxes is
    -- missing, the place where it would begin is the one where it would end.
    refine Tiles.append (n := 0x10000 + (row (last - 0x3FF) + 1) * 0x400)
      (Tiles.append (n := 0x10000 + row (first + 0x3FF) * 0x400) (tiles_ite ?_ ?_)
        (tiles_ite ?_ ?_)) (tiles_ite ?_ ?_)
    · intro hhead
      unfold row at *
      exact tiles_rows (Nat.le_refl _) (by omega) (isTrail_trail first) (by decide)
        (by omega) (Or.inl rfl) (by omega) (by omega)
    · unfold row at *
      omega
    · intro hbody
      exact tiles_rows hbody (by unfold row; omega) (by decide) (by decide)
        (by decide) (Or.inr rfl) (by omega) (by omega)
    · unfold row at *
      omega
    · intro hfoot
      unfold row at *
      exact tiles_rows (Nat.le_refl _) (by omega) (by decide) (isTrail_trail last)
        (by omega) (Or.inl rfl) (by omega) (by omega)
    · unfold row at *
      omega

/-- The boxes of a stretch hold the pairs of its values. -/
theorem exists_contains (u v : CodeUnit) :
    (∃ b ∈ ofSupplementary first last, b.Contains u v) ↔
      IsPair u v ∧ first ≤ decode u v ∧ decode u v ≤ last := by
  rw [h.tiles.exists_contains, Nat.lt_succ_iff]

/-- Boxes are cut from the surrogate block. -/
theorem wellFormed : ∀ b ∈ ofSupplementary first last, b.WellFormed := by
  have hfirst := isTrail_trail first
  have hlast := isTrail_trail last
  obtain ⟨hlt, hle, hlimit⟩ := h
  intro b hb
  rw [ofSupplementary] at hb
  split at hb
  next hrow =>
    rw [List.mem_singleton.mp hb, hrow]
    apply wellFormed_rows (Nat.le_refl _) (by unfold row; omega) hfirst hlast
    rw [toNat_trail, toNat_trail]
    unfold row at hrow
    omega
  next hrow =>
    simp only [List.mem_append, List.mem_ite_nil_right, List.mem_singleton, or_assoc] at hb
    rcases hb with ⟨-, rfl⟩ | ⟨hrows, rfl⟩ | ⟨-, rfl⟩
    · exact wellFormed_rows (Nat.le_refl _) (by unfold row; omega) hfirst (by decide) hfirst.2
    · exact wellFormed_rows hrows (by unfold row; omega) (by decide) (by decide) (by decide)
    · exact wellFormed_rows (Nat.le_refl _) (by unfold row; omega) (by decide) hlast hlast.1

/-- The boxes of a stretch have no lead in common. -/
theorem pairwise_leads : (ofSupplementary first last).Pairwise fun b c =>
    b.leads.max.toNat < c.leads.min.toNat := by
  have hfirst := h.toNat_first
  have hlast := h.toNat_last
  have hto := h.toNat_wholeTo
  rw [ofSupplementary]
  split
  next hrow => exact List.pairwise_singleton _ _
  next hrow =>
    have hfrom := h.toNat_wholeFrom hrow
    simp only [List.pairwise_append, List.mem_append, List.mem_ite_nil_right, List.mem_singleton]
    refine ⟨⟨?_, ?_, ?_⟩, ?_, ?_⟩
    · split_ifs <;> simp
    · split_ifs <;> simp
    · rintro b ⟨hhead, rfl⟩ c ⟨hbody, rfl⟩
      unfold row at hhead
      simp only [hfirst, hfrom]
      omega
    · split_ifs <;> simp
    · obtain ⟨hlt, hle, hlimit⟩ := h
      rintro b hb c ⟨hfoot, rfl⟩
      unfold row at hrow hfoot
      rcases hb with ⟨hhead, rfl⟩ | ⟨hbody, rfl⟩
      · simp only [hfirst, hlast]
        omega
      · simp only [hto, hlast]
        omega

end Stretch

/-! ## The boxes of ranges -/

theorem stretch_of_supplementary? {r s : ScalarRange} (h : r.supplementary? = some s) :
    Stretch s.first s.last ∧ ∀ n, n ∈ s ↔ n ∈ r ∧ 0xFFFF < n := by
  unfold ScalarRange.supplementary? at h
  split at h
  next hlast =>
    obtain rfl := Option.some.inj h
    have := r.first_le_last
    refine ⟨⟨by simp only; omega, by simp only; omega, r.last_le⟩, ?_⟩
    intro n
    simp only [ScalarRange.mem_iff]
    omega
  next => contradiction

/-- The boxes of a range hold the pairs of its values. -/
theorem exists_ofRange_contains (r : ScalarRange) (u v : CodeUnit) :
    (∃ b ∈ ofRange r, b.Contains u v) ↔ IsPair u v ∧ decode u v ∈ r := by
  unfold ofRange
  split
  next hnone =>
    simp only [ScalarRange.supplementary?, dite_eq_right_iff, reduceCtorEq, imp_false] at hnone
    have := lt_decode u v
    simp only [List.not_mem_nil, false_and, exists_false, false_iff, ScalarRange.mem_iff]
    omega
  next s hs =>
    obtain ⟨hstretch, hmem⟩ := stretch_of_supplementary? hs
    rw [hstretch.exists_contains, ← ScalarRange.mem_iff, hmem]
    simp only [lt_decode, and_true]

theorem wellFormed_of_mem_ofRange {r : ScalarRange} {b : SurrogateBox}
    (h : b ∈ ofRange r) : b.WellFormed := by
  unfold ofRange at h
  split at h
  next => simp at h
  next s hs => exact (stretch_of_supplementary? hs).1.wellFormed b h

theorem pairwise_apart_ofRange (r : ScalarRange) : (ofRange r).Pairwise Apart := by
  unfold ofRange
  split
  next => exact List.Pairwise.nil
  next s hs =>
    apply (stretch_of_supplementary? hs).1.pairwise_leads.imp
    rintro b c hbc u v ⟨hb, hc⟩
    rw [contains_iff] at hb hc
    omega

variable {ranges : List ScalarRange}

/-- The boxes of ranges hold the pairs of their values. -/
theorem exists_flatMap_contains (u v : CodeUnit) :
    (∃ b ∈ ranges.flatMap ofRange, b.Contains u v) ↔
      IsPair u v ∧ ScalarRange.Covered ranges (decode u v) := by
  constructor
  · rintro ⟨b, hb, hcontains⟩
    obtain ⟨r, hr, hb⟩ := List.mem_flatMap.mp hb
    obtain ⟨hpair, hmem⟩ := (exists_ofRange_contains r u v).mp ⟨b, hb, hcontains⟩
    exact ⟨hpair, r, hr, hmem⟩
  · rintro ⟨hpair, r, hr, hmem⟩
    obtain ⟨b, hb, hcontains⟩ := (exists_ofRange_contains r u v).mpr ⟨hpair, hmem⟩
    exact ⟨b, List.mem_flatMap.mpr ⟨r, hr, hb⟩, hcontains⟩

theorem wellFormed_of_mem_flatMap {b : SurrogateBox}
    (h : b ∈ ranges.flatMap ofRange) : b.WellFormed := by
  obtain ⟨r, -, hb⟩ := List.mem_flatMap.mp h
  exact wellFormed_of_mem_ofRange hb

/-- Boxes of separated ranges have no pair in common. -/
theorem pairwise_apart_flatMap (h : ScalarRange.Separated ranges) :
    (ranges.flatMap ofRange).Pairwise Apart := by
  rw [List.pairwise_flatMap]
  refine ⟨fun r _ => pairwise_apart_ofRange r, ?_⟩
  apply h.imp
  rintro r s hrs b hb c hc u v ⟨hbuv, hcuv⟩
  have hr := ((exists_ofRange_contains r u v).mp ⟨b, hb, hbuv⟩).2
  have hs := ((exists_ofRange_contains s u v).mp ⟨c, hc, hcuv⟩).2
  rw [ScalarRange.mem_iff] at hr hs
  omega

end SurrogateBox
end TextBoundary
