import TextBoundary.Proofs.SurrogateBox
import TextBoundary.Proofs.Windows

/-!
# What a matcher accepts

A matcher accepts the encodings of its scalar values and nothing else.  For a
single unit the ranges themselves are the mappings of the table.  For a pair,
the boxes over one window of leads have disjoint trails, because no pair lies in
two boxes, so their trails are the mappings of a table as well.
-/

namespace TextBoundary

open CodeUnit

namespace StepTable

/-- A table of truth values answers with true where some mapping does. -/
theorem step?_ofMappings_eq_true {ceiling : Nat} {mappings : List (Mapping Bool)}
    (h : Mapping.Admissible ceiling 0 mappings) (htrue : ∀ m ∈ mappings, m.step = true)
    {key : Nat} (hkey : key < ceiling) :
    (ofMappings ceiling false mappings).step? key = some true ↔
      ∃ m ∈ mappings, key ∈ m.keys := by
  rw [step?_ofMappings h, if_pos hkey, Option.some.injEq, Mapping.value?]
  cases hfind : mappings.find? fun m => key ∈ m.keys with
  | none =>
      simpa using List.find?_eq_none.mp hfind
  | some m =>
      have hmem := List.mem_of_find?_eq_some hfind
      have hkeys := List.find?_some hfind
      simp only [Option.map_some, Option.getD_some, htrue m hmem, true_iff]
      exact ⟨m, hmem, by simpa using hkeys⟩

end StepTable

theorem ScalarRange.bounds_of_bmp? {r s : ScalarRange} (h : r.bmp? = some s) :
    s.bounds = ⟨r.first, min r.last 0xFFFF⟩ := by
  unfold bmp? at h
  split at h
  next =>
    obtain rfl := Option.some.inj h
    rfl
  next => contradiction

namespace Matcher

variable {ranges : List ScalarRange} {boxes : List SurrogateBox}

/-! ## Single units -/

theorem admissible_unitMappings (h : ScalarRange.Separated ranges) :
    Mapping.Admissible unitCeiling 0 (unitMappings ranges) := by
  apply Mapping.admissible_of_pairwise
  · rw [unitMappings, List.pairwise_map, List.pairwise_filterMap]
    apply h.imp
    intro r s hrs r' hr' s' hs'
    simp only [ScalarRange.bounds_of_bmp? hr', ScalarRange.bounds_of_bmp? hs']
    omega
  · intro m hm
    obtain ⟨s, hs, rfl⟩ := List.mem_map.mp hm
    obtain ⟨r, -, hr⟩ := List.mem_filterMap.mp hs
    have hbounds := ScalarRange.bounds_of_bmp? hr
    have hle := s.first_le_last
    simp only [ScalarRange.bounds, Bounds.mk.injEq, unitCeiling] at hbounds ⊢
    omega

theorem exists_mem_unitMappings {n : Nat} (hn : n < unitCeiling) :
    (∃ m ∈ unitMappings ranges, n ∈ m.keys) ↔ ScalarRange.Covered ranges n := by
  simp only [unitCeiling] at hn
  constructor
  · rintro ⟨m, hm, hmem⟩
    obtain ⟨s, hs, rfl⟩ := List.mem_map.mp hm
    obtain ⟨r, hr, hs⟩ := List.mem_filterMap.mp hs
    simp only [ScalarRange.bounds_of_bmp? hs, Bounds.mem_iff] at hmem
    exact ⟨r, hr, by rw [ScalarRange.mem_iff]; omega⟩
  · rintro ⟨r, hr, hmem⟩
    rw [ScalarRange.mem_iff] at hmem
    have hbmp : r.first ≤ 0xFFFF := by omega
    refine ⟨_, List.mem_map.mpr ⟨_, List.mem_filterMap.mpr ⟨r, hr, dif_pos hbmp⟩, rfl⟩, ?_⟩
    simp only [ScalarRange.bounds, Bounds.mem_iff]
    omega

theorem acceptsUnit_ofRanges (l : List ScalarRange) (u : CodeUnit) :
    (ofRanges l).acceptsUnit u = true ↔ ScalarRange.Covered l u.toNat := by
  have hadmissible := admissible_unitMappings (ScalarRange.separated_normalize l)
  have htrue : ∀ m ∈ unitMappings (ScalarRange.normalize l), m.step = true := by
    intro m hm
    obtain ⟨s, -, rfl⟩ := List.mem_map.mp hm
    rfl
  have hu : u.toNat < unitCeiling := u.toNat_lt
  rw [acceptsUnit, beq_iff_eq, ofRanges,
    StepTable.step?_ofMappings_eq_true hadmissible htrue hu,
    exists_mem_unitMappings hu, ScalarRange.covered_normalize]

/-! ## Pairs -/

/-- The boxes over a window are those that reach any lead in it. -/
theorem mem_leads_iff_covers {b : SurrogateBox} (hb : b ∈ boxes) {window : Bounds}
    (hw : window ∈ Bounds.windows (boxes.map fun b => b.leads.bounds)) {n : Nat}
    (hn : n ∈ window) : n ∈ b.leads.bounds ↔ b.leads.bounds.Covers window := by
  have hsame := fun m hm => Bounds.mem_iff_mem_of_mem_windows (List.mem_map_of_mem hb) hw
    (m := m) hm hn
  have hmin := hsame window.min
  have hmax := hsame window.max
  simp only [Bounds.mem_iff, Bounds.Covers] at hn hmin hmax ⊢
  omega

theorem mem_trailsOver {window : Bounds} {s : UnitSpan} :
    s ∈ trailsOver boxes window ↔
      ∃ b ∈ boxes, b.leads.bounds.Covers window ∧ b.trails = s := by
  simp [trailsOver, and_assoc]

/-- Some box holds a pair when the row of the lead lists the trail. -/
theorem exists_contains_iff_exists_rows (u v : CodeUnit) :
    (∃ b ∈ boxes, b.Contains u v) ↔
      ∃ row ∈ rows boxes, u.toNat ∈ row.leads ∧ ∃ s ∈ row.trails, v.toNat ∈ s.bounds := by
  constructor
  · rintro ⟨b, hb, hu, hv⟩
    rw [UnitSpan.mem_iff] at hu hv
    have hbounds : b.leads.bounds ∈ boxes.map fun b => b.leads.bounds :=
      List.mem_map_of_mem hb
    obtain ⟨w, hw, huw⟩ := Bounds.exists_mem_windows hbounds hu
    have hcovers := (mem_leads_iff_covers hb hw huw).mp hu
    have hmem : b.trails ∈ trailsOver boxes w := mem_trailsOver.mpr ⟨b, hb, hcovers, rfl⟩
    refine ⟨⟨w, trailsOver boxes w⟩, ?_, huw, b.trails, hmem, hv⟩
    rw [rows, List.mem_filter]
    refine ⟨List.mem_map_of_mem hw, ?_⟩
    simpa using List.ne_nil_of_mem hmem
  · rintro ⟨row, hrow, hu, s, hs, hv⟩
    obtain ⟨hrow, -⟩ := List.mem_filter.mp hrow
    obtain ⟨w, hw, rfl⟩ := List.mem_map.mp hrow
    obtain ⟨b, hb, hcovers, rfl⟩ := mem_trailsOver.mp hs
    have hlead := (mem_leads_iff_covers hb hw hu).mpr hcovers
    exact ⟨b, hb, UnitSpan.mem_iff.mpr hlead, UnitSpan.mem_iff.mpr hv⟩

theorem admissible_leadMappings :
    Mapping.Admissible unitCeiling 0 (leadMappings (rows boxes)) := by
  apply Mapping.admissible_of_pairwise
  · rw [leadMappings, List.pairwise_map]
    apply List.Pairwise.filter
    rw [List.pairwise_map]
    exact Bounds.pairwise_windows _
  · intro m hm
    obtain ⟨row, hrow, rfl⟩ := List.mem_map.mp hm
    obtain ⟨w, hw, rfl⟩ := List.mem_map.mp (List.mem_filter.mp hrow).1
    refine ⟨Nat.zero_le _, (Bounds.mem_windows.mp hw).1, ?_⟩
    apply Bounds.max_lt_of_mem_windows hw
    intro b hb
    obtain ⟨box, -, rfl⟩ := List.mem_map.mp hb
    have hmin := box.leads.min.toNat_lt
    have hmax := box.leads.max.toNat_lt
    simp only [UnitSpan.bounds, unitCeiling]
    omega

/-- Two boxes over one window have no trail in common if they are apart. -/
theorem disjoint_trails {b c : SurrogateBox} (h : b.Apart c) {w : Bounds} (hw : w.min ≤ w.max)
    (hb : b.leads.bounds.Covers w) (hc : c.leads.bounds.Covers w) (v : CodeUnit) :
    ¬(v ∈ b.trails ∧ v ∈ c.trails) := by
  rintro ⟨hvb, hvc⟩
  have hlead : (UInt16.ofNat w.min).toNat = w.min := by
    have hmax := b.leads.max.toNat_lt
    have hle := hb.2
    simp only [UnitSpan.bounds] at hle
    apply UInt16.toNat_ofNat_of_lt'
    simp only [UInt16.size]
    omega
  apply h (UInt16.ofNat w.min) v
  refine ⟨⟨?_, hvb⟩, ?_, hvc⟩
  · rw [UnitSpan.mem_iff, hlead]
    exact ⟨hb.1, Nat.le_trans hw hb.2⟩
  · rw [UnitSpan.mem_iff, hlead]
    exact ⟨hc.1, Nat.le_trans hw hc.2⟩

theorem pairwise_trailsOver (hapart : boxes.Pairwise SurrogateBox.Apart) {w : Bounds}
    (hw : w.min ≤ w.max) :
    (trailsOver boxes w).Pairwise fun s t => ∀ v, ¬(v ∈ s ∧ v ∈ t) := by
  rw [trailsOver, (List.mergeSort_perm _ _).pairwise_iff fun hst v hts => hst v hts.symm,
    List.pairwise_map]
  refine List.Pairwise.imp_of_mem ?_ (hapart.filter _)
  intro b c hb hc hbc
  have hb := (List.mem_filter.mp hb).2
  have hc := (List.mem_filter.mp hc).2
  exact disjoint_trails hbc hw (of_decide_eq_true hb) (of_decide_eq_true hc)

theorem sorted_trailsOver (boxes : List SurrogateBox) (w : Bounds) :
    (trailsOver boxes w).Pairwise fun s t => s.min.toNat ≤ t.min.toNat := by
  have hle : ∀ s t : UnitSpan, UnitSpan.le s t = true ↔
      s.min.toNat < t.min.toNat ∨ s.min.toNat = t.min.toNat ∧ s.max.toNat ≤ t.max.toNat := by
    simp [UnitSpan.le, UInt16.lt_iff_toNat_lt, UInt16.le_iff_toNat_le, UInt16.toNat_inj]
  have hsort : (trailsOver boxes w).Pairwise fun s t => UnitSpan.le s t = true :=
    List.pairwise_mergeSort (by simp only [hle]; omega)
      (by simp only [Bool.or_eq_true, hle]; omega) _
  apply hsort.imp
  simp only [hle]
  omega

/-- The spans of a row are the mappings of a table when no pair lies in two
boxes. -/
theorem admissible_trailMappings (hboxes : ∀ b ∈ boxes, b.WellFormed)
    (hapart : boxes.Pairwise SurrogateBox.Apart) {row : Row} (hrow : row ∈ rows boxes) :
    Mapping.Admissible unitCeiling 0 (trailMappings row.trails) := by
  obtain ⟨w, hw, rfl⟩ := List.mem_map.mp (List.mem_filter.mp hrow).1
  have hne : ∀ s ∈ trailsOver boxes w, s.min.toNat ≤ s.max.toNat := by
    intro s hs
    obtain ⟨b, hb, -, rfl⟩ := mem_trailsOver.mp hs
    exact (hboxes b hb).trails_le
  have hdisjoint := pairwise_trailsOver hapart (Bounds.mem_windows.mp hw).1
  apply Mapping.admissible_of_pairwise
  · rw [trailMappings, List.pairwise_map]
    refine List.Pairwise.imp_of_mem ?_ (hdisjoint.and (sorted_trailsOver boxes w))
    rintro s t - ht ⟨hst, hle⟩
    have hmin := hst t.min
    simp only [UnitSpan.mem_iff] at hmin
    have := hne t ht
    simp only [UnitSpan.bounds]
    omega
  · intro m hm
    obtain ⟨s, hs, rfl⟩ := List.mem_map.mp hm
    exact ⟨Nat.zero_le _, hne s hs, s.max.toNat_lt⟩

/-! The parts of a matcher that its boxes determine. -/

theorem boxes_ofRanges (l : List ScalarRange) :
    (ofRanges l).boxes = (ScalarRange.normalize l).flatMap SurrogateBox.ofRange :=
  rfl

theorem leads_ofRanges (l : List ScalarRange) :
    (ofRanges l).leads =
      .ofMappings unitCeiling none (leadMappings (rows (ofRanges l).boxes)) :=
  rfl

theorem trailSets_ofRanges (l : List ScalarRange) :
    (ofRanges l).trailSets = ((distinctTrails (rows (ofRanges l).boxes)).map fun spans =>
      StepTable.ofMappings unitCeiling false (trailMappings spans)).toArray :=
  rfl

/-- A lead selects the place of the trails of its row. -/
theorem step?_leads_iff (l : List ScalarRange) (u : CodeUnit) (place : Nat) :
    (ofRanges l).leads.step? u.toNat = some (some place) ↔
      ∃ row ∈ rows (ofRanges l).boxes, u.toNat ∈ row.leads ∧
        (distinctTrails (rows (ofRanges l).boxes)).idxOf row.trails = place := by
  have hu : u.toNat < unitCeiling := u.toNat_lt
  have hgetD : ∀ o : Option (Option Nat),
      o.getD none = some place ↔ o = some (some place) := by
    intro o
    cases o <;> simp
  rw [leads_ofRanges, StepTable.step?_ofMappings admissible_leadMappings, if_pos hu,
    Option.some.injEq, hgetD, Mapping.value?_eq_some_iff admissible_leadMappings]
  simp [leadMappings]

/-- The place of the trails of a row holds their table. -/
theorem getElem?_trailSets (l : List ScalarRange) {row : Row}
    (hrow : row ∈ rows (ofRanges l).boxes) :
    (ofRanges l).trailSets[(distinctTrails (rows (ofRanges l).boxes)).idxOf row.trails]? =
      some (.ofMappings unitCeiling false (trailMappings row.trails)) := by
  have hmem : row.trails ∈ distinctTrails (rows (ofRanges l).boxes) :=
    List.mem_eraseDups.mpr (List.mem_map_of_mem hrow)
  have hlt := List.idxOf_lt_length_of_mem hmem
  rw [trailSets_ofRanges, List.getElem?_toArray, List.getElem?_map,
    List.getElem?_eq_getElem hlt, List.getElem_idxOf hlt, Option.map_some]

/-- The table of the trails of a row answers as the row does. -/
theorem step?_trails_iff (l : List ScalarRange) {row : Row}
    (hrow : row ∈ rows (ofRanges l).boxes) (v : CodeUnit) :
    (StepTable.ofMappings unitCeiling false (trailMappings row.trails)).step? v.toNat =
      some true ↔ ∃ s ∈ row.trails, v.toNat ∈ s.bounds := by
  have hv : v.toNat < unitCeiling := v.toNat_lt
  have hadmissible := admissible_trailMappings
    (fun b hb => SurrogateBox.wellFormed_of_mem_flatMap hb)
    (SurrogateBox.pairwise_apart_flatMap (ScalarRange.separated_normalize l)) hrow
  rw [StepTable.step?_ofMappings_eq_true hadmissible (by simp [trailMappings]) hv]
  simp [trailMappings]

/-- The trail of a pair is accepted when the row of the lead lists it. -/
theorem acceptsTrail_iff (l : List ScalarRange) (u v : CodeUnit) :
    (ofRanges l).acceptsTrail u v = true ↔
      ∃ row ∈ rows (ofRanges l).boxes,
        u.toNat ∈ row.leads ∧ ∃ s ∈ row.trails, v.toNat ∈ s.bounds := by
  constructor
  · intro h
    unfold acceptsTrail at h
    split at h
    next place hplace =>
      obtain ⟨row, hrow, hu, rfl⟩ := (step?_leads_iff l u place).mp hplace
      simp only [getElem?_trailSets l hrow, beq_iff_eq, step?_trails_iff l hrow] at h
      exact ⟨row, hrow, hu, h⟩
    next => contradiction
  · rintro ⟨row, hrow, hu, hv⟩
    have hplace := (step?_leads_iff l u _).mpr ⟨row, hrow, hu, rfl⟩
    simp only [acceptsTrail, hplace, getElem?_trailSets l hrow, beq_iff_eq,
      step?_trails_iff l hrow]
    exact hv

theorem acceptsTrail_ofRanges (l : List ScalarRange) {u v : CodeUnit} (h : IsPair u v) :
    (ofRanges l).acceptsTrail u v = true ↔ ScalarRange.Covered l (decode u v) := by
  rw [acceptsTrail_iff, ← exists_contains_iff_exists_rows, boxes_ofRanges,
    SurrogateBox.exists_flatMap_contains, ScalarRange.covered_normalize]
  simp only [h, true_and]

/-- A matcher accepts a codepoint when its ranges hold the value.  They hold no
surrogates, so a lone surrogate is never accepted. -/
theorem acceptsCodepoint_ofRanges (l : List ScalarRange) (c : Codepoint) :
    (ofRanges l).acceptsCodepoint c = true ↔ ScalarRange.Covered l c.value := by
  rw [acceptsCodepoint, Codepoint.units]
  split
  next hbmp =>
    rw [accepts, acceptsUnit_ofRanges, UInt16.toNat_ofNat_of_lt' hbmp]
  next hbmp =>
    have hpair := isPair_lead_trail c.value_le
    rw [accepts, Bool.and_eq_true, decide_eq_true_eq, acceptsTrail_ofRanges l hpair,
      decode_lead_trail (by omega) c.value_le]
    simp only [hpair, true_and]

end Matcher
end TextBoundary
