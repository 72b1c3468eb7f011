import TextBoundary.Proofs.Checked.Interning
import TextBoundary.Proofs.Classification
import TextBoundary.Proofs.Pattern.Rendering

/-!
# Checked construction of matchers and classifiers

Matchers and classifiers are built once more, with words in the place of numbers and with
every condition on arguments checked: a lead and a trail are asked for above U+FFFF only, the
ends of a span are in order, and mappings are admissible.  The work never answers `none`, and
its answer is the matcher or the classifier that is built without any check.

Three facts about the whole of a list carry this.  A range ends at U+10FFFF at the latest.
Where the ends of a stretch lie in different rows, its last value is at least one row above
the first of all.  And no pair lies in the boxes of two ranges, so that trails over one window
of leads do not overlap.
-/

namespace TextBoundary

open Checked

/-! ## Ranges -/

namespace ScalarRange

/-- Joins a range with the ranges of a sorted list, where the number behind the range must fit
in a word. -/
def coalesce? (r : ScalarRange) : List ScalarRange → Option (List ScalarRange)
  | [] => some [r]
  | s :: rest =>
      match hword : word? UInt32.size (r.last + 1) with
      | none => none
      | some next =>
          if h : s.first ≤ next then
            coalesce? (r.join s (h.trans_eq (eq_of_word? hword).symm)) rest
          else (coalesce? s rest).map (r :: ·)

/-- The normal form of a list of ranges, as `coalesce?` joins them. -/
def normalize? (l : List ScalarRange) : Option (List ScalarRange) :=
  match l.mergeSort le with
  | [] => some []
  | r :: rest => coalesce? r rest

theorem last_succ_lt (r : ScalarRange) : r.last + 1 < UInt32.size := by
  have hlast := r.last_le
  simp only [UInt32.size]
  omega

theorem coalesce?_eq (r : ScalarRange) (l : List ScalarRange) :
    coalesce? r l = some (coalesce r l) := by
  induction l generalizing r with
  | nil => rfl
  | cons s rest ih =>
      rw [coalesce?, coalesce]
      split
      next hnone =>
        rw [word?_of_lt r.last_succ_lt] at hnone
        contradiction
      next next hsome =>
        obtain rfl := eq_of_word? hsome
        split
        next => rw [ih]
        next => rw [ih, Option.map_some]

theorem normalize?_eq (l : List ScalarRange) : normalize? l = some (normalize l) := by
  rw [normalize?, normalize]
  cases l.mergeSort le with
  | nil => rfl
  | cons r rest => exact coalesce?_eq r rest

end ScalarRange

/-! ## Boxes -/

namespace CodeUnit

/-- The unit some places behind another.  Neither the places nor the sum leave the word. -/
def behind? (base places : Nat) : Option CodeUnit := do
  let places ← word? UInt16.size places
  let n ← word? UInt16.size (base + places)
  return UInt16.ofNat n

/-- The lead surrogate of a scalar value, which must lie above U+FFFF. -/
def lead? (scalar : Nat) : Option CodeUnit := do
  guard (0xFFFF < scalar)
  let offset ← sub? scalar 0x10000
  behind? 0xD800 (offset / 0x400)

/-- The trail surrogate of a scalar value, which must lie above U+FFFF. -/
def trail? (scalar : Nat) : Option CodeUnit := do
  guard (0xFFFF < scalar)
  let offset ← sub? scalar 0x10000
  behind? 0xDC00 (offset % 0x400)

theorem behind?_eq {base places : Nat} (h : base + places < UInt16.size) :
    behind? base places = some (UInt16.ofNat (base + places)) := by
  have hplaces := Nat.lt_of_le_of_lt (Nat.le_add_left places base) h
  rw [behind?, bind_of_eq_some (word?_of_lt hplaces), bind_of_eq_some (word?_of_lt h)]
  rfl

theorem trail?_eq {scalar : Nat} (hmin : 0xFFFF < scalar) : trail? scalar = some (trail scalar) := by
  have hfits : 0xDC00 + (scalar - 0x10000) % 0x400 < UInt16.size := by
    simp only [UInt16.size]
    omega
  have hbase : 0x10000 ≤ scalar := by omega
  rw [trail?, bind_of_eq_some (guard_of_pos hmin), bind_of_eq_some (sub?_of_le hbase),
    behind?_eq hfits, trail]

end CodeUnit

/-- The span between two units, of which the first is not the greater. -/
def UnitSpan.of? (min max : CodeUnit) : Option UnitSpan := do
  guard (min ≤ max)
  return ⟨min, max⟩

theorem UnitSpan.of?_eq {min max : CodeUnit} (h : min ≤ max) : of? min max = some ⟨min, max⟩ := by
  rw [of?, bind_of_eq_some (guard_of_pos h)]
  rfl

namespace SurrogateBox

open CodeUnit

/-- The box between two leads and two trails. -/
def of? (lead lead' trail trail' : CodeUnit) : Option SurrogateBox := do
  let leads ← UnitSpan.of? lead lead'
  let trails ← UnitSpan.of? trail trail'
  return ⟨leads, trails⟩

/-- A box that is only there on a condition. -/
def only? (p : Prop) [Decidable p] (box : Option SurrogateBox) : Option (List SurrogateBox) :=
  if p then box.map fun b => [b] else some []

/-- The lead of the first row that starts at or after a value. -/
def wholeFrom? (first : Nat) : Option CodeUnit := do
  let offset ← sub? first 0x10000
  let offset ← word? UInt32.size (offset + 0x3FF)
  behind? 0xD800 (offset / 0x400)

/-- The lead of the last row that ends at or before a value. -/
def wholeTo? (last : Nat) : Option CodeUnit := do
  let offset ← sub? last 0x10000
  let offset ← sub? offset 0x3FF
  behind? 0xD800 (offset / 0x400)

/-- The boxes of the values from `first` to `last`, all above U+FFFF. -/
def ofSupplementary? (first last : Nat) : Option (List SurrogateBox) := do
  let leadFirst ← lead? first
  let trailFirst ← trail? first
  let leadLast ← lead? last
  let trailLast ← trail? last
  if leadFirst = leadLast then
    let box ← of? leadFirst leadLast trailFirst trailLast
    return [box]
  else
    let wholeFrom ← wholeFrom? first
    let wholeTo ← wholeTo? last
    let head ← only? (leadFirst < wholeFrom) (of? leadFirst leadFirst trailFirst 0xDFFF)
    let body ← only? (wholeFrom ≤ wholeTo) (of? wholeFrom wholeTo 0xDC00 0xDFFF)
    let foot ← only? (wholeTo < leadLast) (of? leadLast leadLast 0xDC00 trailLast)
    return head ++ body ++ foot

/-- The boxes of the supplementary part of a range, in ascending order. -/
def ofRange? (r : ScalarRange) : Option (List SurrogateBox) :=
  match r.supplementary? with
  | none => some []
  | some s => ofSupplementary? s.first s.last

variable {u u' v v' : CodeUnit}

theorem of?_eq (hleads : u ≤ u') (htrails : v ≤ v') : of? u u' v v' = some ⟨⟨u, u'⟩, ⟨v, v'⟩⟩ := by
  rw [of?, bind_of_eq_some (UnitSpan.of?_eq hleads), bind_of_eq_some (UnitSpan.of?_eq htrails)]
  rfl

/-- A box that is only there on a condition needs to be right on that condition only. -/
theorem only?_eq {p q : Prop} [Decidable p] [Decidable q] {box : Option SurrogateBox}
    {b : SurrogateBox} (hpq : p ↔ q) (hbox : q → box = some b) :
    only? p box = some (if q then [b] else []) := by
  rw [only?]
  by_cases hq : q
  · rw [if_pos (hpq.mpr hq), if_pos hq, hbox hq, Option.map_some]
  · rw [if_neg (mt hpq.mp hq), if_neg hq]

variable {m n scalar offset : Nat}

theorem rowLead_inj (hm : m ≤ 0x3FF) (hn : n ≤ 0x3FF) : rowLead m = rowLead n ↔ m = n := by
  rw [← UInt16.toNat_inj, toNat_rowLead hm, toNat_rowLead hn, Nat.add_left_cancel_iff]

theorem rowLead_le_iff (hm : m ≤ 0x3FF) (hn : n ≤ 0x3FF) : rowLead m ≤ rowLead n ↔ m ≤ n := by
  rw [UInt16.le_iff_toNat_le, toNat_rowLead hm, toNat_rowLead hn, Nat.add_le_add_iff_left]

theorem rowLead_lt_iff (hm : m ≤ 0x3FF) (hn : n ≤ 0x3FF) : rowLead m < rowLead n ↔ m < n := by
  rw [UInt16.lt_iff_toNat_lt, toNat_rowLead hm, toNat_rowLead hn, Nat.add_lt_add_iff_left]

theorem behind?_eq_rowLead (hoffset : offset = scalar - 0x10000) (hrow : row scalar ≤ 0x3FF) :
    behind? 0xD800 (offset / 0x400) = some (rowLead (row scalar)) := by
  have hfits : 0xD800 + offset / 0x400 < UInt16.size := by
    rw [row] at hrow
    simp only [UInt16.size]
    omega
  rw [behind?_eq hfits, hoffset]
  rfl

theorem lead?_eq_rowLead (hmin : 0xFFFF < scalar) (hrow : row scalar ≤ 0x3FF) :
    lead? scalar = some (rowLead (row scalar)) := by
  have hbase : 0x10000 ≤ scalar := hmin
  rw [lead?, bind_of_eq_some (guard_of_pos hmin), bind_of_eq_some (sub?_of_le hbase),
    behind?_eq_rowLead rfl hrow]

theorem trail_le (n : Nat) : trail n ≤ 0xDFFF :=
  UInt16.le_iff_toNat_le.mpr (isTrail_trail n).2

theorem le_trail (n : Nat) : 0xDC00 ≤ trail n :=
  UInt16.le_iff_toNat_le.mpr (isTrail_trail n).1

theorem row_mono (h : m ≤ n) : row m ≤ row n := by
  unfold row
  omega

namespace Stretch

variable {first last : Nat} (h : Stretch first last)
include h

theorem lt_last : 0xFFFF < last :=
  Nat.lt_of_lt_of_le h.lt_first h.first_le

theorem row_last_le : row last ≤ 0x3FF := by
  have hlast := h.last_le
  unfold row
  omega

theorem row_first_le : row first ≤ 0x3FF :=
  Nat.le_trans (row_mono h.first_le) h.row_last_le

/-- Where the ends lie in different rows, the first whole row is one of those that there are. -/
theorem row_wholeFrom_le (hrow : row first ≠ row last) : row (first + 0x3FF) ≤ 0x3FF := by
  obtain ⟨hlt, hle, hmax⟩ := h
  simp only [row] at *
  omega

theorem row_wholeTo_le : row (last - 0x3FF) ≤ 0x3FF :=
  Nat.le_trans (row_mono (Nat.sub_le last 0x3FF)) h.row_last_le

/-- In one row, the trails are ordered as the values are. -/
theorem trail_le_trail (hrow : row first = row last) : trail first ≤ trail last := by
  obtain ⟨hlt, hle, -⟩ := h
  rw [UInt16.le_iff_toNat_le, toNat_trail, toNat_trail]
  unfold row at hrow
  omega

theorem wholeFrom?_eq (hrow : row first ≠ row last) :
    wholeFrom? first = some (rowLead (row (first + 0x3FF))) := by
  have hbase : 0x10000 ≤ first := h.lt_first
  have hmax : first ≤ 0x10FFFF := Nat.le_trans h.first_le h.last_le
  have hword : first - 0x10000 + 0x3FF < UInt32.size := by
    simp only [UInt32.size]
    omega
  rw [wholeFrom?, bind_of_eq_some (sub?_of_le hbase), bind_of_eq_some (word?_of_lt hword)]
  exact behind?_eq_rowLead (by omega) (h.row_wholeFrom_le hrow)

/-- Where the ends lie in different rows, the last value is a row above U+FFFF at least, so
that a row can be taken off. -/
theorem wholeTo?_eq (hrow : row first ≠ row last) :
    wholeTo? last = some (rowLead (row (last - 0x3FF))) := by
  have hbase : 0x10000 ≤ last := h.lt_last
  have hoffset : 0x3FF ≤ last - 0x10000 := by
    have hle := h.first_le
    simp only [row] at hrow
    omega
  rw [wholeTo?, bind_of_eq_some (sub?_of_le hbase), bind_of_eq_some (sub?_of_le hoffset)]
  exact behind?_eq_rowLead (Nat.sub_right_comm ..) h.row_wholeTo_le

/-- The boxes of a stretch are computed without a fault. -/
theorem ofSupplementary?_eq :
    ofSupplementary? first last = some (ofSupplementary first last) := by
  have hfirst := h.row_first_le
  have hlast := h.row_last_le
  rw [ofSupplementary?, bind_of_eq_some (lead?_eq_rowLead h.lt_first hfirst),
    bind_of_eq_some (trail?_eq h.lt_first), bind_of_eq_some (lead?_eq_rowLead h.lt_last hlast),
    bind_of_eq_some (trail?_eq h.lt_last), ofSupplementary]
  by_cases hrow : row first = row last
  · have hbox := of?_eq ((rowLead_le_iff hfirst hlast).mpr (Nat.le_of_eq hrow))
      (h.trail_le_trail hrow)
    rw [if_pos ((rowLead_inj hfirst hlast).mpr hrow), if_pos hrow, bind_of_eq_some hbox, hrow]
    rfl
  · -- The conditions on the boxes compare leads.  Up to row 0x3FF that compares the rows.
    have hfrom := h.row_wholeFrom_le hrow
    have hto := h.row_wholeTo_le
    have hwhole : (0xDC00 : CodeUnit) ≤ 0xDFFF := by decide
    have hhead := only?_eq (rowLead_lt_iff hfirst hfrom)
      fun _ => of?_eq (UInt16.le_refl (rowLead (row first))) (trail_le first)
    have hbody := only?_eq (rowLead_le_iff hfrom hto)
      fun hle => of?_eq ((rowLead_le_iff hfrom hto).mpr hle) hwhole
    have hfoot := only?_eq (rowLead_lt_iff hto hlast)
      fun _ => of?_eq (UInt16.le_refl (rowLead (row last))) (le_trail last)
    rw [if_neg (mt (rowLead_inj hfirst hlast).mp hrow), if_neg hrow,
      bind_of_eq_some (h.wholeFrom?_eq hrow), bind_of_eq_some (h.wholeTo?_eq hrow),
      bind_of_eq_some hhead, bind_of_eq_some hbody, bind_of_eq_some hfoot]
    rfl

end Stretch

theorem ofRange?_eq (r : ScalarRange) : ofRange? r = some (ofRange r) := by
  rw [ofRange?, ofRange]
  cases hs : r.supplementary? with
  | none => rfl
  | some s => exact (stretch_of_supplementary? hs).1.ofSupplementary?_eq

end SurrogateBox

/-! ## Matchers -/

namespace Matcher

/-- The windows of leads that open a pair, each with its trails. -/
def rows? (boxes : List SurrogateBox) : Option (List Row) := do
  let windows ← Bounds.windows? (boxes.map fun b => b.leads.bounds)
  let rows := windows.map fun window => (⟨window, trailsOver boxes window⟩ : Row)
  return rows.filter fun row => !row.trails.isEmpty

/-- The matcher of a list of ranges, in any order.  The mappings of each of its tables are
checked as the table is filled. -/
def ofRanges? (l : List ScalarRange) : Option Matcher := do
  let ranges ← ScalarRange.normalize? l
  let units ← StepTable.ofMappings? unitCeiling false (unitMappings ranges)
  let boxes ← ranges.mapM SurrogateBox.ofRange?
  let rows ← rows? boxes.flatten
  let (mappings, sets) ← TrailSets.empty.internRows? rows
  let leads ← StepTable.ofMappings? unitCeiling none mappings
  return ⟨ranges.toArray, units, boxes.flatten, leads, sets.tables⟩

/-- Whether the trail is among those that may follow the lead.  The place that the lead
selects must be one of those in use. -/
def acceptsTrail? (m : Matcher) (u v : CodeUnit) : Option Bool :=
  match m.leads.step? u.toNat with
  | some (some place) => do
      let trails ← m.trailSets[place]?
      return trails.step? v.toNat == some true
  | _ => some false

/-- What a matcher and its tables rely on without a check. -/
structure Preconditions (l : List ScalarRange) : Prop where
  /-- Mappings ascend in order below the ceiling, those of units, of leads and of trails. -/
  units : Mapping.Admissible unitCeiling 0 (unitMappings (ScalarRange.normalize l))
  leads : Mapping.Admissible unitCeiling 0 (leadMappings (rows (ofRanges l).boxes))
  trails : ∀ row ∈ rows (ofRanges l).boxes,
    Mapping.Admissible unitCeiling 0 (trailMappings row.trails)
  /-- The trails of two boxes over one window have none in common. -/
  disjoint : ∀ window ∈ Bounds.windows ((ofRanges l).boxes.map fun b => b.leads.bounds),
    (trailsOver (ofRanges l).boxes window).Pairwise fun s t => ∀ v, ¬(v ∈ s ∧ v ∈ t)
  boxes_ordered : ∀ b ∈ (ofRanges l).boxes, b.leads.Ordered ∧ b.trails.Ordered
  units_ordered : ∀ s ∈ (ofRanges l).unitSpans, s.Ordered
  /-- Every place that is stored is the place of a set of trails. -/
  places : ∀ row ∈ (ofRanges l).leads.rows, ∀ place, row.step = some place →
    place < (ofRanges l).trailSets.size

variable (l : List ScalarRange)

theorem rows?_eq (boxes : List SurrogateBox) : rows? boxes = some (rows boxes) := by
  have hfits : ∀ bounds ∈ boxes.map fun b : SurrogateBox => b.leads.bounds,
      bounds.max + 1 < UInt32.size := by
    intro bounds hbounds
    obtain ⟨b, -, rfl⟩ := List.mem_map.mp hbounds
    have hmax := b.leads.max.toNat_lt
    simp only [UnitSpan.bounds, UInt32.size]
    omega
  rw [rows?, bind_of_eq_some (Bounds.windows?_eq hfits)]
  rfl

theorem boxes?_eq :
    (ScalarRange.normalize l).mapM SurrogateBox.ofRange? =
      some ((ScalarRange.normalize l).map SurrogateBox.ofRange) :=
  mapM_eq_some_map fun r _ => SurrogateBox.ofRange?_eq r

theorem wellFormed_boxes : ∀ b ∈ (ofRanges l).boxes, b.WellFormed :=
  fun _ hb => SurrogateBox.wellFormed_of_mem_flatMap hb

theorem apart_boxes : (ofRanges l).boxes.Pairwise SurrogateBox.Apart :=
  SurrogateBox.pairwise_apart_flatMap (ScalarRange.separated_normalize l)

/-- A place that is stored belongs to a row. -/
theorem places_lt {row : StepRow (Option Nat)} (hrow : row ∈ (ofRanges l).leads.rows)
    {place : Nat} (hplace : row.step = some place) : place < (ofRanges l).trailSets.size := by
  rw [leads_ofRanges] at hrow
  rcases StepTable.step_of_mem_ofMappings hrow with hnone | ⟨m, hm, hstep⟩
  · rw [hplace] at hnone
    contradiction
  · obtain ⟨leads, hleads, rfl⟩ := List.mem_map.mp hm
    obtain rfl := Option.some.inj (hstep.trans hplace)
    obtain ⟨hlt, -⟩ := Array.getElem?_eq_some_iff.mp (getElem?_trailSets l hleads)
    exact hlt

theorem preconditions : Preconditions l where
  units := admissible_unitMappings (ScalarRange.separated_normalize l)
  leads := admissible_leadMappings
  trails := fun _ hrow => admissible_trailMappings (wellFormed_boxes l) (apart_boxes l) hrow
  disjoint := fun _ hw => pairwise_trailsOver (apart_boxes l) (Bounds.mem_windows.mp hw).1
  boxes_ordered := by
    intro b hb
    have hwell := wellFormed_boxes l b hb
    exact ⟨UInt16.le_iff_toNat_le.mpr hwell.leads_le, UInt16.le_iff_toNat_le.mpr hwell.trails_le⟩
  units_ordered := (ofRanges l).ordered_unitSpans
  places := fun _ hrow _ hplace => places_lt l hrow hplace

/-- A matcher is built without a fault. -/
theorem ofRanges?_eq : ofRanges? l = some (ofRanges l) := by
  have h := preconditions l
  have hboxes : ((ScalarRange.normalize l).map SurrogateBox.ofRange).flatten =
      (ofRanges l).boxes := List.flatMap_def.symm
  obtain ⟨sets, hintern, htables⟩ := TrailSets.exists_internRows?_empty h.trails
  rw [ofRanges?, bind_of_eq_some (ScalarRange.normalize?_eq l),
    bind_of_eq_some (ofMappings?_eq h.units), bind_of_eq_some (boxes?_eq l), hboxes,
    bind_of_eq_some (rows?_eq _), bind_of_eq_some hintern]
  dsimp only
  rw [bind_of_eq_some (ofMappings?_eq h.leads), htables]
  rfl

/-- Where all places that are stored are in use, no lead selects another. -/
theorem acceptsTrail?_eq {m : Matcher}
    (h : ∀ row ∈ m.leads.rows, ∀ place, row.step = some place → place < m.trailSets.size)
    (u v : CodeUnit) : m.acceptsTrail? u v = some (m.acceptsTrail u v) := by
  rw [acceptsTrail?, acceptsTrail]
  cases hlead : m.leads.step? u.toNat with
  | none => rfl
  | some step =>
      cases step with
      | none => rfl
      | some place =>
          obtain ⟨row, hrow, hstep⟩ := StepTable.exists_mem_of_step? hlead
          simp only [Array.getElem?_eq_getElem (h row hrow place hstep)]
          rfl

end Matcher

/-! ## Classifiers -/

namespace Classifier

variable {α : Type} [DecidableEq α]

/-- The classifier of some entries, of which the earlier have priority. -/
def ofEntries? (entries : List (Entry α)) : Option (Classifier α) := do
  let windows ← Bounds.windows? (bounds entries)
  let mappings := windows.filterMap fun window =>
    (firstContaining? entries window.min).map fun e => ⟨window, some e.property⟩
  let lookup ← StepTable.ofMappings? scalarCeiling none mappings
  return ⟨entries, lookup⟩

/-- A classifier is built without a fault. -/
theorem ofEntries?_eq (entries : List (Entry α)) :
    ofEntries? entries = some (ofEntries entries) := by
  have hfits : ∀ b ∈ bounds entries, b.max + 1 < UInt32.size := by
    intro b hb
    obtain ⟨e, -, hr⟩ := List.mem_flatMap.mp hb
    obtain ⟨r, -, rfl⟩ := List.mem_map.mp hr
    exact r.last_succ_lt
  have hlookup : StepTable.ofMappings? scalarCeiling none (mappings entries) =
      some (.ofMappings scalarCeiling none (mappings entries)) :=
    (StepTable.ofMappings?_eq_some_iff (by decide)).mpr
      ⟨admissible_mappings entries, rfl⟩
  rw [ofEntries?, bind_of_eq_some (Bounds.windows?_eq hfits)]
  exact bind_of_eq_some hlookup _

end Classifier

/-- Matchers of any ranges and classifiers of any entries are built without a fault: no number
leaves its word, and every condition on arguments holds.  Their parts keep what is relied on
without a check, so that no lookup of a pair reads past the sets of trails. -/
theorem construction_keeps_preconditions :
    (∀ l : List ScalarRange,
      Matcher.ofRanges? l = some (Matcher.ofRanges l) ∧ Matcher.Preconditions l ∧
        ∀ u v, (Matcher.ofRanges l).acceptsTrail? u v =
          some ((Matcher.ofRanges l).acceptsTrail u v)) ∧
      ∀ (α : Type) [DecidableEq α] (entries : List (Classifier.Entry α)),
        Classifier.ofEntries? entries = some (Classifier.ofEntries entries) ∧
          Mapping.Admissible Classifier.scalarCeiling 0 (Classifier.mappings entries) := by
  constructor
  · intro l
    have h := Matcher.preconditions l
    exact ⟨Matcher.ofRanges?_eq l, h, Matcher.acceptsTrail?_eq h.places⟩
  · intro α _ entries
    exact ⟨Classifier.ofEntries?_eq entries, Classifier.admissible_mappings entries⟩

end TextBoundary
