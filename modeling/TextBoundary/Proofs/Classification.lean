import Mathlib.Data.List.Find
import Mathlib.Data.List.Forall2
import TextBoundary.Classifier
import TextBoundary.Proofs.Acceptance

/-!
# What a classifier answers

A compiled classifier gives a codepoint the property of the first table entry
whose bounds hold it.  Compiling replaces every entry by a matcher of the same
numbers, and between two cuts every matcher holds all numbers or none, so the
mappings of the windows answer as a search through the entries does.

Compiled entries hold no surrogates.  A lone surrogate is therefore never
classified and never accepted.
-/

namespace TextBoundary

/-! ## Compiling a list -/

/-- A list is compiled element by element. -/
theorem forall₂_of_mapM_eq_ok {α β ε : Type} {f : α → Except ε β} {l : List α}
    {compiled : List β} (h : l.mapM f = .ok compiled) :
    List.Forall₂ (fun a b => f a = .ok b) l compiled := by
  induction l generalizing compiled with
  | nil =>
      obtain rfl : [] = compiled := by simpa [pure, Except.pure] using h
      exact List.Forall₂.nil
  | cons a l ih =>
      rw [List.mapM_cons] at h
      cases hfirst : f a with
      | error e => simp [hfirst, bind, Except.bind] at h
      | ok b =>
          cases hrest : l.mapM f with
          | error e => simp [hfirst, hrest, bind, Except.bind] at h
          | ok rest =>
              obtain rfl : b :: rest = compiled := by
                simpa [hfirst, hrest, bind, Except.bind, pure, Except.pure] using h
              exact List.Forall₂.cons hfirst (ih hrest)

theorem exists_of_forall₂_of_mem {α β : Type} {R : α → β → Prop} {l : List α} {l' : List β}
    (h : List.Forall₂ R l l') {b : β} (hb : b ∈ l') : ∃ a ∈ l, R a b := by
  induction h with
  | nil => simp at hb
  | @cons a b' l l' hab _ ih =>
      rcases List.mem_cons.mp hb with rfl | hb
      · exact ⟨a, by simp, hab⟩
      · obtain ⟨a', ha', hab'⟩ := ih hb
        exact ⟨a', List.mem_cons_of_mem a ha', hab'⟩

/-- A list compiles when each of its elements does. -/
theorem exists_mapM_eq_ok {α β ε : Type} {f : α → Except ε β} {l : List α}
    (h : ∀ a ∈ l, ∃ b, f a = .ok b) : ∃ compiled, l.mapM f = .ok compiled := by
  induction l with
  | nil => exact ⟨[], rfl⟩
  | cons a l ih =>
      obtain ⟨b, hb⟩ := h a (by simp)
      obtain ⟨rest, hrest⟩ := ih fun a ha => h a (List.mem_cons_of_mem _ ha)
      exact ⟨b :: rest, by simp [hb, hrest, bind, Except.bind, pure, Except.pure]⟩

namespace ScalarRange

/-- Compiled bounds cover the numbers that the bounds hold. -/
theorem covered_of_ofBoundsList {bounds : List Bounds} {ranges : List ScalarRange}
    (h : ofBoundsList bounds = .ok ranges) (n : Nat) :
    Covered ranges n ↔ ∃ b ∈ bounds, n ∈ b := by
  have hcompiled := forall₂_of_mapM_eq_ok h
  clear h
  induction hcompiled with
  | nil => simp
  | @cons b r bounds ranges hb _ ih =>
      have hmem : n ∈ r ↔ n ∈ b := by
        unfold ofBounds at hb
        split_ifs at hb
        obtain rfl := Except.ok.inj hb
        rfl
      simp [ih, hmem]

theorem Covered.not_surrogate {ranges : List ScalarRange} {n : Nat} (h : Covered ranges n) :
    ¬(0xD800 ≤ n ∧ n ≤ 0xDFFF) := by
  obtain ⟨r, -, hn⟩ := h
  have := r.avoids_surrogates
  rw [mem_iff] at hn
  omega

theorem Covered.le {ranges : List ScalarRange} {n : Nat} (h : Covered ranges n) :
    n ≤ 0x10FFFF := by
  obtain ⟨r, -, hn⟩ := h
  exact Nat.le_trans hn.2 r.last_le

end ScalarRange

namespace Matcher

/-- A matcher that was built from ranges. -/
def IsBuilt (m : Matcher) : Prop :=
  ∃ ranges, m = ofRanges ranges

variable {m : Matcher}

/-- The ranges of compiled bounds. -/
theorem exists_ranges_of_ofBounds {bounds : List Bounds} (h : ofBounds bounds = .ok m) :
    ∃ ranges, ScalarRange.ofBoundsList bounds = .ok ranges ∧ m = ofRanges ranges := by
  rw [ofBounds] at h
  cases hranges : ScalarRange.ofBoundsList bounds with
  | error cause => simp [hranges, Except.map] at h
  | ok ranges =>
      rw [hranges] at h
      exact ⟨ranges, rfl, (Except.ok.inj h).symm⟩

theorem IsBuilt.containsScalar_iff (h : m.IsBuilt) (n : Nat) :
    m.containsScalar n = true ↔ ∃ r ∈ m.ranges.toList, n ∈ r := by
  obtain ⟨ranges, rfl⟩ := h
  rw [containsScalar_ofRanges, ← ScalarRange.covered_normalize]
  rfl

/-- The two tests of a matcher agree on codepoints. -/
theorem IsBuilt.acceptsCodepoint_eq (h : m.IsBuilt) (c : Codepoint) :
    m.acceptsCodepoint c = m.containsScalar c.value := by
  obtain ⟨ranges, rfl⟩ := h
  rw [Bool.eq_iff_iff, acceptsCodepoint_ofRanges, containsScalar_ofRanges]

theorem IsBuilt.containsScalar_of_surrogate (h : m.IsBuilt) {n : Nat}
    (hn : 0xD800 ≤ n ∧ n ≤ 0xDFFF) : m.containsScalar n = false := by
  obtain ⟨ranges, rfl⟩ := h
  rw [Bool.eq_false_iff, ne_eq, containsScalar_ofRanges]
  exact fun hcovered => hcovered.not_surrogate hn

theorem IsBuilt.containsScalar_of_lt (h : m.IsBuilt) {n : Nat} (hn : 0x10FFFF < n) :
    m.containsScalar n = false := by
  obtain ⟨ranges, rfl⟩ := h
  rw [Bool.eq_false_iff, ne_eq, containsScalar_ofRanges]
  intro hcovered
  have := hcovered.le
  omega

end Matcher

namespace Classifier

variable {α : Type} {entries : List (Entry α)}

/-- All entries of a window hold all of its numbers or none. -/
theorem firstContaining?_eq_of_mem_window (hbuilt : ∀ e ∈ entries, e.matcher.IsBuilt)
    {w : Bounds} (hw : w ∈ Bounds.windows (bounds entries)) {m n : Nat}
    (hm : m ∈ w) (hn : n ∈ w) :
    firstContaining? entries m = firstContaining? entries n := by
  apply List.find?_congr
  intro e he
  rw [Bool.eq_iff_iff, (hbuilt e he).containsScalar_iff, (hbuilt e he).containsScalar_iff]
  have hbounds : ∀ r ∈ e.matcher.ranges.toList, r.bounds ∈ bounds entries := fun r hr =>
    List.mem_flatMap.mpr ⟨e, he, List.mem_map_of_mem hr⟩
  have hsame : ∀ r ∈ e.matcher.ranges.toList, (m ∈ r ↔ n ∈ r) := fun r hr =>
    Bounds.mem_iff_mem_of_mem_windows (hbounds r hr) hw hm hn
  exact ⟨fun ⟨r, hr, hmem⟩ => ⟨r, hr, (hsame r hr).mp hmem⟩,
    fun ⟨r, hr, hmem⟩ => ⟨r, hr, (hsame r hr).mpr hmem⟩⟩

/-- Between cuts, the first entry that holds the least number holds them all. -/
theorem mem_mappings {key : Nat} {value : Option α}
    (hbuilt : ∀ e ∈ entries, e.matcher.IsBuilt) :
    (∃ m ∈ mappings entries, key ∈ m.keys ∧ m.step = value) ↔
      ∃ e, firstContaining? entries key = some e ∧ some e.property = value := by
  constructor
  · rintro ⟨m, hm, hkey, rfl⟩
    obtain ⟨w, hw, hfirst⟩ := List.mem_filterMap.mp hm
    obtain ⟨e, he, rfl⟩ := Option.map_eq_some_iff.mp hfirst
    have hmin : w.min ∈ w := ⟨Nat.le_refl _, (Bounds.mem_windows.mp hw).1⟩
    exact ⟨e, by rw [← firstContaining?_eq_of_mem_window hbuilt hw hmin hkey, he], rfl⟩
  · rintro ⟨e, he, rfl⟩
    have hcontains := List.find?_some he
    have hmem := List.mem_of_find?_eq_some he
    obtain ⟨r, hr, hn⟩ := ((hbuilt e hmem).containsScalar_iff key).mp hcontains
    have hbounds : r.bounds ∈ bounds entries :=
      List.mem_flatMap.mpr ⟨e, hmem, List.mem_map_of_mem hr⟩
    obtain ⟨w, hw, hkey⟩ := Bounds.exists_mem_windows hbounds (n := key) hn
    have hmin : w.min ∈ w := ⟨Nat.le_refl _, (Bounds.mem_windows.mp hw).1⟩
    refine ⟨⟨w, some e.property⟩, List.mem_filterMap.mpr ⟨w, hw, ?_⟩, hkey, rfl⟩
    rw [firstContaining?_eq_of_mem_window hbuilt hw hmin hkey, he, Option.map_some]

theorem admissible_mappings (entries : List (Entry α)) :
    Mapping.Admissible scalarCeiling 0 (mappings entries) := by
  apply Mapping.admissible_of_pairwise
  · rw [mappings, List.pairwise_filterMap]
    apply (Bounds.pairwise_windows _).imp
    intro v w hvw m hm m' hm'
    obtain ⟨e, -, rfl⟩ := Option.map_eq_some_iff.mp hm
    obtain ⟨e', -, rfl⟩ := Option.map_eq_some_iff.mp hm'
    exact hvw
  · intro m hm
    obtain ⟨w, hw, hfirst⟩ := List.mem_filterMap.mp hm
    obtain ⟨e, -, rfl⟩ := Option.map_eq_some_iff.mp hfirst
    refine ⟨Nat.zero_le _, (Bounds.mem_windows.mp hw).1, ?_⟩
    apply Bounds.max_lt_of_mem_windows hw
    intro b hb
    obtain ⟨e, -, hr⟩ := List.mem_flatMap.mp hb
    obtain ⟨r, -, rfl⟩ := List.mem_map.mp hr
    have := r.first_le_last
    have := r.last_le
    simp only [ScalarRange.bounds, scalarCeiling]
    omega

/-- A number has the property of the first entry that holds it. -/
theorem classify_ofEntries [DecidableEq α] (hbuilt : ∀ e ∈ entries, e.matcher.IsBuilt)
    (n : Nat) :
    (ofEntries entries).classify n = (firstContaining? entries n).map Entry.property := by
  have hadmissible := admissible_mappings entries
  have hvalue : ∀ value, Mapping.value? (mappings entries) n = some value ↔
      ∃ e, firstContaining? entries n = some e ∧ some e.property = value := fun value =>
    (Mapping.value?_eq_some_iff hadmissible).trans (mem_mappings hbuilt)
  rw [classify, ofEntries, StepTable.step?_ofMappings hadmissible]
  cases hfirst : firstContaining? entries n with
  | none =>
      have hnone : Mapping.value? (mappings entries) n = none := by
        rw [Option.eq_none_iff_forall_ne_some]
        intro value hsome
        obtain ⟨e, he, -⟩ := (hvalue value).mp hsome
        rw [hfirst] at he
        contradiction
      rw [hnone]
      split <;> rfl
  | some e =>
      have hlt : n < scalarCeiling := by
        by_contra hge
        have hmem := List.mem_of_find?_eq_some hfirst
        have hcontains := List.find?_some hfirst
        have hnot := (hbuilt e hmem).containsScalar_of_lt (n := n)
          (by simp only [scalarCeiling] at hge; omega)
        simp [hnot] at hcontains
      rw [if_pos hlt, (hvalue (some e.property)).mpr ⟨e, hfirst, rfl⟩]
      rfl

/-- A lone surrogate has no property. -/
theorem classifyCodepoint_of_isLoneSurrogate [DecidableEq α]
    (hbuilt : ∀ e ∈ entries, e.matcher.IsBuilt) {c : Codepoint} (hc : c.IsLoneSurrogate) :
    (ofEntries entries).classifyCodepoint c = none := by
  rw [classifyCodepoint, classify_ofEntries hbuilt, Option.map_eq_none_iff,
    firstContaining?, List.find?_eq_none]
  intro e he
  simp [(hbuilt e he).containsScalar_of_surrogate hc]

end Classifier

/-! ## Compiled tables -/

namespace Unicode

/-- An entry of a table holds a number when some of its bounds do. -/
def PropertyEntry.Holds (e : PropertyEntry) (n : Nat) : Prop :=
  ∃ b ∈ e.ranges, n ∈ b

instance (e : PropertyEntry) (n : Nat) : Decidable (e.Holds n) :=
  inferInstanceAs (Decidable (∃ b ∈ e.ranges, n ∈ b))

end Unicode

namespace Classifier

open Unicode

variable {α : Type} [NamedProperty α]

/-- The entries that a source stands for. -/
def Source.entries : Source → List PropertyEntry
  | .table t => t.entries
  | .entry t property => (t.find? property).toList

/-- An entry of a classifier stands for an entry of a table: it has the property of that
name and the matcher of those bounds. -/
structure StandsFor (pe : PropertyEntry) (e : Entry α) : Prop where
  named : NamedProperty.ofName? pe.property = some e.property
  compiled : Matcher.ofBounds pe.ranges = .ok e.matcher

theorem StandsFor.built {pe : PropertyEntry} {e : Entry α} (h : StandsFor pe e) :
    e.matcher.IsBuilt := by
  obtain ⟨ranges, -, hmatcher⟩ := Matcher.exists_ranges_of_ofBounds h.compiled
  exact ⟨ranges, hmatcher⟩

theorem StandsFor.containsScalar_iff {pe : PropertyEntry} {e : Entry α} (h : StandsFor pe e)
    (n : Nat) : e.matcher.containsScalar n = true ↔ pe.Holds n := by
  obtain ⟨ranges, hranges, hmatcher⟩ := Matcher.exists_ranges_of_ofBounds h.compiled
  rw [hmatcher, Matcher.containsScalar_ofRanges, ScalarRange.covered_of_ofBoundsList hranges]
  rfl

theorem standsFor_of_compileEntry {table : PropertyTable} {pe : PropertyEntry} {e : Entry α}
    (h : table.compileEntry pe = .ok e) : StandsFor pe e := by
  unfold PropertyTable.compileEntry at h
  split at h
  next => contradiction
  next property hproperty =>
    split at h
    next => contradiction
    next matcher hmatcher =>
      obtain rfl := Except.ok.inj h
      exact ⟨hproperty, hmatcher⟩

theorem standsFor_of_compile {source : Source} {entries : List (Entry α)}
    (h : source.compile = .ok entries) :
    List.Forall₂ StandsFor source.entries entries := by
  cases source with
  | table t => exact (forall₂_of_mapM_eq_ok h).imp fun _ _ => standsFor_of_compileEntry
  | entry t property =>
      rw [Source.compile] at h
      rw [Source.entries]
      cases hfind : t.find? property with
      | none => simp [hfind] at h
      | some pe =>
          cases hcompile : t.compileEntry (α := α) pe with
          | error cause => simp [hfind, hcompile, Except.map] at h
          | ok e =>
              obtain rfl : [e] = entries := by
                simpa [hfind, hcompile, Except.map] using h
              exact List.Forall₂.cons (standsFor_of_compileEntry hcompile) List.Forall₂.nil

/-- A classifier is made of entries that stand for those of its sources. -/
theorem exists_entries_of_ofSources [DecidableEq α] {sources : List Source}
    {c : Classifier α} (h : ofSources sources = .ok c) :
    List.Forall₂ StandsFor (sources.flatMap Source.entries) c.entries ∧
      c = ofEntries c.entries := by
  rw [ofSources] at h
  cases hcompile : sources.mapM (Source.compile (α := α)) with
  | error cause => simp [hcompile, Except.map] at h
  | ok parts =>
      obtain rfl : ofEntries parts.flatten = c := by simpa [hcompile, Except.map] using h
      have hparts := forall₂_of_mapM_eq_ok hcompile
      refine ⟨?_, rfl⟩
      change List.Forall₂ StandsFor (sources.flatMap Source.entries) parts.flatten
      clear h hcompile
      induction hparts with
      | nil => exact List.Forall₂.nil
      | cons hpart _ ih => exact List.rel_append (standsFor_of_compile hpart) ih

/-- The first entry of a classifier that holds a number stands for the first entry
of its sources that does. -/
theorem firstContaining?_of_standsFor {pes : List PropertyEntry} {entries : List (Entry α)}
    (h : List.Forall₂ StandsFor pes entries) (n : Nat) :
    (firstContaining? entries n).map Entry.property =
      (pes.find? fun pe => pe.Holds n).bind fun pe => NamedProperty.ofName? pe.property := by
  induction h with
  | nil => rfl
  | @cons pe e pes entries hpe _ ih =>
      rw [firstContaining?] at ih ⊢
      by_cases hn : pe.Holds n
      · simp [(hpe.containsScalar_iff n).mpr hn, hn, hpe.named]
      · have hnot := mt (hpe.containsScalar_iff n).mp hn
        simp [hnot, hn, ih]

/-- The first entry of a classifier with a property stands for the first entry of its
sources that names it. -/
theorem exists_find?_of_standsFor [DecidableEq α] {pes : List PropertyEntry}
    {entries : List (Entry α)} (h : List.Forall₂ StandsFor pes entries) {property : α}
    {e : Entry α} (he : (entries.find? fun e => e.property = property) = some e) :
    ∃ pe, (pes.find? fun pe => NamedProperty.ofName? pe.property = some property) = some pe ∧
      StandsFor pe e := by
  induction h with
  | nil => contradiction
  | @cons pe e' pes entries hpe _ ih =>
      by_cases hproperty : e'.property = property
      · rw [List.find?_cons_of_pos (by simpa using hproperty)] at he
        obtain rfl := Option.some.inj he
        refine ⟨pe, List.find?_cons_of_pos ?_, hpe⟩
        simp [hpe.named, hproperty]
      · rw [List.find?_cons_of_neg (by simpa using hproperty)] at he
        rw [List.find?_cons_of_neg (by simp [hpe.named, hproperty])]
        exact ih he

section Compiled

variable [DecidableEq α] {sources : List Source} {c : Classifier α}
  (h : ofSources sources = .ok c)
include h

theorem isBuilt_of_mem_entries {e : Entry α} (he : e ∈ c.entries) : e.matcher.IsBuilt := by
  have hentries := (exists_entries_of_ofSources h).1
  obtain ⟨pe, -, hpe⟩ := exists_of_forall₂_of_mem hentries he
  exact hpe.built

/-- A number has the property of the first entry of the sources that holds it. -/
theorem classify_ofSources (n : Nat) :
    c.classify n = ((sources.flatMap Source.entries).find? fun pe => pe.Holds n).bind
      fun pe => NamedProperty.ofName? pe.property := by
  obtain ⟨hentries, hc⟩ := exists_entries_of_ofSources h
  rw [← firstContaining?_of_standsFor hentries,
    ← classify_ofEntries fun e he => isBuilt_of_mem_entries h he, ← hc]

theorem classifyCodepoint_of_lone {p : Codepoint} (hp : p.IsLoneSurrogate) :
    c.classifyCodepoint p = none := by
  obtain ⟨-, hc⟩ := exists_entries_of_ofSources h
  rw [hc]
  exact classifyCodepoint_of_isLoneSurrogate (fun e he => isBuilt_of_mem_entries h he) hp

/-- The matcher for a property accepts what the first entry with its name holds. -/
theorem exists_find?_of_matcher? {property : α} {m : Matcher}
    (hm : c.matcher? property = some m) :
    ∃ pe, ((sources.flatMap Source.entries).find? fun pe =>
        NamedProperty.ofName? pe.property = some property) = some pe ∧
      ∀ p : Codepoint, m.acceptsCodepoint p = true ↔ pe.Holds p.value := by
  obtain ⟨e, he, rfl⟩ := Option.map_eq_some_iff.mp hm
  obtain ⟨hentries, -⟩ := exists_entries_of_ofSources h
  obtain ⟨pe, hfind, hpe⟩ := exists_find?_of_standsFor hentries he
  refine ⟨pe, hfind, fun p => ?_⟩
  rw [hpe.built.acceptsCodepoint_eq, hpe.containsScalar_iff]

theorem acceptsCodepoint_eq_of_matcher? {property : α} {m : Matcher}
    (hm : c.matcher? property = some m) (p : Codepoint) :
    m.acceptsCodepoint p = ((sources.flatMap Source.entries).find? fun pe =>
      NamedProperty.ofName? pe.property = some property).any fun pe => pe.Holds p.value := by
  obtain ⟨pe, hfind, hholds⟩ := exists_find?_of_matcher? h hm
  rw [hfind, Option.any_some, Bool.eq_iff_iff, hholds, decide_eq_true_eq]

/-- The matcher for a property accepts what an entry with its name holds. -/
theorem acceptsCodepoint_of_matcher? {property : α} {m : Matcher}
    (hm : c.matcher? property = some m) :
    ∃ pe ∈ sources.flatMap Source.entries, NamedProperty.ofName? pe.property = some property ∧
      ∀ p : Codepoint, m.acceptsCodepoint p = true ↔ pe.Holds p.value := by
  obtain ⟨pe, hfind, hholds⟩ := exists_find?_of_matcher? h hm
  exact ⟨pe, List.mem_of_find?_eq_some hfind, by simpa using List.find?_some hfind, hholds⟩

/-- No matcher accepts a lone surrogate. -/
theorem not_isLoneSurrogate_of_matcher? {property : α} {m : Matcher}
    (hm : c.matcher? property = some m) {p : Codepoint} (hp : m.acceptsCodepoint p = true) :
    ¬p.IsLoneSurrogate := by
  obtain ⟨e, he, rfl⟩ := Option.map_eq_some_iff.mp hm
  have hbuilt := isBuilt_of_mem_entries h (List.mem_of_find?_eq_some he)
  intro hlone
  rw [hbuilt.acceptsCodepoint_eq, hbuilt.containsScalar_of_surrogate hlone] at hp
  contradiction

end Compiled

end Classifier
end TextBoundary
