import TextBoundary.Proofs.Boundary
import TextBoundary.Proofs.Compilation

/-!
# The grapheme cluster boundary rules

`Evaluator.rules` lists the extended grapheme cluster rules in order.  Most of them
ask for the two neighbours.  The last three ask what the text before a position ends
in: a consonant with a linker after it, a pictograph with a zero width joiner after
it, or an odd run of flag halves.

An evaluator answers the last three by scanning back, and each scan is shown to
decide membership in the expression of its rule.

The rules read codepoints through the evaluator.  What it takes from its tables is stated
by `ClassifiesBy`.
-/

namespace TextBoundary
namespace Grapheme
namespace Evaluator

open scoped Computability

/-- The expression for one codepoint with one of some properties. -/
def having (e : Evaluator) (properties : List Property) : Language Codepoint :=
  single fun c => ∃ p ∈ properties, e.propertyOf c = some p

/-- The expression for one codepoint with one of some parts in a conjunct. -/
def playing (e : Evaluator) (parts : List ConjunctProperty) : Language Codepoint :=
  single fun c => ∃ p ∈ parts, e.conjunctOf c = some p

/-- The expression for one codepoint that counts as a pictograph, whatever its
grapheme property is. -/
def pictograph (e : Evaluator) : Language Codepoint :=
  single fun c => e.pictographic.acceptsCodepoint c = true

/-- The rules that ask for the two neighbours only. -/
def adjacentRules (e : Evaluator) : List Rule :=
  [ -- GB3
    .join (e.having [.cr]) (e.having [.lf]),
    -- GB4, GB5
    .divide (e.having [.cr, .lf, .control]) 1,
    .divide 1 (e.having [.cr, .lf, .control]),
    -- GB6, GB7, GB8
    .join (e.having [.l]) (e.having [.l, .v, .lv, .lvt]),
    .join (e.having [.lv, .v]) (e.having [.v, .t]),
    .join (e.having [.lvt, .t]) (e.having [.t]),
    -- GB9, GB9a, GB9b
    .join 1 (e.having [.extend, .zwj]),
    .join 1 (e.having [.spacingMark]),
    .join (e.having [.prepend]) 1]

/-- The rules that ask what the text before a position ends in. -/
def contextRules (e : Evaluator) : List Rule :=
  let consonant := e.playing [.consonant]
  let linker := e.playing [.linker]
  let inner := e.playing [.linker, .extend]
  [ -- GB9c
    .join (consonant * inner∗ * linker * inner∗) consonant,
    -- GB11
    .join (e.pictograph * (e.having [.extend])∗ * e.having [.zwj]) e.pictograph,
    -- GB12, GB13
    ⟨oddRun e.isRegional, e.having [.regionalIndicator] * ⊤, false⟩]

/-- The grapheme cluster boundary rules in order. -/
def rules (e : Evaluator) : List Rule :=
  e.adjacentRules ++ e.contextRules

variable {e : Evaluator} {c : Codepoint} {l r : List Codepoint} {ps qs : List Property}

/-! ## The members of the groups -/

theorem exists_mem_isControl_iff {o : Option Property} :
    (∃ p ∈ [.cr, .lf, .control], o = some p) ↔ o.any Property.isControl = true := by
  rcases o with _ | p
  · simp
  · cases p <;> simp [Property.isControl]

theorem exists_mem_attaches_iff {o : Option Property} :
    ((∃ p ∈ [.extend, .zwj], o = some p) ∨ ∃ p ∈ [.spacingMark], o = some p) ↔
      o.any Property.attaches = true := by
  rcases o with _ | p
  · simp
  · cases p <;> simp [Property.attaches]

theorem joinsSyllable_eq_true_iff {p q : Property} :
    p.joinsSyllable q = true ↔
      p = .l ∧ (q = .l ∨ q = .v ∨ q = .lv ∨ q = .lvt) ∨
        (p = .lv ∨ p = .v) ∧ (q = .v ∨ q = .t) ∨ (p = .lvt ∨ p = .t) ∧ q = .t := by
  cases p <;> cases q <;> decide

theorem exists_mem_joinsSyllable_iff {o o' : Option Property} :
    ((∃ p ∈ [.l], o = some p) ∧ (∃ p ∈ [.l, .v, .lv, .lvt], o' = some p) ∨
      (∃ p ∈ [.lv, .v], o = some p) ∧ (∃ p ∈ [.v, .t], o' = some p) ∨
      (∃ p ∈ [.lvt, .t], o = some p) ∧ ∃ p ∈ [.t], o' = some p) ↔
      o.any (fun p => o'.any p.joinsSyllable) = true := by
  rcases o with _ | p
  · simp
  · rcases o' with _ | q
    · simp
    · simp [joinsSyllable_eq_true_iff]

/-! ## What the rules ask for -/

theorem mem_top_mul_having :
    l ∈ ⊤ * e.having ps ↔ ∃ p ∈ ps, l.getLast?.bind e.propertyOf = some p := by
  simp only [having, mem_top_mul_single, Option.bind_eq_some_iff]
  grind

theorem mem_having_mul_top :
    r ∈ e.having ps * ⊤ ↔ ∃ p ∈ ps, r.head?.bind e.propertyOf = some p := by
  simp only [having, mem_single_mul_top, Option.bind_eq_some_iff]
  grind

theorem isRegional_iff : e.isRegional c = true ↔ e.propertyOf c = some .regionalIndicator := by
  rw [isRegional, decide_eq_true_eq]

theorem breaks_adjacentRules_append (rules : List Rule) :
    Rule.Breaks (e.adjacentRules ++ rules) l r ↔
      ¬(l.getLast?.bind e.propertyOf = some .cr ∧ r.head?.bind e.propertyOf = some .lf) ∧
        ((l.getLast?.bind e.propertyOf).any Property.isControl ∨
          (r.head?.bind e.propertyOf).any Property.isControl ∨
          ¬(l.getLast?.bind e.propertyOf).any
              (fun p => (r.head?.bind e.propertyOf).any p.joinsSyllable) ∧
            ¬(r.head?.bind e.propertyOf).any Property.attaches ∧
            ¬l.getLast?.bind e.propertyOf = some .prepend ∧
            Rule.Breaks rules l r) := by
  rw [← exists_mem_joinsSyllable_iff, ← exists_mem_attaches_iff]
  simp only [adjacentRules, List.cons_append, List.nil_append, Rule.breaks_join_cons,
    Rule.breaks_divide_cons, mem_top_mul_having, mem_having_mul_top, exists_mem_isControl_iff,
    mem_top_mul_one, mem_one_mul_top, and_true, true_and, not_or, and_assoc]
  simp

theorem breaks_contextRules_iff :
    Rule.Breaks e.contextRules l r ↔
      ¬(l ∈ ⊤ * (e.playing [.consonant] * (e.playing [.linker, .extend])∗ *
            e.playing [.linker] * (e.playing [.linker, .extend])∗) ∧
          ∃ d, r.head? = some d ∧ e.conjunctOf d = some .consonant) ∧
        ¬(l ∈ ⊤ * (e.pictograph * (e.having [.extend])∗ * e.having [.zwj]) ∧
          ∃ d, r.head? = some d ∧ e.pictographic.acceptsCodepoint d = true) ∧
        ¬(l ∈ oddRun e.isRegional ∧ r.head?.bind e.propertyOf = some .regionalIndicator) := by
  simp only [contextRules, Rule.breaks_join_cons, Rule.breaks_cons_of_not_isBreak,
    Rule.Applies, Rule.breaks_nil, and_true, mem_having_mul_top]
  simp [playing, pictograph, mem_single_mul_top]

/-! ## What the scans find -/

/-- The text ends in a consonant followed by a linker and by nothing but linkers and
extenders. -/
theorem followsLinkedConsonant_iff (hlimit : e.limit = none) {t : Text} {pos : Nat}
    (hle : pos ≤ t.size) :
    e.followsLinkedConsonant t pos = true ↔
      t.before pos ∈ ⊤ * (e.playing [.consonant] * (e.playing [.linker, .extend])∗ *
        e.playing [.linker] * (e.playing [.linker, .extend])∗) := by
  have hconsonant : e.playing [.consonant] =
      single fun c => decide (e.conjunctOf c = some .consonant) = true := by
    simp [playing]
  have hlinker : e.playing [.linker] =
      single fun c => decide (e.conjunctOf c = some .linker) = true := by
    simp [playing]
  have hinner : e.playing [.linker, .extend] =
      single fun c => (e.conjunctOf c).any ConjunctProperty.isInner = true := by
    unfold playing
    congr 1
    funext c
    rcases e.conjunctOf c with _ | p
    · simp
    · cases p <;> simp [ConjunctProperty.isInner]
  have hfound := Text.map_codepoint_scan_found t .backward
    (fun c => (e.conjunctOf c).any ConjunctProperty.isInner) pos
  rw [hconsonant, hlinker, hinner, mul_assoc, mul_assoc,
    ← any_takeWhile_and_any_head?_dropWhile_iff (by simp; grind [ConjunctProperty.isInner])
      (by simp; grind [ConjunctProperty.isInner]),
    followsLinkedConsonant, hlimit, RunLimit.contextReach, Option.map_none, Text.scan_run,
    ← Text.map_codepoint_steps_backward hle, ← hfound, Option.any_map]

/-- Behind the last codepoint that is a pictograph or does not extend, all codepoints
extend, so a pictograph with nothing but extending codepoints behind it can only be that
one. -/
theorem mem_top_mul_pictograph_iff :
    l ∈ ⊤ * (e.pictograph * (e.having [.extend])∗) ↔
      (l.reverse.dropWhile fun c => !e.pictographic.acceptsCodepoint c &&
        e.propertyOf c = some .extend).head?.any e.pictographic.acceptsCodepoint = true := by
  have hextend : e.having [.extend] =
      single fun c => decide (e.propertyOf c = some .extend) = true := by
    simp [having]
  rw [hextend, pictograph, ← any_head?_dropWhile_iff]

/-- The text ends in a pictograph followed by nothing but extending codepoints. -/
theorem followsPictographic_iff (hlimit : e.limit = none) {t : Text} {pos : Nat}
    (hle : pos ≤ t.size) :
    e.followsPictographic t pos = true ↔
      t.before pos ∈ ⊤ * (e.pictograph * (e.having [.extend])∗) := by
  have hfound := Text.map_codepoint_scan_found t .backward
    (fun c => !e.pictographic.acceptsCodepoint c && e.propertyOf c = some .extend) pos
  rw [mem_top_mul_pictograph_iff, followsPictographic, hlimit, RunLimit.contextReach,
    Option.map_none, ← Text.map_codepoint_steps_backward hle, ← hfound, Option.any_map]

theorem oddRegionalBefore_iff (hlimit : e.limit = none) {t : Text} {pos : Nat}
    (hle : pos ≤ t.size) :
    e.oddRegionalBefore t pos = true ↔ t.before pos ∈ oddRun e.isRegional := by
  rw [mem_oddRun, oddRegionalBefore, hlimit, RunLimit.contextReach, Option.map_none,
    Text.scan_run, Text.map_codepoint_steps_backward hle, List.rtakeWhile, List.length_reverse,
    decide_eq_true_eq]

/-- A pictograph with a zero width joiner at the end: the joiner is the last codepoint,
and the pictograph is looked for before it. -/
theorem mem_top_mul_pictograph_zwj {m : List Codepoint} {c : Codepoint} :
    m ++ [c] ∈ ⊤ * (e.pictograph * (e.having [.extend])∗ * e.having [.zwj]) ↔
      e.propertyOf c = some .zwj ∧ m ∈ ⊤ * (e.pictograph * (e.having [.extend])∗) := by
  rw [← mul_assoc, having, having, mem_mul_single]
  constructor
  · rintro ⟨m', c', hm, hc, h⟩
    obtain ⟨rfl, rfl⟩ := List.append_singleton_inj.mp h
    exact ⟨by simpa using hc, hm⟩
  · rintro ⟨hc, hm⟩
    exact ⟨m, c, hm, by simpa using hc, rfl⟩

/-! ## An evaluator follows the rules -/

theorem joinsByContext_eq_false_iff (hlimit : e.limit = none) {t : Text} {pos : Nat}
    (hle : pos ≤ t.size) {prev next : Text.Step} (hprev : t.step? .backward pos = some prev)
    (hnext : t.step? .forward pos = some next) :
    e.joinsByContext t pos prev next = false ↔
      Rule.Breaks e.contextRules (t.before pos) (t.after pos) := by
  have hprevLe : prev.pos ≤ t.size := by
    obtain ⟨c, -, rfl⟩ := Option.map_eq_some_iff.mp hprev
    simp only
    omega
  -- An odd run of flag halves before the position ends in its neighbour.
  have hodd : t.before pos ∈ oddRun e.isRegional → e.isRegional prev.codepoint = true := by
    intro hodd
    obtain ⟨c, hlast, hc⟩ := exists_getLast?_of_mem_oddRun hodd
    rw [Text.getLast?_before hprev] at hlast
    rwa [Option.some.inj hlast]
  rw [← oddRegionalBefore_iff hlimit hle] at hodd
  rw [breaks_contextRules_iff, Text.after_of_step? hnext, List.head?_cons, Option.bind_some,
    ← isRegional_iff, ← followsLinkedConsonant_iff hlimit hle,
    ← oddRegionalBefore_iff hlimit hle, Text.before_of_step? hprev, mem_top_mul_pictograph_zwj,
    ← followsPictographic_iff hlimit hprevLe, joinsByContext]
  simp only [Bool.or_eq_false_iff, Bool.and_eq_false_iff, decide_eq_false_iff_not]
  grind

/-- Between two codepoints an evaluator decides as the rules do. -/
theorem separates_iff (hlimit : e.limit = none) {t : Text} {pos : Nat} (hle : pos ≤ t.size)
    {prev next : Text.Step} (hprev : t.step? .backward pos = some prev)
    (hnext : t.step? .forward pos = some next) :
    e.separates t pos prev next = true ↔
      Rule.Breaks e.rules (t.before pos) (t.after pos) := by
  have hhead : (t.after pos).head? = some next.codepoint := by
    rw [Text.after_of_step? hnext, List.head?_cons]
  have hcontext := joinsByContext_eq_false_iff hlimit hle hprev hnext
  rw [rules, breaks_adjacentRules_append, Text.getLast?_before hprev, hhead, ← hcontext]
  simp only [Option.bind_some]
  unfold separates
  dsimp only
  split_ifs with hcrlf hcontrol hsyllable hattached
  · grind
  · grind
  · grind
  · grind
  · simp only [Bool.not_eq_true']
    grind

theorem isBreak_iff (hlimit : e.limit = none) (t : Text) (pos : Nat) :
    e.isBreak t pos = true ↔ t.IsBoundary e.rules pos := by
  apply Text.iff_isBoundary_of_steps
  · rintro (hprev | hnext)
    · rw [isBreak, hprev]
    · rw [isBreak, hnext]
      cases t.step? .backward pos <;> rfl
  · intro prev next hprev hnext hle
    rw [isBreak, hprev, hnext, ← separates_iff hlimit hle hprev hnext]
    simp

/-- A codepoint other than a lone surrogate has the property of the first entry of the
tables that holds it. -/
theorem propertyOf_eq {tables : Unicode.Tables} {limit : RunLimit}
    (h : Compiled tables limit e) {c : Codepoint} (hc : ¬c.IsLoneSurrogate) :
    e.propertyOf c =
      (((sources tables).flatMap Classifier.Source.entries).find? fun pe =>
        pe.Holds c.value).bind fun pe => NamedProperty.ofName? pe.property := by
  rw [propertyOf, if_neg hc]
  exact Classifier.classify_ofSources h.classifier c.value

theorem conjunctOf_eq {tables : Unicode.Tables} {limit : RunLimit}
    (h : Compiled tables limit e) (c : Codepoint) :
    e.conjunctOf c = (tables.conjunctBreak.entries.find? fun pe => pe.Holds c.value).bind
      fun pe => NamedProperty.ofName? pe.property := by
  have hclassify := Classifier.classify_ofSources h.conjuncts c.value
  rwa [List.flatMap_cons, List.flatMap_nil, List.append_nil] at hclassify

/-- An evaluator knows of a codepoint what tables say: the property of the first entry that
holds it, unless it is a lone surrogate, its part in a conjunct, and whether the first entry
for pictographs holds it. -/
structure ClassifiesBy (e : Evaluator) (tables : Unicode.Tables) : Prop where
  property : ∀ c : Codepoint, ¬c.IsLoneSurrogate → e.propertyOf c =
    (((sources tables).flatMap Classifier.Source.entries).find? fun pe =>
      pe.Holds c.value).bind fun pe => NamedProperty.ofName? pe.property
  conjunct : ∀ c : Codepoint, e.conjunctOf c =
    (tables.conjunctBreak.entries.find? fun pe => pe.Holds c.value).bind fun pe =>
      NamedProperty.ofName? pe.property
  pictographic : ∀ c : Codepoint, e.pictographic.acceptsCodepoint c =
    (((sources tables).flatMap Classifier.Source.entries).find? fun pe =>
      NamedProperty.ofName? pe.property = some Property.extendedPictographic).any fun pe =>
        pe.Holds c.value

theorem classifiesBy_of_compiled {tables : Unicode.Tables} {limit : RunLimit}
    (h : Compiled tables limit e) : e.ClassifiesBy tables where
  property _ hc := propertyOf_eq h hc
  conjunct := conjunctOf_eq h
  pictographic := Classifier.acceptsCodepoint_eq_of_matcher? h.classifier h.pictographic

/-- The pictograph for fire, written with two units. -/
def fire : Codepoint :=
  .ofPair 0xD83D 0xDD25 (by decide)

/-- A heart with a selector and a zero width joiner behind it, and two fires. -/
def burningHeart : Text :=
  ⟨#[0x2764, 0xFE0F, 0x200D, 0xD83D, 0xDD25, 0xD83D, 0xDD25]⟩

/-- The joiner keeps the first fire with the heart, as the selector between them extends
the heart, and no rule keeps the second fire. -/
theorem breaks_rules_burningHeart (h : e.ClassifiesBy .bundled) :
    ¬Rule.Breaks e.rules (burningHeart.before 3) (burningHeart.after 3) ∧
      Rule.Breaks e.rules (burningHeart.before 5) (burningHeart.after 5) := by
  have hproperties : e.propertyOf (.ofUnit 0xFE0F) = some .extend ∧
      e.propertyOf (.ofUnit 0x200D) = some .zwj ∧
      e.propertyOf fire = some .extendedPictographic := by
    rw [h.property _ (by decide), h.property _ (by decide), h.property _ (by decide)]
    decide +kernel
  have hpictographs : e.pictographic.acceptsCodepoint (.ofUnit 0x2764) = true ∧
      e.pictographic.acceptsCodepoint (.ofUnit 0xFE0F) = false ∧
      e.pictographic.acceptsCodepoint fire = true := by
    simp only [h.pictographic]
    decide +kernel
  have hconjunct : e.conjunctOf fire = none := by
    rw [h.conjunct]
    decide +kernel
  have hread : burningHeart.before 3 = [.ofUnit 0x2764, .ofUnit 0xFE0F] ++ [.ofUnit 0x200D] ∧
      burningHeart.after 3 = [fire, fire] ∧
      burningHeart.before 5 = [.ofUnit 0x2764, .ofUnit 0xFE0F, .ofUnit 0x200D] ++ [fire] ∧
      burningHeart.after 5 = [fire] := by
    decide
  obtain ⟨hselector, hjoiner, hfire⟩ := hproperties
  obtain ⟨hheart, hplain, hfire'⟩ := hpictographs
  obtain ⟨hbefore, hafter, hbefore', hafter'⟩ := hread
  rw [hbefore, hafter, hbefore', hafter', rules, breaks_adjacentRules_append,
    breaks_adjacentRules_append, breaks_contextRules_iff, breaks_contextRules_iff,
    mem_top_mul_pictograph_zwj, mem_top_mul_pictograph_zwj, mem_top_mul_pictograph_iff]
  simp [hselector, hjoiner, hfire, hheart, hplain, hfire', hconjunct, Property.isControl,
    Property.attaches, Property.joinsSyllable]

/-- Without a run limit, an evaluator decides every position of every text by the
grapheme cluster boundary rules.  The rules read the properties off the tables, and lone
surrogates are controls. -/
theorem isBreak_decidedBy_graphemeRules {tables : Unicode.Tables} {e : Evaluator}
    (h : ofTables tables none = .ok e) :
    e.ClassifiesBy tables ∧
      (∀ c : Codepoint, c.IsLoneSurrogate → e.propertyOf c = some .control) ∧
      ∀ (t : Text) (pos : Nat), t.DecidedBy e.rules pos (e.isBreak t pos) := by
  have hcompiled := compiled_of_ofTables h
  refine ⟨classifiesBy_of_compiled hcompiled, ?_, ?_⟩
  · intro c hc
    rw [propertyOf, if_pos hc]
  · intro t pos
    exact Text.decidedBy_of_iff (isBreak_iff hcompiled.limit_eq t pos)

/-- The bundled tables have an evaluator that decides by the rules, among them the one for
emoji sequences. -/
theorem isBreak_decidedBy_graphemeRules_bundled :
    ∃ e, ofTables .bundled none = .ok e ∧
      (∀ (t : Text) (pos : Nat), t.DecidedBy e.rules pos (e.isBreak t pos)) ∧
      e.isBreak burningHeart 3 = false ∧ e.isBreak burningHeart 4 = false ∧
      e.isBreak burningHeart 5 = true := by
  obtain ⟨e, he⟩ := exists_ofTables_bundled none
  obtain ⟨hclassifies, -, hdecided⟩ := isBreak_decidedBy_graphemeRules he
  obtain ⟨hjoined, hdivided⟩ := breaks_rules_burningHeart hclassifies
  refine ⟨e, he, hdecided, ?_, (hdecided burningHeart 4).in_pair (by decide), ?_⟩
  · rwa [← Bool.not_eq_true,
      (hdecided burningHeart 3).iff_breaks (by decide) (by decide) (by decide)]
  · rwa [(hdecided burningHeart 5).iff_breaks (by decide) (by decide) (by decide)]

end Evaluator
end Grapheme
end TextBoundary
