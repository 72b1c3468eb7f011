import TextBoundary.Proofs.Grapheme.Coherence
import TextBoundary.Proofs.Offsets
import TextBoundary.Proofs.Word.Rules

/-!
# Flags

Two flag halves make a flag.  In a run of halves, each second one belongs to the half
before it, wherever the run stands and whatever surrounds it: of the positions directly
before the halves, the first is a boundary, the second is not, the third is, and so on.

Both evaluators count the halves before a position anew at each of them.  What they count
is the part of the run before the position, because the run is as long as possible; and no
other rule speaks about a position directly before a half, except that a prepended mark
keeps the first half of a run to itself.
-/

namespace TextBoundary

open Unicode

/-! ## Runs of halves -/

/-- Whether every other position of a list satisfies a predicate, from the first one on;
`attached` says that the first one does not satisfy it nevertheless. -/
structure Alternates (isBreak : Nat → Bool) (attached : Bool) (positions : List Nat) : Prop where
  isBreak_iff : ∀ j p, positions[j]? = some p →
    (isBreak p = true ↔ j % 2 = 0 ∧ ¬(j = 0 ∧ attached = true))
  count : positions.countP isBreak =
    (positions.length + 1) / 2 - if attached then 1 else 0

theorem countP_of_iff_even {isBreak : Nat → Bool} {positions : List Nat} (i : Nat)
    (h : ∀ j p, positions[j]? = some p → (isBreak p = true ↔ (i + j) % 2 = 0)) :
    positions.countP isBreak = (positions.length + 1 - i % 2) / 2 := by
  induction positions generalizing i with
  | nil =>
      rw [List.countP_nil, List.length_nil]
      omega
  | cons p positions ih =>
      have hfirst := h 0 p rfl
      have hrest := ih (i + 1) fun j q hq => by
        rw [h (j + 1) q hq, Nat.add_assoc, Nat.add_comm 1 j]
      rw [List.countP_cons, hrest, List.length_cons]
      simp only [hfirst]
      split <;> omega

theorem alternates_of_iff {isBreak : Nat → Bool} {attached : Bool} {positions : List Nat}
    (hne : positions ≠ [])
    (h : ∀ j p, positions[j]? = some p →
      (isBreak p = true ↔ j % 2 = 0 ∧ ¬(j = 0 ∧ attached = true))) :
    Alternates isBreak attached positions where
  isBreak_iff := h
  count := by
    cases attached with
    | false =>
        rw [countP_of_iff_even 0 fun j p hp => by simpa using h j p hp]
        simp
    | true =>
        obtain ⟨p, rest, rfl⟩ := List.exists_cons_of_ne_nil hne
        have hfirst : ¬isBreak p = true := by
          rw [h 0 p rfl]
          simp
        have hrest : ∀ j q, rest[j]? = some q → (isBreak q = true ↔ (1 + j) % 2 = 0) := by
          intro j q hq
          rw [h (j + 1) q hq, Nat.add_comm 1 j]
          simp
        rw [List.countP_cons_of_neg hfirst, countP_of_iff_even 1 hrest, List.length_cons]
        simp only [if_true]
        omega

/-- Rules pair up flag halves when they put a boundary before a half exactly if nothing
attaches it to what stands before it and the number of halves before it is even.  Codepoints
that satisfy `between` are left aside in counting. -/
structure Rule.PairsHalves (rules : List Rule) (half between attaches : Codepoint → Bool) :
    Prop where
  between_of_half : ∀ c, half c = true → between c = false
  attaches_of_member : ∀ c, half c = true ∨ between c = true → attaches c = false
  breaks_iff : ∀ l c r, half c = true → (Rule.Breaks rules l (c :: r) ↔
    l.getLast?.any attaches = false ∧ ((without between l).rtakeWhile half).length % 2 = 0)

namespace Text

variable {t : Text} {half between attaches : Codepoint → Bool} {x : Nat × Codepoint}
  {l run r a b : List (Nat × Codepoint)} {rules : List Rule} {c : Codepoint} {j p : Nat}

/-- A run of flag halves in a text, with codepoints that satisfy `between` among them.  It
begins and ends with a half, and on neither side does another half follow, near or behind
more such codepoints. -/
structure FlagRun (t : Text) (half between : Codepoint → Bool)
    (l run r : List (Nat × Codepoint)) : Prop where
  reading : t.codepointsFrom 0 = l ++ run ++ r
  members : ∀ x ∈ run, half x.2 = true ∨ between x.2 = true
  first : ∃ x, run.head? = some x ∧ half x.2 = true
  last : ∃ x, run.getLast? = some x ∧ half x.2 = true
  maximal_left : ∀ c, ((l.map Prod.snd).rdropWhile between).getLast? = some c → half c = false
  maximal_right : ∀ c, ((r.map Prod.snd).dropWhile between).head? = some c → half c = false

/-- The positions directly before the halves of a run. -/
def halves (half : Codepoint → Bool) (run : List (Nat × Codepoint)) : List Nat :=
  (run.filter fun x => half x.2).map Prod.fst

/-- What stands around a codepoint of a text. -/
theorem around_of_codepointsFrom_zero (h : t.codepointsFrom 0 = l ++ x :: r) :
    ¬t.SplitsPair x.1 ∧ x.1 < t.size ∧ t.before x.1 = l.map Prod.snd ∧
      t.after x.1 = x.2 :: r.map Prod.snd := by
  obtain ⟨-, hnext, hr, hunsplit⟩ := codepointsFrom_eq_append_cons h
  have hsplits := hunsplit fun hzero => Nat.lt_irrefl 0 hzero.pos
  have hlt := lt_size_of_next? hnext
  have hafter : t.after x.1 = x.2 :: r.map Prod.snd := by
    rw [after_of_next? hnext, hr, map_snd_codepointsFrom]
  have hreading : t.before x.1 ++ t.after x.1 = l.map Prod.snd ++ t.after x.1 := by
    have hall := map_snd_codepointsFrom t 0
    rw [h, List.map_append, List.map_cons, ← hafter] at hall
    rw [← codepoints_eq_append (Nat.le_of_lt hlt) hsplits, hall]
    rfl
  exact ⟨hsplits, hlt, List.append_cancel_right hreading, hafter⟩

/-- A half of a run stands behind all halves with lower numbers. -/
theorem exists_append_of_halves (h : (halves half run)[j]? = some p) :
    ∃ a c b, run = a ++ (p, c) :: b ∧ half c = true ∧
      (a.filter fun x => half x.2).length = j := by
  rw [halves, List.getElem?_map, Option.map_eq_some_iff] at h
  obtain ⟨⟨p, c⟩, hfilter, rfl⟩ := h
  obtain ⟨hlt, hget⟩ := List.getElem?_eq_some_iff.mp hfilter
  have hsplit := List.take_append_drop j (run.filter fun x => half x.2)
  rw [List.drop_eq_getElem_cons hlt, hget, eq_comm] at hsplit
  obtain ⟨a, rest, rfl, ha, hrest⟩ := List.filter_eq_append_iff.mp hsplit
  obtain ⟨skipped, b, rfl, hskipped, hc, -⟩ := List.filter_eq_cons_iff.mp hrest
  have hnone : (skipped.filter fun x => half x.2) = [] := by
    rw [List.filter_eq_nil_iff]
    exact hskipped
  refine ⟨a ++ skipped, c, b, by rw [List.append_assoc], hc, ?_⟩
  rw [List.filter_append, ha, hnone, List.append_nil, List.length_take]
  omega

/-- No half is counted left of a run. -/
theorem rtakeWhile_without_eq_nil {l : List Codepoint}
    (h : ∀ c, (l.rdropWhile between).getLast? = some c → half c = false) :
    (without between l).rtakeWhile half = [] := by
  induction l using List.reverseRecOn with
  | nil => rfl
  | append_singleton l c ih =>
      rw [without_append]
      cases hc : between c with
      | true =>
          rw [List.rdropWhile_concat_pos _ _ _ hc] at h
          rw [without_cons_of_pos hc, without_nil, List.append_nil, ih h]
      | false =>
          rw [List.rdropWhile_concat_neg _ _ _ (by simp [hc]), List.getLast?_concat] at h
          rw [without_cons_of_neg hc, without_nil,
            List.rtakeWhile_concat_neg _ _ _ (by simp [h c rfl])]

/-- Left of a half of a run, the halves with lower numbers are counted. -/
theorem FlagRun.length_rtakeWhile (h : t.FlagRun half between l run r)
    (hbetween : ∀ c, half c = true → between c = false) (hrun : run = a ++ x :: b) :
    ((without between ((l ++ a).map Prod.snd)).rtakeWhile half).length =
      (a.filter fun x => half x.2).length := by
  have hmembers : ∀ x ∈ a, (!between x.2) = half x.2 := by
    intro x hx
    rcases h.members x (by simp [hrun, hx]) with hhalf | hother
    · rw [hhalf, hbetween x.2 hhalf]
      rfl
    · rw [hother]
      cases hhalf : half x.2 with
      | false => rfl
      | true => simp [hbetween x.2 hhalf] at hother
  have hkept : without between (a.map Prod.snd) = (a.filter fun x => half x.2).map Prod.snd := by
    rw [without, List.filter_map]
    exact congrArg _ (List.filter_congr hmembers)
  have hall : ∀ c ∈ without between (a.map Prod.snd), half c = true := by
    rw [hkept]
    intro c hc
    obtain ⟨x, hx, rfl⟩ := List.mem_map.mp hc
    exact (List.mem_filter.mp hx).2
  rw [List.map_append, without_append, rtakeWhile_append_of_all hall,
    rtakeWhile_without_eq_nil h.maximal_left, List.nil_append, hkept, List.length_map]

/-- A half is a boundary or not by what stands directly before it and by the number of halves
before it in its run. -/
theorem FlagRun.isBoundary_iff (h : t.FlagRun half between l run r)
    (hrules : Rule.PairsHalves rules half between attaches) (hrun : run = a ++ (p, c) :: b)
    (hc : half c = true) :
    t.IsBoundary rules p ↔ (l ++ a).getLast?.any (fun x => attaches x.2) = false ∧
      (a.filter fun x => half x.2).length % 2 = 0 := by
  have hreading := h.reading
  rw [hrun, List.append_assoc, List.append_assoc, ← List.append_assoc l,
    List.cons_append] at hreading
  obtain ⟨hsplits, hlt, hbefore, hafter⟩ := around_of_codepointsFrom_zero hreading
  have hbreaks : Rule.Breaks rules (t.before p) (t.after p) ↔
      (l ++ a).getLast?.any (fun x => attaches x.2) = false ∧
        (a.filter fun x => half x.2).length % 2 = 0 := by
    rw [hbefore, hafter, hrules.breaks_iff _ _ _ hc,
      h.length_rtakeWhile hrules.between_of_half hrun, List.getLast?_map, Option.any_map]
  rw [← hbreaks]
  rcases Nat.eq_zero_or_pos p with rfl | hpos
  · -- Nothing stands before the text, so nothing attaches or is counted.
    have hstart : t.before 0 = [] := (before_eq_nil_iff (Nat.zero_le _)).mpr rfl
    rw [hbefore, List.map_eq_nil_iff, List.append_eq_nil_iff] at hstart
    obtain ⟨rfl, rfl⟩ := hstart
    exact iff_of_true (isBoundary_of_end (Or.inl rfl)) (hbreaks.mpr ⟨rfl, rfl⟩)
  · rw [Text.isBoundary_iff hpos hlt]
    simp only [hsplits, not_false_eq_true, true_and]

/-- Only the first half of a run can be attached, as the others stand behind members of the
run. -/
theorem FlagRun.attaches_iff (h : t.FlagRun half between l run r)
    (hrules : Rule.PairsHalves rules half between attaches) (hrun : run = a ++ x :: b) :
    (l ++ a).getLast?.any (fun x => attaches x.2) = true ↔
      (a.filter fun x => half x.2).length = 0 ∧
        l.getLast?.any (fun x => attaches x.2) = true := by
  cases a with
  | nil => simp
  | cons y a =>
      obtain ⟨first, hfirst, hhalf⟩ := h.first
      obtain rfl : y = first := by
        rw [hrun, List.cons_append, List.head?_cons] at hfirst
        exact Option.some.inj hfirst
      have hlast : (l ++ y :: a).getLast?.any (fun x => attaches x.2) = false := by
        rw [List.getLast?_append_cons, Option.any_eq_false]
        intro z hz
        have hmem : z ∈ run := by
          rw [hrun]
          exact List.mem_append_left _ (List.mem_of_getLast? hz)
        rw [hrules.attaches_of_member z.2 (h.members z hmem)]
      rw [hlast, List.filter_cons, if_pos hhalf, List.length_cons]
      simp

theorem FlagRun.halves_ne_nil (h : t.FlagRun half between l run r) : halves half run ≠ [] := by
  obtain ⟨first, hfirst, hhalf⟩ := h.first
  obtain ⟨rest, rfl⟩ := List.head?_eq_some_iff.mp hfirst
  simp [halves, hhalf]

theorem FlagRun.alternates {isBreak : Nat → Bool} (h : t.FlagRun half between l run r)
    (hrules : Rule.PairsHalves rules half between attaches)
    (hbreak : ∀ p, isBreak p = true ↔ t.IsBoundary rules p) :
    Alternates isBreak (l.getLast?.any fun x => attaches x.2) (halves half run) := by
  apply alternates_of_iff h.halves_ne_nil
  intro j p hp
  obtain ⟨a, c, b, hrun, hc, rfl⟩ := exists_append_of_halves hp
  rw [hbreak, h.isBoundary_iff hrules hrun hc, ← Bool.not_eq_true, h.attaches_iff hrules hrun]
  exact and_comm

end Text

/-! ## Words -/

namespace Word

variable {b l a : Option Property}

theorem Context.joins_of_right_regional :
    (⟨b, l, some .regionalIndicator, a⟩ : Context).joins = false := by
  simp [joins, joinsLetters, joinsHebrewQuote, joinsNumbers, joinsConnectors, joinsModifier,
    Property.isLetter, Property.isMidLetter, Property.isMidNumber, Property.isAlphanumeric]

/-- The entries of the word properties. -/
def wordEntries (tables : Tables) : List PropertyEntry :=
  (Evaluator.sources tables).flatMap Classifier.Source.entries

/-- No entry of pictographs has a flag half. -/
def FlagsApart (tables : Tables) : Prop :=
  ∀ pe ∈ wordEntries tables, NamedProperty.ofName? pe.property = some Property.regionalIndicator →
    ∀ ge ∈ wordEntries tables,
      NamedProperty.ofName? ge.property = some Property.extendedPictographic →
        Grapheme.Apart pe ge

instance (tables : Tables) : Decidable (FlagsApart tables) :=
  inferInstanceAs (Decidable (∀ pe ∈ wordEntries tables, _))

theorem flagsApart_bundled : FlagsApart .bundled := by
  decide +kernel

namespace Evaluator

variable {tables : Tables} {limit : RunLimit} {e : Evaluator} {c : Codepoint}
  {l r : List Codepoint}

theorem not_pictographic_of_isRegional (htables : FlagsApart tables)
    (he : Compiled tables limit e) (hc : e.isRegional c = true) :
    e.pictographic.acceptsCodepoint c = false := by
  rw [isRegional_iff] at hc
  obtain ⟨pe, hpe, hname, hholds⟩ :=
    Classifier.exists_holds_of_classifyCodepoint he.classifier hc
  obtain ⟨ge, hge, hgename, haccepts⟩ :=
    Classifier.acceptsCodepoint_of_matcher? he.classifier he.pictographic
  rw [← Bool.not_eq_true, haccepts c]
  exact (htables pe hpe hname ge hge hgename).not_holds hholds

/-- The base rules put a boundary before a half exactly if the number of halves before it is
even. -/
theorem breaks_baseRules_regional (hc : e.isRegional c = true) :
    Rule.Breaks e.baseRules l (c :: r) ↔ (l.rtakeWhile e.isRegional).length % 2 = 0 := by
  have hright := isRegional_iff.mp hc
  have hjoins : (e.contextOf l (c :: r)).joins = false := by
    rw [contextOf, List.head?_cons, Option.bind_some, hright]
    exact Context.joins_of_right_regional
  rw [breaks_baseRules_iff, hjoins, List.head?_cons, Option.bind_some, hright]
  simp

/-- Behind a line end no half is counted. -/
theorem rtakeWhile_of_isLineEnd
    (h : (l.getLast?.bind e.propertyOf).any Property.isLineEnd = true) :
    (without e.isTransparent l).rtakeWhile e.isRegional = [] := by
  rcases List.eq_nil_or_concat' l with rfl | ⟨l, d, rfl⟩
  · rfl
  · rw [List.getLast?_concat, Option.bind_some] at h
    rw [without_append, without_cons_of_neg (isTransparent_of_isLineEnd h), without_nil,
      List.rtakeWhile_concat_neg]
    simp [isRegional_of_isInert (isInert_of_isLineEnd h)]

/-- The word rules put a boundary before a half exactly if the number of halves before it is
even, whatever else stands there. -/
theorem breaks_rules_regional (hpictographic : e.pictographic.acceptsCodepoint c = false)
    (hc : e.isRegional c = true) :
    Rule.Breaks e.rules l (c :: r) ↔
      ((without e.isTransparent l).rtakeWhile e.isRegional).length % 2 = 0 := by
  have hright := isRegional_iff.mp hc
  have hend : (l.getLast?.bind e.propertyOf).any Property.isLineEnd = true →
      ((without e.isTransparent l).rtakeWhile e.isRegional).length % 2 = 0 := by
    intro hend
    rw [rtakeWhile_of_isLineEnd hend]
    rfl
  rw [breaks_rules_iff, List.head?_cons, Option.bind_some, hright,
    without_cons_of_neg (isTransparent_of_isRegional hc), breaks_baseRules_leaveAside,
    breaks_baseRules_regional hc]
  simpa [hpictographic, Property.isLineEnd, Property.isTransparent] using hend

theorem pairsHalves (htables : FlagsApart tables) (he : Compiled tables limit e) :
    Rule.PairsHalves e.rules e.isRegional e.isTransparent fun _ => false where
  between_of_half _ := isTransparent_of_isRegional
  attaches_of_member _ _ := rfl
  breaks_iff l c r hc := by
    rw [breaks_rules_regional (not_pictographic_of_isRegional htables he hc) hc]
    simp

end Evaluator
end Word

/-! ## Grapheme clusters -/

namespace Grapheme
namespace Evaluator

variable {e : Evaluator} {c : Codepoint} {l r : List Codepoint}

/-- Whether a codepoint is prepended to what follows it. -/
def isPrepend (e : Evaluator) (c : Codepoint) : Bool :=
  e.propertyOf c = some .prepend

theorem isPrepend_of_isRegional (h : e.isRegional c = true) : e.isPrepend c = false := by
  rw [isPrepend, isRegional_iff.mp h]
  rfl

/-- The rules that look back put a boundary before a half exactly if the number of halves
directly before it is even. -/
theorem breaks_contextRules_regional (he : e.Coherent) (hc : e.isRegional c = true) :
    Rule.Breaks e.contextRules l (c :: r) ↔ (l.rtakeWhile e.isRegional).length % 2 = 0 := by
  have hright := isRegional_iff.mp hc
  have hconsonant : e.conjunctOf c ≠ some .consonant := by
    intro hconsonant
    rw [he.property_of_consonant c hconsonant] at hright
    contradiction
  have hpictograph : e.pictographic.acceptsCodepoint c = false := by
    rw [← Bool.not_eq_true]
    intro hpictograph
    rw [he.property_of_pictograph c hpictograph] at hright
    contradiction
  rw [breaks_contextRules_iff, List.head?_cons, Option.bind_some, hright, mem_oddRun]
  simp [hconsonant, hpictograph]

/-- A control is not prepended, and behind it no half is counted. -/
theorem rtakeWhile_of_isControl
    (h : (l.getLast?.bind e.propertyOf).any Property.isControl = true) :
    l.getLast?.any e.isPrepend = false ∧ l.rtakeWhile e.isRegional = [] := by
  rcases List.eq_nil_or_concat' l with rfl | ⟨l, d, rfl⟩
  · exact ⟨rfl, rfl⟩
  · rw [List.getLast?_concat, Option.bind_some] at h
    obtain ⟨p, hp, hcontrol⟩ := Option.any_eq_true _ _ |>.mp h
    have hneither : p ≠ .prepend ∧ p ≠ .regionalIndicator := by
      cases p <;> simp [Property.isControl] at hcontrol ⊢
    rw [List.getLast?_concat, Option.any_some, List.rtakeWhile_concat_neg]
    · simp [isPrepend, hp, hneither]
    · simp [isRegional, hp, hneither]

/-- The grapheme rules put a boundary before a half exactly if the number of halves directly
before it is even and nothing is prepended to it. -/
theorem breaks_rules_regional (he : e.Coherent) (hc : e.isRegional c = true) :
    Rule.Breaks e.rules l (c :: r) ↔
      l.getLast?.any e.isPrepend = false ∧ (l.rtakeWhile e.isRegional).length % 2 = 0 := by
  have hright := isRegional_iff.mp hc
  have hcontrol : (l.getLast?.bind e.propertyOf).any Property.isControl = true →
      l.getLast?.any e.isPrepend = false ∧ (l.rtakeWhile e.isRegional).length % 2 = 0 := by
    intro hcontrol
    obtain ⟨hprepend, hcount⟩ := rtakeWhile_of_isControl hcontrol
    rw [hcount]
    exact ⟨hprepend, rfl⟩
  have hprepend : l.getLast?.any e.isPrepend = false ↔
      ¬l.getLast?.bind e.propertyOf = some .prepend := by
    cases l.getLast? <;> simp [isPrepend]
  rw [hprepend] at hcontrol ⊢
  rw [rules, breaks_adjacentRules_append, List.head?_cons, Option.bind_some, hright,
    breaks_contextRules_regional he hc]
  simpa [Property.isControl, Property.attaches, Property.joinsSyllable] using hcontrol

theorem pairsHalves (he : e.Coherent) :
    Rule.PairsHalves e.rules e.isRegional (fun _ => false) e.isPrepend where
  between_of_half _ _ := rfl
  attaches_of_member c hc := isPrepend_of_isRegional (by simpa using hc)
  breaks_iff l c r hc := by
    rw [breaks_rules_regional he hc]
    simp [without]

end Evaluator
end Grapheme

/-! ## A text with runs of both kinds -/

/-- The flag half for the letter A. -/
def flagHalfA : Codepoint :=
  ⟨0x1F1E6, by decide⟩

/-- A prepended sign, two flag halves, a mark, and a third half. -/
def threeHalves : Text :=
  ⟨#[0x600, 0xD83C, 0xDDE6, 0xD83C, 0xDDE6, 0x300, 0xD83C, 0xDDE6]⟩

theorem codepointsFrom_threeHalves : threeHalves.codepointsFrom 0 =
    [(0, .ofUnit 0x600), (1, flagHalfA), (3, flagHalfA), (5, .ofUnit 0x300), (6, flagHalfA)] := by
  rw [Text.codepointsFrom_of_next? (c := .ofUnit 0x600) (by decide),
    Text.codepointsFrom_of_next? (c := flagHalfA) (by decide),
    Text.codepointsFrom_of_next? (c := flagHalfA) (by decide),
    Text.codepointsFrom_of_next? (c := .ofUnit 0x300) (by decide),
    Text.codepointsFrom_of_next? (c := flagHalfA) (by decide),
    Text.codepointsFrom_of_next?_eq_none (by decide)]
  rfl

theorem Word.Evaluator.flagRun_threeHalves {w : Word.Evaluator}
    (h : Word.Evaluator.Compiled .bundled none w) :
    threeHalves.FlagRun w.isRegional w.isTransparent [(0, .ofUnit 0x600)]
        [(1, flagHalfA), (3, flagHalfA), (5, .ofUnit 0x300), (6, flagHalfA)] [] ∧
      Text.halves w.isRegional
        [(1, flagHalfA), (3, flagHalfA), (5, .ofUnit 0x300), (6, flagHalfA)] = [1, 3, 6] := by
  have hsign : w.isRegional (.ofUnit 0x600) = false ∧ w.isTransparent (.ofUnit 0x600) = false := by
    rw [isRegional, isTransparent, propertyOf_eq h]
    decide +kernel
  have hmark : w.isRegional (.ofUnit 0x300) = false ∧ w.isTransparent (.ofUnit 0x300) = true := by
    rw [isRegional, isTransparent, propertyOf_eq h]
    decide +kernel
  have hhalf : w.isRegional flagHalfA = true := by
    rw [isRegional, propertyOf_eq h]
    decide +kernel
  refine ⟨?_, by simp [Text.halves, hhalf, hmark]⟩
  exact {
    reading := codepointsFrom_threeHalves
    members := by simp [hhalf, hmark]
    first := ⟨_, rfl, hhalf⟩
    last := ⟨_, rfl, hhalf⟩
    maximal_left := by simp [List.rdropWhile, hsign]
    maximal_right := by simp }

theorem Grapheme.Evaluator.flagRun_threeHalves {g : Grapheme.Evaluator}
    (h : Grapheme.Evaluator.Compiled .bundled none g) :
    threeHalves.FlagRun g.isRegional (fun _ => false) [(0, .ofUnit 0x600)]
        [(1, flagHalfA), (3, flagHalfA)] [(5, .ofUnit 0x300), (6, flagHalfA)] ∧
      Text.halves g.isRegional [(1, flagHalfA), (3, flagHalfA)] = [1, 3] ∧
      g.isPrepend (.ofUnit 0x600) = true := by
  have hsign : g.isRegional (.ofUnit 0x600) = false ∧ g.isPrepend (.ofUnit 0x600) = true := by
    rw [isRegional, isPrepend, propertyOf_eq h (by decide)]
    decide +kernel
  have hmark : g.isRegional (.ofUnit 0x300) = false := by
    rw [isRegional, propertyOf_eq h (by decide)]
    decide +kernel
  have hhalf : g.isRegional flagHalfA = true := by
    rw [isRegional, propertyOf_eq h (by decide)]
    decide +kernel
  refine ⟨?_, by simp [Text.halves, hhalf], hsign.2⟩
  exact {
    reading := codepointsFrom_threeHalves
    members := by simp [hhalf]
    first := ⟨_, rfl, hhalf⟩
    last := ⟨_, rfl, hhalf⟩
    maximal_left := by simp [List.rdropWhile, hsign]
    maximal_right := by simp [hmark] }

/-! ## Both evaluators -/

/-- In the bundled tables, flag halves pair up in every run: of the positions directly before
them, every other one is a word boundary, halves with marks between them taken together, and
every other one is a cluster boundary, except that a prepended codepoint keeps the first half
of a run. -/
theorem flags_alternate {w : Word.Evaluator} {g : Grapheme.Evaluator}
    (hw : Word.Evaluator.ofTables .bundled none = .ok w)
    (hg : Grapheme.Evaluator.ofTables .bundled none = .ok g) (t : Text) :
    (∀ l run r, t.FlagRun w.isRegional w.isTransparent l run r →
        Alternates (w.isBreak t) false (Text.halves w.isRegional run)) ∧
      ∀ l run r, t.FlagRun g.isRegional (fun _ => false) l run r →
        Alternates (g.isBreak t) (l.getLast?.any fun x => g.isPrepend x.2)
          (Text.halves g.isRegional run) := by
  have hword := Word.Evaluator.compiled_of_ofTables hw
  have hgrapheme := Grapheme.Evaluator.compiled_of_ofTables hg
  have hcoherent := Grapheme.Evaluator.coherent_of_coherentTables
    Grapheme.coherentTables_bundled hgrapheme
  constructor
  · intro l run r hrun
    have halternates := hrun.alternates
      (Word.Evaluator.pairsHalves Word.flagsApart_bundled hword)
      (Word.Evaluator.isBreak_iff hword.limit_eq t)
    simpa using halternates
  · intro l run r hrun
    exact hrun.alternates (Grapheme.Evaluator.pairsHalves hcoherent)
      (Grapheme.Evaluator.isBreak_iff hgrapheme.limit_eq t)

/-- For words the mark stands among three halves; for clusters two halves stand behind a
prepended sign. -/
theorem flags_alternate_threeHalves :
    ∃ w g, Word.Evaluator.ofTables .bundled none = .ok w ∧
      Grapheme.Evaluator.ofTables .bundled none = .ok g ∧
      Alternates (w.isBreak threeHalves) false [1, 3, 6] ∧
      Alternates (g.isBreak threeHalves) true [1, 3] := by
  obtain ⟨w, hw⟩ := Word.Evaluator.exists_ofTables_bundled none
  obtain ⟨g, hg⟩ := Grapheme.Evaluator.exists_ofTables_bundled none
  obtain ⟨hword, hgrapheme⟩ := flags_alternate hw hg threeHalves
  obtain ⟨hrun, hhalves⟩ :=
    Word.Evaluator.flagRun_threeHalves (Word.Evaluator.compiled_of_ofTables hw)
  obtain ⟨hrun', hhalves', hsign⟩ :=
    Grapheme.Evaluator.flagRun_threeHalves (Grapheme.Evaluator.compiled_of_ofTables hg)
  have halternates := hword _ _ _ hrun
  have halternates' := hgrapheme _ _ _ hrun'
  rw [hhalves] at halternates
  rw [hhalves', List.getLast?_singleton, Option.any_some, hsign] at halternates'
  exact ⟨w, g, hw, hg, halternates, halternates'⟩

end TextBoundary
