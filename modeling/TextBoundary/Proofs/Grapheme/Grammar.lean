import TextBoundary.Proofs.Chain
import TextBoundary.Proofs.Grapheme.Syllable

/-!
# The grammar of grapheme clusters

The Unicode Standard also describes extended grapheme clusters by a regular expression.
A cluster is a control, or a core with what is prepended and appended to it.

The rules and the grammar speak about three tables.  They fit together when the tables
are coherent: what may stand between two consonants of a conjunct attaches to what
precedes it, and consonants and pictographs have no grapheme property that a rule about
neighbours asks for.
-/

namespace TextBoundary
namespace Grapheme
namespace Evaluator

open scoped Computability

/-- What links two consonants of a conjunct. -/
def conjunctLink (e : Evaluator) : Language Codepoint :=
  (e.playing [.linker, .extend])∗ * (e.playing [.linker] * (e.playing [.linker, .extend])∗)

/-- What joins two pictographs. -/
def pictographLink (e : Evaluator) : Language Codepoint :=
  (e.having [.extend])∗ * e.having [.zwj]

/-- The expression for one codepoint that is no control and no line end. -/
def notControl (e : Evaluator) : Language Codepoint :=
  single fun c => (e.propertyOf c).any Property.isControl = false

/-- The core of a cluster. -/
def core (e : Evaluator) : Language Codepoint :=
  e.syllable
    + e.having [.regionalIndicator] * e.having [.regionalIndicator]
    + e.pictograph * (e.pictographLink * e.pictograph)∗
    + e.playing [.consonant] * plus (e.conjunctLink * e.playing [.consonant])
    + e.notControl

/-- Extended grapheme clusters. -/
def cluster (e : Evaluator) : Language Codepoint :=
  e.having [.cr] * e.having [.lf]
    + e.having [.control]
    + e.having [.cr]
    + e.having [.lf]
    + (e.having [.prepend])∗ * e.core * (e.having [.extend, .zwj, .spacingMark])∗

/-- How the tables of an evaluator fit together. -/
structure Coherent (e : Evaluator) : Prop where
  attaches_of_isInner : ∀ c, (e.conjunctOf c).any ConjunctProperty.isInner = true →
    e.propertyOf c = some .extend ∨ e.propertyOf c = some .zwj
  property_of_consonant : ∀ c, e.conjunctOf c = some .consonant → e.propertyOf c = none
  property_of_pictograph : ∀ c, e.pictographic.acceptsCodepoint c = true →
    e.propertyOf c = some .extendedPictographic

variable {e : Evaluator} {l m r : List Codepoint} {c d : Codepoint}

/-! ## When the rules keep two sides together -/

/-- Whether a codepoint is a control or a line end. -/
def IsControl (e : Evaluator) (c : Codepoint) : Prop :=
  (e.propertyOf c).any Property.isControl = true

/-- Whether a codepoint attaches to what precedes it. -/
def Attaches (e : Evaluator) (c : Codepoint) : Prop :=
  (e.propertyOf c).any Property.attaches = true

/-- No conjunct and no emoji sequence holds a boundary: their inner codepoints attach to what
precedes them, and none of their codepoints is a control. -/
structure SelfContained (e : Evaluator) : Prop where
  attaches_of_isInner : ∀ c, (e.conjunctOf c).any ConjunctProperty.isInner = true →
    e.Attaches c
  conjunctOf_of_isControl : ∀ c, e.IsControl c → e.conjunctOf c = none
  not_pictograph_of_isControl : ∀ c, e.IsControl c → e.pictographic.acceptsCodepoint c = false

theorem not_isControl_of_attaches (h : e.Attaches c) : ¬e.IsControl c := by
  rw [Attaches] at h
  rw [IsControl]
  cases hp : e.propertyOf c with
  | none => simp
  | some p => cases p <;> simp [hp, Property.attaches] at h <;> simp [Property.isControl]

theorem Coherent.attaches (he : e.Coherent)
    (hc : (e.conjunctOf c).any ConjunctProperty.isInner = true) : e.Attaches c := by
  rcases he.attaches_of_isInner c hc with hp | hp
  · rw [Attaches, hp]
    rfl
  · rw [Attaches, hp]
    rfl

/-- Coherence asks for more: it names the properties of these codepoints. -/
theorem Coherent.selfContained (he : e.Coherent) : e.SelfContained where
  attaches_of_isInner _ hc := he.attaches hc
  conjunctOf_of_isControl c hcontrol := by
    cases hpart : e.conjunctOf c with
    | none => rfl
    | some part =>
        have hattaches (hinner : part.isInner = true) : e.Attaches c :=
          he.attaches (by rw [hpart]; exact hinner)
        cases part with
        | consonant =>
            rw [IsControl, he.property_of_consonant c hpart] at hcontrol
            contradiction
        | linker => exact absurd hcontrol (not_isControl_of_attaches (hattaches rfl))
        | extend => exact absurd hcontrol (not_isControl_of_attaches (hattaches rfl))
  not_pictograph_of_isControl c hcontrol := by
    rw [← Bool.not_eq_true]
    intro hpictograph
    rw [IsControl, he.property_of_pictograph c hpictograph] at hcontrol
    contradiction

/-- The rules that keep two codepoints together when neither is a control, given all
that stands before the second one. -/
inductive Joins (e : Evaluator) (l : List Codepoint) (d : Codepoint) : Prop
  | syllable (h : ∃ c, l.getLast? = some c ∧ e.JoinsSyllable c d)
  | attaches (h : e.Attaches d)
  | prepend (h : ∃ c, l.getLast? = some c ∧ e.propertyOf c = some .prepend)
  | conjunct (hl : l ∈ ⊤ * (e.playing [.consonant] * e.conjunctLink))
      (hd : e.conjunctOf d = some .consonant)
  | pictographs (hl : l ∈ ⊤ * (e.pictograph * e.pictographLink))
      (hd : e.pictographic.acceptsCodepoint d = true)
  | flag (hl : l ∈ oddRun e.isRegional) (hd : e.propertyOf d = some .regionalIndicator)

theorem joins_concat_iff :
    e.Joins (m ++ [c]) d ↔
      e.JoinsSyllable c d ∨ e.Attaches d ∨ e.propertyOf c = some .prepend ∨
        (m ++ [c] ∈ ⊤ * (e.playing [.consonant] * e.conjunctLink) ∧
          e.conjunctOf d = some .consonant) ∨
        (m ++ [c] ∈ ⊤ * (e.pictograph * e.pictographLink) ∧
          e.pictographic.acceptsCodepoint d = true) ∨
        m ++ [c] ∈ oddRun e.isRegional ∧ e.propertyOf d = some .regionalIndicator := by
  constructor
  · rintro (h | h | h | ⟨hl, hd⟩ | ⟨hl, hd⟩ | ⟨hl, hd⟩)
    · exact Or.inl (by simpa using h)
    · exact Or.inr (Or.inl h)
    · exact Or.inr (Or.inr (Or.inl (by simpa using h)))
    · exact Or.inr (Or.inr (Or.inr (Or.inl ⟨hl, hd⟩)))
    · exact Or.inr (Or.inr (Or.inr (Or.inr (Or.inl ⟨hl, hd⟩))))
    · exact Or.inr (Or.inr (Or.inr (Or.inr (Or.inr ⟨hl, hd⟩))))
  · rintro (h | h | h | ⟨hl, hd⟩ | ⟨hl, hd⟩ | ⟨hl, hd⟩)
    · exact .syllable ⟨c, List.getLast?_concat, h⟩
    · exact .attaches h
    · exact .prepend ⟨c, List.getLast?_concat, h⟩
    · exact .conjunct hl hd
    · exact .pictographs hl hd
    · exact .flag hl hd

/-- The rules that look back, with the links of conjuncts and emoji sequences. -/
theorem breaks_contextRules_iff_link :
    Rule.Breaks e.contextRules l r ↔
      ¬(l ∈ ⊤ * (e.playing [.consonant] * e.conjunctLink) ∧
          ∃ d, r.head? = some d ∧ e.conjunctOf d = some .consonant) ∧
        ¬(l ∈ ⊤ * (e.pictograph * e.pictographLink) ∧
          ∃ d, r.head? = some d ∧ e.pictographic.acceptsCodepoint d = true) ∧
        ¬(l ∈ oddRun e.isRegional ∧ r.head?.bind e.propertyOf = some .regionalIndicator) := by
  rw [breaks_contextRules_iff]
  simp only [conjunctLink, pictographLink, ← mul_assoc]

/-- Two sides stay together as the two halves of a line end, or because neither
neighbour is a control and some rule joins them. -/
theorem not_breaks_rules_iff :
    ¬Rule.Breaks e.rules (m ++ [c]) (d :: r) ↔
      e.propertyOf c = some .cr ∧ e.propertyOf d = some .lf ∨
        ¬e.IsControl c ∧ ¬e.IsControl d ∧ e.Joins (m ++ [c]) d := by
  rw [rules, breaks_adjacentRules_append, breaks_contextRules_iff_link, joins_concat_iff]
  simp only [List.getLast?_concat, List.head?_cons, Option.bind_some, IsControl, Attaches,
    JoinsSyllable, Option.some.injEq, exists_eq_left']
  grind

/-! ## The members of the grammar -/

theorem playing_consonant_eq :
    e.playing [.consonant] = single fun c => e.conjunctOf c = some .consonant := by
  simp [playing]

theorem mem_having_mul_having {p q : Property} :
    l ∈ e.having [p] * e.having [q] ↔
      ∃ c d, e.propertyOf c = some p ∧ e.propertyOf d = some q ∧ l = [c, d] := by
  rw [Language.mem_mul]
  constructor
  · rintro ⟨_, hl, _, hr, rfl⟩
    obtain ⟨c, hc, rfl⟩ := mem_having_singleton.mp hl
    obtain ⟨d, hd, rfl⟩ := mem_having_singleton.mp hr
    exact ⟨c, d, hc, hd, rfl⟩
  · rintro ⟨c, d, hc, hd, rfl⟩
    exact ⟨[c], mem_having_singleton.mpr ⟨c, hc, rfl⟩, [d],
      mem_having_singleton.mpr ⟨d, hd, rfl⟩, rfl⟩

/-- Chains of pictographs. -/
def PictographChain (e : Evaluator) : List Codepoint → Prop :=
  Chain (fun c => e.pictographic.acceptsCodepoint c = true) e.pictographLink

/-- Chains of consonants. -/
def ConsonantChain (e : Evaluator) : List Codepoint → Prop :=
  Chain (fun c => e.conjunctOf c = some .consonant) e.conjunctLink

theorem attaches_of_mem_conjunctLink (he : e.SelfContained) (h : l ∈ e.conjunctLink)
    (hc : c ∈ l) : e.Attaches c := by
  have hlinker : ∀ c, (∃ p ∈ [ConjunctProperty.linker], e.conjunctOf c = some p) →
      ∃ p ∈ [ConjunctProperty.linker, .extend], e.conjunctOf c = some p := by
    rintro c ⟨p, hp, hc⟩
    exact ⟨p, by simpa using Or.inl (List.mem_singleton.mp hp), hc⟩
  rw [conjunctLink, playing, playing, mem_kstar_mul_single_mul_kstar hlinker] at h
  obtain ⟨p, hp, hconjunct⟩ := h.1 c hc
  have hinner : (e.conjunctOf c).any ConjunctProperty.isInner = true := by
    rw [hconjunct]
    simp only [List.mem_cons, List.not_mem_nil, or_false] at hp
    rcases hp with rfl | rfl <;> rfl
  exact he.attaches_of_isInner c hinner

theorem attaches_of_mem_pictographLink (h : l ∈ e.pictographLink) (hc : c ∈ l) :
    e.Attaches c := by
  obtain ⟨m, hm, _, hlast, rfl⟩ := Language.mem_mul.mp h
  obtain ⟨z, hz, rfl⟩ := mem_having_singleton.mp hlast
  rcases List.mem_append.mp hc with hc | hc
  · rw [Attaches, mem_kstar_having_singleton.mp hm c hc]
    rfl
  · rw [List.mem_singleton.mp hc, Attaches, hz]
    rfl

/-- A core is a syllable, a flag, a chain of pictographs or of consonants, or any other
codepoint that is no control. -/
theorem mem_core_iff (he : e.Coherent) :
    l ∈ e.core ↔
      l ∈ e.syllable ∨
      (∃ c d, e.propertyOf c = some .regionalIndicator ∧
        e.propertyOf d = some .regionalIndicator ∧ l = [c, d]) ∨
      e.PictographChain l ∨ e.ConsonantChain l ∨ ∃ c, ¬e.IsControl c ∧ l = [c] := by
  have hsingle : l ∈ e.notControl ↔ ∃ c, ¬e.IsControl c ∧ l = [c] := by
    simp [notControl, mem_single, IsControl]
  rw [core, Language.mem_add, Language.mem_add, Language.mem_add, Language.mem_add,
    mem_having_mul_having, hsingle, pictograph, mem_single_mul_kstar_iff, playing_consonant_eq,
    mem_single_mul_plus_iff, or_assoc, or_assoc, or_assoc]
  refine or_congr Iff.rfl (or_congr Iff.rfl (or_congr Iff.rfl ?_))
  constructor
  · rintro (⟨m, run, c, hm, hrun, hc, rfl⟩ | h)
    · exact Or.inl (.link hm hrun hc)
    · exact Or.inr h
  · rintro (h | h)
    · cases h with
      | @one c hc =>
          refine Or.inr ⟨c, ?_, rfl⟩
          rw [IsControl, he.property_of_consonant c hc]
          simp
      | @link m run c hm hrun hc => exact Or.inl ⟨m, run, c, hm, hrun, hc, rfl⟩
    · exact Or.inr h

theorem mem_controls_iff :
    l ∈ e.having [.control] + e.having [.cr] + e.having [.lf] ↔
      ∃ c, e.IsControl c ∧ l = [c] := by
  simp only [Language.mem_add, mem_having_singleton]
  constructor
  · rintro ((⟨c, hc, rfl⟩ | ⟨c, hc, rfl⟩) | ⟨c, hc, rfl⟩)
    all_goals exact ⟨c, by rw [IsControl, hc]; rfl, rfl⟩
  · rintro ⟨c, hc, rfl⟩
    obtain ⟨p, hp, hcontrol⟩ := exists_mem_isControl_iff.mpr hc
    simp only [List.mem_cons, List.not_mem_nil, or_false] at hp
    rcases hp with rfl | rfl | rfl
    · exact Or.inl (Or.inr ⟨c, hcontrol, rfl⟩)
    · exact Or.inr ⟨c, hcontrol, rfl⟩
    · exact Or.inl (Or.inl ⟨c, hcontrol, rfl⟩)

theorem mem_kstar_attaching_iff :
    l ∈ (e.having [.extend, .zwj, .spacingMark])∗ ↔ ∀ c ∈ l, e.Attaches c := by
  rw [having, mem_kstar_single]
  refine forall_congr' fun c => imp_congr_right fun _ => ?_
  rw [Attaches, ← exists_mem_attaches_iff]
  simp [or_assoc]

/-- A cluster is a line end of two codepoints, a control, or a core with prepended and
attached codepoints around it. -/
theorem mem_cluster_iff :
    l ∈ e.cluster ↔
      (∃ c d, e.propertyOf c = some .cr ∧ e.propertyOf d = some .lf ∧ l = [c, d]) ∨
      (∃ c, e.IsControl c ∧ l = [c]) ∨
      ∃ pre core post, (∀ c ∈ pre, e.propertyOf c = some .prepend) ∧ core ∈ e.core ∧
        (∀ c ∈ post, e.Attaches c) ∧ l = pre ++ core ++ post := by
  have hcluster : e.cluster = e.having [.cr] * e.having [.lf] +
      ((e.having [.control] + e.having [.cr] + e.having [.lf]) +
        (e.having [.prepend])∗ * e.core * (e.having [.extend, .zwj, .spacingMark])∗) := by
    simp only [cluster, add_assoc]
  rw [hcluster, Language.mem_add, Language.mem_add, mem_having_mul_having, mem_controls_iff]
  refine or_congr Iff.rfl (or_congr Iff.rfl ?_)
  constructor
  · intro h
    obtain ⟨_, hfront, post, hpost, rfl⟩ := Language.mem_mul.mp h
    obtain ⟨pre, hpre, core, hcore, rfl⟩ := Language.mem_mul.mp hfront
    exact ⟨pre, core, post, mem_kstar_having_singleton.mp hpre, hcore,
      mem_kstar_attaching_iff.mp hpost, rfl⟩
  · rintro ⟨pre, core, post, hpre, hcore, hpost, rfl⟩
    exact Language.mem_mul.mpr ⟨pre ++ core,
      Language.mem_mul.mpr ⟨pre, mem_kstar_having_singleton.mpr hpre, core, hcore, rfl⟩,
      post, mem_kstar_attaching_iff.mpr hpost, rfl⟩

end Evaluator
end Grapheme
end TextBoundary
