import TextBoundary.Proofs.Grapheme.Grammar

/-!
# Clusters are what the rules keep together

For coherent tables, the rules and the grammar agree on where a cluster ends.  No rule
puts a boundary inside a match of the grammar, and a match that is not followed by a
boundary grows to a longer one.  A match that is followed by a boundary is therefore the
longest one.

Both facts are proved case by case, for every kind of core and every rule that joins.
-/

namespace TextBoundary
namespace Grapheme
namespace Evaluator

open scoped Computability

variable {e : Evaluator} {a b l m r pre core post run : List Codepoint} {c d : Codepoint}

/-! ## Inside a core -/

theorem joins_prepend_append (h : e.Joins a d) (hne : a ≠ [])
    (hregional : ∀ c ∈ pre, e.isRegional c = false) : e.Joins (pre ++ a) d := by
  have htop : ∀ {x : Language Codepoint}, a ∈ ⊤ * x → pre ++ a ∈ ⊤ * x := by
    intro x ha
    obtain ⟨k, -, m, hm, rfl⟩ := Language.mem_mul.mp ha
    exact Language.mem_mul.mpr ⟨pre ++ k, mem_top_language, m, hm, by simp⟩
  cases h with
  | syllable h => exact .syllable (by rwa [List.getLast?_append_of_ne_nil pre hne])
  | attaches h => exact .attaches h
  | prepend h => exact .prepend (by rwa [List.getLast?_append_of_ne_nil pre hne])
  | conjunct hl hd => exact .conjunct (htop hl) hd
  | pictographs hl hd => exact .pictographs (htop hl) hd
  | flag hl hd =>
      refine .flag ?_ hd
      rwa [mem_oddRun, rtakeWhile_append_of_none hregional]

/-- Between two codepoints of a core, some rule joins. -/
theorem joins_of_core_eq_append (he : e.Coherent) (hcore : a ++ d :: b ∈ e.core)
    (ha : a ≠ []) : e.Joins a d := by
  rcases (mem_core_iff he).mp hcore with h | ⟨c, c', hc, hc', h⟩ | h | h | ⟨c, -, h⟩
  · -- Hangul syllables.
    have hchain := isChain_of_mem_syllable h
    rw [List.isChain_append] at hchain
    obtain ⟨c, hlast⟩ := Option.ne_none_iff_exists'.mp (mt List.getLast?_eq_none_iff.mp ha)
    exact .syllable ⟨c, hlast, hchain.2.2 c hlast d rfl⟩
  · -- Flags.
    have hlength := congrArg List.length h
    have hpos := List.length_pos_of_ne_nil ha
    simp only [List.length_append, List.length_cons, List.length_nil] at hlength
    obtain ⟨x, rfl⟩ := List.length_eq_one_iff.mp (show a.length = 1 by omega)
    obtain rfl := List.length_eq_zero_iff.mp (show b.length = 0 by omega)
    obtain ⟨rfl, rfl⟩ : x = c ∧ d = c' := by simpa using h
    have hx : e.isRegional x = true := by simp [isRegional, hc]
    exact .flag (by simp [mem_oddRun, List.rtakeWhile, hx]) hc'
  · -- Chains of pictographs.
    obtain ⟨d', b', hb, hd⟩ := Chain.cut (q := e.Attaches) h
      (fun m hm c hc => attaches_of_mem_pictographLink hm hc) rfl ha (List.cons_ne_nil d b)
    obtain ⟨rfl, -⟩ := List.cons.inj hb
    rcases hd with hd | ⟨hd, hl⟩
    · exact .attaches hd
    · exact .pictographs hl hd
  · -- Chains of consonants.
    obtain ⟨d', b', hb, hd⟩ := Chain.cut (q := e.Attaches) h
      (fun m hm c hc => attaches_of_mem_conjunctLink he.selfContained hm hc) rfl ha
      (List.cons_ne_nil d b)
    obtain ⟨rfl, -⟩ := List.cons.inj hb
    rcases hd with hd | ⟨hd, hl⟩
    · exact .attaches hd
    · exact .conjunct (by rwa [playing_consonant_eq]) hd
  · -- A single codepoint has no inside.
    have hlength := congrArg List.length h
    have hpos := List.length_pos_of_ne_nil ha
    simp only [List.length_append, List.length_cons, List.length_nil] at hlength
    omega

/-! ## Inside a cluster -/

theorem not_isControl_of_isPart {p : Property} (hc : e.propertyOf c = some p) (hp : IsPart p) :
    ¬e.IsControl c := by
  rw [IsControl, hc]
  rcases hp with rfl | rfl | rfl | rfl | rfl <;> simp [Property.isControl]

theorem not_isControl_of_mem_core (he : e.Coherent) (h : core ∈ e.core) (hc : c ∈ core) :
    ¬e.IsControl c := by
  rcases (mem_core_iff he).mp h with h | ⟨x, y, hx, hy, rfl⟩ | h | h | ⟨x, hx, rfl⟩
  · obtain ⟨p, hp, hpart⟩ := isPart_of_mem_syllable h hc
    exact not_isControl_of_isPart hp hpart
  · rcases List.mem_pair.mp hc with rfl | rfl
    · simp [IsControl, hx, Property.isControl]
    · simp [IsControl, hy, Property.isControl]
  · rcases Chain.mem_or (q := e.Attaches) h
      (fun m hm c hc => attaches_of_mem_pictographLink hm hc) c hc with hc | hc
    · simp [IsControl, he.property_of_pictograph c hc, Property.isControl]
    · exact not_isControl_of_attaches hc
  · rcases Chain.mem_or (q := e.Attaches) h
      (fun m hm c hc => attaches_of_mem_conjunctLink he.selfContained hm hc) c hc with hc | hc
    · simp [IsControl, he.property_of_consonant c hc]
    · exact not_isControl_of_attaches hc
  · rwa [List.mem_singleton.mp hc]

theorem not_isControl_of_prepend (h : e.propertyOf c = some .prepend) : ¬e.IsControl c := by
  simp [IsControl, h, Property.isControl]

theorem isRegional_of_prepend (h : e.propertyOf c = some .prepend) : e.isRegional c = false := by
  simp [isRegional, h]

/-- A cluster around a core has no control in it. -/
theorem not_isControl_of_mem_cluster (he : e.Coherent)
    (hpre : ∀ c ∈ pre, e.propertyOf c = some .prepend) (hcore : core ∈ e.core)
    (hpost : ∀ c ∈ post, e.Attaches c) (hc : c ∈ pre ++ core ++ post) : ¬e.IsControl c := by
  rcases List.mem_append.mp hc with hc | hc
  · rcases List.mem_append.mp hc with hc | hc
    · exact not_isControl_of_prepend (hpre c hc)
    · exact not_isControl_of_mem_core he hcore hc
  · exact not_isControl_of_attaches (hpost c hc)

/-- Between two codepoints around a core, some rule joins. -/
theorem joins_of_cluster_eq_append (he : e.Coherent)
    (hpre : ∀ c ∈ pre, e.propertyOf c = some .prepend) (hcore : core ∈ e.core)
    (hpost : ∀ c ∈ post, e.Attaches c) (hl : pre ++ core ++ post = a ++ d :: b)
    (ha : a ≠ []) : e.Joins a d := by
  have hregional : ∀ c ∈ pre, e.isRegional c = false := fun c hc =>
    isRegional_of_prepend (hpre c hc)
  obtain ⟨c, hlast⟩ := Option.ne_none_iff_exists'.mp (mt List.getLast?_eq_none_iff.mp ha)
  rcases List.append_eq_append_iff.mp hl with ⟨k, -, hrest⟩ | ⟨k, hk, hrest⟩
  · exact .attaches (hpost d (by simp [hrest]))
  · cases k with
    | nil =>
        rw [List.nil_append] at hrest
        exact .attaches (hpost d (by simp [← hrest]))
    | cons d' k =>
        obtain ⟨rfl, -⟩ := List.cons.inj hrest
        rcases List.append_eq_append_iff.mp hk with ⟨k', rfl, hk'⟩ | ⟨k', rfl, -⟩
        · by_cases hnil : k' = []
          · subst hnil
            rw [List.append_nil] at hlast ⊢
            exact .prepend ⟨c, hlast, hpre c (List.mem_of_getLast? hlast)⟩
          · rw [hk'] at hcore
            exact joins_prepend_append (joins_of_core_eq_append he hcore hnil) hnil hregional
        · exact .prepend ⟨c, hlast, hpre c (by simp [List.mem_of_getLast? hlast])⟩

/-- No rule puts a boundary inside a cluster. -/
theorem not_breaks_of_cluster_eq_append (he : e.Coherent) (h : a ++ b ∈ e.cluster)
    (ha : a ≠ []) (hb : b ≠ []) : ¬Rule.Breaks e.rules a b := by
  obtain ⟨a, c, rfl⟩ := (List.eq_nil_or_concat' a).resolve_left ha
  obtain ⟨d, b, rfl⟩ := List.exists_cons_of_ne_nil hb
  rw [not_breaks_rules_iff]
  rcases mem_cluster_iff.mp h with ⟨x, y, hx, hy, heq⟩ | ⟨x, -, heq⟩ |
    ⟨pre, core, post, hpre, hcore, hpost, heq⟩
  · have hlength := congrArg List.length heq
    simp only [List.length_append, List.length_cons, List.length_nil] at hlength
    obtain rfl := List.length_eq_zero_iff.mp (show a.length = 0 by omega)
    obtain ⟨rfl, rfl, -⟩ : c = x ∧ d = y ∧ b = [] := by simpa using heq
    exact Or.inl ⟨hx, hy⟩
  · have hlength := congrArg List.length heq
    simp only [List.length_append, List.length_cons, List.length_nil] at hlength
    omega
  · have hcontrol : ∀ x ∈ a ++ [c] ++ d :: b, ¬e.IsControl x := by
      rw [heq]
      exact fun x => not_isControl_of_mem_cluster he hpre hcore hpost
    exact Or.inr ⟨hcontrol c (by simp), hcontrol d (by simp),
      joins_of_cluster_eq_append he hpre hcore hpost heq.symm (by simp)⟩

/-! ## Where a cluster ends in its core -/

theorem not_attaches_of_isPart {p : Property} (hc : e.propertyOf c = some p) (hp : IsPart p) :
    ¬e.Attaches c := by
  rw [Attaches, hc]
  rcases hp with rfl | rfl | rfl | rfl | rfl <;> simp [Property.attaches]

/-- What the last codepoint of a core says about the core. -/
theorem core_concat_cases (he : e.Coherent) (h : a ++ [c] ∈ e.core) :
    (∃ p, e.propertyOf c = some p ∧ IsPart p ∧ a ++ [c] ∈ e.syllable) ∨
      (e.propertyOf c = some .regionalIndicator ∧
        ∃ x, e.propertyOf x = some .regionalIndicator ∧ a = [x]) ∨
      (e.pictographic.acceptsCodepoint c = true ∧ e.PictographChain (a ++ [c])) ∨
      (e.conjunctOf c = some .consonant ∧ e.ConsonantChain (a ++ [c])) ∨
      ¬e.IsControl c ∧ a = [] := by
  rcases (mem_core_iff he).mp h with h | ⟨x, y, hx, hy, heq⟩ | h | h | ⟨x, hx, heq⟩
  · obtain ⟨p, hp, hpart⟩ := isPart_of_mem_syllable h (show c ∈ a ++ [c] by simp)
    exact Or.inl ⟨p, hp, hpart, h⟩
  · obtain ⟨rfl, rfl⟩ := List.append_singleton_inj.mp (show a ++ [c] = [x] ++ [y] from heq)
    exact Or.inr (Or.inl ⟨hy, x, hx, rfl⟩)
  · obtain ⟨m, y, heq, hy⟩ := Chain.exists_concat h
    obtain ⟨-, rfl⟩ := List.append_singleton_inj.mp heq
    exact Or.inr (Or.inr (Or.inl ⟨hy, h⟩))
  · obtain ⟨m, y, heq, hy⟩ := Chain.exists_concat h
    obtain ⟨-, rfl⟩ := List.append_singleton_inj.mp heq
    exact Or.inr (Or.inr (Or.inr (Or.inl ⟨hy, h⟩)))
  · obtain ⟨rfl, rfl⟩ := List.append_singleton_inj.mp (show a ++ [c] = [] ++ [x] from heq)
    exact Or.inr (Or.inr (Or.inr (Or.inr ⟨hx, rfl⟩)))

theorem ne_nil_of_mem_core (he : e.Coherent) (h : core ∈ e.core) : core ≠ [] := by
  rintro rfl
  rcases (mem_core_iff he).mp h with h | ⟨_, _, -, -, heq⟩ | h | h | ⟨_, -, heq⟩
  · simp [mem_syllable, mem_syllableCore] at h
  · contradiction
  · obtain ⟨m, c, heq, -⟩ := Chain.exists_concat h
    simp at heq
  · obtain ⟨m, c, heq, -⟩ := Chain.exists_concat h
    simp at heq
  · contradiction

/-- A cluster that ends in a codepoint which attaches to nothing ends with its core. -/
theorem exists_core_eq_concat (he : e.Coherent) (hcore : core ∈ e.core)
    (hpost : ∀ c ∈ post, e.Attaches c) (hlast : (pre ++ core ++ post).getLast? = some c)
    (hc : ¬e.Attaches c) : post = [] ∧ ∃ a, core = a ++ [c] := by
  have hnil : post = [] := by
    by_contra hne
    rw [List.getLast?_append_of_ne_nil _ hne] at hlast
    exact hc (hpost c (List.mem_of_getLast? hlast))
  have hne := ne_nil_of_mem_core he hcore
  rw [hnil, List.append_nil, List.getLast?_append_of_ne_nil _ hne] at hlast
  exact ⟨hnil, List.getLast?_eq_some_iff.mp hlast⟩

/-- A core of several codepoints ends in a part of a syllable, half of a flag, a
pictograph, or a codepoint without property. -/
theorem eq_nil_of_core_concat (he : e.Coherent) (h : a ++ [c] ∈ e.core) {p : Property}
    (hc : e.propertyOf c = some p) (hpart : ¬IsPart p) (hflag : p ≠ .regionalIndicator)
    (hpictograph : p ≠ .extendedPictographic) : a = [] := by
  rcases core_concat_cases he h with ⟨q, hq, hqpart, -⟩ | ⟨hq, -⟩ | ⟨haccepts, -⟩ |
    ⟨hplay, -⟩ | ⟨-, hnil⟩
  · obtain rfl := Option.some.inj (hc.symm.trans hq)
    exact absurd hqpart hpart
  · exact absurd (Option.some.inj (hc.symm.trans hq)) hflag
  · have hq := he.property_of_pictograph c haccepts
    exact absurd (Option.some.inj (hc.symm.trans hq)) hpictograph
  · have hnone := hc.symm.trans (he.property_of_consonant c hplay)
    contradiction
  · exact hnil

theorem eq_nil_of_core_concat_of_attaches (he : e.Coherent) (h : a ++ [c] ∈ e.core)
    (hc : e.Attaches c) : a = [] := by
  obtain ⟨p, hp, hattaches⟩ := Option.any_eq_true _ _ |>.mp hc
  have hpart : ¬IsPart p := by
    rintro (rfl | rfl | rfl | rfl | rfl) <;> contradiction
  refine eq_nil_of_core_concat he h hp hpart ?_ ?_
  · rintro rfl
    contradiction
  · rintro rfl
    contradiction

/-- What follows the last codepoint of a cluster that attaches to nothing is not part of
the core. -/
theorem exists_core_of_eq_append (he : e.Coherent)
    (hpre : ∀ c ∈ pre, e.propertyOf c = some .prepend) (hcore : core ∈ e.core)
    (hpost : ∀ c ∈ post, e.Attaches c) (hrun : ∀ c ∈ run, e.Attaches c)
    (hl : pre ++ core ++ post = l ++ c :: run) (hc : ¬e.Attaches c)
    (hprepend : e.propertyOf c ≠ some .prepend) : run = post ∧ ∃ a, core = a ++ [c] := by
  have hend : ∀ a k, core = a ++ c :: k → (∀ x ∈ k, e.Attaches x) → k = [] := by
    rintro a k rfl hk
    rcases List.eq_nil_or_concat' k with rfl | ⟨k, x, rfl⟩
    · rfl
    · rw [← List.cons_append, ← List.append_assoc] at hcore
      have hnil := eq_nil_of_core_concat_of_attaches he hcore (hk x (by simp))
      simp at hnil
  have hpostNe : c ∉ post := fun hmem => hc (hpost c hmem)
  rcases List.append_eq_append_iff.mp hl with ⟨k, -, hrest⟩ | ⟨k, hk, hrest⟩
  · exact absurd (by simp [hrest]) hpostNe
  cases k with
  | nil =>
      rw [List.nil_append] at hrest
      exact absurd (by simp [← hrest]) hpostNe
  | cons x k =>
      obtain ⟨rfl, rfl⟩ := List.cons.inj hrest
      have hkall : ∀ y ∈ k, e.Attaches y := fun y hy => hrun y (by simp [hy])
      rcases List.append_eq_append_iff.mp hk with ⟨a, -, ha⟩ | ⟨a, rfl, ha⟩
      · obtain rfl := hend a k ha hkall
        exact ⟨rfl, a, ha⟩
      · cases a with
        | nil =>
            rw [List.nil_append] at ha
            obtain rfl := hend [] k ha.symm hkall
            exact ⟨rfl, [], ha.symm⟩
        | cons y a =>
            obtain ⟨rfl, -⟩ := List.cons.inj ha
            exact absurd (hpre c (by simp)) hprepend

/-! ## Clusters grow by what the rules join to them -/

theorem mem_cluster_of_core (hpre : ∀ c ∈ pre, e.propertyOf c = some .prepend)
    (hcore : core ∈ e.core) (hpost : ∀ c ∈ post, e.Attaches c) :
    pre ++ core ++ post ∈ e.cluster :=
  mem_cluster_iff.mpr (Or.inr (Or.inr ⟨pre, core, post, hpre, hcore, hpost, rfl⟩))

/-- Nothing needs to be attached to a core. -/
theorem append_core_mem_cluster (hpre : ∀ c ∈ pre, e.propertyOf c = some .prepend)
    (hcore : core ∈ e.core) : pre ++ core ∈ e.cluster := by
  have hmem := mem_cluster_of_core hpre hcore (List.forall_mem_nil e.Attaches)
  rwa [List.append_nil] at hmem

theorem singleton_mem_core (he : e.Coherent) (hc : ¬e.IsControl c) : [c] ∈ e.core :=
  (mem_core_iff he).mpr (Or.inr (Or.inr (Or.inr (Or.inr ⟨c, hc, rfl⟩))))

/-- Every codepoint alone is a cluster. -/
theorem singleton_mem_cluster (he : e.Coherent) (c : Codepoint) : [c] ∈ e.cluster := by
  by_cases hc : e.IsControl c
  · exact mem_cluster_iff.mpr (Or.inr (Or.inl ⟨c, hc, rfl⟩))
  · exact append_core_mem_cluster (List.forall_mem_nil _) (singleton_mem_core he hc)

/-- A core that ends in a part of a syllable is a syllable. -/
theorem mem_syllable_of_core_concat (he : e.Coherent) (h : a ++ [c] ∈ e.core) {p : Property}
    (hc : e.propertyOf c = some p) (hp : IsPart p) : a ++ [c] ∈ e.syllable := by
  rcases core_concat_cases he h with ⟨-, -, -, hmem⟩ | ⟨hregional, -⟩ | ⟨hpict, -⟩ |
    ⟨hplay, -⟩ | ⟨-, rfl⟩
  · exact hmem
  · obtain rfl := Option.some.inj (hc.symm.trans hregional)
    simp [IsPart] at hp
  · obtain rfl := Option.some.inj (hc.symm.trans (he.property_of_pictograph c hpict))
    simp [IsPart] at hp
  · have hnone := hc.symm.trans (he.property_of_consonant c hplay)
    contradiction
  · exact singleton_mem_syllable hc hp

/-- A core that ends in a pictograph is a chain of them. -/
theorem pictographChain_of_core_concat (he : e.Coherent) (h : a ++ [c] ∈ e.core)
    (hc : e.pictographic.acceptsCodepoint c = true) : e.PictographChain (a ++ [c]) := by
  have hproperty := he.property_of_pictograph c hc
  rcases core_concat_cases he h with ⟨p, hp, hpart, -⟩ | ⟨hregional, -⟩ | ⟨-, hchain⟩ |
    ⟨hplay, -⟩ | ⟨-, rfl⟩
  · obtain rfl := Option.some.inj (hp.symm.trans hproperty)
    simp [IsPart] at hpart
  · have hsome := hregional.symm.trans hproperty
    contradiction
  · exact hchain
  · have hnone := hproperty.symm.trans (he.property_of_consonant c hplay)
    contradiction
  · exact Chain.one hc

/-- A core that ends in a consonant of a conjunct is a chain of them. -/
theorem consonantChain_of_core_concat (he : e.Coherent) (h : a ++ [c] ∈ e.core)
    (hc : e.conjunctOf c = some .consonant) : e.ConsonantChain (a ++ [c]) := by
  have hproperty := he.property_of_consonant c hc
  rcases core_concat_cases he h with ⟨p, hp, -, -⟩ | ⟨hregional, -⟩ | ⟨hpict, -⟩ |
    ⟨-, hchain⟩ | ⟨-, rfl⟩
  · have hsome := hp.symm.trans hproperty
    contradiction
  · have hsome := hregional.symm.trans hproperty
    contradiction
  · have hsome := (he.property_of_pictograph c hpict).symm.trans hproperty
    contradiction
  · exact hchain
  · exact Chain.one hc

section Grow

variable (he : e.Coherent) (hpre : ∀ c ∈ pre, e.propertyOf c = some .prepend)
  (hcore : core ∈ e.core) (hpost : ∀ c ∈ post, e.Attaches c)

include he hpre hcore hpost

theorem mem_cluster_concat_of_joinsSyllable (hlast : (pre ++ core ++ post).getLast? = some c)
    (hjoins : e.JoinsSyllable c d) : pre ++ core ++ post ++ [d] ∈ e.cluster := by
  obtain ⟨p, hp, hpart⟩ := isPart_of_joinsSyllable hjoins
  obtain ⟨rfl, a, rfl⟩ :=
    exists_core_eq_concat he hcore hpost hlast (not_attaches_of_isPart hp hpart)
  have hsyllable := mem_syllable_concat (mem_syllable_of_core_concat he hcore hp hpart)
    List.getLast?_concat hjoins
  have hmem := append_core_mem_cluster hpre ((mem_core_iff he).mpr (Or.inl hsyllable))
  simpa using hmem

/-- What a core would be prepended to begins the next core. -/
theorem mem_cluster_concat_of_prepend (hlast : (pre ++ core ++ post).getLast? = some c)
    (hc : e.propertyOf c = some .prepend) (hd : ¬e.IsControl d) :
    pre ++ core ++ post ++ [d] ∈ e.cluster := by
  obtain ⟨rfl, a, rfl⟩ := exists_core_eq_concat he hcore hpost hlast
    (by simp [Attaches, hc, Property.attaches])
  obtain rfl : a = [] := eq_nil_of_core_concat he hcore hc (by simp [IsPart]) (by simp) (by simp)
  have hmem := append_core_mem_cluster (forall_mem_concat hpre hc) (singleton_mem_core he hd)
  simpa using hmem

theorem mem_cluster_concat_of_conjunct
    (hl : pre ++ core ++ post ∈ ⊤ * (e.playing [.consonant] * e.conjunctLink))
    (hd : e.conjunctOf d = some .consonant) : pre ++ core ++ post ++ [d] ∈ e.cluster := by
  rw [playing_consonant_eq] at hl
  obtain ⟨k, c, run, hc, hrun, hl⟩ := mem_top_mul_single_mul.mp hl
  have hnone := he.property_of_consonant c hc
  obtain ⟨rfl, a, rfl⟩ := exists_core_of_eq_append he hpre hcore hpost
    (fun x hx => attaches_of_mem_conjunctLink he.selfContained hrun hx) hl
    (by simp [Attaches, hnone]) (by simp [hnone])
  have hchain := Chain.link (consonantChain_of_core_concat he hcore hc) hrun hd
  have hmem := append_core_mem_cluster hpre
    ((mem_core_iff he).mpr (Or.inr (Or.inr (Or.inr (Or.inl hchain)))))
  simpa using hmem

theorem mem_cluster_concat_of_pictographs
    (hl : pre ++ core ++ post ∈ ⊤ * (e.pictograph * e.pictographLink))
    (hd : e.pictographic.acceptsCodepoint d = true) :
    pre ++ core ++ post ++ [d] ∈ e.cluster := by
  obtain ⟨k, c, run, hc, hrun, hl⟩ := mem_top_mul_single_mul.mp hl
  have hproperty := he.property_of_pictograph c hc
  obtain ⟨rfl, a, rfl⟩ := exists_core_of_eq_append he hpre hcore hpost
    (fun x hx => attaches_of_mem_pictographLink hrun hx) hl
    (by simp [Attaches, hproperty, Property.attaches]) (by simp [hproperty])
  have hchain := Chain.link (pictographChain_of_core_concat he hcore hc) hrun hd
  have hmem := append_core_mem_cluster hpre
    ((mem_core_iff he).mpr (Or.inr (Or.inr (Or.inl hchain))))
  simpa using hmem

/-- A whole flag has an even run before its end, so an odd run leaves half of one. -/
theorem mem_cluster_concat_of_flag (hl : pre ++ core ++ post ∈ oddRun e.isRegional)
    (hd : e.propertyOf d = some .regionalIndicator) :
    pre ++ core ++ post ++ [d] ∈ e.cluster := by
  obtain ⟨c, hlast, hregional⟩ := exists_getLast?_of_mem_oddRun hl
  have hc := isRegional_iff.mp hregional
  obtain ⟨rfl, a, rfl⟩ := exists_core_eq_concat he hcore hpost hlast
    (by simp [Attaches, hc, Property.attaches])
  rcases core_concat_cases he hcore with ⟨p, hp, hpart, -⟩ | ⟨-, x, hx, rfl⟩ |
    ⟨haccepts, -⟩ | ⟨hplay, -⟩ | ⟨-, rfl⟩
  · obtain rfl := Option.some.inj (hp.symm.trans hc)
    simp [IsPart] at hpart
  · have hnone : ∀ y ∈ pre, e.isRegional y = false := fun y hy =>
      isRegional_of_prepend (hpre y hy)
    have hxregional : e.isRegional x = true := by simp [isRegional, hx]
    rw [List.append_nil, mem_oddRun, rtakeWhile_append_of_none hnone] at hl
    simp [List.rtakeWhile, hregional, hxregional] at hl
  · have hsome := (he.property_of_pictograph c haccepts).symm.trans hc
    contradiction
  · have hsome := (he.property_of_consonant c hplay).symm.trans hc
    contradiction
  · have hflag : [c, d] ∈ e.core :=
      (mem_core_iff he).mpr (Or.inr (Or.inl ⟨c, d, hc, hd, rfl⟩))
    have hmem := append_core_mem_cluster hpre hflag
    simpa using hmem

/-- A cluster to which some rule joins a codepoint grows by it. -/
theorem mem_cluster_concat_of_joins (hd : ¬e.IsControl d)
    (h : e.Joins (pre ++ core ++ post) d) : pre ++ core ++ post ++ [d] ∈ e.cluster := by
  cases h with
  | syllable h =>
      obtain ⟨c, hlast, hjoins⟩ := h
      exact mem_cluster_concat_of_joinsSyllable he hpre hcore hpost hlast hjoins
  | attaches h =>
      have hmem := mem_cluster_of_core hpre hcore (forall_mem_concat hpost h)
      simpa using hmem
  | prepend h =>
      obtain ⟨c, hlast, hc⟩ := h
      exact mem_cluster_concat_of_prepend he hpre hcore hpost hlast hc hd
  | conjunct hl hd => exact mem_cluster_concat_of_conjunct he hpre hcore hpost hl hd
  | pictographs hl hd => exact mem_cluster_concat_of_pictographs he hpre hcore hpost hl hd
  | flag hl hd => exact mem_cluster_concat_of_flag he hpre hcore hpost hl hd

end Grow

/-- A cluster that is not followed by a boundary grows by the next codepoint. -/
theorem mem_cluster_concat (he : e.Coherent) (h : l ∈ e.cluster) (hl : l ≠ [])
    (hjoined : ¬Rule.Breaks e.rules l (d :: r)) : l ++ [d] ∈ e.cluster := by
  obtain ⟨m, c, rfl⟩ := (List.eq_nil_or_concat' l).resolve_left hl
  rcases not_breaks_rules_iff.mp hjoined with ⟨hc, hd⟩ | ⟨hc, hd, hjoins⟩
  · -- The first half of a line end is a cluster of its own.
    have hcontrol : e.IsControl c := by simp [IsControl, hc, Property.isControl]
    rcases mem_cluster_iff.mp h with ⟨x, y, -, hy, heq⟩ | ⟨x, -, heq⟩ |
      ⟨pre, core, post, hpre, hcore, hpost, heq⟩
    · obtain ⟨-, rfl⟩ := List.append_singleton_inj.mp (show m ++ [c] = [x] ++ [y] from heq)
      have hsame := hc.symm.trans hy
      contradiction
    · obtain ⟨rfl, -⟩ := List.append_singleton_inj.mp (show m ++ [c] = [] ++ [x] from heq)
      exact mem_cluster_iff.mpr (Or.inl ⟨c, d, hc, hd, rfl⟩)
    · have hmem : c ∈ pre ++ core ++ post := by simp [← heq]
      exact absurd hcontrol (not_isControl_of_mem_cluster he hpre hcore hpost hmem)
  · rcases mem_cluster_iff.mp h with ⟨x, y, -, hy, heq⟩ | ⟨x, hx, heq⟩ |
      ⟨pre, core, post, hpre, hcore, hpost, heq⟩
    · obtain ⟨-, rfl⟩ := List.append_singleton_inj.mp (show m ++ [c] = [x] ++ [y] from heq)
      simp [IsControl, hy, Property.isControl] at hc
    · obtain ⟨-, rfl⟩ := List.append_singleton_inj.mp (show m ++ [c] = [] ++ [x] from heq)
      exact absurd hx hc
    · rw [heq] at hjoins ⊢
      exact mem_cluster_concat_of_joins he hpre hcore hpost hd hjoins

end Evaluator
end Grapheme
end TextBoundary
