import Mathlib.Data.List.Chain
import TextBoundary.Proofs.Grapheme.Rules

/-!
# Hangul syllables

The expression for a Hangul syllable says which sequences of parts form one.  The rules
GB6, GB7 and GB8 say which neighbours stay together.  Both describe the same sequences:
neighbours inside a syllable stay together, and a syllable followed by a part that stays
with its last one is a syllable again.
-/

namespace TextBoundary
namespace Grapheme
namespace Evaluator

open scoped Computability

/-- The middle of a syllable: vowels, or a precomposed syllable with what it can still
take. -/
def syllableCore (e : Evaluator) : Language Codepoint :=
  plus (e.having [.v]) + e.having [.lv] * (e.having [.v])∗ + e.having [.lvt]

/-- A Hangul syllable, or what stands for one where its middle is missing. -/
def syllable (e : Evaluator) : Language Codepoint :=
  (e.having [.l])∗ * e.syllableCore * (e.having [.t])∗ +
    plus (e.having [.l]) + plus (e.having [.t])

/-- Two neighbours that the syllable rules keep together. -/
def JoinsSyllable (e : Evaluator) (c d : Codepoint) : Prop :=
  (e.propertyOf c).any (fun p => (e.propertyOf d).any p.joinsSyllable) = true

variable {e : Evaluator} {l m : List Codepoint} {c d : Codepoint} {p : Property}

/-! ## Sequences of one part -/

theorem mem_having_singleton : l ∈ e.having [p] ↔ ∃ c, e.propertyOf c = some p ∧ l = [c] := by
  simp [having, mem_single]

theorem mem_kstar_having_singleton :
    l ∈ (e.having [p])∗ ↔ ∀ c ∈ l, e.propertyOf c = some p := by
  simp [having, mem_kstar_single]

theorem mem_plus_having_singleton :
    l ∈ plus (e.having [p]) ↔
      ∃ c m, e.propertyOf c = some p ∧ (∀ d ∈ m, e.propertyOf d = some p) ∧ l = c :: m := by
  rw [plus]
  nth_rewrite 1 [having]
  rw [mem_single_mul]
  simp only [mem_kstar_having_singleton, List.mem_singleton, exists_eq_left]

/-- The middle of a syllable is one part that can begin it, followed by vowels where it
can take any. -/
theorem mem_syllableCore :
    l ∈ e.syllableCore ↔
      (∃ c m, (e.propertyOf c = some .v ∨ e.propertyOf c = some .lv) ∧
        (∀ d ∈ m, e.propertyOf d = some .v) ∧ l = c :: m) ∨
      ∃ c, e.propertyOf c = some .lvt ∧ l = [c] := by
  rw [syllableCore, Language.mem_add, Language.mem_add, mem_plus_having_singleton,
    mem_having_singleton]
  nth_rewrite 1 [having]
  rw [mem_single_mul]
  simp only [mem_kstar_having_singleton, List.mem_singleton, exists_eq_left, or_and_right,
    exists_or]

theorem mem_syllable :
    l ∈ e.syllable ↔
      (∃ ls b ts, (∀ c ∈ ls, e.propertyOf c = some .l) ∧ b ∈ e.syllableCore ∧
        (∀ c ∈ ts, e.propertyOf c = some .t) ∧ l = ls ++ b ++ ts) ∨
      (∃ c m, e.propertyOf c = some .l ∧ (∀ d ∈ m, e.propertyOf d = some .l) ∧ l = c :: m) ∨
      ∃ c m, e.propertyOf c = some .t ∧ (∀ d ∈ m, e.propertyOf d = some .t) ∧ l = c :: m := by
  rw [syllable, Language.mem_add, Language.mem_add, mem_plus_having_singleton,
    mem_plus_having_singleton, or_assoc, Language.mem_mul]
  refine or_congr ?_ Iff.rfl
  constructor
  · rintro ⟨_, hlb, ts, hts, rfl⟩
    obtain ⟨ls, hls, b, hb, rfl⟩ := Language.mem_mul.mp hlb
    exact ⟨ls, b, ts, mem_kstar_having_singleton.mp hls, hb,
      mem_kstar_having_singleton.mp hts, rfl⟩
  · rintro ⟨ls, b, ts, hls, hb, hts, rfl⟩
    exact ⟨ls ++ b, Language.mem_mul.mpr ⟨ls, mem_kstar_having_singleton.mpr hls, b, hb, rfl⟩,
      ts, mem_kstar_having_singleton.mpr hts, rfl⟩

/-! ## Neighbours inside a syllable -/

theorem joinsSyllable_iff {q : Property} (hc : e.propertyOf c = some p)
    (hd : e.propertyOf d = some q) : e.JoinsSyllable c d ↔ p.joinsSyllable q = true := by
  simp [JoinsSyllable, hc, hd]

theorem exists_of_joinsSyllable (h : e.JoinsSyllable c d) :
    ∃ p q, e.propertyOf c = some p ∧ e.propertyOf d = some q ∧ p.joinsSyllable q = true := by
  obtain ⟨p, hp, h⟩ := Option.any_eq_true _ _ |>.mp h
  obtain ⟨q, hq, h⟩ := Option.any_eq_true _ _ |>.mp h
  exact ⟨p, q, hp, hq, h⟩

theorem joinsSyllable_of_l (h : e.JoinsSyllable c d) (hc : e.propertyOf c = some .l) :
    ∃ q, e.propertyOf d = some q ∧ (q = .l ∨ q = .v ∨ q = .lv ∨ q = .lvt) := by
  obtain ⟨p, q, hp, hq, hjoins⟩ := exists_of_joinsSyllable h
  obtain rfl := Option.some.inj (hc.symm.trans hp)
  exact ⟨q, hq, by simpa [joinsSyllable_eq_true_iff] using hjoins⟩

theorem joinsSyllable_of_open (h : e.JoinsSyllable c d)
    (hc : e.propertyOf c = some .v ∨ e.propertyOf c = some .lv) :
    e.propertyOf d = some .v ∨ e.propertyOf d = some .t := by
  obtain ⟨p, q, hp, hq, hjoins⟩ := exists_of_joinsSyllable h
  rw [hq]
  rcases hc with hc | hc
  · obtain rfl := Option.some.inj (hc.symm.trans hp)
    simpa [joinsSyllable_eq_true_iff] using hjoins
  · obtain rfl := Option.some.inj (hc.symm.trans hp)
    simpa [joinsSyllable_eq_true_iff] using hjoins

theorem joinsSyllable_of_closed (h : e.JoinsSyllable c d)
    (hc : e.propertyOf c = some .lvt ∨ e.propertyOf c = some .t) :
    e.propertyOf d = some .t := by
  obtain ⟨p, q, hp, hq, hjoins⟩ := exists_of_joinsSyllable h
  rw [hq]
  rcases hc with hc | hc
  · obtain rfl := Option.some.inj (hc.symm.trans hp)
    simpa [joinsSyllable_eq_true_iff] using hjoins
  · obtain rfl := Option.some.inj (hc.symm.trans hp)
    simpa [joinsSyllable_eq_true_iff] using hjoins

theorem isChain_of_forall (hl : ∀ c ∈ l, e.propertyOf c = some p)
    (hp : p.joinsSyllable p = true) : l.IsChain e.JoinsSyllable := by
  apply List.Pairwise.isChain
  apply List.pairwise_of_forall_mem_list
  intro c hc d hd
  exact (joinsSyllable_iff (hl c hc) (hl d hd)).mpr hp

/-- A part followed by others that it stays with and that stay together. -/
theorem isChain_cons_of_forall {q : Property} (hc : e.propertyOf c = some p)
    (hm : ∀ d ∈ m, e.propertyOf d = some q) (hpq : p.joinsSyllable q = true)
    (hqq : q.joinsSyllable q = true) : (c :: m).IsChain e.JoinsSyllable := by
  rw [List.isChain_cons]
  refine ⟨?_, isChain_of_forall hm hqq⟩
  intro d hd
  exact (joinsSyllable_iff hc (hm d (List.mem_of_mem_head? hd))).mpr hpq

/-- The parts that the middle of a syllable begins and ends with. -/
def IsMiddle (p : Property) : Prop :=
  p = .v ∨ p = .lv ∨ p = .lvt

theorem syllableCore_spec (h : l ∈ e.syllableCore) :
    l.IsChain e.JoinsSyllable ∧
      (∃ c p, l.head? = some c ∧ e.propertyOf c = some p ∧ IsMiddle p) ∧
      ∃ c p, l.getLast? = some c ∧ e.propertyOf c = some p ∧ IsMiddle p := by
  rcases mem_syllableCore.mp h with ⟨c, m, hc, hm, rfl⟩ | ⟨c, hc, rfl⟩
  · have hfirst : ∃ p, e.propertyOf c = some p ∧ IsMiddle p ∧ p.joinsSyllable .v = true := by
      rcases hc with hc | hc
      · exact ⟨.v, hc, Or.inl rfl, rfl⟩
      · exact ⟨.lv, hc, Or.inr (Or.inl rfl), rfl⟩
    obtain ⟨p, hp, hmiddle, hjoins⟩ := hfirst
    refine ⟨isChain_cons_of_forall hp hm hjoins rfl, ⟨c, p, rfl, hp, hmiddle⟩, ?_⟩
    rcases List.eq_nil_or_concat' m with rfl | ⟨m, d, rfl⟩
    · exact ⟨c, p, rfl, hp, hmiddle⟩
    · exact ⟨d, .v, by rw [← List.cons_append, List.getLast?_concat], hm d (by simp),
        Or.inl rfl⟩
  · exact ⟨List.isChain_singleton c, ⟨c, .lvt, rfl, hc, Or.inr (Or.inr rfl)⟩,
      c, .lvt, rfl, hc, Or.inr (Or.inr rfl)⟩

/-- Neighbours inside a syllable stay together. -/
theorem isChain_of_mem_syllable (h : l ∈ e.syllable) : l.IsChain e.JoinsSyllable := by
  rcases mem_syllable.mp h with ⟨ls, b, ts, hls, hb, hts, rfl⟩ | ⟨c, m, hc, hm, rfl⟩ |
    ⟨c, m, hc, hm, rfl⟩
  · obtain ⟨hchain, ⟨c, p, hhead, hc, hp⟩, d, q, hlast, hd, hq⟩ := syllableCore_spec hb
    have hfirst : (ls ++ b).IsChain e.JoinsSyllable := by
      rw [List.isChain_append]
      refine ⟨isChain_of_forall hls rfl, hchain, ?_⟩
      intro x hx y hy
      obtain rfl := Option.some.inj (hhead.symm.trans hy)
      rw [joinsSyllable_iff (hls x (List.mem_of_mem_getLast? hx)) hc]
      rcases hp with rfl | rfl | rfl <;> rfl
    rw [List.isChain_append]
    refine ⟨hfirst, isChain_of_forall hts rfl, ?_⟩
    intro x hx y hy
    have hne : b ≠ [] := by
      rintro rfl
      simp at hhead
    rw [List.getLast?_append_of_ne_nil ls hne] at hx
    obtain rfl := Option.some.inj (hlast.symm.trans hx)
    rw [joinsSyllable_iff hd (hts y (List.mem_of_mem_head? hy))]
    rcases hq with rfl | rfl | rfl <;> rfl
  · exact isChain_cons_of_forall hc hm rfl rfl
  · exact isChain_cons_of_forall hc hm rfl rfl

/-! ## Syllables grow by the parts that stay with them -/

theorem forall_mem_concat {P : Codepoint → Prop} (hl : ∀ c ∈ l, P c) (hd : P d) :
    ∀ c ∈ l ++ [d], P c := by
  intro c hc
  rcases List.mem_append.mp hc with hc | hc
  · exact hl c hc
  · rwa [List.mem_singleton.mp hc]

/-- A middle to which a part is added that stays with its last one. -/
theorem syllableCore_concat {b : List Codepoint} (hb : b ∈ e.syllableCore)
    (hlast : b.getLast? = some c) (hjoins : e.JoinsSyllable c d) :
    b ++ [d] ∈ e.syllableCore ∨ e.propertyOf d = some .t := by
  rcases mem_syllableCore.mp hb with ⟨c₀, m, hc₀, hm, rfl⟩ | ⟨c₀, hc₀, rfl⟩
  · have hc : e.propertyOf c = some .v ∨ e.propertyOf c = some .lv := by
      rcases List.eq_nil_or_concat' m with rfl | ⟨m, c', rfl⟩
      · obtain rfl : c₀ = c := by simpa using hlast
        exact hc₀
      · rw [← List.cons_append, List.getLast?_concat] at hlast
        obtain rfl := Option.some.inj hlast
        exact Or.inl (hm c' (by simp))
    rcases joinsSyllable_of_open hjoins hc with hd | hd
    · exact Or.inl (mem_syllableCore.mpr
        (Or.inl ⟨c₀, m ++ [d], hc₀, forall_mem_concat hm hd, rfl⟩))
    · exact Or.inr hd
  · obtain rfl : c₀ = c := by simpa using hlast
    exact Or.inr (joinsSyllable_of_closed hjoins (Or.inl hc₀))

/-- A part that can begin or end the middle of a syllable is one. -/
theorem singleton_mem_syllableCore (hc : e.propertyOf c = some p) (hp : IsMiddle p) :
    [c] ∈ e.syllableCore := by
  rcases hp with rfl | rfl | rfl
  · exact mem_syllableCore.mpr (Or.inl ⟨c, [], Or.inl hc, by simp, rfl⟩)
  · exact mem_syllableCore.mpr (Or.inl ⟨c, [], Or.inr hc, by simp, rfl⟩)
  · exact mem_syllableCore.mpr (Or.inr ⟨c, hc, rfl⟩)

theorem mem_syllable_concat (h : l ∈ e.syllable) (hlast : l.getLast? = some c)
    (hjoins : e.JoinsSyllable c d) : l ++ [d] ∈ e.syllable := by
  rw [mem_syllable]
  rcases mem_syllable.mp h with ⟨ls, b, ts, hls, hb, hts, rfl⟩ | ⟨c₀, m, hc₀, hm, rfl⟩ |
    ⟨c₀, m, hc₀, hm, rfl⟩
  · rcases List.eq_nil_or_concat' ts with rfl | ⟨ts, c', rfl⟩
    · have hne : b ≠ [] := by
        rintro rfl
        simp [mem_syllableCore] at hb
      rw [List.append_nil, List.getLast?_append_of_ne_nil ls hne] at hlast
      rcases syllableCore_concat hb hlast hjoins with hgrown | hd
      · exact Or.inl ⟨ls, b ++ [d], [], hls, hgrown, by simp, by simp⟩
      · exact Or.inl ⟨ls, b, [d], hls, hb, by simpa using hd, by simp⟩
    · have hc' : e.propertyOf c' = some .t := hts c' (by simp)
      rw [← List.append_assoc, List.getLast?_concat] at hlast
      obtain rfl := Option.some.inj hlast
      have hd := joinsSyllable_of_closed hjoins (Or.inr hc')
      exact Or.inl ⟨ls, b, ts ++ [c'] ++ [d], hls, hb, forall_mem_concat hts hd, by simp⟩
  · have hall : ∀ x ∈ c₀ :: m, e.propertyOf x = some .l := List.forall_mem_cons.mpr ⟨hc₀, hm⟩
    obtain ⟨q, hq, rfl | hmiddle⟩ :=
      joinsSyllable_of_l hjoins (hall c (List.mem_of_getLast? hlast))
    · exact Or.inr (Or.inl ⟨c₀, m ++ [d], hc₀, forall_mem_concat hm hq, rfl⟩)
    · have hd := singleton_mem_syllableCore hq hmiddle
      exact Or.inl ⟨c₀ :: m, [d], [], hall, hd, by simp, by simp⟩
  · have hall : ∀ x ∈ c₀ :: m, e.propertyOf x = some .t := List.forall_mem_cons.mpr ⟨hc₀, hm⟩
    have hd := joinsSyllable_of_closed hjoins (Or.inr (hall c (List.mem_of_getLast? hlast)))
    exact Or.inr (Or.inr ⟨c₀, m ++ [d], hc₀, forall_mem_concat hm hd, rfl⟩)

/-- The parts of a syllable. -/
def IsPart (p : Property) : Prop :=
  p = .l ∨ p = .v ∨ p = .t ∨ p = .lv ∨ p = .lvt

theorem isPart_of_joinsSyllable (h : e.JoinsSyllable c d) :
    ∃ p, e.propertyOf c = some p ∧ IsPart p := by
  obtain ⟨p, q, hp, -, hjoins⟩ := exists_of_joinsSyllable h
  refine ⟨p, hp, ?_⟩
  rcases joinsSyllable_eq_true_iff.mp hjoins with ⟨rfl, -⟩ | ⟨rfl | rfl, -⟩ | ⟨rfl | rfl, -⟩
  all_goals simp [IsPart]

theorem isPart_of_mem_syllableCore (h : l ∈ e.syllableCore) (hc : c ∈ l) :
    ∃ p, e.propertyOf c = some p ∧ IsPart p := by
  rcases mem_syllableCore.mp h with ⟨c₀, m, hc₀, hm, rfl⟩ | ⟨c₀, hc₀, rfl⟩
  · rcases List.mem_cons.mp hc with rfl | hc
    · rcases hc₀ with hc₀ | hc₀
      · exact ⟨.v, hc₀, by simp [IsPart]⟩
      · exact ⟨.lv, hc₀, by simp [IsPart]⟩
    · exact ⟨.v, hm c hc, by simp [IsPart]⟩
  · rw [List.mem_singleton.mp hc]
    exact ⟨.lvt, hc₀, by simp [IsPart]⟩

theorem isPart_of_mem_syllable (h : l ∈ e.syllable) (hc : c ∈ l) :
    ∃ p, e.propertyOf c = some p ∧ IsPart p := by
  rcases mem_syllable.mp h with ⟨ls, b, ts, hls, hb, hts, rfl⟩ | ⟨c₀, m, hc₀, hm, rfl⟩ |
    ⟨c₀, m, hc₀, hm, rfl⟩
  · rcases List.mem_append.mp hc with hc | hc
    · rcases List.mem_append.mp hc with hc | hc
      · exact ⟨.l, hls c hc, by simp [IsPart]⟩
      · exact isPart_of_mem_syllableCore hb hc
    · exact ⟨.t, hts c hc, by simp [IsPart]⟩
  · have hall : ∀ x ∈ c₀ :: m, e.propertyOf x = some .l := List.forall_mem_cons.mpr ⟨hc₀, hm⟩
    exact ⟨.l, hall c hc, by simp [IsPart]⟩
  · have hall : ∀ x ∈ c₀ :: m, e.propertyOf x = some .t := List.forall_mem_cons.mpr ⟨hc₀, hm⟩
    exact ⟨.t, hall c hc, by simp [IsPart]⟩

/-- A part alone is a syllable. -/
theorem singleton_mem_syllable (hc : e.propertyOf c = some p) (hp : IsPart p) :
    [c] ∈ e.syllable := by
  have hmiddle : IsMiddle p → [c] ∈ e.syllable := fun hp =>
    mem_syllable.mpr
      (Or.inl ⟨[], [c], [], by simp, singleton_mem_syllableCore hc hp, by simp, rfl⟩)
  rcases hp with rfl | rfl | rfl | rfl | rfl
  · exact mem_syllable.mpr (Or.inr (Or.inl ⟨c, [], hc, by simp, rfl⟩))
  · exact hmiddle (by simp [IsMiddle])
  · exact mem_syllable.mpr (Or.inr (Or.inr ⟨c, [], hc, by simp, rfl⟩))
  · exact hmiddle (by simp [IsMiddle])
  · exact hmiddle (by simp [IsMiddle])

end Evaluator
end Grapheme
end TextBoundary
