import TextBoundary.Word.Context

/-!
# Contexts of word boundaries

The rules mention groups of properties; the first lemmas say which properties
each group has.

The rules with two codepoints on one side come in pairs.  A rule that looks ahead
keeps a mark with the letter before it because of the letter behind it, and a
rule that looks back keeps it with the letter behind it because of the letter
before it.  What lies beyond the neighbours therefore matters only if all three
stay together.
-/

namespace TextBoundary
namespace Word

namespace Property

/-! ## The members of the groups -/

section Groups

variable {o : Option Property}

theorem exists_mem_singleton_iff {p : Property} : (∃ q ∈ [p], o = some q) ↔ o = some p := by
  simp

theorem exists_mem_isLineEnd_iff :
    (∃ p ∈ [cr, lf, newline], o = some p) ↔ o.any isLineEnd = true := by
  rcases o with _ | p
  · simp
  · cases p <;> simp [isLineEnd]

theorem exists_mem_isTransparent_iff :
    (∃ p ∈ [extend, format, zwj], o = some p) ↔ o.any isTransparent = true := by
  rcases o with _ | p
  · simp
  · cases p <;> simp [isTransparent]

theorem exists_mem_isLetter_iff :
    (∃ p ∈ [aLetter, hebrewLetter], o = some p) ↔ o.any isLetter = true := by
  rcases o with _ | p
  · simp
  · cases p <;> simp [isLetter]

theorem exists_mem_isMidLetter_iff :
    (∃ p ∈ [midLetter, midNumLet, singleQuote], o = some p) ↔ o.any isMidLetter = true := by
  rcases o with _ | p
  · simp
  · cases p <;> simp [isMidLetter]

theorem exists_mem_isMidNumber_iff :
    (∃ p ∈ [midNum, midNumLet, singleQuote], o = some p) ↔ o.any isMidNumber = true := by
  rcases o with _ | p
  · simp
  · cases p <;> simp [isMidNumber]

theorem exists_mem_isAlphanumeric_iff :
    (∃ p ∈ [aLetter, hebrewLetter, numeric, katakana], o = some p) ↔
      o.any isAlphanumeric = true := by
  rcases o with _ | p
  · simp
  · cases p <;> simp [isAlphanumeric]

theorem exists_mem_connectable_iff :
    (∃ p ∈ [aLetter, hebrewLetter, numeric, katakana, extendNumLet], o = some p) ↔
      (o.any isAlphanumeric || o = some extendNumLet) = true := by
  rcases o with _ | p
  · simp
  · cases p <;> simp [isAlphanumeric]

theorem exists_mem_isModifierBase_iff :
    (∃ p ∈ [emojiModifierBase, eBaseGaz], o = some p) ↔ o.any isModifierBase = true := by
  rcases o with _ | p
  · simp
  · cases p <;> simp [isModifierBase]

end Groups

/-- Inert properties: no rule of `Context.joins` asks for them. -/
def isInert (p : Property) : Bool :=
  p.isLineEnd || p.isTransparent

end Property

namespace Context

variable {b l r a : Option Property}

/-- The rules that join, one after the other. -/
theorem joins_iff : (⟨b, l, r, a⟩ : Context).joins = true ↔
    (l.any Property.isLetter ∧ r.any Property.isLetter
      ∨ (l.any Property.isLetter ∧ r.any Property.isMidLetter) ∧ a.any Property.isLetter
      ∨ (b.any Property.isLetter ∧ l.any Property.isMidLetter) ∧ r.any Property.isLetter)
    ∨ (l = some .hebrewLetter ∧ r = some .singleQuote
      ∨ (l = some .hebrewLetter ∧ r = some .doubleQuote) ∧ a = some .hebrewLetter
      ∨ (b = some .hebrewLetter ∧ l = some .doubleQuote) ∧ r = some .hebrewLetter)
    ∨ (l = some .numeric ∧ r = some .numeric
      ∨ l.any Property.isLetter ∧ r = some .numeric
      ∨ l = some .numeric ∧ r.any Property.isLetter
      ∨ (b = some .numeric ∧ l.any Property.isMidNumber) ∧ r = some .numeric
      ∨ (l = some .numeric ∧ r.any Property.isMidNumber) ∧ a = some .numeric)
    ∨ (l = some .katakana ∧ r = some .katakana
      ∨ (l.any Property.isAlphanumeric ∨ l = some .extendNumLet) ∧ r = some .extendNumLet
      ∨ l = some .extendNumLet ∧ r.any Property.isAlphanumeric)
    ∨ l.any Property.isModifierBase ∧ r = some .emojiModifier := by
  dsimp only [joins, joinsLetters, joinsHebrewQuote, joinsNumbers, joinsConnectors,
    joinsModifier]
  simp only [Bool.or_eq_true, Bool.and_eq_true, decide_eq_true_eq, or_assoc]

/-! ## Inert properties -/

theorem joins_of_left_inert (h : l.any Property.isInert = true) :
    (⟨b, l, r, a⟩ : Context).joins = false := by
  rcases l with _ | p
  · simp at h
  · cases p <;> simp [Property.isInert, Property.isLineEnd, Property.isTransparent] at h <;>
      simp [joins, joinsLetters, joinsHebrewQuote, joinsNumbers, joinsConnectors,
        joinsModifier, Property.isLetter, Property.isMidLetter, Property.isMidNumber,
        Property.isAlphanumeric, Property.isModifierBase]

theorem joins_of_left_none : (⟨b, none, r, a⟩ : Context).joins = false := by
  simp [joins, joinsLetters, joinsHebrewQuote, joinsNumbers, joinsConnectors, joinsModifier]

theorem joins_of_beforeLeft_inert (h : b.any Property.isInert = true) :
    (⟨b, l, r, a⟩ : Context).joins = (⟨none, l, r, a⟩ : Context).joins := by
  rcases b with _ | p
  · simp at h
  · cases p <;> simp [Property.isInert, Property.isLineEnd, Property.isTransparent] at h <;>
      simp [joins, joinsLetters, joinsHebrewQuote, joinsNumbers, joinsConnectors,
        joinsModifier, Property.isLetter]

theorem joins_of_afterRight_inert (h : a.any Property.isInert = true) :
    (⟨b, l, r, a⟩ : Context).joins = (⟨b, l, r, none⟩ : Context).joins := by
  rcases a with _ | p
  · simp at h
  · cases p <;> simp [Property.isInert, Property.isLineEnd, Property.isTransparent] at h <;>
      simp [joins, joinsLetters, joinsHebrewQuote, joinsNumbers, joinsConnectors,
        joinsModifier, Property.isLetter]

/-! ## Looking ahead and looking back -/

/-- Where looking ahead makes the difference, a mark stands between two codepoints
that it goes with. -/
theorem lookahead_cases (h : (⟨b, l, r, a⟩ : Context).joins = true)
    (hnone : (⟨b, l, r, none⟩ : Context).joins = false) :
    (l.any Property.isLetter ∧ r.any Property.isMidLetter) ∧ a.any Property.isLetter
      ∨ (l = some .hebrewLetter ∧ r = some .doubleQuote) ∧ a = some .hebrewLetter
      ∨ (l = some .numeric ∧ r.any Property.isMidNumber) ∧ a = some .numeric := by
  rw [← Bool.not_eq_true, joins_iff] at hnone
  rw [joins_iff] at h
  simp only [not_or] at hnone
  simpa only [hnone, false_or, or_false] using h

theorem lookback_cases (h : (⟨b, l, r, a⟩ : Context).joins = true)
    (hnone : (⟨none, l, r, a⟩ : Context).joins = false) :
    (b.any Property.isLetter ∧ l.any Property.isMidLetter) ∧ r.any Property.isLetter
      ∨ (b = some .hebrewLetter ∧ l = some .doubleQuote) ∧ r = some .hebrewLetter
      ∨ (b = some .numeric ∧ l.any Property.isMidNumber) ∧ r = some .numeric := by
  rw [← Bool.not_eq_true, joins_iff] at hnone
  rw [joins_iff] at h
  simp only [not_or] at hnone
  simpa only [hnone, false_or, or_false] using h

/-- More context joins no less. -/
theorem joins_of_beforeLeft_none (h : (⟨none, l, r, a⟩ : Context).joins = true) :
    (⟨b, l, r, a⟩ : Context).joins = true := by
  apply Decidable.byContradiction
  intro hnot
  rw [joins_iff] at h hnot
  simp only [not_or] at hnot
  simp only [hnot, Option.any_none, Bool.false_eq_true, reduceCtorEq, false_and,
    or_false] at h

theorem joins_of_afterRight_none (h : (⟨b, l, r, none⟩ : Context).joins = true) :
    (⟨b, l, r, a⟩ : Context).joins = true := by
  apply Decidable.byContradiction
  intro hnot
  rw [joins_iff] at h hnot
  simp only [not_or] at hnot
  simp only [hnot, Option.any_none, Bool.false_eq_true, reduceCtorEq, and_false,
    or_false] at h

/-- Where looking ahead makes the difference, looking back holds the next position
together. -/
theorem joins_next_of_lookahead (c : Option Property)
    (h : (⟨b, l, r, a⟩ : Context).joins = true)
    (hnone : (⟨b, l, r, none⟩ : Context).joins = false) :
    (⟨l, r, a, c⟩ : Context).joins = true := by
  rw [joins_iff]
  rcases lookahead_cases h hnone with hmark | hmark | hmark
  · exact Or.inl (Or.inr (Or.inr hmark))
  · exact Or.inr (Or.inl (Or.inr (Or.inr hmark)))
  · exact Or.inr (Or.inr (Or.inl (Or.inr (Or.inr (Or.inr (Or.inl hmark))))))

/-- Where looking back makes the difference, looking ahead holds the position before
together. -/
theorem joins_previous_of_lookback (c : Option Property)
    (h : (⟨b, l, r, a⟩ : Context).joins = true)
    (hnone : (⟨none, l, r, a⟩ : Context).joins = false) :
    (⟨c, b, l, r⟩ : Context).joins = true := by
  rw [joins_iff]
  rcases lookback_cases h hnone with hmark | hmark | hmark
  · exact Or.inl (Or.inr (Or.inl hmark))
  · exact Or.inr (Or.inl (Or.inr (Or.inl hmark)))
  · exact Or.inr (Or.inr (Or.inl (Or.inr (Or.inr (Or.inr (Or.inr hmark))))))

end Context
end Word
end TextBoundary
