import TextBoundary.Proofs.Insertion
import TextBoundary.Proofs.Word.Restart

/-!
# Marks are transparent

A mark is an extending or a format character.  Put behind a codepoint that is no line
end, it belongs to that codepoint, and the text around it is segmented as if it were not
there.  There are two exceptions, since two rules look at neighbours as they stand: a mark
tears apart two spaces, and a joiner from the pictograph behind it.
-/

namespace TextBoundary
namespace Word
namespace Evaluator

/-- An extending or a format character. -/
def IsMark (e : Evaluator) (c : Codepoint) : Prop :=
  e.propertyOf c = some .extend ∨ e.propertyOf c = some .format

/-- A position between two codepoints at which a mark can be put: the codepoint before it
is no line end, and the codepoints on both sides are neither spaces nor a joiner and a
pictograph. -/
structure TakesMark (e : Evaluator) (t : Text) (q : Nat) : Prop where
  pos : 0 < q
  le_size : q ≤ t.size
  not_splitsPair : ¬t.SplitsPair q
  not_lineEnd : ¬((t.prev? q).bind e.propertyOf).any Property.isLineEnd
  not_spaces : ¬((t.prev? q).bind e.propertyOf = some .wSegSpace ∧
    (t.next? q).bind e.propertyOf = some .wSegSpace)
  not_joined : ¬((t.prev? q).bind e.propertyOf = some .zwj ∧
    (t.next? q).any e.pictographic.acceptsCodepoint)

variable {e : Evaluator} {t : Text} {c : Codepoint} {l m r : List Codepoint} {k p q : Nat}

/-! ## Marks in the rules -/

theorem IsMark.isTransparent (h : e.IsMark c) : e.isTransparent c = true := by
  rcases h with h | h
  · rw [Evaluator.isTransparent, h]
    rfl
  · rw [Evaluator.isTransparent, h]
    rfl

/-- A mark stays with the codepoint before it. -/
theorem not_breaks_rules_mark (h : e.IsMark c)
    (hend : ¬(l.getLast?.bind e.propertyOf).any Property.isLineEnd) :
    ¬Rule.Breaks e.rules l (c :: r) := by
  have htransparent := h.isTransparent
  have hnoEnd := isLineEnd_of_isTransparent htransparent
  rw [Evaluator.isTransparent] at htransparent
  rw [isLineEnd] at hnoEnd
  rw [breaks_rules_iff]
  simp [hend, htransparent, hnoEnd]

/-- On the right, rules do not see a mark behind other codepoints. -/
theorem breaks_rules_mark_right (h : e.IsMark c) (hm : m ≠ []) :
    Rule.Breaks e.rules l (m ++ c :: r) ↔ Rule.Breaks e.rules l (m ++ r) := by
  have hwithout : without e.isTransparent (m ++ c :: r) = without e.isTransparent (m ++ r) := by
    rw [without_append, without_cons_of_pos h.isTransparent, without_append]
  apply breaks_rules_congr rfl
  · rw [List.head?_append_of_ne_nil _ hm, List.head?_append_of_ne_nil _ hm]
  · intro _ _
    rw [hwithout]

theorem leaveAside_mark (h : e.IsMark c) (hl : l ≠ []) :
    leaveAside e.isTransparent (l ++ c :: m) = leaveAside e.isTransparent (l ++ m) := by
  rw [leaveAside_append hl, without_cons_of_pos h.isTransparent, leaveAside_append hl]

/-- On the left, they do not see a mark with a codepoint on either side. -/
theorem breaks_rules_mark_left (h : e.IsMark c) (hl : l ≠ []) (hm : m ≠ []) :
    Rule.Breaks e.rules (l ++ c :: m) r ↔ Rule.Breaks e.rules (l ++ m) r := by
  apply breaks_rules_congr
  · rw [List.getLast?_append_of_ne_nil l (List.cons_ne_nil c m), List.getLast?_cons_of_ne_nil hm,
      List.getLast?_append_of_ne_nil l hm]
  · rfl
  · intro _ _
    rw [leaveAside_mark h hl]

/-- Directly before a position, a mark makes no difference either unless the rules about
neighbours as they stand hold the position together. -/
theorem breaks_rules_concat_mark (h : e.IsMark c) (hl : l ≠ [])
    (hend : ¬(l.getLast?.bind e.propertyOf).any Property.isLineEnd)
    (hspaces : ¬(l.getLast?.bind e.propertyOf = some .wSegSpace ∧
      r.head?.bind e.propertyOf = some .wSegSpace))
    (hjoined : ¬(l.getLast?.bind e.propertyOf = some .zwj ∧
      r.head?.any e.pictographic.acceptsCodepoint)) :
    Rule.Breaks e.rules (l ++ [c]) r ↔ Rule.Breaks e.rules l r := by
  have hbase : leaveAside e.isTransparent (l ++ [c]) = leaveAside e.isTransparent l := by
    rw [leaveAside_mark h hl, List.append_nil]
  have hcr : l.getLast?.bind e.propertyOf ≠ some .cr := by
    intro hcr
    rw [hcr] at hend
    exact hend rfl
  have hmark : e.propertyOf c ≠ some .cr ∧ e.propertyOf c ≠ some .wSegSpace ∧
      e.propertyOf c ≠ some .zwj := by
    rcases h with h | h
    · simp [h]
    · simp [h]
  have hnoEnd : ¬(e.propertyOf c).any Property.isLineEnd :=
    Bool.eq_false_iff.mp (isLineEnd_of_isTransparent h.isTransparent)
  rw [breaks_rules_iff, breaks_rules_iff, List.getLast?_concat, Option.bind_some, hbase]
  simp only [hend, hspaces, hjoined, hcr, hmark, hnoEnd, false_and, not_false_eq_true, true_and]

/-! ## Marks in a text -/

/-- A mark is no lone surrogate, as those have no property. -/
theorem IsMark.not_isLoneSurrogate {tables : Unicode.Tables} (h : ofTables tables none = .ok e)
    (hc : e.IsMark c) : ¬c.IsLoneSurrogate := by
  intro hlone
  have hnone : e.propertyOf c = none :=
    Classifier.classifyCodepoint_of_lone (compiled_of_ofTables h).classifier hlone
  rcases hc with hc | hc
  · rw [hnone] at hc
    contradiction
  · rw [hnone] at hc
    contradiction

theorem TakesMark.before_ne_nil (hq : e.TakesMark t q) : t.before q ≠ [] := by
  rw [ne_eq, Text.before_eq_nil_iff hq.le_size]
  exact Nat.pos_iff_ne_zero.mp hq.pos

section Insert

variable (hlimit : e.limit = none) (hq : e.TakesMark t q) (hc : e.IsMark c)
  (hlone : ¬c.IsLoneSurrogate)
include hlimit hq hc hlone

/-- No boundary stands before a mark, or inside it. -/
theorem isBreak_insert_self (hk : k < c.width) : e.isBreak (t.insert q c) (q + k) = false := by
  rw [← Bool.not_eq_true, isBreak_iff hlimit]
  intro hboundary
  rcases Nat.eq_zero_or_pos k with rfl | hpos
  · have hsize := Text.size_insert hq.le_size (c := c)
    have hle := hq.le_size
    have hnil : (t.slice 0 q).after q = [] := by
      rw [Text.after_eq_nil_iff, Text.size_slice_start hle]
    have hend := hq.not_lineEnd
    rw [← Text.getLast?_before_eq hle] at hend
    rw [Nat.add_zero, Text.isBoundary_iff hq.pos (by omega),
      Text.before_insert_of_le hle (Nat.le_refl q),
      Text.after_insert_of_le hle hlone (Nat.le_refl q), hnil, List.nil_append] at hboundary
    exact not_breaks_rules_mark hc hend hboundary.2
  · exact hboundary.not_splitsPair (Text.splitsPair_insert_inside hq.le_size hpos hk)

theorem isBreak_insert_of_lt (hp : p < q) : e.isBreak (t.insert q c) p = e.isBreak t p := by
  rw [Bool.eq_iff_iff, isBreak_iff hlimit, isBreak_iff hlimit]
  apply Text.isBoundary_insert_of_lt hq.le_size hlone hq.not_splitsPair _ hp
  intro l m hm
  exact breaks_rules_mark_right hc hm

theorem isBreak_insert_add :
    e.isBreak (t.insert q c) (q + c.width + k) = e.isBreak t (q + k) := by
  rw [Bool.eq_iff_iff, isBreak_iff hlimit, isBreak_iff hlimit]
  apply Text.isBoundary_insert_add hq.le_size hlone hq.not_splitsPair hq.pos
  intro m r hr _
  by_cases hm : m = []
  · -- Directly behind the mark, the rules about neighbours see it.
    subst hm
    have hlast := Text.getLast?_before_eq hq.le_size
    have hhead : r.head? = t.next? q := by rw [← Text.head?_after, ← hr, List.nil_append]
    rw [List.append_nil]
    apply breaks_rules_concat_mark hc hq.before_ne_nil
    · rw [hlast]
      exact hq.not_lineEnd
    · rw [hlast, hhead]
      exact hq.not_spaces
    · rw [hlast, hhead]
      exact hq.not_joined
  · exact breaks_rules_mark_left hc hq.before_ne_nil hm

end Insert

/-- Marks are transparent: put at a position that takes one, a mark stays with what stands
before it, and no other position gains or loses a boundary. -/
theorem isBreak_insert_mark {tables : Unicode.Tables} (h : ofTables tables none = .ok e)
    (hq : e.TakesMark t q) (hc : e.IsMark c) :
    (∀ k, k < c.width → e.isBreak (t.insert q c) (q + k) = false) ∧
      (∀ p, p < q → e.isBreak (t.insert q c) p = e.isBreak t p) ∧
      ∀ p, q ≤ p → e.isBreak (t.insert q c) (p + c.width) = e.isBreak t p := by
  have hlimit := (compiled_of_ofTables h).limit_eq
  have hlone := hc.not_isLoneSurrogate h
  refine ⟨?_, ?_, ?_⟩
  · intro k hk
    exact isBreak_insert_self hlimit hq hc hlone hk
  · intro p hp
    exact isBreak_insert_of_lt hlimit hq hc hlone hp
  · intro p hp
    obtain ⟨k, rfl⟩ := Nat.exists_eq_add_of_le hp
    rw [Nat.add_right_comm]
    exact isBreak_insert_add hlimit hq hc hlone

/-- A variation selector, which takes two units, between an apostrophe and a letter that
hold together with the letter before them. -/
theorem isBreak_insert_mark_selector :
    ∃ e, ofTables .bundled none = .ok e ∧ e.TakesMark ⟨#[0x61, 0x27, 0x61]⟩ 2 ∧
      e.IsMark ⟨0xE0100, by decide⟩ ∧
      (∀ k, k < 2 → e.isBreak ⟨#[0x61, 0x27, 0xDB40, 0xDD00, 0x61]⟩ (2 + k) = false) ∧
      (∀ p, p < 2 → e.isBreak ⟨#[0x61, 0x27, 0xDB40, 0xDD00, 0x61]⟩ p =
        e.isBreak ⟨#[0x61, 0x27, 0x61]⟩ p) ∧
      ∀ p, 2 ≤ p → e.isBreak ⟨#[0x61, 0x27, 0xDB40, 0xDD00, 0x61]⟩ (p + 2) =
        e.isBreak ⟨#[0x61, 0x27, 0x61]⟩ p := by
  obtain ⟨e, he⟩ := exists_ofTables_bundled none
  have hcompiled := compiled_of_ofTables he
  have hquote : e.propertyOf (.ofUnit 0x27) = some .singleQuote := by
    rw [propertyOf_eq hcompiled]
    decide +kernel
  have hmark : e.IsMark ⟨0xE0100, by decide⟩ := by
    apply Or.inl
    rw [propertyOf_eq hcompiled]
    decide +kernel
  have hprev : (⟨#[0x61, 0x27, 0x61]⟩ : Text).prev? 2 = some (.ofUnit 0x27) := by decide
  have htakes : e.TakesMark ⟨#[0x61, 0x27, 0x61]⟩ 2 :=
    { pos := by decide
      le_size := by decide
      not_splitsPair := by decide
      not_lineEnd := by
        rw [hprev, Option.bind_some, hquote]
        decide
      not_spaces := by
        rw [hprev, Option.bind_some, hquote]
        simp
      not_joined := by
        rw [hprev, Option.bind_some, hquote]
        simp }
  exact ⟨e, he, htakes, hmark, isBreak_insert_mark he htakes hmark⟩

end Evaluator
end Word
end TextBoundary
