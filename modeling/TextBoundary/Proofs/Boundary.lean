import TextBoundary.Proofs.Reading
import TextBoundary.Proofs.Rule

/-!
# Boundaries of a text by a list of rules

Rules speak about positions between two codepoints.  The ends of a text, and all
positions beyond them, are boundaries by any rules, and a position inside a pair
is a boundary by none.
-/

namespace TextBoundary
namespace Text

variable {t : Text} {rules : List Rule} {pos : Nat}

/-- A position is a boundary at the ends of the text, and between two codepoints
where the rules put one. -/
def IsBoundary (t : Text) (rules : List Rule) (pos : Nat) : Prop :=
  pos = 0 ∨ t.size ≤ pos ∨
    ¬t.SplitsPair pos ∧ Rule.Breaks rules (t.before pos) (t.after pos)

theorem isBoundary_of_end (h : pos = 0 ∨ t.size ≤ pos) : t.IsBoundary rules pos :=
  h.elim Or.inl fun h => Or.inr (Or.inl h)

theorem isBoundary_iff (hpos : 0 < pos) (hlt : pos < t.size) :
    t.IsBoundary rules pos ↔
      ¬t.SplitsPair pos ∧ Rule.Breaks rules (t.before pos) (t.after pos) := by
  have hstart : ¬pos = 0 := by omega
  have hend : ¬t.size ≤ pos := by omega
  simp only [IsBoundary, hstart, hend, false_or]

theorem IsBoundary.not_splitsPair (h : t.IsBoundary rules pos) : ¬t.SplitsPair pos := by
  intro hsplits
  exact ((isBoundary_iff hsplits.pos hsplits.lt_size).mp h).1 hsplits

theorem step?_backward_eq_none_iff :
    t.step? .backward pos = none ↔ pos = 0 ∨ t.size < pos := by
  rw [step?, Option.map_eq_none_iff, prev?_eq_none_iff]

theorem step?_forward_eq_none_iff : t.step? .forward pos = none ↔ t.size ≤ pos := by
  rw [step?, Option.map_eq_none_iff, next?_eq_none_iff]

/-- Inside a pair there is a codepoint on either side. -/
theorem SplitsPair.exists_steps (h : t.SplitsPair pos) :
    ∃ prev next, t.step? .backward pos = some prev ∧ t.step? .forward pos = some next := by
  have hpos := h.pos
  have hlt := h.lt_size
  have hprev : t.step? .backward pos ≠ none := by
    rw [ne_eq, step?_backward_eq_none_iff]
    omega
  have hnext : t.step? .forward pos ≠ none := by
    rw [ne_eq, step?_forward_eq_none_iff]
    omega
  obtain ⟨prev, hprev⟩ := Option.ne_none_iff_exists'.mp hprev
  obtain ⟨next, hnext⟩ := Option.ne_none_iff_exists'.mp hnext
  exact ⟨prev, next, hprev, hnext⟩

/-- Where one of the two steps is missing, the text ends. -/
theorem isBoundary_of_step?_eq_none
    (h : t.step? .backward pos = none ∨ t.step? .forward pos = none) :
    t.IsBoundary rules pos := by
  rw [step?_backward_eq_none_iff, step?_forward_eq_none_iff] at h
  exact isBoundary_of_end (by omega)

/-- Between two steps the rules decide. -/
theorem isBoundary_iff_of_step? {prev next : Step} (hprev : t.step? .backward pos = some prev)
    (hnext : t.step? .forward pos = some next) :
    t.IsBoundary rules pos ↔
      ¬t.SplitsPair pos ∧ Rule.Breaks rules (t.before pos) (t.after pos) := by
  have hpos : ¬(pos = 0 ∨ t.size < pos) := by
    rw [← step?_backward_eq_none_iff, hprev]
    simp
  have hlt : ¬t.size ≤ pos := by
    rw [← step?_forward_eq_none_iff, hnext]
    simp
  exact isBoundary_iff (by omega) (by omega)

/-- An answer follows rules when it is true where a step is missing, and agrees with
them between two steps. -/
theorem iff_isBoundary_of_steps {answer : Bool}
    (hends : t.step? .backward pos = none ∨ t.step? .forward pos = none → answer = true)
    (hbetween : ∀ prev next, t.step? .backward pos = some prev →
      t.step? .forward pos = some next → pos ≤ t.size →
      (answer = true ↔
        ¬t.SplitsPair pos ∧ Rule.Breaks rules (t.before pos) (t.after pos))) :
    answer = true ↔ t.IsBoundary rules pos := by
  cases hprev : t.step? .backward pos with
  | none => simp only [hends (Or.inl hprev), isBoundary_of_step?_eq_none (Or.inl hprev)]
  | some prev =>
      cases hnext : t.step? .forward pos with
      | none => simp only [hends (Or.inr hnext), isBoundary_of_step?_eq_none (Or.inr hnext)]
      | some next =>
          have hlt : ¬t.size ≤ pos := by
            rw [← step?_forward_eq_none_iff, hnext]
            simp
          rw [isBoundary_iff_of_step? hprev hnext]
          exact hbetween prev next hprev hnext (by omega)

/-- Rules decide the answer about a position: it is true at the ends of the text and
beyond, false inside a pair, and between two codepoints the verdict of the rules on
what the text reads as on both sides. -/
structure DecidedBy (t : Text) (rules : List Rule) (pos : Nat) (answer : Bool) : Prop where
  at_end : pos = 0 ∨ t.size ≤ pos → answer = true
  in_pair : t.SplitsPair pos → answer = false
  between : 0 < pos → pos < t.size → ¬t.SplitsPair pos →
    ∃ l r, l ≠ [] ∧ r ≠ [] ∧ t.Between pos l r ∧ (answer = true ↔ Rule.Breaks rules l r)

/-- Between two codepoints the rules decide on what is read before the position and what is
read after it. -/
theorem DecidedBy.iff_breaks {answer : Bool} (h : t.DecidedBy rules pos answer)
    (hpos : 0 < pos) (hlt : pos < t.size) (hsplits : ¬t.SplitsPair pos) :
    answer = true ↔ Rule.Breaks rules (t.before pos) (t.after pos) := by
  obtain ⟨l, r, -, -, hbetween, hiff⟩ := h.between hpos hlt hsplits
  obtain ⟨rfl, rfl⟩ := hbetween.unique (between_before_after (Nat.le_of_lt hlt) hsplits)
  exact hiff

theorem decidedBy_of_iff {answer : Bool} (h : answer = true ↔ t.IsBoundary rules pos) :
    t.DecidedBy rules pos answer where
  at_end hend := h.mpr (isBoundary_of_end hend)
  in_pair hsplits := by
    rw [← Bool.not_eq_true, h]
    exact fun hboundary => hboundary.not_splitsPair hsplits
  between hpos hlt hsplits := by
    have hbefore : t.before pos ≠ [] := by
      rw [ne_eq, before_eq_nil_iff (by omega)]
      omega
    have hafter : t.after pos ≠ [] := by
      rw [ne_eq, after_eq_nil_iff]
      omega
    refine ⟨t.before pos, t.after pos, hbefore, hafter,
      between_before_after (by omega) hsplits, ?_⟩
    rw [h, isBoundary_iff hpos hlt]
    simp only [hsplits, not_false_eq_true, true_and]

end Text
end TextBoundary
