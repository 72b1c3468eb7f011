import TextBoundary.Proofs.Grapheme.Grammar
import TextBoundary.Proofs.Slice

/-!
# Grapheme cluster rules behind a boundary

Three rules look back without a bound.  For self-contained tables none of them looks past
a boundary: what conjuncts and emoji sequences pass over attaches to what precedes it, so
there is no boundary before it, and at a boundary between two flag halves the run that
ends there has even length.
-/

namespace TextBoundary
namespace Grapheme
namespace Evaluator

open scoped Computability

variable {e : Evaluator} {l l₁ l₂ m r r₁ r₂ : List Codepoint} {c d x y : Codepoint}

/-! ## Ahead of a position -/

/-- No rule reads further than the first codepoint on the right. -/
theorem breaks_rules_congr_head {r' : List Codepoint} (h : r.head? = r'.head?) :
    Rule.Breaks e.rules l r ↔ Rule.Breaks e.rules l r' := by
  rw [rules, breaks_adjacentRules_append, breaks_adjacentRules_append, breaks_contextRules_iff,
    breaks_contextRules_iff, h]

theorem breaks_rules_append_right (hl : l₂ ≠ []) :
    Rule.Breaks e.rules l₁ (l₂ ++ r) ↔ Rule.Breaks e.rules l₁ l₂ :=
  breaks_rules_congr_head (List.head?_append_of_ne_nil l₂ hl)

/-! ## Behind a boundary -/

/-- At a boundary between two codepoints of which neither is a control, nothing joins
them. -/
theorem not_joins_of_breaks (h : Rule.Breaks e.rules (l ++ [x]) (y :: r))
    (hx : ¬e.IsControl x) (hy : ¬e.IsControl y) : ¬e.Joins (l ++ [x]) y :=
  fun hjoins => not_breaks_rules_iff.mpr (Or.inr ⟨hx, hy, hjoins⟩) h

/-- A context that ends in a run of attaching codepoints does not reach over a boundary. -/
theorem append_mem_context_iff {p : Codepoint → Prop} {z : Language Codepoint}
    (hp : ∀ c, p c → ¬e.IsControl c) (hz : ∀ run ∈ z, ∀ c ∈ run, e.Attaches c)
    (h : Rule.Breaks e.rules (l ++ [x]) (y :: r)) :
    l ++ [x] ++ y :: m ∈ ⊤ * (single p * z) ↔ y :: m ∈ ⊤ * (single p * z) := by
  rw [mem_top_mul_single_mul, mem_top_mul_single_mul]
  constructor
  · rintro ⟨k, c, run, hc, hrun, heq⟩
    rcases List.append_eq_append_iff.mp heq with ⟨a, -, ha⟩ | ⟨a, ha, hrest⟩
    · exact ⟨a, c, run, hc, hrun, ha⟩
    · cases a with
      | nil => exact ⟨[], c, run, hc, hrun, by simpa using hrest.symm⟩
      | cons c' a =>
          obtain ⟨rfl, rfl⟩ := List.cons.inj hrest
          -- The run reaches over the boundary, so its codepoint behind it attaches.
          have hy : e.Attaches y := hz _ hrun y (by simp)
          have hx : ¬e.IsControl x := by
            have hmem : x ∈ c :: a := by
              have hlast := congrArg List.getLast? ha
              rw [List.getLast?_concat, List.getLast?_append_of_ne_nil k
                (List.cons_ne_nil c a)] at hlast
              exact List.mem_of_getLast? hlast.symm
            rcases List.mem_cons.mp hmem with rfl | hmem
            · exact hp x hc
            · exact not_isControl_of_attaches (hz _ hrun x (by simp [hmem]))
          exact absurd (.attaches hy)
            (not_joins_of_breaks h hx (not_isControl_of_attaches hy))
  · rintro ⟨k, c, run, hc, hrun, heq⟩
    exact ⟨l ++ [x] ++ k, c, run, hc, hrun, by simp [heq]⟩

theorem not_isControl_of_isRegional (h : e.isRegional c = true) : ¬e.IsControl c := by
  simp [IsControl, isRegional_iff.mp h, Property.isControl]

/-- Behind a boundary, runs of flag halves are counted from the boundary. -/
theorem append_mem_oddRun_isRegional_iff (h : Rule.Breaks e.rules (l ++ [x]) (y :: r)) :
    l ++ [x] ++ y :: m ∈ oddRun e.isRegional ↔ y :: m ∈ oddRun e.isRegional := by
  apply append_mem_oddRun_iff
  intro hall hodd
  have hy := hall y (by simp)
  obtain ⟨c, hlast, hx⟩ := exists_getLast?_of_mem_oddRun hodd
  rw [List.getLast?_concat] at hlast
  obtain rfl := Option.some.inj hlast
  exact not_joins_of_breaks h (not_isControl_of_isRegional hx) (not_isControl_of_isRegional hy)
    (.flag hodd (isRegional_iff.mp hy))

/-- Behind a boundary the rules decide as if the text began there. -/
theorem breaks_rules_append_left (he : e.SelfContained) (hr : r₁ ≠ [])
    (h : Rule.Breaks e.rules l (r₁ ++ r₂)) :
    Rule.Breaks e.rules (l ++ r₁) r₂ ↔ Rule.Breaks e.rules r₁ r₂ := by
  rcases List.eq_nil_or_concat' l with rfl | ⟨l, x, rfl⟩
  · rfl
  obtain ⟨y, m, rfl⟩ := List.exists_cons_of_ne_nil hr
  rw [List.cons_append] at h
  have hlast : (l ++ [x] ++ y :: m).getLast? = (y :: m).getLast? :=
    List.getLast?_append_of_ne_nil _ (List.cons_ne_nil y m)
  have hconsonant : l ++ [x] ++ y :: m ∈ ⊤ * (e.playing [.consonant] * e.conjunctLink) ↔
      y :: m ∈ ⊤ * (e.playing [.consonant] * e.conjunctLink) := by
    rw [playing_consonant_eq]
    refine append_mem_context_iff ?_ ?_ h
    · intro c hc hcontrol
      rw [he.conjunctOf_of_isControl c hcontrol] at hc
      contradiction
    · exact fun run hrun c hc => attaches_of_mem_conjunctLink he hrun hc
  have hpictograph : l ++ [x] ++ y :: m ∈ ⊤ * (e.pictograph * e.pictographLink) ↔
      y :: m ∈ ⊤ * (e.pictograph * e.pictographLink) := by
    refine append_mem_context_iff ?_ ?_ h
    · intro c hc hcontrol
      rw [he.not_pictograph_of_isControl c hcontrol] at hc
      contradiction
    · exact fun run hrun c hc => attaches_of_mem_pictographLink hrun hc
  have hcontext : Rule.Breaks e.contextRules (l ++ [x] ++ y :: m) r₂ ↔
      Rule.Breaks e.contextRules (y :: m) r₂ := by
    rw [breaks_contextRules_iff_link, breaks_contextRules_iff_link, hconsonant, hpictograph,
      append_mem_oddRun_isRegional_iff h]
  rw [rules, breaks_adjacentRules_append, breaks_adjacentRules_append, hlast, hcontext]

theorem restartable_rules (he : e.SelfContained) : Rule.Restartable e.rules where
  behind := breaks_rules_append_left he
  ahead hl _ := breaks_rules_append_right hl

end Evaluator
end Grapheme
end TextBoundary
