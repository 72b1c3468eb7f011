import TextBoundary.Proofs.Rule

/-!
# Chains

A chain is a codepoint of one kind, or several with a match of an expression between
any two neighbours.  Chains are what the rules about conjuncts and emoji sequences build
up link by link.
-/

namespace TextBoundary

open scoped Computability

/-- Codepoints that satisfy a predicate, with matches of an expression between them. -/
inductive Chain (p : Codepoint → Prop) (x : Language Codepoint) : List Codepoint → Prop
  | one {c : Codepoint} (hc : p c) : Chain p x [c]
  | link {l run : List Codepoint} {c : Codepoint} (hl : Chain p x l) (hrun : run ∈ x)
      (hc : p c) : Chain p x (l ++ run ++ [c])

variable {p q : Codepoint → Prop} {x : Language Codepoint} {l : List Codepoint}

theorem Chain.exists_concat (h : Chain p x l) : ∃ m c, l = m ++ [c] ∧ p c := by
  cases h with
  | @one c hc => exact ⟨[], c, rfl, hc⟩
  | @link m run c _ _ hc => exact ⟨m ++ run, c, rfl, hc⟩

theorem Chain.mem_or (h : Chain p x l) (hq : ∀ m ∈ x, ∀ c ∈ m, q c) :
    ∀ c ∈ l, p c ∨ q c := by
  induction h with
  | one hc =>
      intro d hd
      rw [List.mem_singleton.mp hd]
      exact Or.inl hc
  | @link l run c hl hrun hc ih =>
      intro d hd
      rcases List.mem_append.mp hd with hd | hd
      · rcases List.mem_append.mp hd with hd | hd
        · exact ih d hd
        · exact Or.inr (hq run hrun d hd)
      · rw [List.mem_singleton.mp hd]
        exact Or.inl hc

theorem mem_kstar_concat {m y : List Codepoint} (hm : m ∈ x∗) (hy : y ∈ x) :
    m ++ y ∈ x∗ := by
  rw [Language.mem_kstar] at hm ⊢
  obtain ⟨parts, rfl, hparts⟩ := hm
  refine ⟨parts ++ [y], by simp, ?_⟩
  intro part hpart
  rcases List.mem_append.mp hpart with hpart | hpart
  · exact hparts part hpart
  · rwa [List.mem_singleton.mp hpart]

/-- The expression of chains. -/
theorem mem_single_mul_kstar_iff : l ∈ single p * (x * single p)∗ ↔ Chain p x l := by
  constructor
  · intro h
    obtain ⟨c, m, hc, hm, rfl⟩ := mem_single_mul.mp h
    obtain ⟨parts, rfl, hparts⟩ := Language.mem_kstar.mp hm
    clear h hm
    induction parts using List.reverseRecOn with
    | nil => exact .one hc
    | append_singleton parts part ih =>
        obtain ⟨run, d, hrun, hd, rfl⟩ := mem_mul_single.mp (hparts part (by simp))
        have hchain := ih fun y hy => hparts y (by simp [hy])
        have hlink := Chain.link hchain hrun hd
        simpa using hlink
  · intro h
    induction h with
    | one hc => exact mem_single_mul.mpr ⟨_, [], hc, Language.nil_mem_kstar _, rfl⟩
    | @link l run c hl hrun hc ih =>
        obtain ⟨d, m, hd, hm, rfl⟩ := mem_single_mul.mp ih
        have hpart : run ++ [c] ∈ x * single p := mem_mul_single.mpr ⟨run, c, hrun, hc, rfl⟩
        exact mem_single_mul.mpr
          ⟨d, m ++ (run ++ [c]), hd, mem_kstar_concat hm hpart, by simp⟩

/-- The expression of chains with at least one link. -/
theorem mem_single_mul_plus_iff :
    l ∈ single p * plus (x * single p) ↔
      ∃ m run c, Chain p x m ∧ run ∈ x ∧ p c ∧ l = m ++ run ++ [c] := by
  rw [plus, ← Language.mul_self_kstar_comm, ← mul_assoc, Language.mem_mul]
  constructor
  · rintro ⟨m, hm, _, hlast, rfl⟩
    obtain ⟨run, c, hrun, hc, rfl⟩ := mem_mul_single.mp hlast
    exact ⟨m, run, c, mem_single_mul_kstar_iff.mp hm, hrun, hc, by simp⟩
  · rintro ⟨m, run, c, hm, hrun, hc, rfl⟩
    exact ⟨m, mem_single_mul_kstar_iff.mpr hm, run ++ [c],
      mem_mul_single.mpr ⟨run, c, hrun, hc, rfl⟩, by simp⟩

theorem append_concat_cases {k b run : List Codepoint} {c : Codepoint}
    (h : run ++ [c] = k ++ b) (hb : b ≠ []) :
    (∃ d b', b = d :: b' ∧ d ∈ run) ∨ k = run ∧ b = [c] := by
  obtain ⟨b, d, rfl⟩ := List.eq_nil_or_concat' b |>.resolve_left hb
  rw [← List.append_assoc] at h
  obtain ⟨rfl, rfl⟩ := List.append_singleton_inj.mp h
  cases b with
  | nil => exact Or.inr ⟨by simp, rfl⟩
  | cons d b => exact Or.inl ⟨d, b ++ [c], rfl, by simp⟩

/-- Inside a chain, the next codepoint belongs to a match between two neighbours, or is
the neighbour to which a complete match leads. -/
theorem Chain.cut (h : Chain p x l) (hq : ∀ m ∈ x, ∀ c ∈ m, q c) {a b : List Codepoint}
    (hl : l = a ++ b) (ha : a ≠ []) (hb : b ≠ []) :
    ∃ c b', b = c :: b' ∧ (q c ∨ p c ∧ a ∈ ⊤ * (single p * x)) := by
  induction h generalizing a b with
  | @one c hc =>
      have hlength := congrArg List.length hl
      have := List.length_pos_of_ne_nil ha
      have := List.length_pos_of_ne_nil hb
      simp only [List.length_singleton, List.length_append] at hlength
      omega
  | @link m run c hm hrun hc ih =>
      rw [List.append_assoc] at hl
      -- A cut at the last neighbour or after it.
      have hafter : ∀ k, a = m ++ k → run ++ [c] = k ++ b →
          ∃ c b', b = c :: b' ∧ (q c ∨ p c ∧ a ∈ ⊤ * (single p * x)) := by
        rintro k rfl hk
        rcases append_concat_cases hk hb with ⟨d, b', rfl, hd⟩ | ⟨rfl, rfl⟩
        · exact ⟨d, b', rfl, Or.inl (hq run hrun d hd)⟩
        · obtain ⟨m', c', rfl, hc'⟩ := hm.exists_concat
          refine ⟨c, [], rfl, Or.inr ⟨hc, ?_⟩⟩
          exact mem_top_mul_single_mul.mpr ⟨m', c', k, hc', hrun, by simp⟩
      rcases List.append_eq_append_iff.mp hl with ⟨k, hk, hrest⟩ | ⟨k, hk, hrest⟩
      · exact hafter k hk hrest
      · by_cases hnil : k = []
        · subst hnil
          exact hafter [] (by simpa using hk.symm) (by simpa using hrest.symm)
        · obtain ⟨d, k', rfl, hd⟩ := ih hk ha hnil
          exact ⟨d, k' ++ (run ++ [c]), by simpa using hrest, hd⟩

end TextBoundary
