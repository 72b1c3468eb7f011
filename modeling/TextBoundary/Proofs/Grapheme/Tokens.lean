import TextBoundary.Proofs.Grapheme.Cluster
import TextBoundary.Proofs.Grapheme.Splitting

/-!
# Splitting a text is cutting off longest matches

A text can be cut into tokens by taking off the longest prefix that an expression
matches, again and again.  For coherent tables, this is what splitting a text into its
clusters does, with the expression for clusters.

A cluster reaches from one boundary to the next.  It is a match, because it grows from
its first codepoint by what the rules join to it, and no longer prefix is one, because
there is no boundary inside a match.  What stands before the first boundary does not
matter for the rest, so the rest of the text is split as a text of its own.
-/

namespace TextBoundary

namespace Text

/-- The length of the longest nonempty prefix of a text that an expression matches.  A
prefix may end anywhere, also inside a pair. -/
structure IsLongestMatch (t : Text) (x : Language Codepoint) (n : Nat) : Prop where
  pos : 0 < n
  le_size : n ≤ t.size
  mem : (t.slice 0 n).codepoints ∈ x
  longest : ∀ m, m ≤ t.size → (t.slice 0 m).codepoints ∈ x → m ≤ n

/-- The tokens of a text: longest matches that are cut off one after the other until
nothing is left. -/
inductive Tokens (x : Language Codepoint) : Text → List Text → Prop
  | nil {t : Text} (h : t.size = 0) : Tokens x t []
  | cons {t : Text} {n : Nat} {parts : List Text} (hn : t.IsLongestMatch x n)
      (hparts : Tokens x (t.slice n t.size) parts) : Tokens x t (t.slice 0 n :: parts)

variable {t : Text} {x : Language Codepoint} {m n p : Nat} {parts parts' : List Text}

theorem IsLongestMatch.unique (hm : t.IsLongestMatch x m) (hn : t.IsLongestMatch x n) :
    m = n :=
  Nat.le_antisymm (hn.longest m hm.le_size hm.mem) (hm.longest n hn.le_size hn.mem)

/-- A text has one list of tokens at most. -/
theorem Tokens.unique (h : Tokens x t parts) (h' : Tokens x t parts') : parts = parts' := by
  induction h generalizing parts' with
  | nil hnil =>
      cases h' with
      | nil => rfl
      | cons hn =>
          have := hn.pos
          have := hn.le_size
          omega
  | cons hn _ ih =>
      cases h' with
      | nil hnil =>
          have := hn.pos
          have := hn.le_size
          omega
      | cons hn' hparts' =>
          obtain rfl := hn.unique hn'
          rw [ih hparts']

/-- Inside a pair, what stands before ends in a lone surrogate. -/
theorem exists_before_eq_of_splitsPair (h : t.SplitsPair p) :
    ∃ c, c.IsLoneSurrogate ∧ t.before p = t.before (p - 1) ++ [c] := by
  obtain ⟨u, v, hu, -, hpair⟩ := h
  have hprev : t.prev? p = some (.ofUnit u) := by
    have hnot : ∀ w, ¬CodeUnit.IsPair w u := fun w hw => hpair.1.not_isTrail hw.2
    rw [prev?, hu]
    cases t.unitBefore? (p - 1) with
    | none => rfl
    | some w => exact dif_neg (hnot w)
  have hlone : (Codepoint.ofUnit u).IsLoneSurrogate :=
    ⟨hpair.1.1, Nat.le_trans hpair.1.2 (by decide)⟩
  have hbefore := before_of_prev? hprev
  rw [Codepoint.width_ofUnit] at hbefore
  exact ⟨.ofUnit u, hlone, hbefore⟩

end Text

namespace Grapheme
namespace Evaluator

variable {e : Evaluator} {t : Text} {m n p : Nat}

/-! ## The first cluster -/

section FirstCluster

variable (he : e.Coherent)
include he

/-- A step forward from a position that is no boundary leads from one cluster to another. -/
theorem before_step?_mem_cluster {s : Text.Step} (hs : t.step? .forward p = some s)
    (hle : p < t.size) (hsplits : ¬t.SplitsPair p)
    (hp : p = 0 ∨ ¬t.IsBoundary e.rules p ∧ t.before p ∈ e.cluster) :
    t.before s.pos ∈ e.cluster := by
  rw [Text.before_step?_pos (Nat.le_of_lt hle) hsplits hs]
  rcases Nat.eq_zero_or_pos p with rfl | hpos
  · rw [(Text.before_eq_nil_iff (Nat.zero_le _)).mpr rfl, List.nil_append]
    exact singleton_mem_cluster he s.codepoint
  · obtain ⟨hjoined, hmem⟩ := hp.resolve_left (by omega)
    rw [Text.isBoundary_iff hpos hle, Text.after_of_step? hs] at hjoined
    refine mem_cluster_concat he hmem ?_ (fun hbreaks => hjoined ⟨hsplits, hbreaks⟩)
    rw [ne_eq, Text.before_eq_nil_iff (Nat.le_of_lt hle)]
    omega

/-- Before the first boundary after the start stands a cluster: it grows codepoint by
codepoint. -/
theorem before_mem_cluster (hpos : 0 < n) (hn : n ≤ t.size) (hsplits : ¬t.SplitsPair n)
    (hnone : ∀ p, 0 < p → p < n → ¬t.IsBoundary e.rules p) : t.before n ∈ e.cluster := by
  -- The induction is on what is missing; nothing or a cluster stands before `p`.
  have hgrow : ∀ k p, n - p = k → p ≤ n → ¬t.SplitsPair p →
      p = 0 ∨ t.before p ∈ e.cluster → t.before n ∈ e.cluster := by
    intro k
    induction k using Nat.strong_induction_on with
    | h k ih =>
        intro p hk hp hpsplits hcluster
        rcases Nat.lt_or_eq_of_le hp with hlt | rfl
        · have hstep : t.step? .forward p ≠ none := by
            rw [ne_eq, Text.step?_forward_eq_none_iff]
            omega
          obtain ⟨s, hs⟩ := Option.ne_none_iff_exists'.mp hstep
          have hforward := Text.lt_step?_pos hs
          have hle : s.pos ≤ n := by
            apply Nat.le_of_not_lt
            exact fun hbeyond => hsplits (Text.splitsPair_of_lt_step? hs hlt hbeyond)
          have hstart : p = 0 ∨ ¬t.IsBoundary e.rules p ∧ t.before p ∈ e.cluster := by
            rcases Nat.eq_zero_or_pos p with hzero | hppos
            · exact Or.inl hzero
            · exact Or.inr ⟨hnone p hppos hlt, hcluster.resolve_left (by omega)⟩
          exact ih (n - s.pos) (by omega) s.pos rfl hle (Text.not_splitsPair_of_step? hs)
            (Or.inr (before_step?_mem_cluster he hs (by omega) hpsplits hstart))
        · exact hcluster.resolve_left (by omega)
  have hstart : ¬t.SplitsPair 0 := fun h => Nat.lt_irrefl 0 h.pos
  exact hgrow n 0 rfl (Nat.zero_le n) hstart (Or.inl rfl)

/-- A lone surrogate after something else belongs to no cluster. -/
theorem not_mem_cluster_of_isLoneSurrogate {l : List Codepoint} {c : Codepoint} (hl : l ≠ [])
    (hc : c.IsLoneSurrogate) : l ++ [c] ∉ e.cluster := by
  have hcontrol : e.propertyOf c = some .control := by rw [propertyOf, if_pos hc]
  intro h
  rcases mem_cluster_iff.mp h with ⟨x, y, -, hy, heq⟩ | ⟨x, -, heq⟩ |
    ⟨pre, core, post, hpre, hcore, hpost, heq⟩
  · obtain ⟨-, rfl⟩ := List.append_singleton_inj.mp (show l ++ [c] = [x] ++ [y] from heq)
    have hsame := hcontrol.symm.trans hy
    contradiction
  · exact hl (List.append_singleton_inj.mp (show l ++ [c] = [] ++ [x] from heq)).1
  · have hmem : c ∈ pre ++ core ++ post := by simp [← heq]
    apply not_isControl_of_mem_cluster he hpre hcore hpost hmem
    simp [IsControl, hcontrol, Property.isControl]

/-- No cluster reaches beyond a boundary. -/
theorem le_of_before_mem_cluster (hpos : 0 < n) (hn : t.IsBoundary e.rules n)
    (hm : m ≤ t.size) (h : t.before m ∈ e.cluster) : m ≤ n := by
  apply Nat.le_of_not_lt
  intro hlt
  by_cases hsplits : t.SplitsPair m
  · obtain ⟨c, hc, hbefore⟩ := Text.exists_before_eq_of_splitsPair hsplits
    rw [hbefore] at h
    refine not_mem_cluster_of_isLoneSurrogate he ?_ hc h
    rw [ne_eq, Text.before_eq_nil_iff (by omega)]
    omega
  · obtain ⟨hnsplits, hbreaks⟩ := (Text.isBoundary_iff hpos (by omega)).mp hn
    have hbefore : t.before m = t.before n ++ (t.slice 0 m).after n := by
      rw [← Text.before_slice_start (Nat.le_of_lt hlt), ← Text.codepoints_slice_start]
      apply Text.codepoints_eq_append
      · rw [Text.size_slice_start hm]
        omega
      · rwa [Text.splitsPair_slice_start hm hlt]
    have hrest : (t.slice 0 m).after n ≠ [] := by
      rw [ne_eq, Text.after_eq_nil_iff, Text.size_slice_start hm]
      omega
    rw [Text.after_eq_append hm hsplits (Nat.le_of_lt hlt), breaks_rules_append_right hrest]
      at hbreaks
    rw [hbefore] at h
    refine not_breaks_of_cluster_eq_append he h ?_ hrest hbreaks
    rw [ne_eq, Text.before_eq_nil_iff (by omega)]
    omega

end FirstCluster

/-! ## All clusters -/

section AllClusters

variable (he : e.Coherent) (hlimit : e.limit = none)
include he hlimit

/-- The first boundary after the start ends the longest cluster. -/
theorem isLongestMatch_nextBreak (ht : 0 < t.size) :
    t.IsLongestMatch e.cluster (e.nextBreak t 0) where
  pos := e.lt_nextBreak ht
  le_size := (nextBreak_spec hlimit ht).1
  mem := by
    obtain ⟨hle, hbreak, hnone⟩ := nextBreak_spec hlimit ht
    rw [Text.codepoints_slice_start]
    exact before_mem_cluster he (e.lt_nextBreak ht) hle hbreak.not_splitsPair hnone
  longest m hm hmem := by
    obtain ⟨-, hbreak, -⟩ := nextBreak_spec hlimit ht
    rw [Text.codepoints_slice_start] at hmem
    exact le_of_before_mem_cluster he (e.lt_nextBreak ht) hbreak hm hmem

/-- The clusters of a text are its tokens, because what follows the first cluster is split
as a text of its own. -/
theorem tokens_split (t : Text) : t.Tokens e.cluster (e.split t) := by
  induction hk : t.size using Nat.strong_induction_on generalizing t with
  | h k ih =>
      rcases Nat.eq_zero_or_pos t.size with hzero | hpos
      · have hnil : e.split t = [] := Clusters.toList_of_le (Nat.le_of_eq hzero)
        rw [hnil]
        exact .nil hzero
      · obtain ⟨hle, hnext, -⟩ := nextBreak_spec hlimit hpos
        have hforward := e.lt_nextBreak hpos
        have hsize : (t.slice (e.nextBreak t 0) t.size).size = t.size - e.nextBreak t 0 :=
          Text.size_slice_stop
        have hsplit : e.split t = t.slice 0 (e.nextBreak t 0) ::
            e.split (t.slice (e.nextBreak t 0) t.size) := by
          rw [split, split, Clusters.start, Clusters.start, Clusters.toList_of_lt hpos,
            Clusters.toList_slice_stop he.selfContained hlimit hle hnext 0, Nat.add_zero]
        rw [hsplit]
        exact .cons (isLongestMatch_nextBreak he hlimit hpos) (ih _ (by omega) _ rfl)

omit he hlimit in
/-- Tables that fit together split every text into the tokens of the expression for
clusters. -/
theorem split_eq_iff_tokens {tables : Unicode.Tables} (htables : CoherentTables tables)
    (h : ofTables tables none = .ok e) {parts : List Text} :
    e.split t = parts ↔ t.Tokens e.cluster parts := by
  have hcompiled := compiled_of_ofTables h
  have htokens := tokens_split (coherent_of_coherentTables htables hcompiled)
    hcompiled.limit_eq t
  constructor
  · rintro rfl
    exact htokens
  · exact htokens.unique

end AllClusters

/-- The bundled tables split every text, well formed or not, by repeatedly cutting off the
longest prefix that the expression for clusters matches.  The expression reads the
properties off these tables. -/
theorem split_bundled_eq_iff_tokens :
    ∃ e, ofTables .bundled none = .ok e ∧ e.ClassifiesBy .bundled ∧
      (∀ c : Codepoint, c.IsLoneSurrogate → e.propertyOf c = some .control) ∧
      ∀ (t : Text) (parts : List Text), e.split t = parts ↔ t.Tokens e.cluster parts := by
  obtain ⟨e, he⟩ := exists_ofTables_bundled none
  refine ⟨e, he, classifiesBy_of_compiled (compiled_of_ofTables he), ?_,
    fun t parts => split_eq_iff_tokens coherentTables_bundled he⟩
  intro c hc
  rw [propertyOf, if_pos hc]

end Evaluator
end Grapheme
end TextBoundary
