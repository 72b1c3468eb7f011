import TextBoundary.Proofs.StepTable

/-!
# Windows between cuts

The windows of a list of bounds ascend, no bounds of the list begin or end inside
one, and together they hold every number that some bounds hold.  A function that
is chosen window by window is therefore given by admissible mappings, and it is
enough to choose it at the least number of each window.
-/

namespace TextBoundary
namespace Bounds

/-- Neighbours in a sorted list have nothing of the list between them. -/
theorem mem_zip_tail {l : List Nat} (hsorted : l.Pairwise (· ≤ ·)) {a b : Nat}
    (h : (a, b) ∈ l.zip l.tail) :
    a ∈ l ∧ b ∈ l ∧ ∀ c ∈ l, c ≤ a ∨ b ≤ c := by
  induction l with
  | nil => simp at h
  | cons x l ih =>
      cases l with
      | nil => simp at h
      | cons y l =>
          rw [List.tail_cons, List.zip_cons_cons, List.mem_cons] at h
          have hx := (List.pairwise_cons.mp hsorted).1
          have hy := (List.pairwise_cons.mp hsorted.tail).1
          rcases h with h | h
          · obtain ⟨rfl, rfl⟩ := Prod.mk.inj h
            refine ⟨by simp, by simp, ?_⟩
            intro c hc
            rcases List.mem_cons.mp hc with rfl | hc
            · exact Or.inl (Nat.le_refl _)
            · rcases List.mem_cons.mp hc with rfl | hc
              · exact Or.inr (Nat.le_refl _)
              · exact Or.inr (hy c hc)
          · obtain ⟨ha, hb, hbetween⟩ := ih hsorted.tail h
            refine ⟨List.mem_cons_of_mem x ha, List.mem_cons_of_mem x hb, ?_⟩
            intro c hc
            rcases List.mem_cons.mp hc with rfl | hc
            · exact Or.inl (hx a ha)
            · exact hbetween c hc

/-- A number between two members of a sorted list lies between neighbours. -/
theorem exists_mem_zip_tail {l : List Nat} (hsorted : l.Pairwise (· ≤ ·))
    {lo hi n : Nat} (hlo : lo ∈ l) (hhi : hi ∈ l) (hlon : lo ≤ n) (hnhi : n < hi) :
    ∃ a b, (a, b) ∈ l.zip l.tail ∧ a ≤ n ∧ n < b := by
  induction l generalizing lo with
  | nil => simp at hlo
  | cons x l ih =>
      have hx := (List.pairwise_cons.mp hsorted).1
      have hxn : x ≤ n := by
        rcases List.mem_cons.mp hlo with rfl | hlo
        · exact hlon
        · exact Nat.le_trans (hx lo hlo) hlon
      have hhi' : hi ∈ l := by
        rcases List.mem_cons.mp hhi with rfl | hhi
        · omega
        · exact hhi
      cases l with
      | nil => simp at hhi'
      | cons y l =>
          by_cases hny : n < y
          · exact ⟨x, y, by simp, hxn, hny⟩
          · obtain ⟨a, b, hab, han, hnb⟩ :=
              ih hsorted.tail (List.mem_cons_self) hhi' (Nat.le_of_not_lt hny)
            refine ⟨a, b, ?_, han, hnb⟩
            rw [List.tail_cons, List.zip_cons_cons]
            exact List.mem_cons_of_mem _ hab

theorem pairwise_zip_tail {l : List Nat} (hsorted : l.Pairwise (· ≤ ·)) :
    (l.zip l.tail).Pairwise fun p q => p.2 ≤ q.1 := by
  induction l with
  | nil => exact List.Pairwise.nil
  | cons x l ih =>
      cases l with
      | nil => exact List.Pairwise.nil
      | cons y l =>
          rw [List.tail_cons, List.zip_cons_cons]
          refine List.Pairwise.cons ?_ (ih hsorted.tail)
          rintro ⟨a, b⟩ hab
          have ha := (mem_zip_tail hsorted.tail hab).1
          rcases List.mem_cons.mp ha with rfl | ha
          · exact Nat.le_refl _
          · exact (List.pairwise_cons.mp hsorted.tail).1 a ha

variable {l : List Bounds}

theorem sorted_cuts (l : List Bounds) : (cuts l).Pairwise (· ≤ ·) := by
  have h : (cuts l).Pairwise fun a b => decide (a ≤ b) = true :=
    List.pairwise_mergeSort (by simp; omega) (by simp; omega) _
  exact h.imp (by simp)

theorem mem_cuts {n : Nat} : n ∈ cuts l ↔ ∃ b ∈ l, n = b.min ∨ n = b.max + 1 := by
  simp [cuts]

/-- A window runs from a cut to just below the next one. -/
theorem mem_windows {w : Bounds} :
    w ∈ windows l ↔
      w.min ≤ w.max ∧ (w.min, w.max + 1) ∈ (cuts l).zip (cuts l).tail := by
  simp only [windows, List.mem_filterMap]
  constructor
  · rintro ⟨⟨lo, next⟩, hmem, h⟩
    obtain ⟨hlt, rfl⟩ : lo < next ∧ (⟨lo, next - 1⟩ : Bounds) = w := by
      simpa using h
    refine ⟨by simp only; omega, ?_⟩
    rwa [show next - 1 + 1 = next by omega]
  · rintro ⟨hle, hmem⟩
    refine ⟨(w.min, w.max + 1), hmem, ?_⟩
    simp only [Nat.lt_succ_of_le hle, if_true, Nat.add_sub_cancel]

/-- Windows ascend and do not overlap. -/
theorem pairwise_windows (l : List Bounds) :
    (windows l).Pairwise fun v w => v.max < w.min := by
  rw [windows, List.pairwise_filterMap]
  apply (pairwise_zip_tail (sorted_cuts l)).imp
  rintro ⟨a, b⟩ ⟨c, d⟩ hbc v hv w hw
  obtain ⟨hab, rfl⟩ : a < b ∧ (⟨a, b - 1⟩ : Bounds) = v := by simpa using hv
  obtain ⟨-, rfl⟩ : c < d ∧ (⟨c, d - 1⟩ : Bounds) = w := by simpa using hw
  simp only at hbc ⊢
  omega

/-- Bounds of the list hold all numbers of a window or none. -/
theorem mem_iff_mem_of_mem_windows {b w : Bounds} (hb : b ∈ l) (hw : w ∈ windows l)
    {m n : Nat} (hm : m ∈ w) (hn : n ∈ w) : m ∈ b ↔ n ∈ b := by
  obtain ⟨-, hmem⟩ := mem_windows.mp hw
  obtain ⟨-, -, hbetween⟩ := mem_zip_tail (sorted_cuts l) hmem
  have hmin := hbetween b.min (mem_cuts.mpr ⟨b, hb, Or.inl rfl⟩)
  have hmax := hbetween (b.max + 1) (mem_cuts.mpr ⟨b, hb, Or.inr rfl⟩)
  simp only [mem_iff] at hm hn ⊢
  omega

/-- A number that bounds of the list hold lies in a window. -/
theorem exists_mem_windows {b : Bounds} (hb : b ∈ l) {n : Nat} (hn : n ∈ b) :
    ∃ w ∈ windows l, n ∈ w := by
  rw [mem_iff] at hn
  obtain ⟨lo, next, hmem, hlo, hnext⟩ := exists_mem_zip_tail (sorted_cuts l)
    (mem_cuts.mpr ⟨b, hb, Or.inl rfl⟩) (mem_cuts.mpr ⟨b, hb, Or.inr rfl⟩) hn.1
    (Nat.lt_succ_of_le hn.2)
  refine ⟨⟨lo, next - 1⟩, ?_, ?_⟩
  · refine mem_windows.mpr ⟨by simp only; omega, ?_⟩
    rwa [show next - 1 + 1 = next by omega]
  · simp only [mem_iff]
    omega

/-- Windows end where some bounds end or just before some begin. -/
theorem max_lt_of_mem_windows {w : Bounds} (hw : w ∈ windows l) {ceiling : Nat}
    (h : ∀ b ∈ l, b.min ≤ ceiling ∧ b.max < ceiling) : w.max < ceiling := by
  obtain ⟨-, hmem⟩ := mem_windows.mp hw
  obtain ⟨-, hnext, -⟩ := mem_zip_tail (sorted_cuts l) hmem
  obtain ⟨b, hb, hcut⟩ := mem_cuts.mp hnext
  have := h b hb
  omega

end Bounds

namespace Mapping

variable {α : Type}

/-- Mappings in order, ascending and below the ceiling are admissible. -/
theorem admissible_of_pairwise {ceiling start : Nat} {mappings : List (Mapping α)}
    (hpairwise : mappings.Pairwise fun a b => a.keys.max < b.keys.min)
    (hmem : ∀ m ∈ mappings,
      start ≤ m.keys.min ∧ m.keys.min ≤ m.keys.max ∧ m.keys.max < ceiling) :
    Admissible ceiling start mappings := by
  induction mappings generalizing start with
  | nil => trivial
  | cons m mappings ih =>
      obtain ⟨hstart, horder, hceiling⟩ := hmem m (by simp)
      obtain ⟨hbelow, hrest⟩ := List.pairwise_cons.mp hpairwise
      refine ⟨hstart, horder, hceiling, ih hrest ?_⟩
      intro m' hm'
      obtain ⟨-, horder', hceiling'⟩ := hmem m' (List.mem_cons_of_mem m hm')
      exact ⟨hbelow m' hm', horder', hceiling'⟩

end Mapping
end TextBoundary
