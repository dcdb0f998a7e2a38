/-
What comes last in a sorted list.

A stable sort puts elements in the order of their keys, and keeps the order of the list
among those with one key.  So of two elements the one that comes first can be told without
sorting: it has the smaller key, or the same key and comes first in the list.  The last
element that meets a condition is then the one that every other such element comes before.

That one element comes before another is said by their being, in this order, a sublist.
-/
import Mathlib.Data.List.Nodup
import Mathlib.Order.Lattice

namespace Sorted

variable {α K : Type*} [LinearOrder K] {key : α → K} {l : List α} {a b : α}

/-! ### The order of two elements -/

theorem comparable (ha : a ∈ l) (hb : b ∈ l) (hne : a ≠ b) :
    [a, b].Sublist l ∨ [b, a].Sublist l := by
  induction l with
  | nil => simp at ha
  | cons x rest ih =>
    rcases List.mem_cons.mp ha with rfl | ha'
    · have hrest : b ∈ rest := (List.mem_cons.mp hb).resolve_left hne.symm
      exact Or.inl ((List.singleton_sublist.mpr hrest).cons_cons a)
    · rcases List.mem_cons.mp hb with rfl | hb'
      · exact Or.inr ((List.singleton_sublist.mpr ha').cons_cons b)
      · rcases ih ha' hb' with hab | hba
        · exact Or.inl (hab.cons x)
        · exact Or.inr (hba.cons x)

theorem asymm (hl : l.Nodup) (hab : [a, b].Sublist l) (hba : [b, a].Sublist l) : False := by
  induction l with
  | nil => simp at hab
  | cons x rest ih =>
    obtain ⟨hx, hrest⟩ := List.nodup_cons.mp hl
    rcases List.sublist_cons_iff.mp hab with hab' | ⟨tail, heq, hb⟩
    · rcases List.sublist_cons_iff.mp hba with hba' | ⟨tail, heq, ha⟩
      · exact ih hrest hab' hba'
      · have hbx : b = x := (List.cons.inj heq).1
        exact hx (hbx ▸ hab'.subset (by simp))
    · have hax : a = x := (List.cons.inj heq).1
      rcases List.sublist_cons_iff.mp hba with hba' | ⟨tail', heq', ha⟩
      · exact hx (hax ▸ hba'.subset (by simp))
      · have htail : tail' = [a] := ((List.cons.inj heq').2).symm
        rw [htail] at ha
        exact hx (hax ▸ ha.subset (by simp))

theorem find?_reverse_eq_some (hl : l.Nodup) {p : α → Bool} :
    l.reverse.find? p = some a ↔
      a ∈ l ∧ p a = true ∧ ∀ b ∈ l, p b = true → b ≠ a → [b, a].Sublist l := by
  have hforward : ∀ c, l.reverse.find? p = some c →
      c ∈ l ∧ p c = true ∧ ∀ b ∈ l, p b = true → b ≠ c → [b, c].Sublist l := by
    intro c hfind
    obtain ⟨hp, after, before, hsplit, hafter⟩ := List.find?_eq_some_iff_append.mp hfind
    have hsplit' : l = before.reverse ++ c :: after.reverse := by
      rw [← List.reverse_reverse l, hsplit]
      simp
    refine ⟨by rw [hsplit']; simp, hp, ?_⟩
    intro b hb hpb hne
    rw [hsplit'] at hb ⊢
    rcases List.mem_append.mp hb with hbefore | hrest
    · exact (List.singleton_sublist.mpr hbefore).append
        (List.singleton_sublist.mpr List.mem_cons_self)
    · have hlater : b ∈ after := by
        simpa [hne] using hrest
      have hnot := hafter b hlater
      simp [hpb] at hnot
  refine ⟨hforward a, ?_⟩
  rintro ⟨ha, hp, hlast⟩
  cases hfind : l.reverse.find? p with
  | none =>
    have hnone := List.find?_eq_none.mp hfind a (by simpa using ha)
    exact absurd hp hnone
  | some c =>
    obtain ⟨hc, hpc, hlast'⟩ := hforward c hfind
    by_contra hne
    have hca : c ≠ a := fun h => hne (by rw [h])
    exact asymm hl (hlast c hc hpc hca) (hlast' a ha hp hca.symm)

/-! ### The order after sorting -/

/-- One element comes before another in a list that is sorted by a key. -/
def Before (key : α → K) (l : List α) (b a : α) : Prop :=
  key b < key a ∨ key b = key a ∧ [b, a].Sublist l

def sort (key : α → K) (l : List α) : List α := l.mergeSort fun a b => key a ≤ key b

theorem nodup_sort (hl : l.Nodup) : (sort key l).Nodup :=
  ((List.mergeSort_perm l _).nodup_iff).mpr hl

theorem key_le_of_sublist (h : [b, a].Sublist (sort key l)) : key b ≤ key a := by
  have hsorted : (sort key l).Pairwise fun a b => decide (key a ≤ key b) = true := by
    refine List.pairwise_mergeSort ?_ ?_ l
    · intro x y z hxy hyz
      simp only [decide_eq_true_eq] at hxy hyz ⊢
      exact le_trans hxy hyz
    · intro x y
      simpa using le_total (key x) (key y)
  simpa using hsorted.sublist h

theorem sublist_sort (hkey : key b ≤ key a) (h : [b, a].Sublist l) :
    [b, a].Sublist (sort key l) := by
  refine List.pair_sublist_mergeSort ?_ ?_ (by simpa using hkey) h
  · intro x y z hxy hyz
    simp only [decide_eq_true_eq] at hxy hyz ⊢
    exact le_trans hxy hyz
  · intro x y
    simpa using le_total (key x) (key y)

/-- **A stable sort orders two elements by their keys, and by the list where those agree.** -/
theorem sublist_sort_iff (hl : l.Nodup) (ha : a ∈ l) (hb : b ∈ l) (hne : b ≠ a) :
    [b, a].Sublist (sort key l) ↔ Before key l b a := by
  have hmem : ∀ x, x ∈ sort key l ↔ x ∈ l := fun x => List.mem_mergeSort
  constructor
  · intro h
    rcases lt_or_eq_of_le (key_le_of_sublist h) with hlt | heq
    · exact Or.inl hlt
    · refine Or.inr ⟨heq, ?_⟩
      rcases comparable hb ha hne with hba | hab
      · exact hba
      · exact (asymm (nodup_sort hl) h (sublist_sort (le_of_eq heq.symm) hab)).elim
  · rintro (hlt | ⟨heq, hba⟩)
    · rcases comparable ((hmem b).mpr hb) ((hmem a).mpr ha) hne with hba | hab
      · exact hba
      · exact absurd (key_le_of_sublist hab) (not_le_of_gt hlt)
    · exact sublist_sort (le_of_eq heq) hba

/-- **The last element of a sorted list that meets a condition.** -/
theorem find?_reverse_sort (hl : l.Nodup) {p : α → Bool} :
    (sort key l).reverse.find? p = some a ↔
      a ∈ l ∧ p a = true ∧ ∀ b ∈ l, p b = true → b ≠ a → Before key l b a := by
  have hmem : ∀ x, x ∈ sort key l ↔ x ∈ l := fun x => List.mem_mergeSort
  rw [find?_reverse_eq_some (nodup_sort hl)]
  constructor
  · rintro ⟨ha, hp, hlast⟩
    refine ⟨(hmem a).mp ha, hp, fun b hb hpb hne => ?_⟩
    exact (sublist_sort_iff hl ((hmem a).mp ha) hb hne).mp (hlast b ((hmem b).mpr hb) hpb hne)
  · rintro ⟨ha, hp, hlast⟩
    refine ⟨(hmem a).mpr ha, hp, fun b hb hpb hne => ?_⟩
    exact (sublist_sort_iff hl ha ((hmem b).mp hb) hne).mpr (hlast b ((hmem b).mp hb) hpb hne)

end Sorted
