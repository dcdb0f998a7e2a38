/-
Lists that number things from one on.

A log whose entries are numbered is read back in any order.  What can be asked of the
numbers then does not depend on the order: that they are those from one to as many as there
are.  From it follow that none comes twice, that the largest is how many there are, and that
the one after the largest is new.
-/
import Mathlib.Data.List.Range
import Mathlib.Data.List.Sort

namespace Numbering

variable {numbers others : List Nat}

/-- The numbers are those from one to as many as there are. -/
def Contiguous (numbers : List Nat) : Prop := numbers.Perm (List.range' 1 numbers.length)

/-- The largest number, zero where there is none. -/
def largest (numbers : List Nat) : Nat := numbers.foldr max 0

/-! ### The largest number -/

@[simp] theorem largest_nil : largest [] = 0 := rfl

@[simp] theorem largest_cons (n : Nat) : largest (n :: numbers) = max n (largest numbers) := rfl

theorem largest_perm (h : numbers.Perm others) : largest numbers = largest others := by
  induction h with
  | nil => rfl
  | cons n _ ih => simp [ih]
  | swap m n rest => simp [Nat.max_left_comm]
  | trans _ _ ih₁ ih₂ => exact ih₁.trans ih₂

variable {n : Nat}

theorem le_largest (h : n ∈ numbers) : n ≤ largest numbers := by
  induction numbers with
  | nil => simp at h
  | cons m rest ih =>
    rcases List.mem_cons.mp h with rfl | hrest
    · exact Nat.le_max_left _ _
    · exact Nat.le_trans (ih hrest) (Nat.le_max_right _ _)

theorem largest_le {bound : Nat} (h : ∀ n ∈ numbers, n ≤ bound) : largest numbers ≤ bound := by
  induction numbers with
  | nil => exact Nat.zero_le _
  | cons m rest ih => refine Nat.max_le.mpr ⟨h m (by simp), ih fun n hn => h n (by simp [hn])⟩

/-! ### Contiguous numbers -/

@[simp] theorem contiguous_nil : Contiguous [] := List.Perm.refl _

section

variable (h : Contiguous numbers)

include h

theorem Contiguous.perm (hp : others.Perm numbers) : Contiguous others := by
  unfold Contiguous
  rw [hp.length_eq]
  exact hp.trans h

theorem Contiguous.mem_iff : n ∈ numbers ↔ 1 ≤ n ∧ n ≤ numbers.length := by
  rw [List.Perm.mem_iff h, List.mem_range'_1]
  omega

theorem Contiguous.nodup : numbers.Nodup :=
  (List.Perm.nodup_iff h).mpr List.nodup_range'

theorem Contiguous.pos (hn : n ∈ numbers) : 0 < n :=
  (h.mem_iff.mp hn).1

/-- **The largest of contiguous numbers is how many there are.** -/
theorem Contiguous.largest : largest numbers = numbers.length := by
  refine Nat.le_antisymm (largest_le fun n hn => (h.mem_iff.mp hn).2) ?_
  by_cases hempty : numbers = []
  · simp [hempty]
  · refine le_largest (h.mem_iff.mpr ⟨?_, Nat.le_refl _⟩)
    exact List.length_pos_iff.mpr hempty

/-- **The number after the largest keeps numbers contiguous.** -/
theorem Contiguous.next : Contiguous (numbers ++ [numbers.length + 1]) := by
  unfold Contiguous
  rw [List.length_append, List.length_singleton, List.range'_concat]
  rw [Nat.one_mul, Nat.add_comm 1]
  exact List.Perm.append_right _ h

/-- **Contiguous numbers in their order are the numbers from one on.** -/
theorem Contiguous.eq_range' (hsorted : numbers.Pairwise (· ≤ ·)) :
    numbers = List.range' 1 numbers.length :=
  List.Perm.eq_of_sortedLE (List.sortedLE_iff_pairwise.mpr hsorted)
    (List.sortedLE_range' 1 numbers.length 1) h

end

end Numbering
