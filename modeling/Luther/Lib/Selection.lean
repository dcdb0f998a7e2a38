/-
Taking the first few elements that pass a test.

Where the test lets more through than it should, the few that are taken may all be right
nevertheless: the wrong ones come too late.  How late is said by the right ones before them.
-/
import Mathlib.Data.List.Basic

namespace Selection

variable {α : Type*} {p q : α → Bool}

/-- **What is taken of the elements that pass `p` meets `q` too just when an element that does
not comes after as many that meet both as are taken.** -/
theorem forall_take_filter (k : Nat) (l : List α) :
    (∀ a ∈ (l.filter p).take k, q a = true) ↔
      ∀ before a after, l = before ++ a :: after → p a = true → q a = false →
        k ≤ (before.filter fun b => p b && q b).length := by
  induction l generalizing k with
  | nil => simp
  | cons x rest ih =>
    cases hp : p x with
    | false =>
      rw [List.filter_cons_of_neg (by simp [hp]), ih k]
      constructor
      · intro h before a after hsplit hpa hqa
        cases before with
        | nil =>
          obtain rfl : x = a := (List.cons.inj hsplit).1
          simp [hp] at hpa
        | cons y before =>
          obtain ⟨rfl, hrest⟩ := List.cons.inj hsplit
          rw [List.filter_cons_of_neg (by simp [hp])]
          exact h before a after hrest hpa hqa
      · intro h before a after hsplit hpa hqa
        have hlater := h (x :: before) a after (by rw [hsplit]; rfl) hpa hqa
        rwa [List.filter_cons_of_neg (by simp [hp])] at hlater
    | true =>
      rw [List.filter_cons_of_pos hp]
      cases k with
      | zero => simp
      | succ k =>
        rw [List.take_succ_cons, List.forall_mem_cons, ih k]
        constructor
        · rintro ⟨hqx, h⟩ before a after hsplit hpa hqa
          cases before with
          | nil =>
            obtain rfl : x = a := (List.cons.inj hsplit).1
            simp [hqx] at hqa
          | cons y before =>
            obtain ⟨rfl, hrest⟩ := List.cons.inj hsplit
            rw [List.filter_cons_of_pos (by simp [hp, hqx]), List.length_cons]
            exact Nat.succ_le_succ (h before a after hrest hpa hqa)
        · intro h
          have hqx : q x = true := by
            by_contra hqx
            have hnone := h [] x rest rfl hp (by simpa using hqx)
            simp at hnone
          refine ⟨hqx, fun before a after hsplit hpa hqa => ?_⟩
          have hlater := h (x :: before) a after (by rw [hsplit]; rfl) hpa hqa
          rw [List.filter_cons_of_pos (by simp [hp, hqx]), List.length_cons] at hlater
          exact Nat.le_of_succ_le_succ hlater

/-- Elements that all meet `q` are the first that meet both. -/
theorem take_filter_and (k : Nat) (l : List α)
    (h : ∀ a ∈ (l.filter p).take k, q a = true) :
    (l.filter p).take k = (l.filter fun a => p a && q a).take k := by
  induction l generalizing k with
  | nil => rfl
  | cons x rest ih =>
    cases hp : p x with
    | false =>
      rw [List.filter_cons_of_neg (by simp [hp])] at h ⊢
      rw [List.filter_cons_of_neg (by simp [hp])]
      exact ih k h
    | true =>
      rw [List.filter_cons_of_pos hp] at h ⊢
      cases k with
      | zero => simp
      | succ k =>
        rw [List.take_succ_cons, List.forall_mem_cons] at h
        rw [List.filter_cons_of_pos (by simp [hp, h.1]), List.take_succ_cons,
          List.take_succ_cons, ih k h.2]

end Selection
