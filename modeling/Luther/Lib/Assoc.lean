/-
Finite maps as lists of entries.

A hash map of the program is the list of its entries.  Reading is `List.lookup`; writing replaces
the entry of the key where it stands or adds one at the end.  Neither asks for an order; where a
map is gone through entry by entry, the order is one of its own.
-/
import Mathlib.Data.List.Lookmap

namespace Assoc

/-- The order in which a map gives its entries: any order, but one for each map. -/
structure IterationOrder (Key Value : Type*) where
  entries : List (Key × Value) → List (Key × Value)
  perm : ∀ m, (entries m).Perm m

variable {Key Value Value' : Type*} [DecidableEq Key]

/-- The map with one more entry, or with the entry of the key replaced. -/
def insert (k : Key) (v : Value) : List (Key × Value) → List (Key × Value)
  | [] => [(k, v)]
  | (k', v') :: rest => if k' = k then (k, v) :: rest else (k', v') :: insert k v rest

@[simp] theorem lookup_insert_self (k : Key) (v : Value) (m : List (Key × Value)) :
    (insert k v m).lookup k = some v := by
  induction m with
  | nil => simp [insert]
  | cons e rest ih =>
    obtain ⟨k', v'⟩ := e
    unfold insert
    by_cases h : k' = k
    · rw [if_pos h]
      simp
    · have hne : (k == k') = false := beq_eq_false_iff_ne.mpr fun hc => h hc.symm
      rw [if_neg h, List.lookup_cons, hne]
      exact ih

variable {j k : Key} {fields m : List (Key × Value)} {v : Value}

@[simp] theorem lookup_insert_ne (h : j ≠ k) (v : Value) (m : List (Key × Value)) :
    (insert k v m).lookup j = m.lookup j := by
  have hjk : (j == k) = false := beq_eq_false_iff_ne.mpr h
  induction m with
  | nil => rw [insert, List.lookup_cons, hjk]
  | cons e rest ih =>
    obtain ⟨k', v'⟩ := e
    unfold insert
    by_cases hk : k' = k
    · rw [if_pos hk, List.lookup_cons, List.lookup_cons, hk, hjk]
    · rw [if_neg hk, List.lookup_cons, List.lookup_cons, ih]

/-! ### Many entries -/

/-- Writing a list of entries, one after the other, leaves the entries of the other keys. -/
theorem lookup_insertMany_ne (h : j ∉ fields.map Prod.fst) (m : List (Key × Value)) :
    (fields.foldl (fun m e => insert e.1 e.2 m) m).lookup j = m.lookup j := by
  induction fields generalizing m with
  | nil => rfl
  | cons e rest ih =>
    rw [List.map_cons, List.mem_cons, not_or] at h
    rw [List.foldl_cons, ih h.2, lookup_insert_ne h.1]

theorem lookup_insertMany_mem (hkeys : (fields.map Prod.fst).Nodup) (h : (k, v) ∈ fields)
    (m : List (Key × Value)) :
    (fields.foldl (fun m e => insert e.1 e.2 m) m).lookup k = some v := by
  induction fields generalizing m with
  | nil => simp at h
  | cons e rest ih =>
    rw [List.map_cons, List.nodup_cons] at hkeys
    rw [List.foldl_cons]
    rcases List.mem_cons.mp h with rfl | hrest
    · rw [lookup_insertMany_ne hkeys.1, lookup_insert_self]
    · exact ih hkeys.2 hrest _

theorem lookup_insertMany (hkeys : (fields.map Prod.fst).Nodup) (m : List (Key × Value)) :
    (fields.foldl (fun m e => insert e.1 e.2 m) m).lookup k = (fields.lookup k).or (m.lookup k) := by
  induction fields generalizing m with
  | nil => rfl
  | cons e rest ih =>
    rw [List.map_cons, List.nodup_cons] at hkeys
    rw [List.foldl_cons, List.lookup_cons]
    by_cases hk : k = e.1
    · rw [hk, lookup_insertMany_ne hkeys.1, lookup_insert_self, beq_self_eq_true]
      rfl
    · have hne : (k == e.1) = false := beq_eq_false_iff_ne.mpr hk
      rw [ih hkeys.2, lookup_insert_ne hk, hne]

/-! ### Keys -/

theorem mem_keys_insert (h : j ∈ (insert k v m).map Prod.fst) : j = k ∨ j ∈ m.map Prod.fst := by
  induction m with
  | nil => exact Or.inl (by simpa [insert] using h)
  | cons e rest ih =>
    obtain ⟨k', v'⟩ := e
    unfold insert at h
    by_cases hk : k' = k
    · rw [if_pos hk] at h
      simpa [hk] using h
    · rw [if_neg hk, List.map_cons, List.mem_cons] at h
      rcases h with rfl | hrest
      · exact Or.inr (by simp)
      · rcases ih hrest with hj | hj
        · exact Or.inl hj
        · exact Or.inr (List.mem_cons_of_mem _ hj)

theorem nodup_keys_insert (h : (m.map Prod.fst).Nodup) : ((insert k v m).map Prod.fst).Nodup := by
  induction m with
  | nil => simp [insert]
  | cons e rest ih =>
    obtain ⟨k', v'⟩ := e
    rw [List.map_cons, List.nodup_cons] at h
    unfold insert
    by_cases hk : k' = k
    · rw [if_pos hk, List.map_cons, List.nodup_cons]
      exact ⟨hk ▸ h.1, h.2⟩
    · rw [if_neg hk, List.map_cons, List.nodup_cons]
      refine ⟨fun hmem => ?_, ih h.2⟩
      exact (mem_keys_insert hmem).elim hk h.1

theorem filter_insert_of_neg {p : Key × Value → Bool} (h : ∀ v, p (k, v) = false) (v : Value)
    (m : List (Key × Value)) :
    (insert k v m).filter p = m.filter p := by
  induction m with
  | nil => rw [insert, List.filter_cons_of_neg (by simp [h])]
  | cons e rest ih =>
    obtain ⟨k', v'⟩ := e
    unfold insert
    by_cases hk : k' = k
    · rw [if_pos hk, List.filter_cons_of_neg (by simp [h]), hk,
        List.filter_cons_of_neg (by simp [h])]
    · rw [if_neg hk, List.filter_cons, List.filter_cons, ih]

theorem mem_of_lookup (h : m.lookup k = some v) : (k, v) ∈ m := by
  obtain ⟨before, after, rfl, -⟩ := List.lookup_eq_some_iff.mp h
  simp

theorem lookup_cons_some {Key : Type*} [BEq Key] [LawfulBEq Key] {j k : Key} {v w : Value}
    {m : List (Key × Value)} (h : List.lookup j ((k, v) :: m) = some w) :
    j = k ∧ v = w ∨ m.lookup j = some w := by
  rw [List.lookup_cons] at h
  by_cases hkey : j = k
  · rw [hkey, BEq.rfl] at h
    exact Or.inl ⟨hkey, Option.some.inj h⟩
  · rw [beq_false_of_ne hkey] at h
    exact Or.inr h

theorem lookup_of_mem (hkeys : (m.map Prod.fst).Nodup) (h : (k, v) ∈ m) : m.lookup k = some v := by
  induction m with
  | nil => simp at h
  | cons e rest ih =>
    obtain ⟨k', v'⟩ := e
    rw [List.map_cons, List.nodup_cons] at hkeys
    rcases List.mem_cons.mp h with heq | hrest
    · obtain ⟨rfl, rfl⟩ := Prod.mk.inj heq
      simp
    · have hne : (k == k') = false := by
        refine beq_eq_false_iff_ne.mpr fun hc => hkeys.1 ?_
        have hmem : k ∈ rest.map Prod.fst := List.mem_map_of_mem (f := Prod.fst) hrest
        exact hc ▸ hmem
      rw [List.lookup_cons, hne]
      exact ih hkeys.2 hrest

/-! ### Items by a key of theirs -/

theorem lookup_index {key : Value → Key} {items : List Value}
    (h : (items.foldl (fun m a => insert (key a) a m) m).lookup k = some v) :
    (v ∈ items ∧ key v = k) ∨ m.lookup k = some v := by
  induction items generalizing m with
  | nil => exact Or.inr h
  | cons a rest ih =>
    rcases ih h with ⟨hmem, hkey⟩ | hfound
    · exact Or.inl ⟨List.mem_cons_of_mem _ hmem, hkey⟩
    · by_cases hk : k = key a
      · rw [hk, lookup_insert_self, Option.some.injEq] at hfound
        exact Or.inl (hfound ▸ ⟨List.mem_cons_self .., hk.symm⟩)
      · rw [lookup_insert_ne hk] at hfound
        exact Or.inr hfound

theorem isSome_lookup_index {key : Value → Key} {items : List Value}
    (h : (∃ a ∈ items, key a = k) ∨ (m.lookup k).isSome = true) :
    ((items.foldl (fun m a => insert (key a) a m) m).lookup k).isSome = true := by
  induction items generalizing m with
  | nil => simpa using h
  | cons a rest ih =>
    refine ih ?_
    by_cases hk : k = key a
    · exact Or.inr (by rw [hk, lookup_insert_self, Option.isSome_some])
    · rw [lookup_insert_ne hk]
      refine h.imp_left fun ⟨b, hb, hkey⟩ => ⟨b, ?_, hkey⟩
      exact (List.mem_cons.mp hb).resolve_left fun hab => hk (hab ▸ hkey.symm)

end Assoc
