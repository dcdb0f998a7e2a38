/-
Fields that a separator ends.

A program writes a list of fields with a separator behind each of them.  Fields that lack the
separator are read back as they were written, and one empty text behind the last of them.  A
reader that drops what is empty reads them back as well, as long as no field is empty; of other
data it reads less than stands there.
-/
import Luther.Lib.Search

namespace Fields

variable {α : Type*}

def terminated (sep : α) (fields : List (List α)) : List α := fields.flatMap (· ++ [sep])

@[simp] theorem terminated_nil (sep : α) : terminated sep [] = [] := rfl

theorem terminated_cons (sep : α) (field : List α) (rest : List (List α)) :
    terminated sep (field :: rest) = field ++ sep :: terminated sep rest := by
  simp [terminated]

variable {sep : α} {written : List (List α)} {data last : List α}

/-- **A field that lacks the separator is told apart from what follows it.** -/
theorem append_cons_inj {x y s t : List α} (hx : sep ∉ x) (hy : sep ∉ y)
    (h : x ++ sep :: s = y ++ sep :: t) : x = y ∧ s = t := by
  induction x generalizing y with
  | nil =>
    cases y with
    | nil => exact ⟨rfl, (List.cons.inj h).2⟩
    | cons c rest => exact absurd ((List.cons.inj h).1 ▸ List.mem_cons_self) hy
  | cons c rest ih =>
    cases y with
    | nil => exact absurd ((List.cons.inj h).1 ▸ List.mem_cons_self) hx
    | cons d others =>
      obtain ⟨rfl, htail⟩ := List.cons.inj h
      obtain ⟨rfl, hrest⟩ := ih (fun hmem => hx (List.mem_cons_of_mem _ hmem))
        (fun hmem => hy (List.mem_cons_of_mem _ hmem)) htail
      exact ⟨rfl, hrest⟩

/-- A text with a separator in two places: the places are the same, or one is in front. -/
theorem append_cons_cases {x y s t : List α} (h : x ++ sep :: s = y ++ sep :: t) :
    x = y ∧ s = t ∨ (∃ m, x = y ++ sep :: m ∧ t = m ++ sep :: s)
      ∨ ∃ m, y = x ++ sep :: m ∧ s = m ++ sep :: t := by
  rcases List.append_eq_append_iff.mp h with ⟨m, rfl, hs⟩ | ⟨m, rfl, ht⟩
  · cases m with
    | nil => exact .inl ⟨(List.append_nil x).symm, (List.cons.inj hs).2⟩
    | cons c m =>
      obtain ⟨rfl, rfl⟩ := List.cons.inj hs
      exact .inr (.inr ⟨m, rfl, rfl⟩)
  · cases m with
    | nil => exact .inl ⟨List.append_nil y, (List.cons.inj ht).2.symm⟩
    | cons c m =>
      obtain ⟨rfl, rfl⟩ := List.cons.inj ht
      exact .inr (.inl ⟨m, rfl, rfl⟩)

variable [BEq α]

/-- What stands between separators, where it is not empty. -/
def segments (sep : α) (data : List α) : List (List α) :=
  (data.splitOn sep).filter fun segment => !segment.isEmpty

/-- The fields of data: what stands between separators, but for an empty text behind the last. -/
def fields (sep : α) (data : List α) : List (List α) :=
  let parts := data.splitOn sep
  if (parts.getLast?.all List.isEmpty) = true then parts.dropLast else parts

theorem segments_eq_filter_fields (sep : α) (data : List α) :
    segments sep data = (fields sep data).filter fun field => !field.isEmpty := by
  unfold segments fields
  dsimp only
  split
  · rename_i hlast
    have hne : data.splitOn sep ≠ [] := List.splitOn_ne_nil sep data
    have hempty : ((data.splitOn sep).getLast hne).isEmpty = true := by
      rwa [List.getLast?_eq_some_getLast hne] at hlast
    conv_lhs => rw [← List.dropLast_append_getLast hne]
    rw [List.filter_append, List.filter_cons_of_neg (by simp [hempty]), List.filter_nil,
      List.append_nil]
  · rfl

variable [LawfulBEq α]

/-- **Fields without the separator are read back**, and an empty text behind the last. -/
theorem splitOn_terminated (h : ∀ field ∈ written, sep ∉ field) :
    (terminated sep written).splitOn sep = written ++ [[]] := by
  induction written with
  | nil => exact List.splitOn_nil sep
  | cons field rest ih =>
    have hfield : sep ∉ field := h field List.mem_cons_self
    have hrest : ∀ other ∈ rest, sep ∉ other := fun other hother =>
      h other (List.mem_cons_of_mem _ hother)
    rw [terminated_cons, List.splitOn_append_cons_self_of_not_mem hfield, ih hrest]
    rfl

theorem fields_terminated (h : ∀ field ∈ written, sep ∉ field) :
    fields sep (terminated sep written) = written := by
  unfold fields
  simp [splitOn_terminated h]

/-- **A reader that drops what is empty reads back fields that are not.** -/
theorem segments_terminated (h : ∀ field ∈ written, sep ∉ field ∧ field ≠ []) :
    segments sep (terminated sep written) = written := by
  rw [segments_eq_filter_fields, fields_terminated fun field hfield => (h field hfield).1]
  refine List.filter_eq_self.mpr fun field hfield => ?_
  simp [(h field hfield).2]

/-! ### One symbol after the other -/

theorem splitOn_cons_self (sep : α) (data : List α) :
    (sep :: data).splitOn sep = [] :: data.splitOn sep := by
  rw [List.splitOn_eq_splitOnP, List.splitOnP_cons_eq_if_modifyHead, if_pos (by simp)]
  rfl

theorem splitOn_cons_ne {c : α} (h : c ≠ sep) (data : List α) :
    (c :: data).splitOn sep = (data.splitOn sep).modifyHead (List.cons c) := by
  rw [List.splitOn_eq_splitOnP, List.splitOnP_cons_eq_if_modifyHead, if_neg (by simp [h])]
  rfl

theorem splitOn_append_of_notMem {front : List α} (h : sep ∉ front) (data : List α) :
    (front ++ data).splitOn sep = (data.splitOn sep).modifyHead (front ++ ·) := by
  induction front with
  | nil => exact (congrFun List.modifyHead_id _).symm
  | cons c rest ih =>
    have hc : c ≠ sep := fun heq => h (heq ▸ List.mem_cons_self)
    rw [List.cons_append, splitOn_cons_ne hc, ih fun hmem => h (List.mem_cons_of_mem c hmem),
      List.modifyHead_modifyHead]
    rfl

theorem splitOn_append {front : List (List α)} (hparts : data.splitOn sep = front ++ [last])
    (more : List α) :
    (data ++ more).splitOn sep = front ++ (last ++ more).splitOn sep := by
  induction data generalizing front last with
  | nil =>
    rw [List.splitOn_nil] at hparts
    obtain ⟨rfl, hlast⟩ := @List.append_inj' _ [] [[]] front [last] hparts rfl
    obtain rfl := (List.cons.inj hlast).1
    rfl
  | cons x rest ih =>
    obtain ⟨others, part, hrest⟩ :=
      (List.eq_nil_or_concat' (rest.splitOn sep)).resolve_left (List.splitOn_ne_nil sep rest)
    by_cases hx : x = sep
    · subst hx
      rw [splitOn_cons_self, hrest, ← List.cons_append] at hparts
      obtain ⟨rfl, hlast⟩ := List.append_inj' hparts rfl
      obtain rfl := (List.cons.inj hlast).1
      rw [List.cons_append, splitOn_cons_self, ih hrest]
      rfl
    · rw [splitOn_cons_ne hx, hrest] at hparts
      rw [List.cons_append, splitOn_cons_ne hx, ih hrest]
      cases others with
      | nil =>
        obtain ⟨rfl, hlast⟩ := @List.append_inj' _ [] [x :: part] front [last] hparts rfl
        obtain rfl := (List.cons.inj hlast).1
        rw [List.nil_append, List.nil_append, List.cons_append, splitOn_cons_ne hx]
      | cons first others =>
        obtain ⟨rfl, hlast⟩ :=
          @List.append_inj' _ ((x :: first) :: others) [part] front [last] hparts rfl
        obtain rfl := (List.cons.inj hlast).1
        rfl

theorem splitOn_of_notMem (h : sep ∉ data) :
    data.splitOn sep = [data] := by
  have hsplit := splitOn_append_of_notMem h []
  rw [List.append_nil, List.splitOn_nil] at hsplit
  rw [hsplit, List.modifyHead_cons, List.append_nil]

theorem notMem_of_mem_splitOn {part : List α} (h : part ∈ data.splitOn sep) :
    sep ∉ part := by
  intro hmem
  rw [List.splitOn_eq_splitOnP] at h
  exact absurd (Search.notBlank_of_mem_splitOnP h sep hmem) (by simp)

theorem splitOn_concat_ne {c : α} (h : c ≠ sep) {front : List (List α)}
    (hparts : data.splitOn sep = front ++ [last]) :
    (data ++ [c]).splitOn sep = front ++ [last ++ [c]] := by
  have hlast : sep ∉ last := notMem_of_mem_splitOn (hparts ▸ List.mem_concat_self)
  rw [splitOn_append hparts, splitOn_of_notMem]
  rw [List.mem_append, List.mem_singleton]
  exact fun hmem => hmem.elim hlast fun heq => h heq.symm

theorem splitOn_concat_self (sep : α) (data : List α) :
    (data ++ [sep]).splitOn sep = data.splitOn sep ++ [[]] := by
  obtain ⟨front, last, hparts⟩ :=
    (List.eq_nil_or_concat' (data.splitOn sep)).resolve_left (List.splitOn_ne_nil sep data)
  have hlast : sep ∉ last := notMem_of_mem_splitOn (hparts ▸ List.mem_concat_self)
  rw [splitOn_append hparts, hparts, List.splitOn_append_cons_self_of_not_mem hlast,
    List.splitOn_nil, List.append_assoc]
  rfl

theorem splitOn_last (sep : α) (data : List α) :
    (∃ lines, data.splitOn sep = lines ++ [[]] ∧ ∀ c, data.getLast? = some c → c = sep) ∨
      ∃ lines last c, data.splitOn sep = lines ++ [last ++ [c]] ∧ data.getLast? = some c ∧
        c ≠ sep := by
  rcases List.eq_nil_or_concat' data with rfl | ⟨front, c, rfl⟩
  · exact Or.inl ⟨[], List.splitOn_nil sep, fun c hc => by cases hc⟩
  · have hlast : (front ++ [c]).getLast? = some c := List.getLast?_concat
    by_cases hc : c = sep
    · subst hc
      refine Or.inl ⟨front.splitOn c, splitOn_concat_self c front, fun d hd => ?_⟩
      rw [hlast] at hd
      exact (Option.some.inj hd).symm
    · obtain ⟨lines, last, hparts⟩ :=
        (List.eq_nil_or_concat' (front.splitOn sep)).resolve_left (List.splitOn_ne_nil sep front)
      exact Or.inr ⟨lines, last, c, splitOn_concat_ne hc hparts, hlast, hc⟩

omit [LawfulBEq α] in
theorem fields_of_splitOn {lines : List (List α)} (h : data.splitOn sep = lines ++ [last]) :
    fields sep data = if last = [] then lines else lines ++ [last] := by
  unfold fields
  simp only [h, List.getLast?_concat, List.dropLast_concat, Option.all_some, List.isEmpty_iff]

theorem notMem_of_mem_fields {field : List α} (h : field ∈ fields sep data) :
    sep ∉ field := by
  have hpart : field ∈ data.splitOn sep := by
    unfold fields at h
    dsimp only at h
    split at h
    · exact List.mem_of_mem_dropLast h
    · exact h
  exact notMem_of_mem_splitOn hpart

end Fields
