/-
Which listings are read as they were written.

The reader looks for a second path behind an entry whose first column says that it was moved.  A
listing in which the other column says so alone is out of step from there on: the path that the
entry comes from is taken for an entry, of which it would have to be the path itself.
-/
import Luther.Remediation.PushPorcelain
import Mathlib.Tactic.Cases

namespace Luther

/-! ### Slices -/

@[simp] theorem StatusColumn.utf8Size_letter (column : StatusColumn) :
    column.letter.utf8Size = 1 := by
  cases column <;> rfl

theorem StatusColumn.letter_ne_nul (column : StatusColumn) : column.letter ≠ '\x00' := by
  cases column <;> decide

theorem StatusColumn.moved_iff (column : StatusColumn) :
    column.moved = true ↔ column.letter = 'R' ∨ column.letter = 'C' := by
  cases column <;> decide

theorem length_of_splitAtByte {n : Nat} {text before after : List Char}
    (h : splitAtByte n text = some (before, after)) :
    after.length + before.length = text.length ∧ (0 < n → 0 < before.length) := by
  induction text generalizing n before with
  | nil =>
    cases n with
    | zero =>
      cases h
      exact ⟨rfl, fun hpos => absurd hpos (Nat.lt_irrefl 0)⟩
    | succ n => cases h
  | cons c rest ih =>
    cases n with
    | zero =>
      cases h
      exact ⟨rfl, fun hpos => absurd hpos (Nat.lt_irrefl 0)⟩
    | succ n =>
      unfold splitAtByte at h
      by_cases hc : c.utf8Size ≤ n + 1
      · rw [if_pos hc] at h
        obtain ⟨⟨first, last⟩, hparts, heq⟩ := Option.map_eq_some_iff.mp h
        obtain ⟨rfl, rfl⟩ := Prod.mk.inj heq
        have hlength : last.length + first.length = rest.length := (ih hparts).1
        refine ⟨?_, fun _ => Nat.succ_pos _⟩
        simp only [List.length_cons] at hlength ⊢
        omega
      · rw [if_neg hc] at h
        cases h

/-! ### An entry -/

section Entry

variable (entry : StatusEntry) {segments : List (List Char)}

theorem utf8Size_blank : ' '.utf8Size = 1 := rfl

theorem StatusEntry.byteLength_line : 3 ≤ byteLength entry.line := by
  simp only [StatusEntry.line, byteLength, List.map_cons, List.sum_cons,
    StatusColumn.utf8Size_letter, utf8Size_blank]
  omega

theorem StatusEntry.splitAtByte_line :
    splitAtByte 2 entry.line =
        some ([entry.index.letter, entry.worktree.letter], ' ' :: entry.path.text.toList) ∧
      splitAtByte 3 entry.line =
        some ([entry.index.letter, entry.worktree.letter, ' '], entry.path.text.toList) := by
  constructor
  · simp [StatusEntry.line, splitAtByte]
  · simp [StatusEntry.line, splitAtByte, utf8Size_blank]

theorem StatusEntry.path_ne_nil : entry.path.text.toList ≠ [] := by
  intro h
  exact entry.path.named (String.toList_eq_nil_iff.mp h)

theorem readPorcelain_unmoved (h : entry.index.moved = false) :
    readPorcelain (entry.line :: segments) =
      (readPorcelain segments).map ((entry.line, [entry.path.text]) :: ·) := by
  have hlong : ¬ byteLength entry.line < 3 := Nat.not_lt.mpr entry.byteLength_line
  have hletter : ¬ (entry.index.letter = 'R' ∨ entry.index.letter = 'C') := by
    rw [← StatusColumn.moved_iff, h]
    exact Bool.false_ne_true
  obtain ⟨hcode, hpath⟩ := entry.splitAtByte_line
  rw [readPorcelain.eq_def]
  dsimp only
  rw [if_neg hlong, hcode, hpath]
  dsimp only
  rw [if_neg entry.path_ne_nil, String.ofList_toList, if_neg]
  simpa using hletter

theorem readPorcelain_moved (h : entry.index.moved) {origin : List Char} (horigin : origin ≠ []) :
    readPorcelain (entry.line :: origin :: segments) =
      (readPorcelain segments).map
        ((entry.line, [entry.path.text, String.ofList origin]) :: ·) := by
  have hlong : ¬ byteLength entry.line < 3 := Nat.not_lt.mpr entry.byteLength_line
  have hletter := (StatusColumn.moved_iff _).mp h
  obtain ⟨hcode, hpath⟩ := entry.splitAtByte_line
  rw [readPorcelain.eq_def]
  dsimp only
  rw [if_neg hlong, hcode, hpath]
  dsimp only
  rw [if_neg entry.path_ne_nil, String.ofList_toList, if_pos, if_neg horigin]
  simpa using hletter

end Entry
/-! ### Listings that are read as they were written -/

/-- A listing is read as it was written: the paths are those that its entries name, and nothing is
taken for an entry but an entry, and the empty text behind the last NUL. -/
def ReadAsListed (entries : List StatusEntry) : Prop :=
  parsePorcelainZ (porcelainZ entries) = some (entries.flatMap StatusEntry.paths) ∧
    (readPorcelain ((porcelainZ entries).toList.splitOn '\x00')).map (List.map Prod.fst) =
      some (entries.map StatusEntry.line ++ [[]])

/-- An entry whose index column says that it was moved, if one does. -/
def StatusEntry.MovedInIndex (entry : StatusEntry) : Prop :=
  entry.worktree.moved = true → entry.index.moved = true

instance (entry : StatusEntry) : Decidable entry.MovedInIndex :=
  inferInstanceAs (Decidable (_ → _))

section Listing

variable {entry : StatusEntry} {entries : List StatusEntry} {segments : List (List Char)}

theorem StatusEntry.field_ok {field : List Char} (h : field ∈ entry.fields) :
    '\x00' ∉ field ∧ field ≠ [] := by
  rcases List.mem_cons.mp h with rfl | horigin
  · refine ⟨?_, List.cons_ne_nil _ _⟩
    simp only [StatusEntry.line, List.mem_cons, not_or]
    exact ⟨(StatusColumn.letter_ne_nul _).symm, (StatusColumn.letter_ne_nul _).symm, by decide,
      entry.path.terminable⟩
  · obtain ⟨origin, -, rfl⟩ := Option.map_eq_some_iff.mp (Option.mem_toList.mp horigin)
    exact ⟨origin.terminable, fun hnil => origin.named (String.toList_eq_nil_iff.mp hnil)⟩

theorem splitOn_porcelainZ (entries : List StatusEntry) :
    (porcelainZ entries).toList.splitOn '\x00' = entries.flatMap StatusEntry.fields ++ [[]] := by
  unfold porcelainZ
  rw [String.toList_ofList]
  refine Fields.splitOn_terminated fun field hfield => ?_
  obtain ⟨entry, -, hmem⟩ := List.mem_flatMap.mp hfield
  exact (entry.field_ok hmem).1

theorem readPorcelain_entry (h : entry.MovedInIndex) :
    readPorcelain (entry.fields ++ segments) =
      (readPorcelain segments).map ((entry.line, entry.paths) :: ·) := by
  cases horigin : entry.origin with
  | none =>
    have hmoved : (entry.index.moved || entry.worktree.moved) = false := by
      rw [← entry.origin_iff, horigin]
      rfl
    unfold StatusEntry.fields StatusEntry.paths
    rw [horigin]
    exact readPorcelain_unmoved entry (Bool.or_eq_false_iff.mp hmoved).1
  | some origin =>
    have hmoved : (entry.index.moved || entry.worktree.moved) = true := by
      rw [← entry.origin_iff, horigin]
      rfl
    have hindex : entry.index.moved = true := (Bool.or_eq_true_iff.mp hmoved).elim id h
    have hnamed : origin.text.toList ≠ [] := fun hnil =>
      origin.named (String.toList_eq_nil_iff.mp hnil)
    unfold StatusEntry.fields StatusEntry.paths
    rw [horigin]
    have hread : readPorcelain (entry.line :: origin.text.toList :: segments) = _ :=
      readPorcelain_moved entry hindex hnamed
    rwa [String.ofList_toList] at hread

theorem readPorcelain_entries (h : ∀ entry ∈ entries, entry.MovedInIndex) :
    readPorcelain (entries.flatMap StatusEntry.fields ++ segments) =
      (readPorcelain segments).map
        (entries.map (fun entry => (entry.line, entry.paths)) ++ ·) := by
  induction entries with
  | nil => simp
  | cons entry rest ih =>
    have hrest : ∀ other ∈ rest, other.MovedInIndex := fun other hother =>
      h other (List.mem_cons_of_mem _ hother)
    rw [List.flatMap_cons, List.append_assoc, readPorcelain_entry (h entry List.mem_cons_self),
      ih hrest, Option.map_map]
    rfl

/-! ### Listings that are not -/

variable {read : List (List Char × List String)}

/-- What one turn of the loop does: a text that is taken for an entry adds nothing, or a path that
is shorter than the text, and with it the text behind, if it is not empty. -/
theorem readPorcelain_cons {text : List Char} {rest : List (List Char)}
    (h : readPorcelain (text :: rest) = some read) :
    ∃ added others, read = (text, added) :: others ∧
      (added = [] ∧ readPorcelain rest = some others ∨
        ∃ path : String, path.toList.length < text.length ∧
          (added = [path] ∧ readPorcelain rest = some others ∨
            ∃ nextPath following, rest = nextPath :: following ∧
              readPorcelain following = some others ∧
              added = path :: if nextPath = [] then [] else [String.ofList nextPath])) := by
  rw [readPorcelain.eq_def] at h
  dsimp only at h
  by_cases hshort : byteLength text < 3
  · rw [if_pos hshort] at h
    obtain ⟨others, hothers, rfl⟩ := Option.map_eq_some_iff.mp h
    exact ⟨[], others, rfl, .inl ⟨rfl, hothers⟩⟩
  rw [if_neg hshort] at h
  split at h
  · rename_i code _ _ path hcode hpath
    by_cases hempty : path = []
    · rw [if_pos hempty] at h
      obtain ⟨others, hothers, rfl⟩ := Option.map_eq_some_iff.mp h
      exact ⟨[], others, rfl, .inl ⟨rfl, hothers⟩⟩
    rw [if_neg hempty] at h
    have hlength : (String.ofList path).toList.length < text.length := by
      obtain ⟨hsum, hpos⟩ := length_of_splitAtByte hpath
      have := hpos (by decide)
      rw [String.toList_ofList]
      omega
    by_cases hmoved : code.head? = some 'R' ∨ code.head? = some 'C'
    · rw [if_pos hmoved] at h
      cases rest with
      | nil =>
        cases h
        exact ⟨_, [], rfl, .inr ⟨_, hlength, .inl ⟨rfl, rfl⟩⟩⟩
      | cons nextPath following =>
        obtain ⟨others, hothers, rfl⟩ := Option.map_eq_some_iff.mp h
        refine ⟨_, others, rfl, .inr ⟨_, hlength, .inr ?_⟩⟩
        refine ⟨nextPath, following, rfl, hothers, ?_⟩
        by_cases hnext : nextPath = []
        · rw [if_pos hnext, if_pos hnext]
        · rw [if_neg hnext, if_neg hnext]
    · rw [if_neg hmoved] at h
      obtain ⟨others, hothers, rfl⟩ := Option.map_eq_some_iff.mp h
      exact ⟨_, others, rfl, .inr ⟨_, hlength, .inl ⟨rfl, hothers⟩⟩⟩
  · cases h

def filled (segments : List (List Char)) : Nat := segments.countP fun segment => !segment.isEmpty

theorem length_of_readPorcelain (h : readPorcelain segments = some read) :
    (read.flatMap Prod.snd).length ≤ filled segments := by
  induction hn : segments.length using Nat.strong_induction_on generalizing segments read with
  | _ n ih =>
  cases segments with
  | nil =>
    cases h
    exact Nat.zero_le _
  | cons text rest =>
    obtain ⟨added, others, rfl, hadded⟩ := readPorcelain_cons h
    have hlen : (rest.length + 1) = n := hn
    rw [List.flatMap_cons, List.length_append]
    unfold filled at ih ⊢
    rw [List.countP_cons]
    rcases hadded with ⟨rfl, hothers⟩ | ⟨path, hpath, hadded⟩
    · have := ih rest.length (by omega) hothers rfl
      simp only [List.length_nil]
      omega
    · have htext : (!text.isEmpty) = true := by
        cases text with
        | nil => exact absurd hpath (Nat.not_lt_zero _)
        | cons c rest => rfl
      rw [if_pos htext]
      rcases hadded with ⟨rfl, hothers⟩ | ⟨nextPath, following, rfl, hothers, rfl⟩
      · have := ih rest.length (by omega) hothers rfl
        simp only [List.length_singleton]
        omega
      · have := ih following.length (by simp only [List.length_cons] at hlen; omega) hothers rfl
        rw [List.countP_cons]
        by_cases hnext : nextPath = []
        · simp only [hnext, if_pos, List.length_singleton]
          omega
        · have hfilled : (!nextPath.isEmpty) = true := by simp [hnext]
          rw [if_neg hnext, if_pos hfilled]
          simp only [List.length_cons, List.length_nil]
          omega

theorem filled_fields (entries : List StatusEntry) :
    filled (entries.flatMap StatusEntry.fields ++ [[]]) =
      (entries.flatMap StatusEntry.paths).length := by
  have hall : ∀ field ∈ entries.flatMap StatusEntry.fields, (!field.isEmpty) = true := by
    intro field hfield
    obtain ⟨entry, -, hmem⟩ := List.mem_flatMap.mp hfield
    simp [(entry.field_ok hmem).2]
  unfold filled
  rw [List.countP_append, List.countP_eq_length.mpr hall]
  induction entries with
  | nil => rfl
  | cons entry rest ih =>
    have hrest := ih fun field hfield => hall field (List.mem_append_right _ hfield)
    simp only [List.flatMap_cons, List.length_append, List.countP_singleton] at hrest ⊢
    have hentry : entry.fields.length = entry.paths.length := by
      unfold StatusEntry.fields StatusEntry.paths
      cases entry.origin <;> rfl
    simp at hrest ⊢
    omega

/-- **An origin that is taken for an entry is not read as the path that it is.** -/
theorem readPorcelain_origin {origin : String} {paths : List String} {read}
    (hfilled : filled segments = paths.length)
    (h : readPorcelain (origin.toList :: segments) = some read) :
    read.flatMap Prod.snd ≠ origin :: paths := by
  intro heq
  obtain ⟨added, others, rfl, hadded⟩ := readPorcelain_cons h
  rw [List.flatMap_cons] at heq
  rcases hadded with ⟨rfl, hothers⟩ | ⟨path, hpath, hadded⟩
  · have hle := length_of_readPorcelain hothers
    have hlength := congrArg List.length heq
    simp only [List.nil_append, List.length_cons] at hlength
    omega
  · have hhead : path = origin := by
      rcases hadded with ⟨rfl, -⟩ | ⟨nextPath, following, -, -, rfl⟩
      · exact (List.cons.inj heq).1
      · exact (List.cons.inj heq).1
    rw [hhead] at hpath
    exact absurd hpath (Nat.lt_irrefl _)

end Listing

/-- **When a listing is read as it was written: where every entry that was moved says so in its
index column.** -/
theorem parsePorcelainZ_iff (entries : List StatusEntry) :
    ReadAsListed entries ↔ ∀ entry ∈ entries, entry.MovedInIndex := by
  constructor
  · rintro ⟨hparse, -⟩
    unfold parsePorcelainZ at hparse
    rw [splitOn_porcelainZ] at hparse
    obtain ⟨read, hread, hpaths⟩ := Option.map_eq_some_iff.mp hparse
    clear hparse
    induction entries generalizing read with
    | nil => exact fun entry hentry => absurd hentry List.not_mem_nil
    | cons entry rest ih =>
      rw [List.flatMap_cons, List.append_assoc] at hread
      by_cases hmoved : entry.MovedInIndex
      · rw [readPorcelain_entry hmoved] at hread
        obtain ⟨others, hothers, rfl⟩ := Option.map_eq_some_iff.mp hread
        have hrest := ih others hothers (List.append_cancel_left hpaths)
        intro other hother
        rcases List.mem_cons.mp hother with rfl | hother
        · exact hmoved
        · exact hrest other hother
      · obtain ⟨hworktree, hindex⟩ := Classical.not_imp.mp hmoved
        have hsome : entry.origin.isSome = true := by
          rw [entry.origin_iff, hworktree, Bool.or_true]
        obtain ⟨origin, horigin⟩ := Option.isSome_iff_exists.mp hsome
        have hfields : entry.fields = [entry.line, origin.text.toList] := by
          unfold StatusEntry.fields
          rw [horigin]
          rfl
        have hnames : entry.paths = [entry.path.text, origin.text] := by
          unfold StatusEntry.paths
          rw [horigin]
          rfl
        rw [hfields, List.cons_append, List.singleton_append,
          readPorcelain_unmoved entry (Bool.not_eq_true _ ▸ hindex)] at hread
        obtain ⟨others, hothers, rfl⟩ := Option.map_eq_some_iff.mp hread
        rw [List.flatMap_cons, List.flatMap_cons, hnames] at hpaths
        exact absurd (List.cons.inj hpaths).2
          (readPorcelain_origin (filled_fields rest) hothers)
  · intro h
    have hread : readPorcelain ((porcelainZ entries).toList.splitOn '\x00') =
        some (entries.map (fun entry => (entry.line, entry.paths)) ++ [([], [])]) := by
      rw [splitOn_porcelainZ, readPorcelain_entries h]
      rfl
    constructor
    · unfold parsePorcelainZ
      rw [hread, Option.map_some, List.flatMap_append, List.flatMap_map]
      simp
    · rw [hread, Option.map_some, List.map_append, List.map_map]
      rfl

/-! ### A file that was moved without being staged -/

/-- `git add -N new.rs`, after `original.rs` was moved there. -/
def movedInWorktree : StatusEntry where
  index := .unmodified
  worktree := .renamed
  path := ⟨"new.rs", by decide, by decide⟩
  origin := some ⟨"original.rs", by decide, by decide⟩
  origin_iff := rfl

/-- **The path that the file comes from is taken for an entry**, and a path is read that there is
not. -/
theorem origin_read_as_entry :
    parsePorcelainZ (porcelainZ [movedInWorktree]) = some ["new.rs", "ginal.rs"] ∧
      ¬ ReadAsListed [movedInWorktree] := by
  have hread : parsePorcelainZ (porcelainZ [movedInWorktree]) = some ["new.rs", "ginal.rs"] := by
    decide +kernel
  refine ⟨hread, ?_⟩
  rintro ⟨hparse, -⟩
  rw [hread] at hparse
  exact absurd hparse (by decide)

end Luther
