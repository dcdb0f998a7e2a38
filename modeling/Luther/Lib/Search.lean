/-
Searching a list for a pattern, replacing a pattern, and cutting a list into words.

A search stops at the first place where the pattern stands.  A replacement goes on
behind the place, so that what it writes is not searched again; whether a pattern
still stands in what comes out is then a question about its borders with the
replacement, which a finite check answers.
-/
import Mathlib.Data.List.DropRight
import Mathlib.Data.List.Infix

namespace Search

variable {α : Type*}

/-! ### The first place of a pattern -/

section Find

variable [DecidableEq α]

/-- What stands before and behind the first place of a pattern. -/
def splitFirst (pattern : List α) : List α → Option (List α × List α)
  | [] => if pattern = [] then some ([], []) else none
  | c :: text =>
    if pattern <+: c :: text then some ([], (c :: text).drop pattern.length)
    else (splitFirst pattern text).map fun found => (c :: found.1, found.2)

variable {pattern text before after : List α}

theorem splitFirst_of_prefix (h : pattern <+: text) :
    splitFirst pattern text = some ([], text.drop pattern.length) := by
  cases text with
  | nil => simp [splitFirst, List.prefix_nil.mp h]
  | cons c rest => simp [splitFirst, h]

theorem splitFirst_eq_none :
    splitFirst pattern text = none ↔ ¬ pattern <:+: text := by
  induction text with
  | nil => simp [splitFirst, List.infix_nil]
  | cons c rest ih =>
    rw [List.infix_cons_iff, not_or, ← ih, splitFirst]
    by_cases h : pattern <+: c :: rest
    · simp [h]
    · simp [h]

/-- **A search stops where the pattern stands**, and nowhere before. -/
theorem splitFirst_append (after : List α) (h : ¬ pattern <:+: before ++ pattern.dropLast) :
    splitFirst pattern (before ++ pattern ++ after) = some (before, after) := by
  induction before with
  | nil => rw [List.nil_append, splitFirst_of_prefix (List.prefix_append _ _), List.drop_left]
  | cons c rest ih =>
    have hrest : ¬ pattern <:+: rest ++ pattern.dropLast := fun hc =>
      h (hc.trans (List.suffix_cons _ _).isInfix)
    have hhere : ¬ pattern <+: c :: (rest ++ pattern ++ after) := by
      intro hc
      refine h (List.IsPrefix.isInfix ?_)
      have hdrop : c :: rest ++ pattern.dropLast <+: c :: (rest ++ pattern ++ after) := by
        rw [List.cons_append, List.cons_prefix_cons, List.append_assoc]
        exact ⟨rfl, (List.prefix_append_right_inj _).mpr
          ((List.dropLast_prefix _).trans (List.prefix_append _ _))⟩
      refine List.prefix_of_prefix_length_le hc hdrop ?_
      simp
      omega
    rw [List.cons_append, List.cons_append, splitFirst, if_neg hhere, ih hrest, Option.map_some]

theorem splitFirst_eq (h : splitFirst pattern text = some (before, after)) :
    text = before ++ pattern ++ after := by
  induction text generalizing before with
  | nil =>
    by_cases hp : pattern = []
    · simp only [splitFirst, if_pos hp, Option.some.injEq, Prod.mk.injEq] at h
      obtain ⟨rfl, rfl⟩ := h
      simp [hp]
    · simp [splitFirst, hp] at h
  | cons c rest ih =>
    rw [splitFirst] at h
    by_cases hp : pattern <+: c :: rest
    · rw [if_pos hp, Option.some.injEq, Prod.mk.injEq] at h
      obtain ⟨rfl, rfl⟩ := h
      rw [List.nil_append]
      exact (List.prefix_iff_eq_append.mp hp).symm
    · rw [if_neg hp, Option.map_eq_some_iff] at h
      obtain ⟨⟨b, a⟩, hfound, heq⟩ := h
      obtain ⟨rfl, rfl⟩ := Prod.mk.inj heq
      rw [ih hfound]
      rfl

theorem splitFirst_first (hne : pattern ≠ []) (h : splitFirst pattern text = some (before, after)) :
    ¬ pattern <:+: before ++ pattern.dropLast := by
  induction text generalizing before with
  | nil => simp [splitFirst, hne] at h
  | cons c rest ih =>
    rw [splitFirst] at h
    by_cases hp : pattern <+: c :: rest
    · rw [if_pos hp, Option.some.injEq, Prod.mk.injEq] at h
      obtain ⟨rfl, -⟩ := h
      intro hin
      have hle := hin.length_le
      have hpos := List.length_pos_iff.mpr hne
      rw [List.nil_append, List.length_dropLast] at hle
      omega
    · rw [if_neg hp, Option.map_eq_some_iff] at h
      obtain ⟨⟨b, a⟩, hfound, heq⟩ := h
      obtain ⟨rfl, rfl⟩ := Prod.mk.inj heq
      dsimp only
      rw [List.cons_append, List.infix_cons_iff]
      rintro (hin | hin)
      · refine hp (hin.trans ?_)
        rw [splitFirst_eq hfound, List.cons_prefix_cons, List.append_assoc]
        exact ⟨rfl, (List.prefix_append_right_inj _).mpr
          ((List.dropLast_prefix _).trans (List.prefix_append _ _))⟩
      · exact ih hfound hin

theorem notMem_of_splitFirst {c : α} (h : splitFirst [c] text = none) :
    c ∉ text := fun hc =>
  splitFirst_eq_none.mp h ((List.singleton_infix_iff c text).mpr hc)

theorem splitFirst_singleton {c : α} (h : splitFirst [c] text = some (before, after)) :
    c ∉ before ∧ text = before ++ c :: after := by
  refine ⟨fun hc => ?_, ?_⟩
  · refine splitFirst_first (List.cons_ne_nil c []) h ?_
    rw [List.dropLast_singleton, List.append_nil]
    exact (List.singleton_infix_iff c before).mpr hc
  · rw [splitFirst_eq h, List.append_assoc]
    rfl

end Find

/-! ### Where a pattern can stand -/

variable {after before pattern : List α} {sep : α}

theorem prefix_of_prefix_append_cons (hsep : sep ∉ pattern) (h : pattern <+: before ++ sep :: after)
    : pattern <+: before := by
  rcases Nat.lt_or_ge before.length pattern.length with hlt | hle
  · have hcut : before ++ [sep] <+: before ++ sep :: after :=
      (List.prefix_append_right_inj _).mpr (List.cons_prefix_cons.mpr ⟨rfl, List.nil_prefix⟩)
    have hlong : before ++ [sep] <+: pattern := by
      refine List.prefix_of_prefix_length_le hcut h ?_
      rw [List.length_append, List.length_singleton]
      omega
    exact absurd (hlong.subset (by simp)) hsep
  · exact List.prefix_of_prefix_length_le h (List.prefix_append _ _) hle

/-- **A pattern does not stand across an element that it lacks.** -/
theorem infix_append_cons_iff (hsep : sep ∉ pattern) :
    pattern <:+: before ++ sep :: after ↔ pattern <:+: before ∨ pattern <:+: after := by
  constructor
  · intro h
    rcases List.infix_append_iff_ne_nil.mp h with h | h | ⟨left, right, -, hne, rfl, -, hright⟩
    · exact Or.inl h
    · rcases List.infix_cons_iff.mp h with h | h
      · cases pattern with
        | nil => exact Or.inl (List.nil_infix)
        | cons p rest =>
          have hp := (List.cons_prefix_cons.mp h).1
          exact absurd (hp ▸ List.mem_cons_self) hsep
      · exact Or.inr h
    · obtain ⟨p, rest, rfl⟩ := List.exists_cons_of_ne_nil hne
      have hp := (List.cons_prefix_cons.mp hright).1
      exact absurd (by simp [hp]) hsep
  · rintro (h | h)
    · exact h.trans (List.prefix_append _ _).isInfix
    · exact h.trans ((List.suffix_cons _ _).trans (List.suffix_append _ _)).isInfix

theorem infix_cons_iff_of_notMem (hsep : sep ∉ pattern) (hne : pattern ≠ []) :
    pattern <:+: sep :: after ↔ pattern <:+: after := by
  have h : pattern <:+: [] ++ sep :: after ↔ _ := infix_append_cons_iff hsep
  rwa [List.nil_append, List.infix_nil, or_iff_right hne] at h

/-- **A search skips what ends in an element that the pattern lacks**, if the pattern does not
stand in it. -/
theorem splitFirst_skip [DecidableEq α] (hne : pattern ≠ []) (hsep : sep ∉ pattern)
    (h : ¬ pattern <:+: before) (after : List α) :
    splitFirst pattern (before ++ sep :: after)
      = (splitFirst pattern after).map fun found => (before ++ sep :: found.1, found.2) := by
  induction before with
  | nil =>
    have hhere : ¬ pattern <+: [] ++ sep :: after := fun hc =>
      hne (List.prefix_nil.mp (prefix_of_prefix_append_cons hsep hc))
    rw [List.nil_append] at hhere ⊢
    rw [splitFirst, if_neg hhere]
    rfl
  | cons c rest ih =>
    have hhere : ¬ pattern <+: c :: rest ++ sep :: after := fun hc =>
      h (prefix_of_prefix_append_cons hsep hc).isInfix
    have hrest : ¬ pattern <:+: rest := fun hc => h (hc.trans (List.suffix_cons _ _).isInfix)
    rw [List.cons_append] at hhere ⊢
    rw [splitFirst, if_neg hhere, ih hrest, Option.map_map]
    rfl

/-! ### Replacing a pattern -/

section Replace

variable [DecidableEq α]

/-- A text with a pattern replaced, behind the elements that belong to a place already found. -/
def replaceFrom (pattern replacement : List α) : Nat → List α → List α
  | _, [] => []
  | skip + 1, _ :: text => replaceFrom pattern replacement skip text
  | 0, c :: text =>
    if pattern <+: c :: text then
      replacement ++ replaceFrom pattern replacement (pattern.length - 1) text
    else c :: replaceFrom pattern replacement 0 text

/-- A text with every place of a pattern replaced, from the left. -/
def replace (pattern replacement text : List α) : List α := replaceFrom pattern replacement 0 text

theorem replaceFrom_eq_drop (pattern replacement : List α) (skip : Nat) (text : List α) :
    replaceFrom pattern replacement skip text = replace pattern replacement (text.drop skip) := by
  induction text generalizing skip with
  | nil => cases skip <;> rfl
  | cons c rest ih =>
    cases skip with
    | zero => rfl
    | succ skip =>
      rw [List.drop_succ_cons, ← ih]
      rfl

variable {pattern replacement text : List α}

theorem replace_found (hne : pattern ≠ []) (h : pattern <+: text) :
    replace pattern replacement text
      = replacement ++ replace pattern replacement (text.drop pattern.length) := by
  obtain ⟨p, ps, rfl⟩ := List.exists_cons_of_ne_nil hne
  cases text with
  | nil => simp at h
  | cons c rest =>
    unfold replace
    rw [replaceFrom, if_pos h, replaceFrom_eq_drop]
    rfl

theorem replace_cons {c : α} (h : ¬ pattern <+: c :: text) :
    replace pattern replacement (c :: text) = c :: replace pattern replacement text := by
  unfold replace
  rw [replaceFrom, if_neg h]

/-- A replacement behaves, to `word`, as what it replaces: the word neither stands in it, nor
starts in it and goes on behind, and where it ends in it, it could have ended in the pattern. -/
structure Harmless (pattern replacement word : List α) : Prop where
  length_le : word.length ≤ replacement.length
  inside : ¬ word <:+: replacement
  opening : ∀ part ∈ word.inits, part ≠ [] → ¬ part <:+ replacement
  closing : ∀ part ∈ word.tails, part ≠ word → part <+: replacement → part <+: pattern

theorem prefix_of_prefix_replace {word : List α} (hne : pattern ≠ [])
    (hw : Harmless pattern replacement word) {part : List α} (hpart : part <:+ word)
    (hproper : part ≠ word) (h : part <+: replace pattern replacement text) : part <+: text := by
  induction part generalizing text with
  | nil => exact List.nil_prefix
  | cons p rest ih =>
    by_cases hfound : pattern <+: text
    · rw [replace_found hne hfound] at h
      have hlen : (p :: rest).length ≤ replacement.length := hpart.length_le.trans hw.length_le
      have hinside : p :: rest <+: replacement :=
        List.prefix_of_prefix_length_le h (List.prefix_append _ _) hlen
      exact (hw.closing _ ((List.mem_tails _ _).mpr hpart) hproper hinside).trans hfound
    · cases text with
      | nil => simp [replace, replaceFrom] at h
      | cons c text =>
        rw [replace_cons hfound, List.cons_prefix_cons] at h
        have hrest : rest <:+ word := (List.suffix_cons p rest).trans hpart
        have hshort : rest ≠ word := by
          rintro rfl
          exact absurd hpart.length_le (by simp)
        exact List.cons_prefix_cons.mpr ⟨h.1, ih hrest hshort h.2⟩

/-- **A replacement that is harmless to a word does not make it appear**: it stands in the
result only if it stood in the text, at a place where the pattern did not. -/
theorem not_infix_replace {word : List α} (hne : pattern ≠ []) (hword : word ≠ [])
    (hw : Harmless pattern replacement word)
    (h : ∀ rest, rest <:+ text → word <+: rest → pattern <+: rest) :
    ¬ word <:+: replace pattern replacement text := by
  induction hn : text.length using Nat.strong_induction_on generalizing text with
  | _ n ih =>
    by_cases hfound : pattern <+: text
    · have hpos : 0 < pattern.length := List.length_pos_iff.mpr hne
      have hle := hfound.length_le
      have hrest : ¬ word <:+: replace pattern replacement (text.drop pattern.length) := by
        refine ih _ ?_ (fun rest hs => h rest (hs.trans (List.drop_suffix _ _))) rfl
        rw [List.length_drop]
        omega
      rw [replace_found hne hfound, List.infix_append_iff_ne_nil]
      rintro (hin | hin | ⟨left, right, hleft, -, hsplit, hend, -⟩)
      · exact hw.inside hin
      · exact hrest hin
      · have hinit : left ∈ word.inits := (List.mem_inits _ _).mpr ⟨right, hsplit.symm⟩
        exact hw.opening _ hinit hleft hend
    · cases text with
      | nil =>
        intro hin
        exact hword (List.infix_nil.mp hin)
      | cons c text =>
        rw [replace_cons hfound, List.infix_cons_iff]
        rintro (hin | hin)
        · obtain ⟨w, ws, rfl⟩ := List.exists_cons_of_ne_nil hword
          obtain ⟨hc, hws⟩ := List.cons_prefix_cons.mp hin
          have hpart : ws <+: text :=
            prefix_of_prefix_replace hne hw (List.suffix_cons w ws) (by simp) hws
          refine hfound (h _ (List.suffix_refl _) ?_)
          exact List.cons_prefix_cons.mpr ⟨hc, hpart⟩
        · refine ih text.length ?_ (fun rest hs => h rest (hs.trans (List.suffix_cons _ _)))
            rfl hin
          rw [← hn]
          exact Nat.lt_succ_self _

theorem replace_append_of_apart
    (h : ∀ front back, before ++ after = front ++ pattern ++ back → before.length ≤ front.length) :
    replace pattern replacement (before ++ after) =
      before ++ replace pattern replacement after := by
  induction before with
  | nil => rfl
  | cons c before ih =>
    have hhere : ¬ pattern <+: c :: (before ++ after) := by
      intro ⟨back, hback⟩
      have hle := h [] back hback.symm
      rw [List.length_cons, List.length_nil] at hle
      omega
    rw [List.cons_append, replace_cons hhere, ih]
    · rfl
    · intro front back hsplit
      have hle := h (c :: front) back (by rw [List.cons_append, hsplit]; rfl)
      rw [List.length_cons, List.length_cons] at hle
      omega

/-- **A replacement fills the holes of a text**, where the pattern stands in the holes only. -/
theorem replace_flatMap {β : Type*} (hne : pattern ≠ []) {parts : List β} {text : β → List α}
    (hole : β → Prop) [DecidablePred hole] (hhole : ∀ b ∈ parts, hole b → text b = pattern)
    (hown : ∀ front back, parts.flatMap text = front ++ pattern ++ back →
      ∃ left b right, parts = left ++ b :: right ∧ hole b ∧ left.flatMap text = front) :
    replace pattern replacement (parts.flatMap text) =
      parts.flatMap fun b => if hole b then replacement else text b := by
  induction parts with
  | nil => rfl
  | cons b parts ih =>
    rw [List.forall_mem_cons] at hhole
    -- The first part has no share in a place that is found behind it.
    have hlater : ∀ front back, parts.flatMap text = front ++ pattern ++ back →
        (∃ right, b :: parts = b :: right ∧ hole b ∧ [] = text b ++ front) ∨
        ∃ left b right, parts = left ++ b :: right ∧ hole b ∧ left.flatMap text = front := by
      intro front back hsplit
      obtain ⟨left, other, right, hparts, hother, hfront⟩ := hown (text b ++ front) back (by
        rw [List.flatMap_cons, hsplit]
        simp)
      cases left with
      | nil =>
        obtain ⟨rfl, -⟩ := List.cons.inj hparts
        exact Or.inl ⟨_, rfl, hother, hfront⟩
      | cons first left =>
        obtain ⟨rfl, rfl⟩ := List.cons.inj hparts
        rw [List.flatMap_cons] at hfront
        exact Or.inr ⟨left, other, right, rfl, hother, List.append_cancel_left hfront⟩
    have hrest : ∀ front back, parts.flatMap text = front ++ pattern ++ back →
        ∃ left b right, parts = left ++ b :: right ∧ hole b ∧ left.flatMap text = front := by
      intro front back hsplit
      rcases hlater front back hsplit with ⟨-, -, hb, hempty⟩ | hfound
      · refine absurd ?_ hne
        rw [← hhole.1 hb]
        exact (List.append_eq_nil_iff.mp hempty.symm).1
      · exact hfound
    rw [List.flatMap_cons, List.flatMap_cons]
    by_cases hb : hole b
    · rw [if_pos hb, hhole.1 hb, replace_found hne (List.prefix_append _ _), List.drop_left,
        ih hhole.2 hrest]
    · rw [if_neg hb, replace_append_of_apart, ih hhole.2 hrest]
      intro front back hsplit
      obtain ⟨left, other, right, hparts, hother, hfront⟩ := hown front back hsplit
      cases left with
      | nil =>
        obtain ⟨rfl, -⟩ := List.cons.inj hparts
        exact absurd hother hb
      | cons first left =>
        obtain ⟨rfl, -⟩ := List.cons.inj hparts
        rw [← hfront, List.flatMap_cons, List.length_append]
        exact Nat.le_add_right _ _

end Replace

/-! ### Words -/

section Words

variable {p : α → Bool}

/-- The words of a text, whose elements are not blanks. -/
def words (blank : α → Bool) (text : List α) : List (List α) :=
  (text.splitOnP blank).filter fun word => !word.isEmpty

variable {text word : List α} {c : α}

theorem notBlank_of_mem_splitOnP {piece : List α} (h : piece ∈ text.splitOnP p) :
    ∀ c ∈ piece, p c = false := by
  induction text generalizing piece with
  | nil =>
    rw [List.splitOnP_nil, List.mem_singleton] at h
    simp [h]
  | cons c rest ih =>
    rw [List.splitOnP_cons_eq_if_modifyHead] at h
    by_cases hc : p c = true
    · rw [if_pos hc, List.mem_cons] at h
      rcases h with rfl | h
      · simp
      · exact ih h
    · rw [if_neg hc] at h
      cases hs : rest.splitOnP p with
      | nil => exact absurd hs (List.splitOnP_ne_nil _ _)
      | cons first others =>
        rw [hs, List.modifyHead_cons, List.mem_cons] at h
        rcases h with rfl | h
        · intro x hx
          rcases List.mem_cons.mp hx with rfl | hx
          · exact Bool.eq_false_iff.mpr hc
          · exact ih (by simp [hs]) x hx
        · exact ih (by simp [hs, h])

theorem length_words_le_one (h : ∀ c ∈ text, p c = false) :
    (words p text).length ≤ 1 := by
  unfold words
  rw [List.splitOnP_eq_singleton h]
  exact List.length_filter_le _ _

/-- **Words have no blanks.** -/
theorem notBlank_of_mem_words (h : word ∈ words p text) :
    ∀ c ∈ word, p c = false :=
  notBlank_of_mem_splitOnP (List.mem_of_mem_filter h)

theorem words_nil : words p [] = [] := by simp [words]

theorem words_blank_cons (hc : p c) (text : List α) : words p (c :: text) = words p text := by
  unfold words
  rw [List.splitOnP_cons_eq_if_modifyHead, if_pos hc]
  rfl

theorem words_word (hne : word ≠ []) (h : ∀ c ∈ word, p c = false) :
    words p word = [word] := by
  unfold words
  rw [List.splitOnP_eq_singleton h]
  simp [hne]

/-- **The first word ends at the first blank.** -/
theorem words_word_append (hne : word ≠ []) (h : ∀ c ∈ word, p c = false) (hc : p c)
    (text : List α) : words p (word ++ c :: text) = word :: words p text := by
  unfold words
  rw [List.splitOnP_append_cons_of_forall_mem h c hc]
  simp [hne]

theorem words_append_blank (text : List α) (hc : p c) : words p (text ++ [c]) = words p text := by
  unfold words
  rw [List.splitOnP_append_cons text [] hc, List.splitOnP_nil]
  simp

theorem words_dropWhile (text : List α) : words p (text.dropWhile p) = words p text := by
  induction text with
  | nil => rfl
  | cons c rest ih =>
    by_cases hc : p c = true
    · rw [List.dropWhile_cons_of_pos hc, ih, words_blank_cons hc]
    · rw [List.dropWhile_cons_of_neg hc]

theorem words_rdropWhile (text : List α) : words p (text.rdropWhile p) = words p text := by
  induction text using List.reverseRecOn with
  | nil => rfl
  | append_singleton rest c ih =>
    by_cases hc : p c = true
    · rw [List.rdropWhile_concat_pos _ _ _ hc, ih, words_append_blank _ hc]
    · rw [List.rdropWhile_concat_neg _ _ _ hc]

/-- **Blanks at the ends make no words.** -/
theorem words_trim (text : List α) :
    words p ((text.dropWhile p).rdropWhile p) = words p text := by
  rw [words_rdropWhile, words_dropWhile]

theorem rdropWhile_append_of_last (hc : p c = false) (rest : List α) :
    (text ++ [c] ++ rest).rdropWhile p = text ++ [c] ++ rest.rdropWhile p := by
  induction rest using List.reverseRecOn with
  | nil =>
    rw [List.append_nil, List.rdropWhile_concat_neg _ _ _ (by simp [hc]), List.rdropWhile_nil,
      List.append_nil]
  | append_singleton rest d ih =>
    rw [← List.append_assoc]
    by_cases hd : p d = true
    · rw [List.rdropWhile_concat_pos _ _ _ hd, List.rdropWhile_concat_pos _ _ _ hd, ih]
    · rw [List.rdropWhile_concat_neg _ _ _ hd, List.rdropWhile_concat_neg _ _ _ hd,
        List.append_assoc]

end Words

end Search
