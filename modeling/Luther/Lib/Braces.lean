/-
Texts with braces in them, read from the left.

Outside a group an opening brace begins one, and the next closing brace ends it: what stands
between the two is the group, further opening braces included.  A name in braces of its own is
found as a group unless an opening brace before it has begun a group already; in a text whose
groups hold no opening brace there is none such.
-/
import Luther.Lib.Search

namespace Braces

def braced (name : List Char) : List Char := '{' :: name ++ ['}']

/-- The groups of a text, from inside a group or from outside. -/
def groupsFrom : Option (List Char) → List Char → List (List Char)
  | _, [] => []
  | none, c :: rest => if c = '{' then groupsFrom (some []) rest else groupsFrom none rest
  | some group, c :: rest =>
    if c = '}' then group :: groupsFrom none rest else groupsFrom (some (group ++ [c])) rest

def groups (text : List Char) : List (List Char) := groupsFrom none text

@[simp] theorem groups_nil : groups [] = [] := rfl

theorem groups_skip {c : Char} (h : c ≠ '{') (rest : List Char) :
    groups (c :: rest) = groups rest := by
  unfold groups
  rw [groupsFrom, if_neg h]

theorem groups_append_skip {before : List Char} (h : '{' ∉ before) (rest : List Char) :
    groups (before ++ rest) = groups rest := by
  induction before with
  | nil => rfl
  | cons c before ih =>
    rw [List.mem_cons, not_or] at h
    rw [List.cons_append, groups_skip (Ne.symm h.1), ih h.2]

theorem groupsFrom_inside (group : List Char) {name : List Char} (h : '}' ∉ name)
    (rest : List Char) :
    groupsFrom (some group) (name ++ rest) = groupsFrom (some (group ++ name)) rest := by
  induction name generalizing group with
  | nil => rw [List.nil_append, List.append_nil]
  | cons c name ih =>
    rw [List.mem_cons, not_or] at h
    rw [List.cons_append, groupsFrom, if_neg (Ne.symm h.1), ih _ h.2, List.append_assoc]
    rfl

theorem groups_open {name : List Char} (h : '}' ∉ name) (after : List Char) :
    groups ('{' :: name ++ '}' :: after) = name :: groups after := by
  unfold groups
  rw [List.cons_append, groupsFrom, if_pos rfl, groupsFrom_inside [] h, List.nil_append,
    groupsFrom, if_pos rfl]

theorem groups_of_no_close {text : List Char} (h : '}' ∉ text) : groups text = [] := by
  induction text with
  | nil => rfl
  | cons c rest ih =>
    rw [List.mem_cons, not_or] at h
    by_cases hc : c = '{'
    · subst hc
      have hinside := groupsFrom_inside [] h.2 []
      rw [List.append_nil] at hinside
      unfold groups
      rw [groupsFrom, if_pos rfl, hinside]
      rfl
    · rw [groups_skip hc, ih h.2]

/-! ### Names in braces -/

theorem infix_append_iff_of_head {c : Char} {word before : List Char} (h : c ∉ before)
    (after : List Char) : c :: word <:+: before ++ after ↔ c :: word <:+: after := by
  induction before with
  | nil => rfl
  | cons d before ih =>
    rw [List.mem_cons, not_or] at h
    rw [List.cons_append, List.infix_cons_iff, ih h.2, or_iff_right]
    intro hhere
    exact h.1 (List.cons_prefix_cons.mp hhere).1

theorem eq_of_closed {name other : List Char} (hname : '}' ∉ name) (hother : '}' ∉ other)
    {after : List Char} (h : name ++ ['}'] <+: other ++ '}' :: after) : name = other := by
  induction name generalizing other with
  | nil =>
    cases other with
    | nil => rfl
    | cons d other =>
      have hhead : '}' = d := (List.cons_prefix_cons.mp h).1
      exact absurd (hhead ▸ List.mem_cons_self) hother
  | cons c name ih =>
    rw [List.mem_cons, not_or] at hname
    cases other with
    | nil => exact absurd (List.cons_prefix_cons.mp h).1.symm hname.1
    | cons d other =>
      rw [List.mem_cons, not_or] at hother
      obtain ⟨rfl, hrest⟩ := List.cons_prefix_cons.mp h
      rw [ih hname.2 hother.2 hrest]

theorem braced_ne_nil (name : List Char) : braced name ≠ [] := List.cons_ne_nil _ _

theorem braced_append_inj {name other rest after : List Char} (hname : '}' ∉ name)
    (hother : '}' ∉ other) (h : braced name ++ rest = braced other ++ after) :
    name = other ∧ rest = after := by
  have hsplit : name ++ ['}'] ++ rest = other ++ '}' :: after := by
    simpa [braced] using h
  obtain rfl := eq_of_closed hname hother ⟨rest, hsplit⟩
  exact ⟨rfl, List.append_cancel_left h⟩

theorem mem_braced_close (name : List Char) : '}' ∈ braced name := by
  simp [braced]

theorem infix_of_mem_groups {text group : List Char} (h : group ∈ groups text) :
    braced group <:+: text := by
  induction hn : text.length using Nat.strong_induction_on generalizing text with
  | _ n ih =>
    cases text with
    | nil => simp at h
    | cons c rest =>
      rw [List.length_cons] at hn
      by_cases hc : c = '{'
      · subst hc
        cases hclose : Search.splitFirst ['}'] rest with
        | none =>
          have hno : '}' ∉ '{' :: rest := by
            simpa using Search.notMem_of_splitFirst hclose
          rw [groups_of_no_close hno] at h
          simp at h
        | some found =>
          obtain ⟨name, after⟩ := found
          obtain ⟨hname, rfl⟩ := Search.splitFirst_singleton hclose
          rw [← List.cons_append, groups_open hname] at h
          rcases List.mem_cons.mp h with rfl | hrest
          · exact ⟨[], after, by simp [braced]⟩
          · have hafter : braced group <:+: after := by
              refine ih after.length ?_ hrest rfl
              rw [List.length_append, List.length_cons] at hn
              omega
            refine hafter.trans (List.IsSuffix.isInfix ?_)
            exact ⟨'{' :: name ++ ['}'], by simp⟩
      · rw [groups_skip hc] at h
        exact (ih rest.length (by omega) h rfl).trans (List.suffix_cons _ _).isInfix

/-! ### Texts whose braces all belong to names -/

/-- The only braces of the text are those of names that meet a condition. -/
inductive Tokened (p : List Char → Prop) : List Char → Prop
  | nil : Tokened p []
  | plain {c : Char} {rest : List Char} (hopen : c ≠ '{') (hclose : c ≠ '}')
      (hrest : Tokened p rest) : Tokened p (c :: rest)
  | token {name rest : List Char} (hname : p name) (hrest : Tokened p rest) :
      Tokened p ('{' :: name ++ '}' :: rest)

/-- **The groups of such a text are its names.** -/
theorem Tokened.groups_forall {p : List Char → Prop} (hp : ∀ name, p name → '}' ∉ name)
    {text : List Char} (h : Tokened p text) : ∀ group ∈ groups text, p group := by
  induction h with
  | nil => simp
  | plain hopen hclose hrest ih => rwa [groups_skip hopen]
  | token hname hrest ih =>
    rw [groups_open (hp _ hname)]
    intro group hgroup
    rcases List.mem_cons.mp hgroup with rfl | hlater
    · exact hname
    · exact ih group hlater

theorem Tokened.closed {p : List Char → Prop} (hp : ∀ name, p name → '}' ∉ name)
    {text : List Char} (h : Tokened p text) (hgroups : groups text = []) : '{' ∉ text := by
  induction h with
  | nil => simp
  | plain hopen hclose hrest ih =>
    rw [groups_skip hopen] at hgroups
    rw [List.mem_cons, not_or]
    exact ⟨Ne.symm hopen, ih hgroups⟩
  | token hname hrest ih =>
    rw [groups_open (hp _ hname)] at hgroups
    cases hgroups

/-! ### Texts taken apart

A text whose opening braces are all closed before the next one opens is a sequence of groups and
of characters outside of them.  Putting a text of this kind for a name keeps it one.
-/

/-- A group, or a character that belongs to none. -/
inductive Piece where
  | plain (c : Char)
  | group (name : List Char)
  deriving DecidableEq

namespace Piece

def text : Piece → List Char
  | plain c => [c]
  | group name => braced name

/-- A piece with no brace that could open or end another group. -/
def Clean : Piece → Prop
  | plain c => c ≠ '{'
  | group name => '{' ∉ name ∧ '}' ∉ name

end Piece

def spell (pieces : List Piece) : List Char := pieces.flatMap Piece.text

@[simp] theorem spell_nil : spell [] = [] := rfl

theorem spell_append (left right : List Piece) : spell (left ++ right) = spell left ++ spell right :=
  List.flatMap_append

theorem spell_plain (c : Char) (pieces : List Piece) :
    spell (.plain c :: pieces) = c :: spell pieces := rfl

theorem spell_group (name : List Char) (pieces : List Piece) :
    spell (.group name :: pieces) = '{' :: name ++ '}' :: spell pieces := by
  show braced name ++ spell pieces = _
  simp [braced]

theorem spell_map_plain (text : List Char) : spell (text.map .plain) = text := by
  induction text with
  | nil => rfl
  | cons c text ih => rw [List.map_cons, spell_plain, ih]

theorem clean_map_plain {text : List Char} (h : '{' ∉ text) :
    ∀ piece ∈ text.map Piece.plain, piece.Clean := by
  intro piece hpiece
  obtain ⟨c, hc, rfl⟩ := List.mem_map.mp hpiece
  intro hopen
  exact h (hopen ▸ hc)

section Spelled

variable {pieces : List Piece} {tail name : List Char}

section

variable (hclean : ∀ piece ∈ pieces, piece.Clean)

include hclean

theorem mem_groups_spell (htail : '}' ∉ tail) :
    name ∈ groups (spell pieces ++ tail) ↔ Piece.group name ∈ pieces := by
  induction pieces with
  | nil => simp [groups_of_no_close htail]
  | cons piece pieces ih =>
    rw [List.forall_mem_cons] at hclean
    cases piece with
    | plain c =>
      rw [spell_plain, List.cons_append, groups_skip hclean.1, ih hclean.2]
      simp
    | group other =>
      have htext : spell (.group other :: pieces) ++ tail =
          '{' :: other ++ '}' :: (spell pieces ++ tail) := by
        rw [spell_group]
        simp
      rw [htext, groups_open hclean.1.2, List.mem_cons, ih hclean.2]
      simp

/-- **A name in braces stands in the text only as a group of the sequence.** -/
theorem split_spell (htail : '}' ∉ tail) (hname : '}' ∉ name) {before after : List Char}
    (h : spell pieces ++ tail = before ++ braced name ++ after) :
    ∃ left right, pieces = left ++ .group name :: right ∧ before = spell left ∧
      after = spell right ++ tail := by
  induction pieces generalizing before with
  | nil =>
    refine absurd ?_ htail
    have hmem : '}' ∈ before ++ braced name ++ after := by simp [braced]
    rwa [← h] at hmem
  | cons piece pieces ih =>
    rw [List.forall_mem_cons] at hclean
    cases piece with
    | plain c =>
      rw [spell_plain] at h
      cases before with
      | nil => exact absurd (List.cons.inj h).1 hclean.1
      | cons d before =>
        obtain ⟨rfl, hrest⟩ := List.cons.inj h
        obtain ⟨left, right, rfl, rfl, rfl⟩ := ih hclean.2 hrest
        exact ⟨.plain c :: left, right, rfl, rfl, rfl⟩
    | group other =>
      rw [spell_group] at h
      cases before with
      | nil =>
        have hrest : other ++ '}' :: (spell pieces ++ tail) = name ++ '}' :: after := by
          have hinner := (List.cons.inj h).2
          simpa [braced] using hinner
        obtain rfl : name = other := by
          have hhere : name ++ ['}'] <+: other ++ '}' :: (spell pieces ++ tail) :=
            ⟨after, by rw [hrest]; simp⟩
          exact eq_of_closed hname hclean.1.2 hhere
        have hafter := (List.cons.inj (List.append_cancel_left hrest)).2
        exact ⟨[], pieces, rfl, rfl, hafter.symm⟩
      | cons d before =>
        obtain ⟨rfl, hrest⟩ := List.cons.inj h
        -- The group ends before the name in braces opens.
        have hlong : (other ++ ['}']) ++ (spell pieces ++ tail) =
            before ++ '{' :: (name ++ '}' :: after) := by
          simpa [braced] using hrest
        rcases List.append_eq_append_iff.mp hlong with ⟨part, rfl, hpart⟩ | ⟨part, hcut, hpart⟩
        · have hlater : spell pieces ++ tail = part ++ braced name ++ after := by
            simpa [braced] using hpart
          obtain ⟨left, right, rfl, rfl, rfl⟩ := ih hclean.2 hlater
          refine ⟨.group other :: left, right, rfl, ?_, rfl⟩
          rw [spell_group]
          simp
        · cases part with
          | nil =>
            rw [List.append_nil] at hcut
            subst hcut
            have hlater : spell pieces ++ tail = [] ++ braced name ++ after := by
              simpa [braced] using hpart.symm
            obtain ⟨left, right, rfl, hleft, rfl⟩ := ih hclean.2 hlater
            refine ⟨.group other :: left, right, rfl, ?_, rfl⟩
            rw [spell_group, ← hleft]
            simp
          | cons e part =>
            obtain rfl := (List.cons.inj hpart).1
            have hopen : '{' ∈ other ++ ['}'] := by simp [hcut]
            exact absurd (by simpa using hopen) hclean.1.1

theorem infix_spell_iff (htail : '}' ∉ tail)
    (hname : '}' ∉ name) : braced name <:+: spell pieces ++ tail ↔ Piece.group name ∈ pieces := by
  constructor
  · intro ⟨before, after, h⟩
    obtain ⟨left, right, rfl, -, -⟩ := split_spell hclean htail hname h.symm
    simp
  · intro h
    obtain ⟨left, right, rfl⟩ := List.append_of_mem h
    refine ⟨spell left, spell right ++ tail, ?_⟩
    rw [spell_append, spell_group]
    simp [braced]

theorem spell_inj {other : List Piece}
    (hother : ∀ piece ∈ other, piece.Clean) (h : spell pieces = spell other) : pieces = other := by
  induction pieces generalizing other with
  | nil =>
    cases other with
    | nil => rfl
    | cons piece other => cases piece <;> cases h
  | cons piece pieces ih =>
    rw [List.forall_mem_cons] at hclean
    cases other with
    | nil => cases piece <;> cases h
    | cons piece' other =>
      rw [List.forall_mem_cons] at hother
      cases piece with
      | plain c =>
        rw [spell_plain] at h
        cases piece' with
        | plain d =>
          obtain ⟨rfl, hrest⟩ := List.cons.inj h
          rw [ih hclean.2 hother.2 hrest]
        | group name => exact absurd (List.cons.inj h).1 hclean.1
      | group name =>
        rw [spell_group] at h
        cases piece' with
        | plain d => exact absurd (List.cons.inj h).1.symm hother.1
        | group name' =>
          rw [spell_group] at h
          have hrest : name ++ '}' :: spell pieces = name' ++ '}' :: spell other :=
            (List.cons.inj h).2
          obtain rfl : name = name' := by
            have hhere : name ++ ['}'] <+: name' ++ '}' :: spell other :=
              ⟨spell pieces, by rw [← hrest]; simp⟩
            exact eq_of_closed hclean.1.2 hother.1.2 hhere
          have hlater := (List.cons.inj (List.append_cancel_left hrest)).2
          rw [ih hclean.2 hother.2 hlater]

omit hclean in
theorem replace_skip {before : List Char} (h : '{' ∉ before) (replacement after : List Char) :
    Search.replace (braced name) replacement (before ++ after) =
      before ++ Search.replace (braced name) replacement after := by
  induction before with
  | nil => rfl
  | cons c before ih =>
    rw [List.mem_cons, not_or] at h
    rw [List.cons_append, Search.replace_cons, ih h.2]
    · rfl
    · intro hhere
      exact h.1 (List.cons_prefix_cons.mp hhere).1

/-- **Replacing a name in braces puts the replacement for the groups of that name.** -/
theorem replace_spell (htail : '}' ∉ tail) (hname : '}' ∉ name) (word : List Piece) :
    Search.replace (braced name) (spell word) (spell pieces ++ tail) =
      spell (pieces.flatMap fun piece => if piece = .group name then word else [piece]) ++ tail := by
  induction pieces with
  | nil =>
    show Search.replace (braced name) (spell word) tail = tail
    clear hclean
    induction tail with
    | nil => rfl
    | cons c tail ih =>
      have hnot : ¬ braced name <+: c :: tail := fun hhere =>
        htail (hhere.subset (mem_braced_close name))
      rw [List.mem_cons, not_or] at htail
      rw [Search.replace_cons hnot, ih htail.2]
  | cons piece pieces ih =>
    rw [List.forall_mem_cons] at hclean
    rw [List.flatMap_cons, spell_append, List.append_assoc, ← ih hclean.2]
    cases piece with
    | plain c =>
      rw [if_neg (by simp), spell_plain]
      have hopen : '{' ∉ [c] := by simpa using Ne.symm hclean.1
      exact replace_skip hopen _ _
    | group other =>
      by_cases hsame : other = name
      · subst hsame
        have hfound : braced other <+: spell (.group other :: pieces) ++ tail :=
          ⟨spell pieces ++ tail, by simp [spell_group, braced]⟩
        have hrest : (spell (.group other :: pieces) ++ tail).drop (braced other).length =
            spell pieces ++ tail := by
          rw [spell_group]
          simp [braced]
        rw [if_pos rfl, Search.replace_found (by simp [braced]) hfound, hrest]
      · rw [if_neg (by simpa using hsame)]
        have hnot : ¬ braced name <+: spell (.group other :: pieces) ++ tail := by
          intro hhere
          rw [spell_group] at hhere
          have hinner : name ++ ['}'] <+: other ++ '}' :: (spell pieces ++ tail) := by
            simpa using (List.cons_prefix_cons.mp hhere).2
          exact hsame (eq_of_closed hname hclean.1.2 hinner).symm
        rw [spell_group] at hnot ⊢
        rw [List.cons_append, List.cons_append] at hnot ⊢
        rw [Search.replace_cons hnot]
        have hopen : '{' ∉ other ++ ['}'] := by simpa using hclean.1.1
        have hskip : Search.replace (braced name) (spell word)
            ((other ++ ['}']) ++ (spell pieces ++ tail)) =
              (other ++ ['}']) ++
                Search.replace (braced name) (spell word) (spell pieces ++ tail) :=
          replace_skip hopen (spell word) (spell pieces ++ tail)
        simpa [spell_group] using hskip

end

end Spelled

end Braces
