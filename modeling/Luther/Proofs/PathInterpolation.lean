/-
What becomes of a path that variables are put into.

On texts whose braces do not nest, putting variables in is rewriting: the groups are the letters,
and a variable's value is the word for its name.  Where no variable leads back to itself every
order of the variables expands the path fully within the passes that are made.  But whoever stops
early does not look for tokens, so a token that no variable stands for is reported only if there is
a single variable and the path refers to it; and a cycle is not noticed if its variables only hand
the text on to each other, for then some order comes round to where it began within one pass.
-/
import Luther.Lib.Cycles
import Luther.Proofs.TokenScan

namespace Luther.Tokens

open Braces Relation Rewriting

/-! ### What is asked of the interpolation -/

section

variable (vars : VariableMap)

/-- The value of a variable has another variable's name in braces. -/
def Refers (a b : String) : Prop :=
  ∃ value, (a, value) ∈ vars.entries ∧ braced b.toList <:+: value.toList

/-- No variable leads back to itself. -/
def Acyclic : Prop := ∀ a, ¬ TransGen (Refers vars) a a

/-- The text leads to the variable. -/
def ReachedFrom (raw b : String) : Prop :=
  ∃ a, braced a.toList <:+: raw.toList ∧ ReflTransGen (Refers vars) a b

/-- The text leads to a variable that leads back to itself. -/
def ReachesCycle (raw : String) : Prop :=
  ∃ b, ReachedFrom vars raw b ∧ TransGen (Refers vars) b b

/-- One reference is replaced by its value. -/
inductive ExpandStep (vars : VariableMap) : List Char → List Char → Prop
  | mk {key value : String} (h : (key, value) ∈ vars.entries) (before after : List Char) :
      ExpandStep vars (before ++ braced key.toList ++ after) (before ++ value.toList ++ after)

/-- References are expanded, one after the other. -/
def Expands : List Char → List Char → Prop :=
  ReflTransGen (ExpandStep vars)

/-- A variable is still referred to. -/
def HasReference (text : List Char) : Prop :=
  ∃ entry ∈ vars.entries, braced entry.1.toList <:+: text

end

/-- A token stands in the text. -/
def HasToken (text : List Char) : Prop :=
  ∃ name, isConfigTokenName name = true ∧ braced name <:+: text

/-- Expanding all references yields the value, and no token is left in it. -/
structure Yields (vars : VariableMap) (raw value : String) : Prop where
  expands : Expands vars raw.toList value.toList
  expanded : ¬ HasReference vars value.toList
  tokenFree : ¬ HasToken value.toList

/-- The interpolation is complete and does not depend on the order of the variables. -/
structure InterpolationSound (vars : VariableMap) (raw : String) : Prop where
  complete : Acyclic vars → ∀ order, order.Perm vars.entries → ∀ value,
    interpolateConfigVariables raw order = .ok value ↔ Yields vars raw value
  ordered : Acyclic vars → ∀ order order', order.Perm vars.entries →
    order'.Perm vars.entries →
      interpolateConfigVariables raw order = interpolateConfigVariables raw order'
  cyclic : ReachesCycle vars raw → ∀ order, order.Perm vars.entries →
    ∃ message, interpolateConfigVariables raw order = .error message

/-! ### The passes -/

section Passes

variable {order : List (String × String)} {raw : String}

theorem interpolationPasses_stops {budget k : Nat} (hk : k < budget)
    (hstill : interpolationPass order ((interpolationPass order)^[k] raw) =
      (interpolationPass order)^[k] raw) :
    ∃ j < budget, interpolationPass order ((interpolationPass order)^[j] raw) =
        (interpolationPass order)^[j] raw ∧
      interpolationPasses order budget raw = ((interpolationPass order)^[j] raw, true) := by
  induction budget generalizing raw k with
  | zero => exact absurd hk (Nat.not_lt_zero k)
  | succ budget ih =>
    unfold interpolationPasses
    by_cases hsame : interpolationPass order raw = raw
    · refine ⟨0, Nat.succ_pos _, hsame, ?_⟩
      show (if interpolationPass order raw = raw then _ else _) = _
      rw [if_pos hsame, hsame]
      rfl
    · cases k with
      | zero => exact absurd hstill hsame
      | succ k =>
        rw [Function.iterate_succ_apply] at hstill
        obtain ⟨j, hj, hstands, hpasses⟩ := ih (Nat.lt_of_succ_lt_succ hk) hstill
        refine ⟨j + 1, Nat.succ_lt_succ hj, ?_, ?_⟩
        · rwa [Function.iterate_succ_apply]
        · show (if interpolationPass order raw = raw then _ else _) = _
          rw [if_neg hsame, hpasses, Function.iterate_succ_apply]

theorem interpolationPasses_spent {budget : Nat}
    (h : ∀ k < budget, interpolationPass order ((interpolationPass order)^[k] raw) ≠
      (interpolationPass order)^[k] raw) :
    interpolationPasses order budget raw = ((interpolationPass order)^[budget] raw, false) := by
  induction budget generalizing raw with
  | zero => rfl
  | succ budget ih =>
    unfold interpolationPasses
    show (if interpolationPass order raw = raw then _ else _) = _
    have hfirst : interpolationPass order raw ≠ raw := h 0 (Nat.succ_pos _)
    rw [if_neg hfirst, Function.iterate_succ_apply]
    refine ih fun k hk => ?_
    have hnext := h (k + 1) (Nat.succ_lt_succ hk)
    rwa [Function.iterate_succ_apply] at hnext

/-- Some pass that may be made leaves the value as it was. -/
def StandsStill (order : List (String × String)) (raw : String) : Prop :=
  ∃ k < max order.length 1, interpolationPass order ((interpolationPass order)^[k] raw) =
    (interpolationPass order)^[k] raw

theorem interpolate_of_still (h : StandsStill order raw) :
    ∃ k, interpolationPass order ((interpolationPass order)^[k] raw) =
        (interpolationPass order)^[k] raw ∧
      interpolateConfigVariables raw order = .ok ((interpolationPass order)^[k] raw) := by
  obtain ⟨k, hk, hstill⟩ := h
  obtain ⟨j, -, hstands, hpasses⟩ := interpolationPasses_stops hk hstill
  refine ⟨j, hstands, ?_⟩
  unfold interpolateConfigVariables
  rw [hpasses]

theorem interpolate_of_spent (h : ¬ StandsStill order raw) :
    interpolateConfigVariables raw order =
      if hasUnresolvedConfigToken
          ((interpolationPass order)^[max order.length 1] raw).toList = true then
        .error (unresolvedInPath ((interpolationPass order)^[max order.length 1] raw))
      else .ok ((interpolationPass order)^[max order.length 1] raw) := by
  unfold interpolateConfigVariables
  rw [interpolationPasses_spent fun k hk hstill => h ⟨k, hk, hstill⟩]

end Passes

/-! ### Texts whose braces do not nest -/

/-- Every opening brace is closed before the next one opens. -/
def Closed (text : String) : Prop :=
  ∃ ps, (∀ piece ∈ ps, Piece.Clean piece) ∧ text.toList = spell ps

/-- No brace group of a value or of the path holds a brace, no value leaves one open, and no
name closes one. -/
structure Flat (vars : VariableMap) (raw : String) : Prop where
  names : ∀ entry ∈ vars.entries, '}' ∉ entry.1.toList
  values : ∀ entry ∈ vars.entries, Closed entry.2
  raw : ∃ ps tail, (∀ piece ∈ ps, Piece.Clean piece) ∧ '}' ∉ tail ∧
    raw.toList = spell ps ++ tail

open Classical in
/-- The pieces of a text whose braces do not nest. -/
noncomputable def piecesOf (text : String) : List Piece :=
  if h : Closed text then h.choose else []

theorem piecesOf_spec {text : String} (h : Closed text) :
    (∀ piece ∈ piecesOf text, Piece.Clean piece) ∧ text.toList = spell (piecesOf text) := by
  unfold piecesOf
  rw [dif_pos h]
  exact h.choose_spec

noncomputable def rule (entry : String × String) : Piece × List Piece :=
  (.group entry.1.toList, piecesOf entry.2)

section FlatTexts

variable {vars : VariableMap} {order : List (String × String)}

theorem mem_letters_rules {p : Piece} :
    p ∈ Rewriting.letters (order.map rule) ↔ ∃ entry ∈ order, p = .group entry.1.toList := by
  unfold Rewriting.letters
  rw [List.map_map, List.mem_map]
  exact exists_congr fun entry => and_congr_right fun _ => eq_comm

variable {a b : String}

theorem group_injective (h : Piece.group a.toList = .group b.toList) : a = b :=
  String.toList_inj.mp (Piece.group.inj h)

theorem nodup_letters (vars : VariableMap) :
    (Rewriting.letters (vars.entries.map rule)).Nodup := by
  have hletters : Rewriting.letters (vars.entries.map rule) =
      (vars.entries.map Prod.fst).map fun key => Piece.group key.toList := by
    unfold Rewriting.letters
    rw [List.map_map, List.map_map]
    rfl
  rw [hletters]
  exact vars.distinct.map fun _ _ => group_injective

theorem toList_interpolationPass {ps : List Piece} {tail : List Char}
    (hnames : ∀ entry ∈ order, '}' ∉ entry.1.toList)
    (hvalues : ∀ entry ∈ order, Closed entry.2) (hclean : ∀ piece ∈ ps, Piece.Clean piece)
    (htail : '}' ∉ tail) {value : String} (h : value.toList = spell ps ++ tail) :
    (interpolationPass order value).toList =
        spell (Rewriting.pass (order.map rule) ps) ++ tail ∧
      ∀ piece ∈ Rewriting.pass (order.map rule) ps, Piece.Clean piece := by
  induction order generalizing value ps with
  | nil => exact ⟨h, hclean⟩
  | cons entry order ih =>
    rw [List.forall_mem_cons] at hnames hvalues
    obtain ⟨hcleanValue, hvalue⟩ := piecesOf_spec hvalues.1
    have hcleanNext : ∀ piece ∈ Rewriting.substitute (rule entry) ps, Piece.Clean piece := by
      intro piece hpiece
      rcases mem_substitute.mp hpiece with ⟨hold, -⟩ | ⟨-, hnew⟩
      · exact hclean piece hold
      · exact hcleanValue piece hnew
    refine ih hnames.2 hvalues.2 hcleanNext ?_
    · rw [toList_replaceText, h, hvalue, reference, String.toList_ofList,
        replace_spell hclean htail hnames.1]
      rfl

theorem toList_iterate {ps : List Piece} {tail : List Char}
    (hnames : ∀ entry ∈ order, '}' ∉ entry.1.toList)
    (hvalues : ∀ entry ∈ order, Closed entry.2) (hclean : ∀ piece ∈ ps, Piece.Clean piece)
    (htail : '}' ∉ tail) {raw : String} (h : raw.toList = spell ps ++ tail) (n : Nat) :
    ((interpolationPass order)^[n] raw).toList =
        spell ((Rewriting.pass (order.map rule))^[n] ps) ++ tail ∧
      ∀ piece ∈ (Rewriting.pass (order.map rule))^[n] ps, Piece.Clean piece := by
  induction n with
  | zero => exact ⟨h, hclean⟩
  | succ n ih =>
    rw [Function.iterate_succ_apply', Function.iterate_succ_apply']
    exact toList_interpolationPass hnames hvalues ih.2 htail ih.1

theorem key_of_letter {a : String} (h : Piece.group a.toList ∈ Rewriting.letters (order.map rule)) :
    a ∈ order.map Prod.fst := by
  obtain ⟨entry, hentry, hsame⟩ := mem_letters_rules.mp h
  exact group_injective hsame ▸ List.mem_map_of_mem hentry

theorem Refers.key (h : Refers vars a b) : a ∈ vars.entries.map Prod.fst := by
  obtain ⟨value, hentry, -⟩ := h
  exact List.mem_map_of_mem hentry

theorem key_of_leads (h : TransGen (Refers vars) a b) : a ∈ vars.entries.map Prod.fst := by
  obtain ⟨c, hac, -⟩ := TransGen.head'_iff.mp h
  exact hac.key

section Graph

variable (hnames : ∀ entry ∈ vars.entries, '}' ∉ entry.1.toList)
  (hvalues : ∀ entry ∈ vars.entries, Closed entry.2) {a b : String}

include hnames hvalues

theorem refers_rules (hb : b ∈ vars.entries.map Prod.fst) :
    Rewriting.Refers (vars.entries.map rule) (.group a.toList) (.group b.toList) ↔
      Refers vars a b := by
  obtain ⟨other, hother, rfl⟩ := List.mem_map.mp hb
  have hin : ∀ entry ∈ vars.entries, Piece.group other.1.toList ∈ piecesOf entry.2 ↔
      braced other.1.toList <:+: entry.2.toList := by
    intro entry hentry
    obtain ⟨hclean, hvalue⟩ := piecesOf_spec (hvalues entry hentry)
    have hiff := infix_spell_iff hclean List.not_mem_nil (hnames other hother)
    rw [List.append_nil, ← hvalue] at hiff
    exact hiff.symm
  constructor
  · intro ⟨word, hrule, hmem⟩
    obtain ⟨entry, hentry, hsame⟩ := List.mem_map.mp hrule
    obtain ⟨hkey, rfl⟩ := Prod.mk.inj hsame
    exact ⟨entry.2, group_injective hkey ▸ hentry, (hin entry hentry).mp hmem⟩
  · intro ⟨value, hentry, hmem⟩
    exact ⟨piecesOf value, List.mem_map.mpr ⟨_, hentry, rfl⟩, (hin _ hentry).mpr hmem⟩

theorem leads_of_rules {p q : Piece} (h : TransGen (Rewriting.Refers (vars.entries.map rule)) p q)
    (hq : q ∈ Rewriting.letters (vars.entries.map rule)) :
    ∃ a b, p = .group a.toList ∧ q = .group b.toList ∧ TransGen (Refers vars) a b := by
  induction h with
  | single hstep =>
    obtain ⟨entry, hentry, rfl⟩ := mem_letters_rules.mp hq
    obtain ⟨start, -, rfl⟩ := mem_letters_rules.mp (mem_letters_of_refers hstep)
    exact ⟨start.1, entry.1, rfl, rfl, .single
      ((refers_rules hnames hvalues (List.mem_map_of_mem hentry)).mp hstep)⟩
  | tail _ hstep ih =>
    obtain ⟨entry, hentry, rfl⟩ := mem_letters_rules.mp hq
    obtain ⟨a, c, rfl, rfl, hac⟩ := ih (mem_letters_of_refers hstep)
    exact ⟨a, entry.1, rfl, rfl, hac.tail
      ((refers_rules hnames hvalues (List.mem_map_of_mem hentry)).mp hstep)⟩

theorem leads_rules (hb : b ∈ vars.entries.map Prod.fst) :
    TransGen (Rewriting.Refers (vars.entries.map rule)) (.group a.toList) (.group b.toList) ↔
      TransGen (Refers vars) a b := by
  constructor
  · intro h
    obtain ⟨entry, hentry, rfl⟩ := List.mem_map.mp hb
    obtain ⟨start, last, hstart, hlast, hleads⟩ :=
      leads_of_rules hnames hvalues h (mem_letters_rules.mpr ⟨entry, hentry, rfl⟩)
    rwa [group_injective hstart, group_injective hlast]
  · intro h
    induction h with
    | single hstep => exact .single ((refers_rules hnames hvalues hb).mpr hstep)
    | tail _ hstep ih => exact (ih hstep.key).tail ((refers_rules hnames hvalues hb).mpr hstep)

theorem onCycle_rules :
    Rewriting.OnCycle (vars.entries.map rule) (.group a.toList) ↔ TransGen (Refers vars) a a := by
  constructor
  · intro h
    exact (leads_rules hnames hvalues (key_of_letter (mem_letters_of_leads h))).mp h
  · intro h
    exact (leads_rules hnames hvalues (key_of_leads h)).mpr h

theorem acyclic_rules (h : Acyclic vars) : Rewriting.Acyclic (vars.entries.map rule) := by
  intro p hcycle
  obtain ⟨a, b, rfl, -, -⟩ :=
    leads_of_rules hnames hvalues hcycle (mem_letters_of_leads hcycle)
  exact h a ((onCycle_rules hnames hvalues).mp hcycle)

end Graph

end FlatTexts

/-! ### Expanding texts whose braces do not nest -/

section Expanding

variable {vars : VariableMap} {ps : List Piece} {tail : List Char}

theorem step_of_expandStep (hnames : ∀ entry ∈ vars.entries, '}' ∉ entry.1.toList)
    (hvalues : ∀ entry ∈ vars.entries, Closed entry.2)
    (hclean : ∀ piece ∈ ps, Piece.Clean piece) (htail : '}' ∉ tail) {next : List Char}
    (h : ExpandStep vars (spell ps ++ tail) next) :
    ∃ ps', Rewriting.Step (vars.entries.map rule) ps ps' ∧ (∀ piece ∈ ps', Piece.Clean piece) ∧
      next = spell ps' ++ tail := by
  generalize htext : spell ps ++ tail = text at h
  obtain ⟨hentry, before, after⟩ := h
  rename_i key value
  obtain ⟨left, right, rfl, rfl, rfl⟩ := split_spell hclean htail (hnames _ hentry) htext
  obtain ⟨hcleanValue, hvalue⟩ := piecesOf_spec (hvalues _ hentry)
  refine ⟨left ++ piecesOf value ++ right, ?_, ?_, ?_⟩
  · exact .mk (List.mem_map.mpr ⟨_, hentry, rfl⟩) left right
  · intro piece hpiece
    rcases List.mem_append.mp hpiece with hfront | hright
    · rcases List.mem_append.mp hfront with hleft | hword
      · exact hclean piece (List.mem_append_left _ hleft)
      · exact hcleanValue piece hword
    · exact hclean piece (List.mem_append_right _ (List.mem_cons_of_mem _ hright))
  · rw [hvalue, spell_append, spell_append, List.append_assoc _ _ tail]

theorem expandStep_of_step (hvalues : ∀ entry ∈ vars.entries, Closed entry.2) {ps' : List Piece}
    (h : Rewriting.Step (vars.entries.map rule) ps ps') :
    ExpandStep vars (spell ps ++ tail) (spell ps' ++ tail) := by
  obtain ⟨hrule, left, right⟩ := h
  obtain ⟨entry, hentry, hsame⟩ := List.mem_map.mp hrule
  obtain ⟨rfl, rfl⟩ := Prod.mk.inj hsame
  have hstep : ExpandStep vars (spell left ++ braced entry.1.toList ++ (spell right ++ tail))
      (spell left ++ entry.2.toList ++ (spell right ++ tail)) := .mk hentry _ _
  rw [(piecesOf_spec (hvalues entry hentry)).2] at hstep
  simpa [spell_append, spell_group, braced] using hstep

theorem rewrites_of_expands (hnames : ∀ entry ∈ vars.entries, '}' ∉ entry.1.toList)
    (hvalues : ∀ entry ∈ vars.entries, Closed entry.2)
    (hclean : ∀ piece ∈ ps, Piece.Clean piece) (htail : '}' ∉ tail) {next : List Char}
    (h : Expands vars (spell ps ++ tail) next) :
    ∃ ps', Rewriting.Rewrites (vars.entries.map rule) ps ps' ∧
      (∀ piece ∈ ps', Piece.Clean piece) ∧ next = spell ps' ++ tail := by
  induction h with
  | refl => exact ⟨ps, .refl, hclean, rfl⟩
  | tail _ hstep ih =>
    obtain ⟨ps', hrewrites, hclean', rfl⟩ := ih
    obtain ⟨ps'', hmore, hclean'', hnext⟩ :=
      step_of_expandStep hnames hvalues hclean' htail hstep
    exact ⟨ps'', hrewrites.tail hmore, hclean'', hnext⟩

theorem expands_of_rewrites (hvalues : ∀ entry ∈ vars.entries, Closed entry.2)
    {ps' : List Piece} (h : Rewriting.Rewrites (vars.entries.map rule) ps ps') :
    Expands vars (spell ps ++ tail) (spell ps' ++ tail) :=
  h.lift (fun ps => spell ps ++ tail) fun _ _ => expandStep_of_step hvalues

theorem hasReference_spell (hnames : ∀ entry ∈ vars.entries, '}' ∉ entry.1.toList)
    (hclean : ∀ piece ∈ ps, Piece.Clean piece) (htail : '}' ∉ tail) :
    ¬ HasReference vars (spell ps ++ tail) ↔ Rewriting.Settled (vars.entries.map rule) ps := by
  constructor
  · intro h p hp hletter
    obtain ⟨entry, hentry, rfl⟩ := mem_letters_rules.mp hletter
    exact h ⟨entry, hentry, (infix_spell_iff hclean htail (hnames entry hentry)).mpr hp⟩
  · intro hsettled ⟨entry, hentry, hin⟩
    have hmem := (infix_spell_iff hclean htail (hnames entry hentry)).mp hin
    exact hsettled _ hmem (mem_letters_rules.mpr ⟨entry, hentry, rfl⟩)

theorem hasUnresolvedConfigToken_spell (hclean : ∀ piece ∈ ps, Piece.Clean piece)
    (htail : '}' ∉ tail) :
    hasUnresolvedConfigToken (spell ps ++ tail) = true ↔ HasToken (spell ps ++ tail) := by
  rw [hasUnresolvedConfigToken_iff]
  constructor
  · intro ⟨group, hgroup, hname⟩
    exact ⟨group, hname, infix_of_mem_groups hgroup⟩
  · intro ⟨name, hname, hin⟩
    have hmem := (infix_spell_iff hclean htail (close_notMem_of_name hname)).mp hin
    exact ⟨name, (mem_groups_spell hclean htail).mpr hmem, hname⟩

end Expanding

/-! ### The answers -/

section Answers

variable {vars : VariableMap} {raw : String} {order : List (String × String)}

theorem Flat.expanded_unique (hflat : Flat vars raw) {left right : List Char}
    (hleft : Expands vars raw.toList left) (hright : Expands vars raw.toList right)
    (hl : ¬ HasReference vars left) (hr : ¬ HasReference vars right) : left = right := by
  obtain ⟨ps, tail, hclean, htail, htext⟩ := hflat.raw
  rw [htext] at hleft hright
  obtain ⟨ps₁, hrewrites₁, hclean₁, rfl⟩ :=
    rewrites_of_expands hflat.names hflat.values hclean htail hleft
  obtain ⟨ps₂, hrewrites₂, hclean₂, rfl⟩ :=
    rewrites_of_expands hflat.names hflat.values hclean htail hright
  rw [settled_unique (nodup_letters vars) hrewrites₁ hrewrites₂
    ((hasReference_spell hflat.names hclean₁ htail).mp hl)
    ((hasReference_spell hflat.names hclean₂ htail).mp hr)]

/-- The passes over a path, and over its pieces. -/
structure Iterates (order : List (String × String)) (raw : String) (ps : List Piece)
    (tail : List Char) (n : Nat) : Prop where
  text : ((interpolationPass order)^[n] raw).toList =
    spell ((Rewriting.pass (order.map rule))^[n] ps) ++ tail
  clean : ∀ piece ∈ (Rewriting.pass (order.map rule))^[n] ps, Piece.Clean piece
  still_iff : interpolationPass order ((interpolationPass order)^[n] raw) =
      (interpolationPass order)^[n] raw ↔
    Rewriting.pass (order.map rule) ((Rewriting.pass (order.map rule))^[n] ps) =
      (Rewriting.pass (order.map rule))^[n] ps

section

variable (hflat : Flat vars raw)

include hflat

section

variable (horder : order.Perm vars.entries)

include horder

theorem Flat.iterates {ps : List Piece}
    {tail : List Char} (hclean : ∀ piece ∈ ps, Piece.Clean piece) (htail : '}' ∉ tail)
    (htext : raw.toList = spell ps ++ tail) (n : Nat) : Iterates order raw ps tail n := by
  have hiterate := toList_iterate (fun entry h => hflat.names entry (horder.mem_iff.mp h))
    (fun entry h => hflat.values entry (horder.mem_iff.mp h)) hclean htail htext
  refine ⟨(hiterate n).1, (hiterate n).2, ?_⟩
  rw [← Function.iterate_succ_apply' (interpolationPass order),
    ← Function.iterate_succ_apply' (Rewriting.pass _), ← String.toList_inj, (hiterate n).1,
    (hiterate (n + 1)).1, List.append_cancel_right_eq]
  exact ⟨spell_inj (hiterate (n + 1)).2 (hiterate n).2, fun h => h ▸ rfl⟩

theorem Flat.read :
    ∃ ps tail, (∀ piece ∈ ps, Piece.Clean piece) ∧ '}' ∉ tail ∧ raw.toList = spell ps ++ tail ∧
      ∀ n, Iterates order raw ps tail n := by
  obtain ⟨ps, tail, hclean, htail, htext⟩ := hflat.raw
  exact ⟨ps, tail, hclean, htail, htext, hflat.iterates horder hclean htail htext⟩

theorem Flat.expands_iterate (n : Nat) :
    Expands vars raw.toList ((interpolationPass order)^[n] raw).toList := by
  obtain ⟨ps, tail, -, -, htext, hiterate⟩ := hflat.read horder
  rw [(hiterate n).text, htext]
  refine expands_of_rewrites hflat.values (rewrites_iterate ?_ n ps)
  exact fun r hr => (horder.map rule).mem_iff.mp hr

theorem Flat.token_iff (n : Nat) :
    hasUnresolvedConfigToken ((interpolationPass order)^[n] raw).toList = true ↔
      HasToken ((interpolationPass order)^[n] raw).toList := by
  obtain ⟨ps, tail, -, htail, -, hiterate⟩ := hflat.read horder
  rw [(hiterate n).text]
  exact hasUnresolvedConfigToken_spell (hiterate n).clean htail

end

end

variable {n : Nat}

section

variable (hflat : Flat vars raw)

include hflat

theorem Flat.expanded_of_still (hacyclic : Acyclic vars) (horder : order.Perm vars.entries)
    (hstill : interpolationPass order ((interpolationPass order)^[n] raw) =
      (interpolationPass order)^[n] raw) :
    ¬ HasReference vars ((interpolationPass order)^[n] raw).toList := by
  obtain ⟨ps, tail, -, htail, -, hiterate⟩ := hflat.read horder
  rw [(hiterate n).text, hasReference_spell hflat.names (hiterate n).clean htail]
  exact settled_of_pass_eq (acyclic_rules hflat.names hflat.values hacyclic)
    (horder.map rule) ((hiterate n).still_iff.mp hstill)

theorem Flat.expanded_of_spent (hacyclic : Acyclic vars)
    (horder : order.Perm vars.entries) (hn : vars.entries.length ≤ n) :
    ¬ HasReference vars ((interpolationPass order)^[n] raw).toList := by
  obtain ⟨ps, tail, -, htail, -, hiterate⟩ := hflat.read horder
  rw [(hiterate n).text, hasReference_spell hflat.names (hiterate n).clean htail]
  refine settled_iterate (acyclic_rules hflat.names hflat.values hacyclic)
    (horder.map rule) ?_ ps
  rwa [List.length_map]

theorem Flat.answer (hacyclic : Acyclic vars) (horder : order.Perm vars.entries) :
    ∃ value : String, Expands vars raw.toList value.toList ∧ ¬ HasReference vars value.toList ∧
      interpolateConfigVariables raw order =
        (open Classical in if ¬ StandsStill order raw ∧ HasToken value.toList then
          .error (unresolvedInPath value) else .ok value) := by
  by_cases hstill : StandsStill order raw
  · obtain ⟨k, hstands, hanswer⟩ := interpolate_of_still hstill
    refine ⟨_, hflat.expands_iterate horder k, hflat.expanded_of_still hacyclic horder hstands, ?_⟩
    rw [if_neg (fun h => h.1 hstill), hanswer]
  · have hbudget : vars.entries.length ≤ max order.length 1 := by
      rw [horder.length_eq]
      exact Nat.le_max_left _ _
    refine ⟨_, hflat.expands_iterate horder (max order.length 1),
      hflat.expanded_of_spent hacyclic horder hbudget, ?_⟩
    rw [interpolate_of_spent hstill]
    by_cases htoken : HasToken ((interpolationPass order)^[max order.length 1] raw).toList
    · rw [if_pos ((hflat.token_iff horder _).mpr htoken), if_pos ⟨hstill, htoken⟩]
    · rw [if_neg (mt (hflat.token_iff horder _).mp htoken), if_neg (fun h => htoken h.2)]

theorem Flat.still_of_expanded (horder : order.Perm vars.entries)
    (h : ¬ HasReference vars ((interpolationPass order)^[n] raw).toList) :
    interpolationPass order ((interpolationPass order)^[n] raw) =
      (interpolationPass order)^[n] raw := by
  obtain ⟨ps, tail, -, htail, -, hiterate⟩ := hflat.read horder
  rw [(hiterate n).text, hasReference_spell hflat.names (hiterate n).clean htail] at h
  exact (hiterate n).still_iff.mpr (h.pass fun r hr => (horder.map rule).mem_iff.mp hr)

omit hflat in
theorem perm_map_inv {α β : Type*} {f : α → β} {left : List β} {entries : List α}
    (h : left.Perm (entries.map f)) : ∃ order : List α, order.Perm entries ∧ left = order.map f := by
  generalize hright : entries.map f = right at h
  induction h generalizing entries with
  | nil => exact ⟨[], by rw [List.map_eq_nil_iff.mp hright], rfl⟩
  | cons b _ ih =>
    obtain ⟨a, rest, rfl, rfl, hrest⟩ := List.map_eq_cons_iff.mp hright
    obtain ⟨order, hperm, rfl⟩ := ih hrest
    exact ⟨a :: order, hperm.cons a, rfl⟩
  | swap b c tail =>
    obtain ⟨a, rest, rfl, rfl, hrest⟩ := List.map_eq_cons_iff.mp hright
    obtain ⟨a', rest, rfl, rfl, rfl⟩ := List.map_eq_cons_iff.mp hrest
    exact ⟨a' :: a :: rest, .swap a a' rest, rfl⟩
  | trans _ _ ih₁ ih₂ =>
    obtain ⟨middle, hmiddle, rfl⟩ := ih₂ hright
    obtain ⟨order, horder, rfl⟩ := ih₁ rfl
    exact ⟨order, horder.trans hmiddle, rfl⟩

theorem Flat.exists_order (hacyclic : Acyclic vars) :
    ∃ order, order.Perm vars.entries ∧
      ¬ HasReference vars ((interpolationPass order)^[1] raw).toList := by
  obtain ⟨rules, hrules, hsettles⟩ :=
    exists_settling (acyclic_rules hflat.names hflat.values hacyclic)
  obtain ⟨order, horder, rfl⟩ := perm_map_inv hrules
  refine ⟨order, horder, ?_⟩
  obtain ⟨ps, tail, -, htail, -, hiterate⟩ := hflat.read horder
  rw [(hiterate 1).text, hasReference_spell hflat.names (hiterate 1).clean htail]
  exact hsettles ps

/-- With several variables, or none, some order stops before all passes are spent; so it does
with a single one that the path does not refer to. -/
theorem Flat.exists_still (hacyclic : Acyclic vars)
    (h : ¬ ∃ key value, vars.entries = [(key, value)] ∧ braced key.toList <:+: raw.toList) :
    ∃ order, order.Perm vars.entries ∧ StandsStill order raw := by
  by_cases hreference : HasReference vars raw.toList
  · obtain ⟨order, horder, hexpanded⟩ := hflat.exists_order hacyclic
    refine ⟨order, horder, 1, ?_, hflat.still_of_expanded horder hexpanded⟩
    obtain ⟨entry, hentry, hin⟩ := hreference
    have hlength : order.length ≠ 1 := by
      intro hone
      obtain ⟨only, honly⟩ := List.length_eq_one_iff.mp (horder.length_eq ▸ hone)
      rw [honly, List.mem_singleton] at hentry
      subst hentry
      exact h ⟨entry.1, entry.2, honly, hin⟩
    have hpos : 0 < order.length := List.length_pos_of_mem (horder.mem_iff.mpr hentry)
    omega
  · refine ⟨vars.entries, .refl _, 0, ?_, hflat.still_of_expanded (n := 0) (.refl _) hreference⟩
    omega

end

/-! ### Cycles -/

/-- The value of the variable is a reference to a variable, between texts that expand to nothing. -/
def HandsOn (vars : VariableMap) (a : String) : Prop :=
  ∃ value b before after, (a, value) ∈ vars.entries ∧ b ∈ vars.entries.map Prod.fst ∧
    value.toList = before ++ braced b.toList ++ after ∧ Expands vars before [] ∧
      Expands vars after []

theorem expands_nil_iff (hnames : ∀ entry ∈ vars.entries, '}' ∉ entry.1.toList)
    (hvalues : ∀ entry ∈ vars.entries, Closed entry.2) {ps : List Piece}
    (hclean : ∀ piece ∈ ps, Piece.Clean piece) :
    Expands vars (spell ps) [] ↔ ∀ piece ∈ ps, Rewriting.Vanishes (vars.entries.map rule) piece := by
  rw [← rewrites_nil_iff]
  constructor
  · intro h
    rw [← List.append_nil (spell ps)] at h
    obtain ⟨ps', hrewrites, -, hnil⟩ :=
      rewrites_of_expands hnames hvalues hclean List.not_mem_nil h
    cases ps' with
    | nil => exact hrewrites
    | cons piece _ => cases piece <;> cases hnil
  · intro h
    have hexpands : Expands vars (spell ps ++ []) (spell [] ++ []) :=
      expands_of_rewrites hvalues h
    rwa [List.append_nil, spell_nil] at hexpands

theorem handsOn_iff (hnames : ∀ entry ∈ vars.entries, '}' ∉ entry.1.toList)
    (hvalues : ∀ entry ∈ vars.entries, Closed entry.2) {a value : String}
    (hentry : (a, value) ∈ vars.entries) (hcycle : TransGen (Refers vars) a a) :
    HandsOn vars a ↔ Rewriting.Single (vars.entries.map rule) (piecesOf value) := by
  obtain ⟨hclean, hvalue⟩ := piecesOf_spec (hvalues _ hentry)
  dsimp only at hclean hvalue
  constructor
  · intro ⟨value', b, before, after, hentry', hb, hsplit, hbefore, hafter⟩
    obtain rfl : value = value' :=
      (Prod.mk.inj (List.inj_on_of_nodup_map vars.distinct hentry hentry' rfl)).2
    obtain ⟨other, hother, rfl⟩ := List.mem_map.mp hb
    rw [hvalue, ← List.append_nil (spell _)] at hsplit
    obtain ⟨left, right, hpieces, rfl, hright⟩ :=
      split_spell hclean List.not_mem_nil (hnames other hother) hsplit
    rw [List.append_nil] at hright
    subst hright
    rw [hpieces, List.forall_mem_append, List.forall_mem_cons] at hclean
    rw [hpieces]
    exact single_of_vanish ((expands_nil_iff hnames hvalues hclean.1).mp hbefore)
      ((expands_nil_iff hnames hvalues hclean.2.2).mp hafter) _
  · intro hsingle
    have hon := (onCycle_rules hnames hvalues).mpr hcycle
    obtain ⟨p, hap, hpa⟩ := TransGen.head'_iff.mp hon
    have hlasts : ¬ Rewriting.Vanishes (vars.entries.map rule) p :=
      fun hvanishes => hvanishes.not_onCycle (nodup_letters vars) hpa hon
    have hletter : p ∈ Rewriting.letters (vars.entries.map rule) := by
      rcases Rewriting.Leads.eq_or_mem hpa with rfl | hletter
      · exact mem_letters_of_leads hon
      · exact hletter
    obtain ⟨other, hother, rfl⟩ := mem_letters_rules.mp hletter
    obtain ⟨left, right, hpieces⟩ := List.append_of_mem
      (mem_word_of_refers (nodup_letters vars)
        (List.mem_map.mpr ⟨_, hentry, rfl⟩ : (Piece.group a.toList, piecesOf value) ∈ _) hap)
    rw [hpieces] at hsingle
    rw [hpieces, List.forall_mem_append, List.forall_mem_cons] at hclean
    obtain ⟨hleft, hright⟩ := hsingle.vanish hlasts
    refine ⟨value, other.1, spell left, spell right, hentry, List.mem_map_of_mem hother, ?_,
      (expands_nil_iff hnames hvalues hclean.1).mpr hleft,
      (expands_nil_iff hnames hvalues hclean.2.2).mpr hright⟩
    rw [hvalue, hpieces, spell_append, spell_group]
    simp [braced]

theorem reachedFrom_iff (hflat : Flat vars raw) {ps : List Piece} {tail : List Char}
    (hclean : ∀ piece ∈ ps, Piece.Clean piece) (htail : '}' ∉ tail)
    (htext : raw.toList = spell ps ++ tail) {b : String} (hb : b ∈ vars.entries.map Prod.fst) :
    Rewriting.Reached (vars.entries.map rule) ps (.group b.toList) ↔ ReachedFrom vars raw b := by
  have hin : ∀ a ∈ vars.entries.map Prod.fst,
      Piece.group a.toList ∈ ps ↔ braced a.toList <:+: raw.toList := by
    intro a ha
    obtain ⟨entry, hentry, rfl⟩ := List.mem_map.mp ha
    rw [htext, infix_spell_iff hclean htail (hflat.names entry hentry)]
  constructor
  · intro ⟨p, hp, hleads⟩
    rcases reflTransGen_iff_eq_or_transGen.mp hleads with rfl | hleads
    · exact ⟨b, (hin b hb).mp hp, .refl⟩
    · obtain ⟨entry, hentry, rfl⟩ := List.mem_map.mp hb
      obtain ⟨a, c, rfl, hc, hac⟩ := leads_of_rules hflat.names hflat.values hleads
        (mem_letters_rules.mpr ⟨entry, hentry, rfl⟩)
      rw [group_injective hc]
      exact ⟨a, (hin a (key_of_leads hac)).mp hp, hac.to_reflTransGen⟩
  · intro ⟨a, ha, hleads⟩
    rcases reflTransGen_iff_eq_or_transGen.mp hleads with rfl | hleads
    · exact ⟨_, (hin b hb).mpr ha, .refl⟩
    · exact ⟨_, (hin a (key_of_leads hleads)).mpr ha,
        ((leads_rules hflat.names hflat.values hb).mpr hleads).to_reflTransGen⟩

/-- The variables that lead to a cycle have names that are looked for as tokens. -/
def LoopsNamed (vars : VariableMap) : Prop :=
  ∀ a b, ReflTransGen (Refers vars) a b → TransGen (Refers vars) b b →
    isConfigTokenName a.toList = true

theorem Flat.error_of_cycle (hflat : Flat vars raw) (hnamed : LoopsNamed vars)
    (horder : order.Perm vars.entries) {b : String} (hreached : ReachedFrom vars raw b)
    (hcycle : TransGen (Refers vars) b b) (hnot : ¬ HandsOn vars b) :
    ∃ message, interpolateConfigVariables raw order = .error message := by
  obtain ⟨ps, tail, hclean, htail, htext, hiterate⟩ := hflat.read horder
  obtain ⟨entry, hentry, rfl⟩ := List.mem_map.mp (key_of_leads hcycle)
  have hkey := List.mem_map_of_mem (f := Prod.fst) hentry
  have hgrows := mt (handsOn_iff hflat.names hflat.values hentry hcycle).mpr hnot
  have hon := (onCycle_rules hflat.names hflat.values).mpr hcycle
  have hleads := leads_iterate (nodup_letters vars) (horder.map rule) hon
    ((reachedFrom_iff hflat hclean htail htext hkey).mpr hreached)
  have hspent : ¬ StandsStill order raw := by
    intro ⟨k, _, hstill⟩
    obtain ⟨p, hp, hpb⟩ := hleads k
    exact pass_ne (nodup_letters vars) (horder.map rule) hp hpb
      (List.mem_map.mpr ⟨entry, hentry, rfl⟩) hgrows ((hiterate k).still_iff.mp hstill)
  have htoken : HasToken ((interpolationPass order)^[max order.length 1] raw).toList := by
    obtain ⟨p, hp, hpb⟩ := hleads (max order.length 1)
    obtain ⟨a, rfl, ha, hab⟩ : ∃ a, p = .group a.toList ∧ a ∈ vars.entries.map Prod.fst ∧
        ReflTransGen (Refers vars) a entry.1 := by
      rcases reflTransGen_iff_eq_or_transGen.mp hpb with rfl | hpb
      · exact ⟨entry.1, rfl, hkey, .refl⟩
      · obtain ⟨a, c, rfl, hc, hac⟩ := leads_of_rules hflat.names hflat.values hpb
          (mem_letters_of_leads hon)
        rw [group_injective hc]
        exact ⟨a, rfl, key_of_leads hac, hac.to_reflTransGen⟩
    have hname := hnamed a entry.1 hab hcycle
    refine ⟨a.toList, hname, ?_⟩
    rw [(hiterate _).text]
    exact (infix_spell_iff (hiterate _).clean htail (close_notMem_of_name hname)).mpr hp
  rw [interpolate_of_spent hspent, if_pos ((hflat.token_iff horder _).mpr htoken)]
  exact ⟨_, rfl⟩

/-- Variables that only hand the text on to each other have an order that stops early. -/
theorem Flat.still_of_handsOn (hflat : Flat vars raw) (hreaches : ReachesCycle vars raw)
    (hall : ∀ a, ReachedFrom vars raw a → TransGen (Refers vars) a a → HandsOn vars a) :
    ∃ order, order.Perm vars.entries ∧ StandsStill order raw := by
  obtain ⟨b, hb, hcycle⟩ := hreaches
  obtain ⟨entry, hentry, rfl⟩ := List.mem_map.mp (key_of_leads hcycle)
  obtain ⟨ps, tail, hclean, htail, htext⟩ := hflat.raw
  have hsingle : ∀ p word, Rewriting.Reached (vars.entries.map rule) ps p →
      Rewriting.OnCycle (vars.entries.map rule) p → (p, word) ∈ vars.entries.map rule →
      Rewriting.Single (vars.entries.map rule) word := by
    intro p word hreached hon hrule
    obtain ⟨other, hother, hsame⟩ := List.mem_map.mp hrule
    obtain ⟨rfl, rfl⟩ := Prod.mk.inj hsame
    have hloop := (onCycle_rules hflat.names hflat.values).mp hon
    refine (handsOn_iff hflat.names hflat.values hother hloop).mp (hall _ ?_ hloop)
    exact (reachedFrom_iff hflat hclean htail htext (List.mem_map_of_mem hother)).mp hreached
  have hon := (onCycle_rules hflat.names hflat.values).mpr hcycle
  by_cases halone : vars.entries = [entry]
  · refine ⟨vars.entries, .refl _, 0, by omega, ?_⟩
    refine (hflat.iterates (.refl _) hclean htail htext 0).still_iff.mpr ?_
    have hword := hsingle _ _ ((reachedFrom_iff hflat hclean htail htext
      (List.mem_map_of_mem hentry)).mpr hb) hon (List.mem_map_of_mem hentry)
    rw [halone] at hon hword ⊢
    exact pass_of_alone hon hword _
  · obtain ⟨rules, hrules, hstands⟩ := exists_standing (nodup_letters vars) hsingle
    obtain ⟨order, horder, rfl⟩ := perm_map_inv hrules
    refine ⟨order, horder, 1, ?_, (hflat.iterates horder hclean htail htext 1).still_iff.mpr hstands⟩
    have hlength : order.length ≠ 1 := by
      intro hone
      obtain ⟨only, honly⟩ := List.length_eq_one_iff.mp (horder.length_eq ▸ hone)
      rw [honly, List.mem_singleton] at hentry
      exact halone (hentry ▸ honly)
    have hpos : 0 < order.length := List.length_pos_of_mem (horder.mem_iff.mpr hentry)
    omega

end Answers

/-! ### When the interpolation is sound -/

/-- Without cycles: either expanding all references leaves no token, or there is one variable
and the path refers to it.  With a cycle that the path leads to: on one of these cycles some
variable's value does more than hand the text on. -/
structure SoundWhen (vars : VariableMap) (raw : String) : Prop where
  acyclic : Acyclic vars → (∃ value, Yields vars raw value) ∨
    ∃ key value, vars.entries = [(key, value)] ∧ braced key.toList <:+: raw.toList
  cyclic : ReachesCycle vars raw →
    ∃ a, ReachedFrom vars raw a ∧ TransGen (Refers vars) a a ∧ ¬ HandsOn vars a

section Sound

variable {vars : VariableMap} {raw : String} {order : List (String × String)}

theorem Flat.not_still_of_single (hflat : Flat vars raw) (hacyclic : Acyclic vars)
    (horder : order.Perm vars.entries) {key value : String} (hentries : vars.entries = [(key, value)])
    (hin : braced key.toList <:+: raw.toList) : ¬ StandsStill order raw := by
  intro ⟨k, hk, hstill⟩
  have hlength : order.length = 1 := by rw [horder.length_eq, hentries]; rfl
  obtain rfl : k = 0 := by omega
  refine hflat.expanded_of_still (n := 0) hacyclic horder hstill ⟨(key, value), ?_, hin⟩
  rw [hentries]
  exact List.mem_singleton_self _

/-- **Where the condition holds, an answer is given exactly if the path expands to a text
without tokens, and it is that text.** -/
theorem Flat.ok_iff (hflat : Flat vars raw) (hacyclic : Acyclic vars)
    (hwhen : (∃ value, Yields vars raw value) ∨
      ∃ key value, vars.entries = [(key, value)] ∧ braced key.toList <:+: raw.toList)
    (horder : order.Perm vars.entries) (value : String) :
    interpolateConfigVariables raw order = .ok value ↔ Yields vars raw value := by
  classical
  obtain ⟨found, hexpands, hexpanded, hanswer⟩ := hflat.answer hacyclic horder
  have hsame : ∀ {other : String}, Yields vars raw other → other = found := fun hyields =>
    String.toList_inj.mp
      (hflat.expanded_unique hyields.expands hexpands hyields.expanded hexpanded)
  rw [hanswer]
  by_cases htoken : HasToken found.toList
  · -- No text without tokens is reached, so there is one variable, and its pass is spent.
    have hnone : ¬ Yields vars raw value := fun hyields =>
      hyields.tokenFree (hsame hyields ▸ htoken)
    refine iff_of_false ?_ hnone
    rcases hwhen with ⟨other, hyields⟩ | ⟨key, word, hentries, hin⟩
    · exact absurd htoken (hsame hyields ▸ hyields.tokenFree)
    · rw [if_pos ⟨hflat.not_still_of_single hacyclic horder hentries hin, htoken⟩]
      exact nofun
  · rw [if_neg fun h => htoken h.2]
    constructor
    · intro h
      obtain rfl := Except.ok.inj h
      exact ⟨hexpands, hexpanded, htoken⟩
    · intro hyields
      rw [hsame hyields]

end Sound

def baseVariables : VariableMap := { entries := [("base", "root")], distinct := by decide }

/-- A variable whose value refers to itself, behind a directory. -/
def deepeningVariables : VariableMap :=
  { entries := [("base", "root/\x7bbase\x7d")], distinct := by decide }

def artifactPath : String := "\x7bbase\x7d/child"

def baseInPath : List Piece := .group "base".toList :: "/child".toList.map .plain

theorem clean_baseInPath : ∀ piece ∈ baseInPath, Piece.Clean piece :=
  List.forall_mem_cons.mpr ⟨⟨by decide, by decide⟩, clean_map_plain (by decide)⟩

theorem flat_artifactPath {vars : VariableMap} {value : String}
    (hentries : vars.entries = [("base", value)]) (hvalue : Closed value) :
    Flat vars artifactPath where
  names := by
    intro entry hentry
    obtain rfl := List.mem_singleton.mp (hentries ▸ hentry)
    show '}' ∉ "base".toList
    decide
  values := by
    intro entry hentry
    obtain rfl := List.mem_singleton.mp (hentries ▸ hentry)
    exact hvalue
  raw := ⟨baseInPath, [], clean_baseInPath, by decide, rfl⟩

theorem acyclic_baseVariables : Acyclic baseVariables := by
  intro a hcycle
  obtain ⟨b, ⟨value, hentry, hin⟩, -⟩ := TransGen.head'_iff.mp hcycle
  obtain ⟨rfl, rfl⟩ := Prod.mk.inj (List.mem_singleton.mp hentry)
  exact absurd (hin.subset (mem_braced_close b.toList)) (by decide)

theorem not_handsOn_deepening : ¬ HandsOn deepeningVariables "base" := by
  intro ⟨value, b, before, after, hentry, hb, hsplit, hbefore, _⟩
  obtain ⟨-, rfl⟩ := Prod.mk.inj (List.mem_singleton.mp hentry)
  obtain rfl : b = "base" := List.mem_singleton.mp hb
  rcases hbefore.cases_head with rfl | ⟨next, hstep, -⟩
  · have hhead : some 'r' = some '{' := congrArg List.head? hsplit
    exact absurd hhead (by decide)
  · obtain ⟨hkey, left, right⟩ := hstep
    obtain ⟨rfl, rfl⟩ := Prod.mk.inj (List.mem_singleton.mp hkey)
    have hlength := congrArg List.length hsplit
    simp [braced] at hlength
    omega

/-- A path with a token that no variable stands for. -/
def missingPath : String := "\x7bmissing\x7d"

end Luther.Tokens
