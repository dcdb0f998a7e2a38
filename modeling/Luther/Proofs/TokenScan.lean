/-
What the four places that look for a token find, and what they miss.

Three of them pair an opening brace with the next closing one and go on behind it, so they see a
token only as a brace group of its own; a brace opened before it swallows it.  The one for the
arguments of a command goes on just behind the opening brace and misses nothing.
-/
import Luther.Workflow.Tokens

namespace Luther.Tokens

open Braces Search

/-! ### Identifiers -/

/-- An ASCII letter or underscore, followed by ASCII letters, digits and underscores. -/
def isIdentifier : List Char → Bool
  | [] => false
  | head :: tail => validTokenHead head && tail.all validTokenTailByte

/-- The text contains an identifier in braces. -/
def ContainsIdentifier (text : String) : Prop :=
  ∃ name, isIdentifier name = true ∧ braced name <:+: text.toList

variable {c : Char} {name text : List Char}

theorem isConfigTokenByte_of_tail (h : validTokenTailByte c) : isConfigTokenByte c = true := by
  unfold isConfigTokenByte
  unfold validTokenTailByte at h
  rw [h, Bool.true_or]

theorem validTokenTailByte_of_head (h : validTokenHead c) : validTokenTailByte c = true := by
  unfold validTokenTailByte Char.isAlphanum
  unfold validTokenHead at h
  rcases Bool.or_eq_true_iff.mp h with hunderscore | halpha
  · rw [hunderscore, Bool.or_true]
  · rw [halpha, Bool.true_or, Bool.true_or]

theorem tail_of_identifier (h : isIdentifier name) : ∀ c ∈ name, validTokenTailByte c = true := by
  intro c hc
  cases name with
  | nil => cases hc
  | cons head tail =>
    rw [isIdentifier, Bool.and_eq_true] at h
    rcases List.mem_cons.mp hc with rfl | htail
    · exact validTokenTailByte_of_head h.1
    · exact List.all_eq_true.mp h.2 c htail

theorem isConfigTokenName_of_identifier (h : isIdentifier name) :
    isConfigTokenName name = true := by
  unfold isConfigTokenName
  rw [Bool.and_eq_true, List.all_eq_true]
  refine ⟨?_, fun c hc => isConfigTokenByte_of_tail (tail_of_identifier h c hc)⟩
  cases name with
  | nil => cases h
  | cons head tail => rfl

theorem close_notMem_of_name (h : isConfigTokenName name) : '}' ∉ name := by
  intro hmem
  rw [isConfigTokenName, Bool.and_eq_true] at h
  exact absurd (List.all_eq_true.mp h.2 _ hmem) (by decide)

theorem close_notMem_of_identifier (h : isIdentifier name) : '}' ∉ name :=
  close_notMem_of_name (isConfigTokenName_of_identifier h)

theorem not_blank_of_tail (h : validTokenTailByte c) : isWhitespace c = false := by
  unfold validTokenTailByte at h
  rcases Bool.or_eq_true_iff.mp h with halphanum | hunderscore
  · exact isWhitespace_of_isAlphanum halphanum
  · rw [eq_of_beq hunderscore]
    decide

theorem trim_of_identifier (h : isIdentifier name) :
    trim (String.ofList name) = String.ofList name := by
  refine trim_of_no_blank ?_
  intro c hc
  rw [String.toList_ofList] at hc
  exact not_blank_of_tail (tail_of_identifier h c hc)

theorem unresolvedVariableToken_isSome (token : String) :
    (unresolvedVariableToken token).isSome = isIdentifier token.toList := by
  unfold unresolvedVariableToken isIdentifier
  cases token.toList with
  | nil => rfl
  | cons head tail =>
    show (if (validTokenHead head && tail.all validTokenTailByte) = true then some token
      else none).isSome = (validTokenHead head && tail.all validTokenTailByte)
    by_cases h : (validTokenHead head && tail.all validTokenTailByte) = true
    · rw [if_pos h, h]
      rfl
    · rw [if_neg h, Bool.eq_false_iff.mpr h]
      rfl

/-! ### What each scanner finds -/

theorem groups_split {after : List Char} (h : Search.splitFirst ['}'] text = some (name, after)) :
    groups ('{' :: text) = name :: groups after := by
  obtain ⟨hname, rfl⟩ := splitFirst_singleton h
  exact groups_open hname after

theorem groups_unclosed (h : Search.splitFirst ['}'] text = none) :
    groups ('{' :: text) = [] := by
  refine groups_of_no_close ?_
  simpa using notMem_of_splitFirst h

/-- **A token of an artifact path is found exactly as a group of its own.** -/
theorem hasUnresolvedConfigToken_iff (text : List Char) :
    hasUnresolvedConfigToken text = true ↔
      ∃ group ∈ groups text, isConfigTokenName group = true := by
  induction text using hasUnresolvedConfigToken.induct with
  | case1 => simp [hasUnresolvedConfigToken]
  | case2 c rest hc ih => rw [hasUnresolvedConfigToken, if_pos hc, ih, groups_skip hc]
  | case3 c rest hc hnone ih =>
    obtain rfl : c = '{' := not_not.mp hc
    have hrest : groups rest = [] := groups_of_no_close (notMem_of_splitFirst hnone)
    rw [hasUnresolvedConfigToken, if_neg hc, hnone, groups_unclosed hnone, ← hrest]
    exact ih
  | case4 c rest hc token after hsome hname =>
    obtain rfl : c = '{' := not_not.mp hc
    rw [hasUnresolvedConfigToken, if_neg hc, hsome, groups_split hsome]
    simp [hname]
  | case5 c rest hc token after hsome hname ih =>
    obtain rfl : c = '{' := not_not.mp hc
    rw [hasUnresolvedConfigToken, if_neg hc, hsome, groups_split hsome]
    simp [hname, ih]

/-- What a group is to the scanner of the profile. -/
def trimsToIdentifier (group : List Char) : Bool :=
  isIdentifier (trim (String.ofList group)).toList

theorem trimsToIdentifier_of_identifier (h : isIdentifier name) :
    trimsToIdentifier name = true := by
  rw [trimsToIdentifier, trim_of_identifier h, String.toList_ofList, h]

theorem groups_from_open {before after : List Char}
    (h : Search.splitFirst ['{'] text = some (before, after)) :
    groups text = groups ('{' :: after) := by
  obtain ⟨hbefore, rfl⟩ := splitFirst_singleton h
  exact groups_append_skip hbefore _

theorem groups_of_no_open (h : '{' ∉ text) : groups text = [] := by
  rw [← List.append_nil text, groups_append_skip h, groups_nil]

/-- **A token of a profile value is found exactly as a group of its own, blanks aside.** -/
theorem unresolvedTokens_nonempty_iff (text : List Char) :
    (unresolvedTokens text).Nonempty ↔ ∃ group ∈ groups text, trimsToIdentifier group = true := by
  induction text using unresolvedTokens.induct with
  | case1 text hnone =>
    rw [unresolvedTokens, hnone, groups_of_no_open (notMem_of_splitFirst hnone)]
    simp
  | case2 text before after hstart hnone =>
    rw [unresolvedTokens, hstart, groups_from_open hstart, groups_unclosed hnone]
    dsimp only
    rw [hnone]
    simp
  | case3 text before after hstart token remaining hend name hname ih =>
    have hfound : trimsToIdentifier token = true := by
      rw [trimsToIdentifier, ← unresolvedVariableToken_isSome, hname]
      rfl
    rw [unresolvedTokens, hstart, groups_from_open hstart, groups_split hend]
    dsimp only
    rw [hend]
    simp [hname, hfound]
  | case4 text before after hstart token remaining hend hname ih =>
    have hmissed : trimsToIdentifier token = false := by
      rw [trimsToIdentifier, ← unresolvedVariableToken_isSome, hname]
      rfl
    rw [unresolvedTokens, hstart, groups_from_open hstart, groups_split hend]
    dsimp only
    rw [hend]
    simp [hname, hmissed, ih]

/-- **A token of an argument is found wherever it stands.** -/
theorem unresolvedTemplateToken_isSome_iff (text : List Char) :
    (unresolvedTemplateToken text).isSome = true ↔
      ∃ name, isConfigTokenName name = true ∧ braced name <:+: text := by
  induction text using unresolvedTemplateToken.induct with
  | case1 text hnone =>
    rw [unresolvedTemplateToken, hnone]
    refine iff_of_false (by simp) ?_
    intro ⟨name, _, hin⟩
    exact notMem_of_splitFirst hnone (hin.subset List.mem_cons_self)
  | case2 text before after hstart hnone =>
    obtain ⟨hbefore, rfl⟩ := splitFirst_singleton hstart
    rw [unresolvedTemplateToken, hstart]
    refine iff_of_false (by simp [hnone]) ?_
    intro ⟨name, _, hin⟩
    have hafter := (infix_append_iff_of_head hbefore _).mp hin
    refine notMem_of_splitFirst hnone ?_
    simpa using hafter.subset (mem_braced_close name)
  | case3 text before after hstart candidate behind hend hname =>
    obtain ⟨hbefore, rfl⟩ := splitFirst_singleton hstart
    obtain ⟨hcandidate, rfl⟩ := splitFirst_singleton hend
    rw [unresolvedTemplateToken, hstart]
    refine iff_of_true (by simp [hend, hname]) ⟨candidate, hname, ?_⟩
    exact ⟨before, behind, by simp [braced]⟩
  | case4 text before after hstart candidate behind hend hname ih =>
    obtain ⟨hbefore, rfl⟩ := splitFirst_singleton hstart
    rw [unresolvedTemplateToken, hstart]
    simp only [hend, if_neg hname]
    rw [ih]
    refine exists_congr fun name => and_congr_right fun hvalid => ?_
    refine Iff.trans ?_ (infix_append_iff_of_head hbefore _).symm
    refine ((or_iff_right ?_).symm.trans List.infix_cons_iff.symm)
    -- Here the name would be the candidate, which is none.
    intro hhere
    obtain ⟨hcandidate, rfl⟩ := splitFirst_singleton hend
    have hsame := eq_of_closed (close_notMem_of_name hvalid) hcandidate
      (List.cons_prefix_cons.mp hhere).2
    exact hname (hsame ▸ hvalid)

theorem hasUnresolvedToken_of_group {group : List Char} (hgroup : group ∈ groups text)
    (hname : isConfigTokenName group) : hasUnresolvedToken text = true := by
  induction text using hasUnresolvedToken.induct with
  | case1 => simp at hgroup
  | case2 rest hnone => rw [hasUnresolvedToken, if_pos rfl, hnone]
  | case3 rest token after hsome htoken =>
    rw [hasUnresolvedToken, if_pos rfl, hsome]
    exact if_pos htoken
  | case4 rest token after hsome htoken ih =>
    rw [groups_split hsome, List.mem_cons] at hgroup
    rw [hasUnresolvedToken, if_pos rfl, hsome]
    refine (if_neg htoken).trans (ih (hgroup.resolve_left ?_))
    intro hsame
    exact htoken (hsame ▸ hname)
  | case5 c rest hc ih =>
    rw [groups_skip hc] at hgroup
    rw [hasUnresolvedToken, if_neg hc]
    exact ih hgroup

theorem hasUnresolvedToken_of_no_open (h : '{' ∉ text) :
    hasUnresolvedToken text = false := by
  induction text with
  | nil => rw [hasUnresolvedToken]
  | cons c rest ih =>
    rw [List.mem_cons, not_or] at h
    rw [hasUnresolvedToken, if_neg (Ne.symm h.1), ih h.2]

/-! ### Where the four agree -/

theorem reports_of_identifier_group {text : String} {group : List Char}
    (hgroup : group ∈ groups text.toList) (hname : isIdentifier group)
    (scanner : Scanner) : scanner.reports text = true := by
  have hconfig := isConfigTokenName_of_identifier hname
  cases scanner with
  | configTokens => exact (hasUnresolvedConfigToken_iff _).mpr ⟨group, hgroup, hconfig⟩
  | targetProfile =>
    refine decide_eq_true ((unresolvedTokens_nonempty_iff _).mpr ⟨group, hgroup, ?_⟩)
    exact trimsToIdentifier_of_identifier hname
  | commandManifest =>
    refine (unresolvedTemplateToken_isSome_iff _).mpr ⟨group, hconfig, ?_⟩
    exact infix_of_mem_groups hgroup
  | markerParse => exact hasUnresolvedToken_of_group hgroup hconfig

theorem reports_of_no_open {text : String} (h : '{' ∉ text.toList) (scanner : Scanner) :
    scanner.reports text = false := by
  have hnone := groups_of_no_open h
  refine Bool.eq_false_iff.mpr fun hreports => ?_
  cases scanner with
  | configTokens =>
    obtain ⟨group, hgroup, _⟩ := (hasUnresolvedConfigToken_iff _).mp hreports
    simp [hnone] at hgroup
  | targetProfile =>
    obtain ⟨group, hgroup, _⟩ :=
      (unresolvedTokens_nonempty_iff _).mp (of_decide_eq_true hreports)
    simp [hnone] at hgroup
  | commandManifest =>
    obtain ⟨name, _, hin⟩ := (unresolvedTemplateToken_isSome_iff _).mp hreports
    exact h (hin.subset List.mem_cons_self)
  | markerParse =>
    rw [Scanner.reports, hasUnresolvedToken_of_no_open h] at hreports
    cases hreports

/-- The only braces of the text are those of identifiers. -/
def OnlyIdentifiers (text : String) : Prop :=
  Tokened (fun name => isIdentifier name = true) text.toList

/-- **On a text whose only braces are those of identifiers, the four agree.** -/
theorem scanners_agree {text : String} (h : OnlyIdentifiers text) (scanner other : Scanner) :
    scanner.reports text = other.reports text := by
  have hclosed : ∀ name, isIdentifier name = true → '}' ∉ name :=
    fun name => close_notMem_of_identifier
  cases hgroups : groups text.toList with
  | nil =>
    have hopen := Tokened.closed hclosed h hgroups
    rw [reports_of_no_open hopen, reports_of_no_open hopen]
  | cons group others =>
    have hgroup : group ∈ groups text.toList := hgroups ▸ List.mem_cons_self
    have hname := Tokened.groups_forall hclosed h group hgroup
    rw [reports_of_identifier_group hgroup hname, reports_of_identifier_group hgroup hname]

/-! ### What is missed -/

/-- Each place reports a text with an identifier in braces, and on a text with no other braces
all of them say the same. -/
def TokensReported (text : String) : Prop :=
  (ContainsIdentifier text → ∀ scanner : Scanner, scanner.reports text = true) ∧
    (OnlyIdentifiers text → ∀ scanner other : Scanner, scanner.reports text = other.reports text)

/-- Some brace group of the text is a token to the scanner of artifact paths, and some is one
to the scanner of the profile. -/
def GroupsShowToken (text : String) : Prop :=
  (∃ group ∈ groups text.toList, isConfigTokenName group = true) ∧
    ∃ group ∈ groups text.toList, trimsToIdentifier group = true

/-- **Every place reports an identifier in braces exactly where no brace before it hides it.** -/
theorem tokensReported_iff (text : String) :
    TokensReported text ↔ (ContainsIdentifier text → GroupsShowToken text) := by
  unfold TokensReported
  rw [and_iff_left scanners_agree]
  refine forall_congr' fun hcontains => ?_
  constructor
  · intro hall
    refine ⟨(hasUnresolvedConfigToken_iff _).mp (hall .configTokens), ?_⟩
    exact (unresolvedTokens_nonempty_iff _).mp (of_decide_eq_true (hall .targetProfile))
  · intro ⟨⟨group, hgroup, hname⟩, hprofile⟩ scanner
    cases scanner with
    | configTokens => exact (hasUnresolvedConfigToken_iff _).mpr ⟨group, hgroup, hname⟩
    | targetProfile => exact decide_eq_true ((unresolvedTokens_nonempty_iff _).mpr hprofile)
    | commandManifest =>
      obtain ⟨name, hidentifier, hin⟩ := hcontains
      refine (unresolvedTemplateToken_isSome_iff _).mpr ⟨name, ?_, hin⟩
      exact isConfigTokenName_of_identifier hidentifier
    | markerParse => exact hasUnresolvedToken_of_group hgroup hname

/-- A token behind a brace that nothing else closes. -/
def hiddenToken : String := "\x7bbroken \x7bmissing\x7d"

/-- The brace in front takes the closing brace of the token. -/
theorem hiddenToken_not_reported : ¬ TokensReported hiddenToken := by
  intro ⟨hreported, _⟩
  have hcontains : ContainsIdentifier hiddenToken :=
    ⟨"missing".toList, rfl, "\x7bbroken ".toList, [], rfl⟩
  have hfound := (hasUnresolvedConfigToken_iff _).mp (hreported hcontains .configTokens)
  have hgroups : groups hiddenToken.toList = ["broken \x7bmissing".toList] := rfl
  rw [hgroups] at hfound
  exact absurd hfound (by decide)

end Luther.Tokens
