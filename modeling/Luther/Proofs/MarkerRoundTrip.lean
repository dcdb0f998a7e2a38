/-
A posted comment is recognised again.

The marker of a comment is written as words between two delimiters, and read back by the same
words and delimiters.  Both sides agree as long as the texts that are written are words and
hold no delimiter: `markerText` says so of one text.  Where a text is none, the comment is not
read back as the marker of its action, and this is shown too: the words that are read have no
blanks, a closing delimiter cuts the marker before its last field, and an opening one is refused.
-/
import Luther.Feedback.Marker

namespace Luther

open Search Sql

/-! ### The visible text holds no opening delimiter -/

theorem harmless_opening : Harmless "<!--".toList "&lt;!--".toList "<!--".toList where
  length_le := by decide
  inside := by decide
  opening := by decide
  closing := by decide

theorem harmless_closing : Harmless "-->".toList "--&gt;".toList "<!--".toList where
  length_le := by decide
  inside := by decide
  opening := by decide
  closing := by decide

/-- **A sanitized text opens no comment.** -/
theorem sanitizeVisibleText_opening (text : String) :
    ¬ "<!--".toList <:+: (sanitizeVisibleText text).toList := by
  unfold sanitizeVisibleText
  rw [toList_replaceText]
  refine not_infix_replace (by decide) (by decide) harmless_closing ?_
  intro rest hrest hopen
  refine absurd (hopen.isInfix.trans hrest.isInfix) ?_
  rw [toList_replaceText]
  refine not_infix_replace (by decide) (by decide) harmless_opening ?_
  exact fun rest _ hopen => hopen

theorem harmless_closed : Harmless "-->".toList "--&gt;".toList "-->".toList where
  length_le := by decide
  inside := by decide
  opening := by decide
  closing := by decide

theorem sanitizeVisibleText_closing (text : String) :
    ¬ "-->".toList <:+: (sanitizeVisibleText text).toList := by
  unfold sanitizeVisibleText
  rw [toList_replaceText]
  refine not_infix_replace (by decide) (by decide) harmless_closed ?_
  exact fun rest _ hclose => hclose

theorem renderDefaultMarkerVisible_shape (action : PendingMarkerAction) :
    ∃ opening closing, (renderDefaultMarkerVisible action).toList
        = opening ++ '\u0060' :: (action.stableMarkerKey.toList
          ++ '\u0060' :: (closing ++ ' ' :: ((sanitizeVisibleText action.reason).toList ++ ['.'])))
      ∧ ¬ "<!--".toList <:+: opening ∧ ¬ "<!--".toList <:+: closing
      ∧ ¬ "-->".toList <:+: closing := by
  cases hkind : action.actionKind with
  | commentFixed =>
    refine ⟨"Luther follow-up: fixed CodeRabbit feedback ".toList, ". Evidence:".toList,
      ?_, by decide, by decide, by decide⟩
    simp [renderDefaultMarkerVisible, hkind]
  | commentOutOfScope =>
    refine ⟨"Luther follow-up: CodeRabbit feedback ".toList, " is out of scope. Reason:".toList,
      ?_, by decide, by decide, by decide⟩
    simp [renderDefaultMarkerVisible, hkind]
  | commentNeedsUserJudgment =>
    refine ⟨"Luther follow-up: CodeRabbit feedback ".toList,
      " needs user judgment. Reason:".toList, ?_, by decide, by decide, by decide⟩
    simp [renderDefaultMarkerVisible, hkind]
  | commentInvalid | skipNeedsUserJudgment =>
    refine ⟨"Luther follow-up: CodeRabbit feedback ".toList, " is not valid. Reason:".toList,
      ?_, by decide, by decide, by decide⟩
    simp [renderDefaultMarkerVisible, hkind]

variable {action : PendingMarkerAction} {fields : List (String × String)} {inner : List Char}
  {marker : RemoteFeedbackMarker}

/-- **A visible text opens a comment only within the key of a default text**, and then the text
behind the key closes none. -/
theorem renderMarkerVisible_opening (h : "<!--".toList <:+: (renderMarkerVisible action).toList) :
    ∃ before after, (renderMarkerVisible action).toList
        = before ++ '\u0060' :: (action.stableMarkerKey.toList ++ '\u0060' :: after)
      ∧ "<!--".toList <:+: action.stableMarkerKey.toList
      ∧ ¬ "<!--".toList <:+: before ∧ ¬ "-->".toList <:+: after := by
  unfold renderMarkerVisible at h ⊢
  cases hanswer : (action.responseText.map trim).filter (· ≠ "") with
  | some text =>
    rw [hanswer] at h
    exact absurd h (sanitizeVisibleText_opening text)
  | none =>
    rw [hanswer] at h
    dsimp only at h ⊢
    obtain ⟨opening, closing, hshape, hopening, hclosing, hclosed⟩ :=
      renderDefaultMarkerVisible_shape action
    refine ⟨opening, _, hshape, ?_, hopening, ?_⟩
    · rw [hshape, infix_append_cons_iff (by decide), infix_append_cons_iff (by decide),
        infix_append_cons_iff (by decide), infix_append_cons_iff (by decide)] at h
      rcases h with h | h | h | h | h
      · exact absurd h hopening
      · exact h
      · exact absurd h hclosing
      · exact absurd h (sanitizeVisibleText_opening _)
      · simp at h
    · rw [infix_append_cons_iff (by decide), infix_append_cons_iff (by decide)]
      rintro (h | h | h)
      · exact hclosed h
      · exact sanitizeVisibleText_closing _ h
      · simp at h

/-! ### The fields of a marker -/

/-- The fields of the marker of an action, in their order. -/
def markerFields (binding : PrFollowupBinding) (action : PendingMarkerAction) :
    List (String × String) :=
  [("marker_key", action.stableMarkerKey), ("source_head", action.sourceHeadSha),
    ("remediation_output_head", action.remediationOutputHead), ("body", action.bodyHash),
    ("action", action.actionKind.text), ("run_id", binding.runId)]

def fieldWord (field : String × String) : List Char := field.1.toList ++ '=' :: field.2.toList

def fieldsText (fields : List (String × String)) : List Char :=
  fields.flatMap fun field => fieldWord field ++ [' ']

@[simp] theorem fieldsText_cons (field : String × String) (fields : List (String × String)) :
    fieldsText (field :: fields) = fieldWord field ++ ' ' :: fieldsText fields := by
  simp [fieldsText]

@[simp] theorem fieldsText_append (fields others : List (String × String)) :
    fieldsText (fields ++ others) = fieldsText fields ++ fieldsText others := by
  simp [fieldsText]

/-- What opens the hidden marker of every action. -/
def markerOpening : List Char := ' ' :: (markerNamespace.toList ++ [' '])

/-- **A hidden marker is its fields between the delimiters.** -/
theorem toList_renderHiddenMarker (binding : PrFollowupBinding) (action : PendingMarkerAction) :
    (renderHiddenMarker binding action).toList
      = "<!--".toList ++ (markerOpening ++ fieldsText (markerFields binding action))
        ++ "-->".toList := by
  have hopen : "<!-- ".toList = "<!--".toList ++ [' '] := by decide
  have hkey : " marker_key=".toList = ' ' :: ("marker_key".toList ++ ['=']) := by decide
  have hsource : " source_head=".toList = ' ' :: ("source_head".toList ++ ['=']) := by decide
  have houtput : " remediation_output_head=".toList
      = ' ' :: ("remediation_output_head".toList ++ ['=']) := by decide
  have hbody : " body=".toList = ' ' :: ("body".toList ++ ['=']) := by decide
  have haction : " action=".toList = ' ' :: ("action".toList ++ ['=']) := by decide
  have hrun : " run_id=".toList = ' ' :: ("run_id".toList ++ ['=']) := by decide
  have hclose : " -->".toList = ' ' :: "-->".toList := by decide
  have hnil : fieldsText [] = [] := rfl
  unfold renderHiddenMarker markerOpening markerFields
  simp only [fieldsText_cons, fieldWord, String.toList_append]
  rw [hopen, hkey, hsource, houtput, hbody, haction, hrun, hclose, hnil]
  simp only [List.append_assoc, List.cons_append, List.nil_append]

theorem infix_fieldsText_append_iff {pattern : List Char} (hblank : ' ' ∉ pattern)
    (heq : '=' ∉ pattern) (hnames : ∀ field ∈ fields, ¬ pattern <:+: field.1.toList)
    (rest : List Char) :
    pattern <:+: fieldsText fields ++ rest
      ↔ (∃ field ∈ fields, pattern <:+: field.2.toList) ∨ pattern <:+: rest := by
  induction fields with
  | nil => simp [fieldsText]
  | cons field fields ih =>
    have hname := hnames field List.mem_cons_self
    have hih := ih fun f hf => hnames f (List.mem_cons_of_mem _ hf)
    have hshape : fieldsText (field :: fields) ++ rest
        = field.1.toList ++ '=' :: (field.2.toList ++ ' ' :: (fieldsText fields ++ rest)) := by
      simp [fieldWord]
    rw [hshape, infix_append_cons_iff heq, infix_append_cons_iff hblank, hih,
      or_iff_right hname, ← or_assoc]
    simp only [List.mem_cons, exists_eq_or_imp]

theorem words_fieldsText_append
    (h : ∀ field ∈ fields, ∀ c ∈ fieldWord field, isWhitespace c = false) (rest : List Char) :
    words isWhitespace (fieldsText fields ++ rest)
      = fields.map fieldWord ++ words isWhitespace rest := by
  induction fields with
  | nil => simp [fieldsText]
  | cons field fields ih =>
    have hih := ih fun f hf => h f (List.mem_cons_of_mem _ hf)
    have hne : fieldWord field ≠ [] := by simp [fieldWord]
    rw [fieldsText_cons, List.append_assoc, List.cons_append,
      words_word_append hne (h field List.mem_cons_self) (by decide), hih]
    rfl

/-! ### What the parser reads between the delimiters -/

theorem trim_ofList_of_ends {first last : Char} {middle : List Char}
    (hfirst : isWhitespace first = false) (hlast : isWhitespace last = false) :
    trim (String.ofList (first :: (middle ++ [last])))
      = String.ofList (first :: (middle ++ [last])) := by
  unfold trim
  rw [String.toList_ofList, List.dropWhile_cons_of_neg (by simp [hfirst]), ← List.cons_append,
    List.rdropWhile_concat_neg _ _ _ (by simp [hlast])]

section

variable (inner : List Char)

/-- The words behind the namespace in what stands between the delimiters. -/
def hiddenWords : List String :=
  (words isWhitespace ((trim (String.ofList inner)).toList.drop markerNamespace.length)).map
    String.ofList

/-- The text of a hidden marker, with what stands between its delimiters. -/
def hiddenText : String :=
  String.ofList ("<!--".toList ++ inner ++ "-->".toList)

theorem toList_hiddenText :
    (hiddenText inner).toList = "<!--".toList ++ inner ++ "-->".toList := String.toList_ofList

theorem length_hiddenText : (hiddenText inner).length = inner.length + 7 := by
  have hfour : "<!--".toList.length = 4 := by decide
  have hthree : "-->".toList.length = 3 := by decide
  rw [← String.length_toList, toList_hiddenText, List.length_append, List.length_append, hfour,
    hthree]
  omega

theorem trim_hiddenText : trim (hiddenText inner) = hiddenText inner := by
  have hsplit : "<!--".toList ++ inner ++ "-->".toList
      = '<' :: (("!--".toList ++ inner ++ "--".toList) ++ ['>']) := by
    have hopen : "<!--".toList = '<' :: "!--".toList := by decide
    have hclose : "-->".toList = "--".toList ++ ['>'] := by decide
    rw [hopen, hclose]
    simp only [List.append_assoc, List.cons_append]
  unfold hiddenText
  rw [hsplit]
  exact trim_ofList_of_ends (by decide) (by decide)

theorem slice_hiddenText :
    ((hiddenText inner).toList.take ((hiddenText inner).length - 3)).drop 4 = inner := by
  have hfour : "<!--".toList.length = 4 := by decide
  have hleft : ("<!--".toList ++ inner).length = inner.length + 7 - 3 := by
    rw [List.length_append, hfour]
    omega
  rw [length_hiddenText, toList_hiddenText, ← hleft, List.take_left, ← hfour, List.drop_left]

end

/-- **What the parser takes for a marker** is what stands between the delimiters, without the
blanks around it, where no delimiter stands in it and the namespace opens it. -/
theorem extractExactMarkerBody_hiddenText_eq_ok {marker : String} :
    extractExactMarkerBody (hiddenText inner) = .ok marker
      ↔ ¬ "<!--".toList <:+: inner ∧ ¬ "-->".toList <:+: inner
        ∧ startsWith (trim (String.ofList inner)) markerNamespace = true
        ∧ marker = trim (String.ofList inner) := by
  have hopens : startsWith (hiddenText inner) "<!--" = true := by
    unfold startsWith
    rw [toList_hiddenText, List.isPrefixOf_iff_prefix, List.append_assoc]
    exact List.prefix_append _ _
  have hcloses : "-->".toList.isSuffixOf (hiddenText inner).toList = true := by
    rw [toList_hiddenText, List.isSuffixOf_iff_suffix]
    exact List.suffix_append _ _
  have hlong : ¬ (hiddenText inner).length < 7 := by
    rw [length_hiddenText]
    omega
  unfold extractExactMarkerBody
  dsimp only
  rw [trim_hiddenText, hopens, hcloses, slice_hiddenText]
  rw [if_neg (by decide), if_neg hlong]
  have hcontains : ∀ pattern : String,
      containsText (String.ofList inner) pattern = true ↔ pattern.toList <:+: inner := by
    intro pattern
    unfold containsText
    rw [String.toList_ofList, decide_eq_true_iff]
  by_cases hnested : (containsText (String.ofList inner) "<!--"
      || containsText (String.ofList inner) "-->") = true
  · rw [if_pos hnested]
    rw [Bool.or_eq_true, hcontains, hcontains] at hnested
    constructor
    · intro h
      cases h
    · rintro ⟨hopen, hclose, -⟩
      exact absurd hnested (not_or.mpr ⟨hopen, hclose⟩)
  · rw [if_neg hnested]
    rw [Bool.or_eq_true, hcontains, hcontains, not_or] at hnested
    by_cases hspace : startsWith (trim (String.ofList inner)) markerNamespace = true
    · rw [hspace, if_neg (by decide), Except.ok.injEq]
      exact ⟨fun h => ⟨hnested.1, hnested.2, rfl, h.symm⟩, fun h => h.2.2.2.symm⟩
    · rw [Bool.eq_false_iff.mpr hspace, if_pos (by decide)]
      constructor
      · intro h
        cases h
      · rintro ⟨-, -, h, -⟩
        cases h

theorem splitWhitespace_trim (text : String) :
    splitWhitespace (trim text) = (words isWhitespace text.toList).map String.ofList := by
  unfold splitWhitespace
  rw [toList_trim, words_trim]

theorem parseMarkerWords_eq_ok
    (h : startsWith (trim (String.ofList inner)) markerNamespace) :
    parseMarkerWords (trim (String.ofList inner)) = .ok marker
      ↔ ∃ map, readMarkerFields (hiddenWords inner) [] = .ok map
        ∧ markerFromFields map = .ok marker := by
  unfold parseMarkerWords stripPrefix
  rw [if_pos h]
  dsimp only
  have hwords : splitWhitespace (trim (String.ofList
      ((trim (String.ofList inner)).toList.drop markerNamespace.length))) = hiddenWords inner := by
    rw [splitWhitespace_trim, String.toList_ofList]
    rfl
  rw [hwords]
  by_cases hempty : trim (String.ofList
      ((trim (String.ofList inner)).toList.drop markerNamespace.length)) = ""
  · rw [hempty] at hwords
    have hnone : hiddenWords inner = [] := hwords.symm.trans (by decide)
    rw [if_pos hempty, hnone]
    constructor
    · intro h
      cases h
    · rintro ⟨map, hmap, hmarker⟩
      obtain rfl : [] = map := Except.ok.inj hmap
      cases hmarker
  · rw [if_neg hempty]
    exact bind_ok

/-- **A hidden marker is read exactly where no delimiter stands in it**, the namespace opens it,
and the words behind the namespace are its fields. -/
theorem parseHiddenMarker_eq_ok :
    parseHiddenMarker (hiddenText inner) = .ok marker
      ↔ ¬ "<!--".toList <:+: inner ∧ ¬ "-->".toList <:+: inner
        ∧ startsWith (trim (String.ofList inner)) markerNamespace = true
        ∧ ∃ map, readMarkerFields (hiddenWords inner) [] = .ok map
          ∧ markerFromFields map = .ok marker := by
  unfold parseHiddenMarker
  rw [bind_ok]
  constructor
  · rintro ⟨body, hbody, hmarker⟩
    obtain ⟨hopen, hclose, hspace, htrim⟩ := extractExactMarkerBody_hiddenText_eq_ok.mp hbody
    rw [htrim] at hmarker
    exact ⟨hopen, hclose, hspace, (parseMarkerWords_eq_ok hspace).mp hmarker⟩
  · rintro ⟨hopen, hclose, hspace, hmarker⟩
    exact ⟨_, extractExactMarkerBody_hiddenText_eq_ok.mpr ⟨hopen, hclose, hspace, rfl⟩,
      (parseMarkerWords_eq_ok hspace).mpr hmarker⟩

/-! ### Reading the fields -/

theorem findText_fieldWord {field : String × String} (h : '=' ∉ field.1.toList) :
    findText "=" (String.ofList (fieldWord field)) = some field := by
  have heq : "=".toList = ['='] := by decide
  have hnone : ¬ ['='] <:+: field.1.toList ++ ['='].dropLast := by
    rw [List.dropLast_singleton, List.append_nil, List.singleton_infix_iff]
    exact h
  have hsplit : splitFirst ['='] (fieldWord field) = some (field.1.toList, field.2.toList) := by
    have hword : fieldWord field = field.1.toList ++ ['='] ++ field.2.toList := by
      simp [fieldWord]
    rw [hword]
    exact splitFirst_append _ hnone
  unfold findText
  rw [heq, String.toList_ofList, hsplit]
  simp

variable {map : List (String × String)} {binding : PrFollowupBinding} {text bodyHash : String}

/-- **The fields that are read are the fields that were written**, unless one has no value. -/
theorem readMarkerFields_fields (hnames : ∀ field ∈ fields, field.1 ≠ "" ∧ '=' ∉ field.1.toList)
    (hnodup : (fields.map Prod.fst).Nodup) {acc : List (String × String)}
    (hacc : ∀ field ∈ fields, acc.lookup field.1 = none) :
    readMarkerFields (fields.map fun field => String.ofList (fieldWord field)) acc = .ok map
      ↔ (∀ field ∈ fields, field.2 ≠ "") ∧ map = fields.reverse ++ acc := by
  induction fields generalizing acc with
  | nil =>
    rw [List.map_nil, readMarkerFields, Except.ok.injEq]
    exact ⟨fun h => ⟨by simp, h.symm⟩, fun h => h.2.symm⟩
  | cons field fields ih =>
    obtain ⟨hne, heq⟩ := hnames field List.mem_cons_self
    obtain ⟨hfresh, hothers⟩ := List.nodup_cons.mp hnodup
    have hnone := hacc field List.mem_cons_self
    rw [List.map_cons, readMarkerFields, findText_fieldWord heq]
    obtain ⟨name, value⟩ := field
    dsimp only at hne hnone hfresh ⊢
    by_cases hvalue : value = ""
    · rw [if_pos (Or.inr hvalue)]
      constructor
      · intro h
        cases h
      · rintro ⟨h, -⟩
        exact absurd hvalue (h _ List.mem_cons_self)
    · have hrest : ∀ field ∈ fields, ((name, value) :: acc).lookup field.1 = none := by
        intro field hfield
        have hother : field.1 ≠ name := by
          rintro rfl
          exact hfresh (List.mem_map_of_mem hfield)
        rw [List.lookup_cons, beq_eq_false_iff_ne.mpr hother]
        exact hacc field (List.mem_cons_of_mem _ hfield)
      rw [if_neg (not_or.mpr ⟨hne, hvalue⟩), hnone, if_neg (by decide),
        ih (fun f hf => hnames f (List.mem_cons_of_mem _ hf)) hothers hrest]
      simp [hvalue]

/-- **The marker that the fields of an action give.** -/
theorem markerFromFields_eq_ok (h : markerFromFields map = .ok marker) :
    ∃ output, map.lookup "marker_key" = some marker.stableMarkerKey
      ∧ map.lookup "source_head" = some marker.sourceHeadSha
      ∧ map.lookup "remediation_output_head" = some output
      ∧ map.lookup "body" = some marker.bodyHash
      ∧ map.lookup "run_id" = some marker.runId
      ∧ map.lookup "action" = some marker.actionKind
      ∧ marker.remediationOutputHeadSha.getD noRemediationOutputHead = output := by
  have hrequired : ∀ {field value : String}, requiredMarkerField map field = .ok value →
      map.lookup field = some value := by
    intro field value hfield
    unfold requiredMarkerField at hfield
    cases hlookup : (map.lookup field).filter (· ≠ "") with
    | none =>
      rw [hlookup] at hfield
      cases hfield
    | some found =>
      rw [hlookup] at hfield
      obtain rfl : found = value := Except.ok.inj hfield
      exact (Option.filter_eq_some_iff.mp hlookup).1
  unfold markerFromFields at h
  obtain ⟨key, hkey, h⟩ := bind_ok.mp h
  obtain ⟨source, hsource, h⟩ := bind_ok.mp h
  obtain ⟨output, houtput, h⟩ := bind_ok.mp h
  obtain ⟨body, hbody, h⟩ := bind_ok.mp h
  obtain ⟨run, hrun, h⟩ := bind_ok.mp h
  obtain ⟨action, haction, h⟩ := bind_ok.mp h
  obtain rfl := Except.ok.inj h
  refine ⟨output, hrequired hkey, hrequired hsource, hrequired houtput, hrequired hbody,
    hrequired hrun, hrequired haction, ?_⟩
  dsimp only
  by_cases hnone : output = noRemediationOutputHead
  · simp [hnone]
  · simp [hnone]

/-! ### Where the parser finds the delimiters -/

theorem parseMarkerFromCommentBody_eq_ok {body : String} :
    parseMarkerFromCommentBody body = .ok marker
      ↔ ∃ before after inside rest,
        splitFirst "<!--".toList body.toList = some (before, after)
        ∧ splitFirst "-->".toList ("<!--".toList ++ after) = some (inside, rest)
        ∧ parseHiddenMarker (String.ofList (inside ++ "-->".toList)) = .ok marker := by
  unfold parseMarkerFromCommentBody findText
  cases hopen : splitFirst "<!--".toList body.toList with
  | none =>
    constructor
    · intro h
      cases h
    · rintro ⟨before, after, inside, rest, h, -⟩
      cases h
  | some found =>
    obtain ⟨before, after⟩ := found
    have hafter : ("<!--" ++ String.ofList after).toList = "<!--".toList ++ after := by
      rw [String.toList_append]
      exact congrArg _ String.toList_ofList
    dsimp only [Option.map_some]
    rw [hafter]
    cases hclose : splitFirst "-->".toList ("<!--".toList ++ after) with
    | none =>
      constructor
      · intro h
        cases h
      · rintro ⟨before', after', inside, rest, h, hfound, -⟩
        obtain ⟨rfl, rfl⟩ := Prod.mk.inj (Option.some.inj h)
        rw [hclose] at hfound
        cases hfound
    | some found =>
      obtain ⟨inside, rest⟩ := found
      have hinside : String.ofList inside ++ "-->"
          = String.ofList (inside ++ "-->".toList) := by
        rw [String.ofList_append, String.ofList_toList]
      dsimp only [Option.map_some]
      rw [hinside]
      constructor
      · intro h
        exact ⟨before, after, inside, rest, rfl, hclose, h⟩
      · rintro ⟨before', after', inside', rest', h, hfound, hmarker⟩
        obtain ⟨rfl, rfl⟩ := Prod.mk.inj (Option.some.inj h)
        rw [hclose] at hfound
        obtain ⟨rfl, rfl⟩ := Prod.mk.inj (Option.some.inj hfound)
        exact hmarker

theorem toList_renderMarkerCommentBody (binding : PrFollowupBinding)
    (action : PendingMarkerAction) :
    (renderMarkerCommentBody binding action).toList
      = ((renderMarkerVisible action).toList ++ ['\n', '\n']) ++ "<!--".toList
        ++ (markerOpening ++ fieldsText (markerFields binding action) ++ "-->".toList ++ ['\n']) := by
  have hblank : "\n\n".toList = ['\n', '\n'] := by decide
  have hend : "\n".toList = ['\n'] := by decide
  unfold renderMarkerCommentBody
  rw [String.toList_append, String.toList_append, String.toList_append, toList_renderHiddenMarker,
    hblank, hend]
  simp only [List.append_assoc]

theorem splitFirst_comment (h : ¬ "<!--".toList <:+: (renderMarkerVisible action).toList) :
    splitFirst "<!--".toList (renderMarkerCommentBody binding action).toList
      = some ((renderMarkerVisible action).toList ++ ['\n', '\n'],
        markerOpening ++ fieldsText (markerFields binding action) ++ "-->".toList ++ ['\n']) := by
  rw [toList_renderMarkerCommentBody]
  refine splitFirst_append _ ?_
  rw [List.append_assoc, List.cons_append, infix_append_cons_iff (by decide)]
  rintro (hin | hin)
  · exact h hin
  · exact absurd hin (by decide)

/-- **The hidden marker is cut at the first closing delimiter in its fields.** -/
theorem splitFirst_hidden {text : List Char} (rest : List Char)
    (h : ¬ "-->".toList <:+: text ++ "--".toList) :
    splitFirst "-->".toList ("<!--".toList ++ (markerOpening ++ text ++ "-->".toList ++ rest))
      = some ("<!--".toList ++ (markerOpening ++ text), rest) := by
  have hshape : "<!--".toList ++ (markerOpening ++ text ++ "-->".toList ++ rest)
      = "<!--".toList ++ (markerOpening ++ text) ++ "-->".toList ++ rest := by
    simp only [List.append_assoc]
  have hlast : "-->".toList.dropLast = "--".toList := by decide
  rw [hshape]
  refine splitFirst_append _ ?_
  unfold markerOpening
  rw [hlast, List.cons_append, List.append_assoc, List.cons_append, List.append_assoc,
    List.append_assoc, List.singleton_append, infix_append_cons_iff (by decide),
    infix_append_cons_iff (by decide)]
  rintro (hin | hin | hin)
  · exact absurd hin (by decide)
  · exact absurd hin (by decide)
  · exact h hin

theorem hiddenWords_markerOpening (text : List Char) :
    startsWith (trim (String.ofList (markerOpening ++ text))) markerNamespace = true
      ∧ hiddenWords (markerOpening ++ text) = (words isWhitespace text).map String.ofList := by
  have hspace : ∃ name last, markerNamespace.toList = name ++ [last] ∧ isWhitespace last = false
      ∧ (name ++ [last]).head? = some 'l' := by
    refine ⟨"luther-pr-followu".toList, 'p', ?_, ?_, ?_⟩ <;> decide
  obtain ⟨name, last, hname, hlast, hhead⟩ := hspace
  have htrim : (trim (String.ofList (markerOpening ++ text))).toList
      = markerNamespace.toList ++ (' ' :: text).rdropWhile isWhitespace := by
    have hstart : (markerOpening ++ text).dropWhile isWhitespace
        = name ++ [last] ++ ' ' :: text := by
      unfold markerOpening
      rw [hname, List.cons_append, List.dropWhile_cons_of_pos (by decide), List.append_assoc]
      cases hcase : name ++ [last] with
      | nil => simp at hcase
      | cons c others =>
        rw [hcase, List.head?_cons, Option.some.injEq] at hhead
        subst hhead
        rw [List.cons_append, List.dropWhile_cons_of_neg (by decide)]
        rfl
    rw [toList_trim, String.toList_ofList, hstart, rdropWhile_append_of_last hlast, hname]
  constructor
  · unfold startsWith
    rw [htrim, List.isPrefixOf_iff_prefix]
    exact List.prefix_append _ _
  · unfold hiddenWords
    rw [htrim, ← String.length_toList, List.drop_left, words_rdropWhile,
      words_blank_cons (by decide)]

/-! ### Texts that a marker can carry -/

def markerText (text : String) : Bool :=
  !text.toList.any isWhitespace && !containsText text "<!--" && !containsText text "-->"

theorem markerText_iff :
    markerText text = true ↔ (∀ c ∈ text.toList, isWhitespace c = false)
      ∧ ¬ "<!--".toList <:+: text.toList ∧ ¬ "-->".toList <:+: text.toList := by
  unfold markerText containsText
  rw [Bool.and_eq_true, Bool.and_eq_true, Bool.not_eq_true', Bool.not_eq_true',
    Bool.not_eq_true', decide_eq_false_iff_not, decide_eq_false_iff_not, List.any_eq_false, and_assoc]
  simp only [Bool.not_eq_true]

/-- **The texts that a marker can carry**: those of the action that were written by others, and the
name of the run, are words without a delimiter. -/
structure MarkerTexts (binding : PrFollowupBinding) (action : PendingMarkerAction) : Prop where
  stableMarkerKey : markerText action.stableMarkerKey = true
  sourceHeadSha : markerText action.sourceHeadSha = true
  remediationOutputHead : markerText action.remediationOutputHead = true
  runId : markerText binding.runId = true
  runId_ne : binding.runId ≠ ""

theorem markerText_of_forall
    (h : ∀ c ∈ text.toList, c.isAlphanum = true ∨ c = '-' ∨ c = '_' ∨ c = ':') :
    markerText text = true := by
  have hnot : ∀ c, isWhitespace c = true ∨ c = '!' ∨ c = '>' → c ∉ text.toList := by
    intro c hc hmem
    rcases h c hmem with hword | rfl | rfl | rfl
    · rcases hc with hblank | rfl | rfl
      · rw [isWhitespace_of_isAlphanum hword] at hblank
        exact Bool.false_ne_true hblank
      · exact absurd hword (by decide)
      · exact absurd hword (by decide)
    all_goals exact absurd hc (by decide)
  rw [markerText_iff]
  refine ⟨?_, ?_, ?_⟩
  · intro c hc
    exact Bool.eq_false_iff.mpr fun hblank => hnot c (Or.inl hblank) hc
  · intro hin
    exact hnot '!' (by simp) (hin.subset (by decide))
  · intro hin
    exact hnot '>' (by simp) (hin.subset (by decide))

theorem isAlphanum_of_hexDigit {c : Char} (h : isAsciiHexDigit c) : c.isAlphanum = true := by
  unfold isAsciiHexDigit at h
  simp only [Bool.or_eq_true, Bool.and_eq_true, decide_eq_true_eq, Char.le_def,
    UInt32.le_iff_toNat_le] at h
  rcases h with (hdigit | hlower) | hupper
  · unfold Char.isAlphanum
    rw [hdigit, Bool.or_true]
  · have hnumbers : 97 ≤ c.toNat ∧ c.toNat ≤ 102 := hlower
    exact isAlphanum_iff.mpr (by omega)
  · have hnumbers : 65 ≤ c.toNat ∧ c.toNat ≤ 70 := hupper
    exact isAlphanum_iff.mpr (by omega)

section

variable (h : validPendingBodyHashFormat bodyHash = true)

include h

/-- **What a body hash looks like**: an opening, and behind it no colon and nothing blank. -/
theorem bodyHash_shape :
    ∃ opening ∈ ["fnv64:", "hash-", "sha256:"], ∃ suffix : String,
      bodyHash.toList = opening.toList ++ suffix.toList
        ∧ ∀ c ∈ suffix.toList, c.isAlphanum = true ∨ c = '-' ∨ c = '_' := by
  unfold validPendingBodyHashFormat at h
  cases hfnv : stripPrefix "fnv64:" bodyHash with
  | some hex =>
    rw [hfnv] at h
    refine ⟨"fnv64:", by simp, hex, toList_of_stripPrefix hfnv, fun c hc => .inl ?_⟩
    exact isAlphanum_of_hexDigit (List.all_eq_true.mp (Bool.and_eq_true_iff.mp h).2 c hc)
  | none =>
    rw [hfnv] at h
    obtain ⟨suffix, hsuffix, hchars⟩ := (Option.any_eq_true _ _).mp h
    have hall : ∀ c ∈ suffix.toList, c.isAlphanum = true ∨ c = '-' ∨ c = '_' := by
      intro c hc
      have hgood := List.all_eq_true.mp (Bool.and_eq_true_iff.mp hchars).2 c hc
      simpa only [Bool.or_eq_true, beq_iff_eq, or_assoc] using hgood
    rcases Option.or_eq_some_iff.mp hsuffix with hhash | ⟨-, hsha⟩
    · exact ⟨"hash-", by simp, suffix, toList_of_stripPrefix hhash, hall⟩
    · exact ⟨"sha256:", by simp, suffix, toList_of_stripPrefix hsha, hall⟩

theorem markerText_bodyHash : markerText bodyHash = true := by
  refine markerText_of_forall ?_
  intro c hc
  have hopenings : ∀ opening ∈ ["fnv64:", "hash-", "sha256:"], ∀ d ∈ opening.toList,
      d.isAlphanum = true ∨ d = '-' ∨ d = '_' ∨ d = ':' := by
    have hplain : (["fnv64:", "hash-", "sha256:"].all fun opening => opening.toList.all fun d =>
        d.isAlphanum || (d == '-' || (d == '_' || d == ':'))) = true := by decide
    simpa only [List.all_eq_true, Bool.or_eq_true, beq_iff_eq] using hplain
  obtain ⟨opening, hopening, suffix, hlist, hall⟩ := bodyHash_shape h
  rw [hlist, List.mem_append] at hc
  rcases hc with hc | hc
  · exact hopenings _ hopening c hc
  · rcases hall c hc with halnum | hdash | hunderscore
    · exact .inl halnum
    · exact .inr (.inl hdash)
    · exact .inr (.inr (.inl hunderscore))

theorem validPendingBodyHashFormat_ne : bodyHash ≠ "" := by
  rintro rfl
  exact absurd h (by decide)

end

theorem markerText_actionKind (kind : MarkerActionKind) :
    markerText kind.text = true ∧ kind.text ≠ "" := by
  cases kind <;> decide

/-- **The fields of an accepted action are all carried exactly where the condition holds.** -/
theorem markerTexts_iff (hwf : action.WellFormed) :
    MarkerTexts binding action
      ↔ ∀ field ∈ markerFields binding action, markerText field.2 = true ∧ field.2 ≠ "" := by
  have hne : ∀ {text : String}, trim text ≠ "" → text ≠ "" := by
    rintro text h rfl
    exact h (by decide)
  unfold markerFields
  simp only [List.forall_mem_cons, List.not_mem_nil, false_implies, implies_true, and_true]
  constructor
  · intro h
    exact ⟨⟨h.stableMarkerKey, hne hwf.stableMarkerKey⟩, ⟨h.sourceHeadSha, hne hwf.sourceHeadSha⟩,
      ⟨h.remediationOutputHead, hne hwf.remediationOutputHead⟩,
      ⟨markerText_bodyHash hwf.bodyHash, validPendingBodyHashFormat_ne hwf.bodyHash⟩,
      markerText_actionKind _, ⟨h.runId, h.runId_ne⟩⟩
  · rintro ⟨hkey, hsource, houtput, -, -, hrun⟩
    exact ⟨hkey.1, hsource.1, houtput.1, hrun.1, hrun.2⟩

end Luther
