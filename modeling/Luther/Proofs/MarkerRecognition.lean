/-
The marker of a posted comment is the marker of its action.

`parse_render` reads a comment back whose texts are markable.  The converse goes by what the
parser must have read: its values are words, so the key of the action has no blank in these
texts; a delimiter in one of them would have cut the marker short or been refused.
-/
import Luther.Proofs.MarkerRoundTrip
import Mathlib.Data.List.Perm.Subperm

namespace Luther

open Search Sql

def markerOf (binding : PrFollowupBinding) (action : PendingMarkerAction) :
    RemoteFeedbackMarker where
  stableMarkerKey := action.stableMarkerKey
  sourceHeadSha := action.sourceHeadSha
  remediationOutputHeadSha :=
    if action.remediationOutputHead ≠ noRemediationOutputHead then
      some action.remediationOutputHead
    else none
  bodyHash := action.bodyHash
  actionKind := action.actionKind.text
  runId := binding.runId
  status := "completed"

/-! ### The names of the fields -/

variable {action : PendingMarkerAction} {binding : PrFollowupBinding} {field : String × String}
  {marker : RemoteFeedbackMarker} {fields others : List (String × String)} {name value : String}

theorem markerFields_names (binding : PrFollowupBinding) (action : PendingMarkerAction) :
    (markerFields binding action).map Prod.fst
      = ["marker_key", "source_head", "remediation_output_head", "body", "action", "run_id"] := rfl

theorem markerFields_word (h : field ∈ markerFields binding action) :
    field.1 ≠ "" ∧ '=' ∉ field.1.toList := by
  have hname := List.mem_map_of_mem (f := Prod.fst) h
  rw [markerFields_names] at hname
  exact (show ∀ name ∈ ["marker_key", "source_head", "remediation_output_head", "body", "action",
    "run_id"], name ≠ "" ∧ '=' ∉ name.toList by decide) _ hname

theorem markerFields_text (h : field ∈ markerFields binding action) :
    (∀ c ∈ field.1.toList, isWhitespace c = false)
      ∧ ¬ "<!--".toList <:+: field.1.toList ∧ ¬ "-->".toList <:+: field.1.toList := by
  have hname := List.mem_map_of_mem (f := Prod.fst) h
  rw [markerFields_names] at hname
  exact markerText_iff.mp ((show ∀ name ∈ ["marker_key", "source_head", "remediation_output_head",
    "body", "action", "run_id"], markerText name = true by decide) _ hname)

theorem markerFields_nodup (binding : PrFollowupBinding) (action : PendingMarkerAction) :
    ((markerFields binding action).map Prod.fst).Nodup := by
  rw [markerFields_names]
  decide

/-- A comment opens in the fields where it opens in one of the values. -/
theorem opens_fieldsText (rest : List Char) :
    "<!--".toList <:+: fieldsText (markerFields binding action) ++ rest
      ↔ (∃ field ∈ markerFields binding action, "<!--".toList <:+: field.2.toList)
        ∨ "<!--".toList <:+: rest :=
  infix_fieldsText_append_iff (by decide) (by decide) (fun _ h => (markerFields_text h).2.1) rest

/-- It closes in them where it closes in one of the values. -/
theorem closes_fieldsText (rest : List Char)
    (hfields : ∀ field ∈ fields, field ∈ markerFields binding action) :
    "-->".toList <:+: fieldsText fields ++ rest
      ↔ (∃ field ∈ fields, "-->".toList <:+: field.2.toList) ∨ "-->".toList <:+: rest :=
  infix_fieldsText_append_iff (by decide) (by decide)
    (fun field h => (markerFields_text (hfields field h)).2.2) rest

/-- The words of fields without blanks are the fields. -/
theorem hiddenWords_fieldsText
    (hblank : ∀ field ∈ fields, ∀ c ∈ fieldWord field, isWhitespace c = false) :
    hiddenWords (markerOpening ++ fieldsText fields)
      = fields.map fun field => String.ofList (fieldWord field) := by
  have hwords := words_fieldsText_append hblank []
  rw [List.append_nil, words_nil, List.append_nil] at hwords
  rw [(hiddenWords_markerOpening _).2, hwords, List.map_map]
  rfl

/-- Fields of different names are found from either end. -/
theorem lookup_reverse (hnodup : (fields.map Prod.fst).Nodup) (hmem : (name, value) ∈ fields) :
    fields.reverse.lookup name = some value := by
  refine Assoc.lookup_of_mem ?_ (List.mem_reverse.mpr hmem)
  rw [List.map_reverse]
  exact (List.reverse_perm _).nodup_iff.mpr hnodup

theorem fieldWord_noBlank (h : field ∈ markerFields binding action) {value : List Char}
    (hvalue : ∀ c ∈ value, isWhitespace c = false) :
    ∀ c ∈ field.1.toList ++ '=' :: value, isWhitespace c = false := by
  intro c hc
  rcases List.mem_append.mp hc with hc | hc
  · exact (markerFields_text h).1 c hc
  · rcases List.mem_cons.mp hc with rfl | hc
    · decide
    · exact hvalue c hc

/-! ### Reading a comment back -/

/-- **A comment whose texts can be carried is read back as the marker of its action.** -/
theorem parse_render (hwf : action.WellFormed) (h : MarkerTexts binding action) :
    parseMarkerFromCommentBody (renderMarkerCommentBody binding action)
      = .ok (markerOf binding action) := by
  have hfields := (markerTexts_iff hwf).mp h
  have hvisible : ¬ "<!--".toList <:+: (renderMarkerVisible action).toList := by
    intro hin
    obtain ⟨-, -, -, hkey, -⟩ := renderMarkerVisible_opening hin
    exact (markerText_iff.mp h.stableMarkerKey).2.1 hkey
  have hnoOpening : ¬ "<!--".toList <:+: markerOpening ++ fieldsText (markerFields binding action)
      := by
    have hnil := List.append_nil (fieldsText (markerFields binding action))
    unfold markerOpening
    rw [List.cons_append, List.append_assoc, infix_cons_iff_of_notMem (by decide) (by decide),
      List.singleton_append, infix_append_cons_iff (by decide), ← hnil, opens_fieldsText]
    rintro (hin | ⟨field, hfield, hin⟩ | hin)
    · exact absurd hin (by decide)
    · exact (markerText_iff.mp (hfields field hfield).1).2.1 hin
    · exact absurd hin (by decide)
  have hclosing : ∀ rest, ¬ "-->".toList <:+: rest →
      ¬ "-->".toList <:+: fieldsText (markerFields binding action) ++ rest := by
    intro rest hrest
    rw [closes_fieldsText rest fun _ h => h]
    rintro (⟨field, hfield, hin⟩ | hin)
    · exact (markerText_iff.mp (hfields field hfield).1).2.2 hin
    · exact hrest hin
  have hnoClosing : ¬ "-->".toList <:+: markerOpening ++ fieldsText (markerFields binding action)
      := by
    have hfieldsText := hclosing [] (by decide)
    rw [List.append_nil] at hfieldsText
    unfold markerOpening
    rw [List.cons_append, List.append_assoc, infix_cons_iff_of_notMem (by decide) (by decide),
      List.singleton_append, infix_append_cons_iff (by decide)]
    rintro (hin | hin)
    · exact absurd hin (by decide)
    · exact hfieldsText hin
  have hread : readMarkerFields
      (hiddenWords (markerOpening ++ fieldsText (markerFields binding action))) []
      = .ok (markerFields binding action).reverse := by
    rw [hiddenWords_fieldsText fun field hfield =>
      fieldWord_noBlank hfield (markerText_iff.mp (hfields field hfield).1).1]
    exact (readMarkerFields_fields (fun _ => markerFields_word) (markerFields_nodup _ _)
      (fun _ _ => rfl)).mpr ⟨fun field hfield => (hfields field hfield).2, (List.append_nil _).symm⟩
  have hmarker : markerFromFields (markerFields binding action).reverse
      = .ok (markerOf binding action) := by
    have hrequired : ∀ name value, (name, value) ∈ markerFields binding action →
        requiredMarkerField (markerFields binding action).reverse name = .ok value := by
      intro name value hmem
      unfold requiredMarkerField
      rw [lookup_reverse (markerFields_nodup _ _) hmem,
        Option.filter_some_pos (by simpa using (hfields _ hmem).2)]
    unfold markerFromFields
    rw [hrequired _ action.stableMarkerKey (by simp [markerFields]),
      hrequired _ action.sourceHeadSha (by simp [markerFields]),
      hrequired _ action.remediationOutputHead (by simp [markerFields]),
      hrequired _ action.bodyHash (by simp [markerFields]),
      hrequired _ binding.runId (by simp [markerFields]),
      hrequired _ action.actionKind.text (by simp [markerFields])]
    rfl
  refine parseMarkerFromCommentBody_eq_ok.mpr ⟨_, _, _, _, splitFirst_comment hvisible,
    splitFirst_hidden _ (hclosing _ (by decide)), ?_⟩
  exact parseHiddenMarker_eq_ok.mpr
    ⟨hnoOpening, hnoClosing, (hiddenWords_markerOpening _).1, _, hread, hmarker⟩

/-! ### What a marker that was read says of its texts -/

/-- How many characters of a text satisfy `p`. -/
def count (p : Char → Bool) (text : String) : Nat := text.toList.countP p

variable {later : PrFollowupBinding} {operation : MarkerOperation} {after inside rest : List Char}

theorem count_key (howner : later.repositoryOwner = binding.repositoryOwner)
    (hname : later.repositoryName = binding.repositoryName)
    (hpr : later.prNumber = binding.prNumber)
    (h : markerActionKeyFromMarker later marker operation
      = markerActionKey binding action operation) (p : Char → Bool) :
    count p marker.stableMarkerKey + count p marker.sourceHeadSha
        + count p (marker.remediationOutputHeadSha.getD noRemediationOutputHead)
        + count p marker.bodyHash + count p marker.actionKind + count p marker.runId
      = count p action.stableMarkerKey + count p action.sourceHeadSha
        + count p action.remediationOutputHead + count p action.bodyHash
        + count p action.actionKind.text + count p binding.runId := by
  have hcount := congrArg (count p) h
  unfold markerActionKeyFromMarker markerActionKey at hcount
  rw [howner, hname, hpr] at hcount
  simp only [count, String.intercalate_cons_cons, String.intercalate_singleton,
    String.toList_append, List.countP_append] at hcount ⊢
  omega
theorem readMarkerFields_values {parts : List String} {acc map : List (String × String)}
    (h : readMarkerFields parts acc = .ok map)
    (hparts : ∀ part ∈ parts, ∀ c ∈ part.toList, isWhitespace c = false)
    (hacc : ∀ e ∈ acc, ∀ c ∈ e.2.toList, isWhitespace c = false) :
    map.length = parts.length + acc.length
      ∧ ∀ e ∈ map, ∀ c ∈ e.2.toList, isWhitespace c = false := by
  induction parts generalizing acc with
  | nil =>
    obtain rfl : acc = map := Except.ok.inj h
    exact ⟨by simp, hacc⟩
  | cons part parts ih =>
    rw [readMarkerFields] at h
    cases hfind : findText "=" part with
    | none =>
      rw [hfind] at h
      cases h
    | some found =>
      obtain ⟨key, value⟩ := found
      rw [hfind] at h
      dsimp only at h
      by_cases hempty : key = "" ∨ value = ""
      · rw [if_pos hempty] at h
        cases h
      · rw [if_neg hempty] at h
        by_cases hdup : (acc.lookup key).isSome = true
        · rw [if_pos hdup] at h
          cases h
        · rw [if_neg hdup] at h
          have hvalue : ∀ c ∈ value.toList, c ∈ part.toList := by
            unfold findText at hfind
            rw [Option.map_eq_some_iff] at hfind
            obtain ⟨⟨before, after⟩, hsplit, heq⟩ := hfind
            obtain ⟨-, rfl⟩ := Prod.mk.inj heq
            intro c hc
            rw [String.toList_ofList] at hc
            rw [splitFirst_eq hsplit]
            exact List.mem_append_right _ hc
          have hpart := hparts part List.mem_cons_self
          obtain ⟨hlength, hmap⟩ := ih h (fun q hq => hparts q (List.mem_cons_of_mem _ hq)) (by
            intro e he
            rcases List.mem_cons.mp he with rfl | he
            · exact fun c hc => hpart c (hvalue c hc)
            · exact hacc e he)
          refine ⟨?_, hmap⟩
          rw [hlength, List.length_cons, List.length_cons]
          omega

/-- **A marker that is read has texts without blanks**, and there are blanks between them. -/
theorem parseHiddenMarker_blanks {inner : List Char}
    (h : parseHiddenMarker (hiddenText inner) = .ok marker) :
    (∃ c ∈ inner, isWhitespace c = true)
      ∧ count isWhitespace marker.stableMarkerKey + count isWhitespace marker.sourceHeadSha
        + count isWhitespace (marker.remediationOutputHeadSha.getD noRemediationOutputHead)
        + count isWhitespace marker.bodyHash + count isWhitespace marker.actionKind
        + count isWhitespace marker.runId = 0 := by
  obtain ⟨-, -, -, map, hmap, hmarker⟩ := parseHiddenMarker_eq_ok.mp h
  have hwords : ∀ part ∈ hiddenWords inner, ∀ c ∈ part.toList, isWhitespace c = false := by
    intro part hpart
    obtain ⟨word, hword, rfl⟩ := List.mem_map.mp hpart
    rw [String.toList_ofList]
    exact notBlank_of_mem_words hword
  obtain ⟨hlength, hvalues⟩ := readMarkerFields_values hmap hwords (by simp)
  obtain ⟨output, hkey, hsource, houtput, hbody, hrun, haction, hdefault⟩ :=
    markerFromFields_eq_ok hmarker
  have hzero : ∀ {name value : String}, map.lookup name = some value →
      count isWhitespace value = 0 := by
    intro name value hlookup
    rw [count, List.countP_eq_zero]
    intro c hc
    rw [hvalues _ (Assoc.mem_of_lookup hlookup) c hc]
    decide
  constructor
  · by_contra hnone
    push Not at hnone
    have hfew : (hiddenWords inner).length ≤ 1 := by
      unfold hiddenWords
      rw [List.length_map]
      refine length_words_le_one ?_
      intro c hc
      have hmem : c ∈ inner := by
        have htrimmed := List.mem_of_mem_drop hc
        rw [toList_trim, String.toList_ofList] at htrimmed
        exact (List.dropWhile_suffix _).subset ((List.rdropWhile_prefix _ _).subset htrimmed)
      exact Bool.eq_false_iff.mpr (hnone c hmem)
    have htwo : 2 ≤ map.length := by
      have hsub : ["marker_key", "source_head"].Subset (map.map Prod.fst) := by
        intro name hname
        rcases List.mem_cons.mp hname with rfl | hname
        · exact List.mem_map_of_mem (Assoc.mem_of_lookup hkey)
        · rw [List.mem_singleton.mp hname]
          exact List.mem_map_of_mem (Assoc.mem_of_lookup hsource)
      have hsubperm := List.subperm_of_subset (by decide) hsub
      have hle := hsubperm.length_le
      rw [List.length_map] at hle
      exact hle
    rw [hlength, List.length_nil] at htwo
    omega
  · rw [hdefault, hzero hkey, hzero hsource, hzero houtput, hzero hbody, hzero haction, hzero hrun]

/-! ### Where the marker that was read stood -/

theorem overlapping_delimiters (hshort : inside.length < 4)
    (h : ['<', '!', '-', '-'] ++ after = inside ++ ['-', '-', '>'] ++ rest) :
    inside = ['<', '!'] ∨ inside = ['<', '!', '-'] := by
  cases inside with
  | nil => simp at h
  | cons a inside =>
    cases inside with
    | nil => simp at h
    | cons b inside =>
      cases inside with
      | nil =>
        simp only [List.cons_append, List.nil_append, List.cons.injEq] at h
        exact Or.inl (by rw [h.1, h.2.1])
      | cons c inside =>
        cases inside with
        | nil =>
          simp only [List.cons_append, List.nil_append, List.cons.injEq] at h
          exact Or.inr (by rw [h.1, h.2.1, h.2.2.1])
        | cons d inside =>
          simp only [List.length_cons] at hshort
          omega

theorem inside_of_parse
    (hclose : splitFirst "-->".toList ("<!--".toList ++ after) = some (inside, rest))
    (h : parseHiddenMarker (String.ofList (inside ++ "-->".toList)) = .ok marker) :
    ∃ inner, inside = "<!--".toList ++ inner
      ∧ parseHiddenMarker (hiddenText inner) = .ok marker := by
  have heq := splitFirst_eq hclose
  have hlong : "<!--".toList <+: inside := by
    by_contra hshort
    have hlt : inside.length < 4 := by
      by_contra hge
      refine hshort (List.prefix_of_prefix_length_le (List.prefix_append _ after) ?_ ?_)
      · rw [heq, List.append_assoc]
        exact List.prefix_append _ _
      · have hfour : "<!--".toList.length = 4 := by decide
        omega
    have herror : ∀ inside ∈ [['<', '!'], ['<', '!', '-']],
        parseHiddenMarker (String.ofList (inside ++ "-->".toList))
          = .error .sliceOutOfRange := by decide
    have hmem : inside ∈ [['<', '!'], ['<', '!', '-']] := by
      simpa using overlapping_delimiters hlt heq
    rw [herror inside hmem] at h
    cases h
  obtain ⟨inner, rfl⟩ := hlong
  exact ⟨inner, rfl, h⟩

/-- **A marker is not read from a visible text**: where the key of a default text opens a comment,
what is cut out is a part of the key, or another marker stands in it. -/
theorem not_parse_of_visible_opening
    (hkey : ∀ c ∈ action.stableMarkerKey.toList, isWhitespace c = false)
    (hvisible : "<!--".toList <:+: (renderMarkerVisible action).toList)
    (marker : RemoteFeedbackMarker) :
    parseMarkerFromCommentBody (renderMarkerCommentBody binding action) ≠ .ok marker := by
  intro hparse
  obtain ⟨front, back, hshape, hopenKey, hfront, hback⟩ := renderMarkerVisible_opening hvisible
  obtain ⟨before, after, inside, rest, hopen, hclose, hhidden⟩ :=
    parseMarkerFromCommentBody_eq_ok.mp hparse
  obtain ⟨inner, rfl, hhidden⟩ := inside_of_parse hclose hhidden
  obtain ⟨hnested, -⟩ := parseHiddenMarker_eq_ok.mp hhidden
  obtain ⟨⟨c, hc, hblank⟩, -⟩ := parseHiddenMarker_blanks hhidden
  have hne : "<!--".toList ≠ [] := by decide
  cases hsplit : splitFirst "<!--".toList action.stableMarkerKey.toList with
  | none => exact splitFirst_eq_none.mp hsplit hopenKey
  | some found =>
    obtain ⟨key₁, key₂⟩ := found
    have hkeyEq := splitFirst_eq hsplit
    have hkeyFirst := splitFirst_first hne hsplit
    -- What follows the delimiter: the rest of the key, the visible text, the hidden marker.
    have hcut : after = key₂ ++ '\u0060' :: (back ++ '\n' :: '\n' :: ("<!--".toList
        ++ (markerOpening ++ fieldsText (markerFields binding action) ++ "-->".toList ++ ['\n'])))
        := by
      have hbody : (renderMarkerCommentBody binding action).toList
          = front ++ '\u0060' :: key₁ ++ "<!--".toList ++ (key₂ ++ '\u0060' :: (back
            ++ '\n' :: '\n' :: ("<!--".toList ++ (markerOpening
              ++ fieldsText (markerFields binding action) ++ "-->".toList ++ ['\n'])))) := by
        rw [toList_renderMarkerCommentBody, hshape, hkeyEq]
        simp only [List.append_assoc, List.cons_append, List.nil_append]
      have hfirst : ¬ "<!--".toList <:+: front ++ '\u0060' :: key₁ ++ "<!--".toList.dropLast := by
        rw [List.append_assoc, List.cons_append, infix_append_cons_iff (by decide)]
        exact not_or.mpr ⟨hfront, hkeyFirst⟩
      rw [hbody, splitFirst_append _ hfirst] at hopen
      exact (Prod.mk.inj (Option.some.inj hopen)).2.symm
    by_cases hinKey : "-->".toList <:+: "<!--".toList ++ key₂
    · -- The first closing delimiter stands in the key, and the key has no blank.
      cases hkeyClose : splitFirst "-->".toList ("<!--".toList ++ key₂) with
      | none => exact splitFirst_eq_none.mp hkeyClose hinKey
      | some found =>
        obtain ⟨inside', rest'⟩ := found
        have heq := splitFirst_eq hkeyClose
        have hlater : ∀ tail, splitFirst "-->".toList ("<!--".toList ++ key₂ ++ tail)
            = some (inside', rest' ++ tail) := by
          intro tail
          rw [heq, List.append_assoc _ rest' tail]
          exact splitFirst_append _ (splitFirst_first (by decide) hkeyClose)
        rw [hcut, ← List.append_assoc, hlater] at hclose
        obtain ⟨rfl, -⟩ := Prod.mk.inj (Option.some.inj hclose)
        rw [List.append_assoc, List.append_assoc, List.append_right_inj] at heq
        have hmem : c ∈ action.stableMarkerKey.toList := by
          rw [hkeyEq, heq]
          simp [hc]
        rw [hkey c hmem] at hblank
        cases hblank
    · -- It stands behind the second opening delimiter.
      have hskip : ¬ "-->".toList <:+: "<!--".toList ++ key₂ ++ '\u0060' :: (back
          ++ '\n' :: '\n' :: "<!--".toList) := by
        rw [infix_append_cons_iff (by decide), infix_append_cons_iff (by decide)]
        rintro (hin | hin | hin)
        · exact hinKey hin
        · exact hback hin
        · exact absurd hin (by decide)
      have hlater : "<!--".toList ++ after
          = "<!--".toList ++ key₂ ++ '\u0060' :: (back ++ '\n' :: '\n' :: "<!--".toList)
            ++ ' ' :: (markerNamespace.toList ++ [' ']
              ++ fieldsText (markerFields binding action) ++ "-->".toList ++ ['\n']) := by
        rw [hcut, markerOpening]
        simp only [List.append_assoc, List.cons_append, List.nil_append]
      rw [hlater, splitFirst_skip (by decide) (by decide) hskip, Option.map_eq_some_iff] at hclose
      obtain ⟨⟨inside', rest'⟩, -, heq⟩ := hclose
      have hinside := (Prod.mk.inj heq).1
      rw [List.append_assoc, List.append_assoc, List.append_right_inj] at hinside
      refine hnested ?_
      rw [← hinside]
      simp only [List.append_assoc, List.cons_append]
      exact ⟨key₂ ++ '\u0060' :: (back ++ ['\n', '\n']), ' ' :: inside', by
        simp only [List.append_assoc, List.cons_append, List.nil_append]⟩

theorem noBlank_of_count
    (h : count isWhitespace action.stableMarkerKey + count isWhitespace action.sourceHeadSha
      + count isWhitespace action.remediationOutputHead + count isWhitespace action.bodyHash
      + count isWhitespace action.actionKind.text + count isWhitespace binding.runId = 0)
    (hfield : field ∈ markerFields binding action) :
    ∀ c ∈ field.2.toList, isWhitespace c = false := by
  have hzero : count isWhitespace field.2 = 0 := by
    have hall : ∀ value ∈ (markerFields binding action).map Prod.snd,
        count isWhitespace value = 0 := by
      simp only [markerFields, List.map_cons, List.map_nil, List.forall_mem_cons,
        List.not_mem_nil, false_implies, implies_true, and_true]
      omega
    exact hall _ (List.mem_map_of_mem hfield)
  intro c hc
  exact Bool.eq_false_iff.mpr (List.countP_eq_zero.mp hzero c hc)

section

variable (hsplit : markerFields binding action = fields ++ (name, value) :: others)

include hsplit

theorem mem_markerFields :
    (∀ field ∈ fields, field ∈ markerFields binding action)
      ∧ (name, value) ∈ markerFields binding action := by
  rw [hsplit]
  exact ⟨fun _ => List.mem_append_left _, List.mem_append_right _ List.mem_cons_self⟩

theorem markerFields_eq_append (hrun : "run_id" ∈ (fields ++ [(name, value)]).map Prod.fst) :
    others = [] ∧ name = "run_id" ∧ value = binding.runId := by
  have hlast : (markerFields binding action).getLast? = some ("run_id", binding.runId) := rfl
  have hothers : others = [] := by
    by_contra hne
    have hmem : ("run_id", binding.runId) ∈ others := by
      have hcons : (fields ++ [(name, value)] ++ others).getLast? = others.getLast? :=
        List.getLast?_append_of_ne_nil _ hne
      rw [List.append_assoc, List.singleton_append, ← hsplit, hlast] at hcons
      exact List.mem_of_getLast? hcons.symm
    have hnodup := markerFields_nodup binding action
    rw [hsplit, ← List.singleton_append, ← List.append_assoc, List.map_append,
      List.nodup_append] at hnodup
    exact hnodup.2.2 _ hrun _ (List.mem_map_of_mem hmem) rfl
  subst hothers
  rw [hsplit, List.getLast?_append, List.getLast?_singleton, Option.some_or,
    Option.some.injEq, Prod.mk.injEq] at hlast
  exact ⟨rfl, hlast.1, hlast.2⟩

/-- **A marker that is cut within a field has lost the name of the run**, or a part of it: were
another field cut, there would be no name at all. -/
theorem marker_of_cut {cut : List Char}
    (hblank : ∀ field ∈ markerFields binding action, ∀ c ∈ field.2.toList, isWhitespace c = false)
    (hcut : ∀ c ∈ cut, c ∈ value.toList)
    (hparse : parseHiddenMarker (hiddenText (markerOpening ++ (fieldsText fields
      ++ (name.toList ++ '=' :: cut)))) = .ok marker) :
    value = binding.runId ∧ marker.runId = String.ofList cut
      ∧ marker.stableMarkerKey = action.stableMarkerKey
      ∧ marker.sourceHeadSha = action.sourceHeadSha
      ∧ marker.remediationOutputHeadSha.getD noRemediationOutputHead
        = action.remediationOutputHead
      ∧ marker.bodyHash = action.bodyHash ∧ marker.actionKind = action.actionKind.text := by
  obtain ⟨hmem, hhere⟩ := mem_markerFields hsplit
  -- The words that are read are those of the fields before, and of the field that is cut.
  have hwords : hiddenWords (markerOpening ++ (fieldsText fields ++ (name.toList ++ '=' :: cut)))
      = (fields ++ [(name, String.ofList cut)]).map fun field => String.ofList (fieldWord field)
      := by
    have hcutBlank : ∀ c ∈ name.toList ++ '=' :: cut, isWhitespace c = false :=
      fieldWord_noBlank hhere fun c hc => hblank _ hhere c (hcut c hc)
    have hfieldsBlank : ∀ field ∈ fields, ∀ c ∈ fieldWord field, isWhitespace c = false :=
      fun field hfield => fieldWord_noBlank (hmem field hfield) (hblank _ (hmem field hfield))
    rw [(hiddenWords_markerOpening _).2, words_fieldsText_append hfieldsBlank,
      words_word (by simp) hcutBlank]
    simp [fieldWord]
  have hkeys : (fields ++ [(name, String.ofList cut)]).map Prod.fst
      = (fields ++ [(name, value)]).map Prod.fst := by simp
  have hnodup : ((fields ++ [(name, value)]).map Prod.fst).Nodup := by
    have hall := markerFields_nodup binding action
    rw [hsplit, ← List.singleton_append, ← List.append_assoc, List.map_append] at hall
    exact hall.sublist (List.sublist_append_left _ _)
  have hnames : ∀ field ∈ fields ++ [(name, String.ofList cut)],
      field.1 ≠ "" ∧ '=' ∉ field.1.toList := by
    intro field hfield
    rcases List.mem_append.mp hfield with hfield | hfield
    · exact markerFields_word (hmem field hfield)
    · rw [List.mem_singleton.mp hfield]
      have hword := markerFields_word hhere
      exact hword
  obtain ⟨-, -, -, map, hmap, hmarker⟩ := parseHiddenMarker_eq_ok.mp hparse
  rw [hwords] at hmap
  obtain ⟨-, rfl⟩ := (readMarkerFields_fields hnames (by rw [hkeys]; exact hnodup)
    (fun _ _ => rfl)).mp hmap
  rw [List.append_nil] at hmarker
  obtain ⟨output, hkey, hsource, houtput, hbody, hrun, haction, hdefault⟩ :=
    markerFromFields_eq_ok hmarker
  -- The name of the run was read, so it is the field that is cut.
  have hrunMem : "run_id" ∈ (fields ++ [(name, value)]).map Prod.fst := by
    rw [← hkeys]
    exact List.mem_map_of_mem (List.mem_reverse.mp (Assoc.mem_of_lookup hrun))
  obtain ⟨rfl, rfl, rfl⟩ := markerFields_eq_append hsplit hrunMem
  have hlookup : ∀ {key text found : String}, (key, text) ∈ markerFields binding action →
      key ≠ "run_id" →
      (fields ++ [("run_id", String.ofList cut)]).reverse.lookup key = some found →
      found = text := by
    intro key text found hkeyMem hother hfound
    have hfields : (key, text) ∈ fields := by
      rw [hsplit, List.mem_append, List.mem_singleton, Prod.mk.injEq] at hkeyMem
      exact hkeyMem.resolve_right fun h => hother h.1
    exact Option.some.inj (hfound.symm.trans
      (lookup_reverse (by rw [hkeys]; exact hnodup) (List.mem_append_left _ hfields)))
  refine ⟨rfl, ?_, hlookup (by simp [markerFields]) (by decide) hkey,
    hlookup (by simp [markerFields]) (by decide) hsource,
    hdefault.trans (hlookup (by simp [markerFields]) (by decide) houtput),
    hlookup (by simp [markerFields]) (by decide) hbody,
    hlookup (by simp [markerFields]) (by decide) haction⟩
  rw [List.reverse_append, List.reverse_singleton, List.singleton_append, List.lookup_cons] at hrun
  exact (Option.some.inj hrun).symm

end

/-- **A comment is recognised only if a marker can carry its texts.** -/
theorem markerTexts_of_recognised
    (hwf : action.WellFormed) (howner : later.repositoryOwner = binding.repositoryOwner)
    (hname : later.repositoryName = binding.repositoryName)
    (hpr : later.prNumber = binding.prNumber)
    (hparse : parseMarkerFromCommentBody (renderMarkerCommentBody binding action) = .ok marker)
    (hkey : markerActionKeyFromMarker later marker operation
      = markerActionKey binding action operation) : MarkerTexts binding action := by
  have hcount := count_key howner hname hpr hkey
  obtain ⟨before, after, inside, rest, hopen, hclose, hhidden⟩ :=
    parseMarkerFromCommentBody_eq_ok.mp hparse
  obtain ⟨inner, rfl, hhidden⟩ := inside_of_parse hclose hhidden
  -- What is read has no blanks, so the texts of the action have none.
  have hblank : ∀ field ∈ markerFields binding action,
      ∀ c ∈ field.2.toList, isWhitespace c = false := by
    intro field hfield
    have hread := (parseHiddenMarker_blanks hhidden).2
    have hsame := hcount isWhitespace
    exact noBlank_of_count (by omega) hfield
  by_cases hvisible : "<!--".toList <:+: (renderMarkerVisible action).toList
  · have hkeyBlank : ∀ c ∈ action.stableMarkerKey.toList, isWhitespace c = false :=
      hblank ("marker_key", action.stableMarkerKey) (by simp [markerFields])
    exact absurd hparse (not_parse_of_visible_opening hkeyBlank hvisible marker)
  · rw [splitFirst_comment hvisible] at hopen
    obtain ⟨rfl, rfl⟩ := Prod.mk.inj (Option.some.inj hopen)
    cases hfirst : (markerFields binding action).find? fun field =>
        decide ("-->".toList <:+: field.2.toList) with
    | some field =>
      -- The marker ends within a field: it is the last, and what was read of it is shorter.
      exfalso
      obtain ⟨name, value⟩ := field
      obtain ⟨hin, fields, others, hsplit, hbefore⟩ := List.find?_eq_some_iff_append.mp hfirst
      rw [decide_eq_true_iff] at hin
      cases hcut : splitFirst "-->".toList value.toList with
      | none => exact splitFirst_eq_none.mp hcut hin
      | some found =>
        obtain ⟨cut, lost⟩ := found
        have hvalue := splitFirst_eq hcut
        obtain ⟨hmem, hhere⟩ := mem_markerFields hsplit
        have hstop : ¬ "-->".toList <:+: fieldsText fields ++ (name.toList ++ '=' :: cut)
            ++ "--".toList := by
          rw [List.append_assoc, closes_fieldsText _ hmem, List.append_assoc, List.cons_append,
            infix_append_cons_iff (by decide)]
          rintro (⟨field, hfield, hfound⟩ | hfound | hfound)
          · exact absurd (decide_eq_true hfound) (by simpa using hbefore field hfield)
          · exact (markerFields_text hhere).2.2 hfound
          · exact splitFirst_first (by decide) hcut hfound
        have hshape : markerOpening ++ fieldsText (markerFields binding action)
            ++ "-->".toList ++ ['\n']
            = markerOpening ++ (fieldsText fields ++ (name.toList ++ '=' :: cut))
              ++ "-->".toList ++ (lost ++ ' ' :: (fieldsText others ++ "-->".toList ++ ['\n']))
            := by
          rw [hsplit, fieldsText_append, fieldsText_cons, fieldWord, hvalue]
          simp only [List.append_assoc, List.cons_append]
        rw [hshape, splitFirst_hidden _ hstop] at hclose
        have hinner := (Prod.mk.inj (Option.some.inj hclose)).1
        rw [List.append_right_inj] at hinner
        rw [← hinner] at hhidden
        have hpart : ∀ c ∈ cut, c ∈ value.toList := by
          intro c hc
          rw [hvalue]
          simp [hc]
        obtain ⟨rfl, hrun, hkeyText, hsource, houtput, hbody, haction⟩ :=
          marker_of_cut hsplit hblank hpart hhidden
        have hlength := hcount fun _ => true
        rw [hkeyText, hsource, houtput, hbody, haction, hrun] at hlength
        simp only [count, String.toList_ofList, List.countP_true, hvalue, List.length_append]
          at hlength
        have hthree : "-->".toList.length = 3 := by decide
        omega
    | none =>
      -- No field closes the marker, so all of them are read.
      have hnoClosing : ∀ field ∈ markerFields binding action,
          ¬ "-->".toList <:+: field.2.toList := by
        intro field hfield
        simpa using List.find?_eq_none.mp hfirst field hfield
      have hstop : ¬ "-->".toList <:+: fieldsText (markerFields binding action)
          ++ "--".toList := by
        rw [closes_fieldsText _ fun _ h => h]
        rintro (⟨field, hfield, hin⟩ | hin)
        · exact hnoClosing field hfield hin
        · exact absurd hin (by decide)
      rw [splitFirst_hidden _ hstop] at hclose
      have hinner := (Prod.mk.inj (Option.some.inj hclose)).1
      rw [List.append_right_inj] at hinner
      rw [← hinner] at hhidden
      obtain ⟨hnested, -, -, map, hmap, -⟩ := parseHiddenMarker_eq_ok.mp hhidden
      rw [hiddenWords_fieldsText fun field hfield =>
        fieldWord_noBlank hfield (hblank field hfield)] at hmap
      have hvalues := ((readMarkerFields_fields (fun _ => markerFields_word)
        (markerFields_nodup _ _) (fun _ _ => rfl)).mp hmap).1
      refine (markerTexts_iff hwf).mpr fun field hfield => ⟨?_, hvalues field hfield⟩
      refine markerText_iff.mpr ⟨hblank field hfield, ?_, hnoClosing field hfield⟩
      intro hin
      refine hnested ?_
      have hfields := (opens_fieldsText []).mpr (Or.inl ⟨field, hfield, hin⟩)
      rw [List.append_nil] at hfields
      exact hfields.trans (List.suffix_append _ _).isInfix

end Luther
