/-
The key of a marker action tells the action.

A key is the texts of the action, of its run and of the pull request with colons between them, and
any of these texts may hold colons itself.  So two accepted actions can have one key: of the heads
`aaaa` and `bbbb:cccc` the key is that of the heads `aaaa:bbbb` and `cccc`.  `ReadOnce` asks that the
texts in front of the body hash be cut in one way only, and that behind the hash nothing reads as a
hash, a kind and a marker key again.  Both hold where the heads, the name of the run and the marker
key have no colons.
-/
import Luther.Proofs.MarkerRoundTrip

namespace Luther

open Fields Sql

/-- What makes an action the one it is, on one pull request. -/
structure MarkerIdentity where
  runId : String
  sourceHeadSha : String
  remediationOutputHead : String
  bodyHash : String
  actionKind : MarkerActionKind
  stableMarkerKey : String

def markerIdentity (binding : PrFollowupBinding) (action : PendingMarkerAction) : MarkerIdentity where
  runId := binding.runId
  sourceHeadSha := action.sourceHeadSha
  remediationOutputHead := action.remediationOutputHead
  bodyHash := action.bodyHash
  actionKind := action.actionKind
  stableMarkerKey := action.stableMarkerKey

/-! ### The two halves of a key -/

/-- The run, the pull request and the two heads. -/
def headsText (binding : PrFollowupBinding) (runId source output : String) : List Char :=
  runId.toList ++ ':' :: (binding.repositoryOwner.toList ++ ':' :: (binding.repositoryName.toList
    ++ ':' :: ((toString binding.prNumber).toList ++ ':' :: (source.toList ++ ':' :: output.toList))))

/-- The body hash, the kind and the marker key. -/
def tailText (bodyHash : String) (kind : MarkerActionKind) (key : String) : List Char :=
  bodyHash.toList ++ ':' :: (kind.text.toList ++ ':' :: key.toList)

variable {binding later : PrFollowupBinding} {action other : PendingMarkerAction}
  {operation operation' : MarkerOperation} {body body' key key' source output : String}
  {kind kind' : MarkerActionKind}

theorem toList_markerActionKey (binding : PrFollowupBinding) (action : PendingMarkerAction)
    (operation : MarkerOperation) :
    (markerActionKey binding action operation).toList = operation.text.toList ++ ':' ::
      (headsText binding binding.runId action.sourceHeadSha action.remediationOutputHead ++ ':' ::
        tailText action.bodyHash action.actionKind action.stableMarkerKey) := by
  have hcolon : ":".toList = [':'] := rfl
  unfold markerActionKey headsText tailText
  simp only [String.intercalate_cons_cons, String.intercalate_singleton, String.toList_append,
    hcolon, List.append_assoc, List.cons_append, List.nil_append]

/-- **The texts of the action are read in one way only.** -/
structure ReadOnce (binding : PrFollowupBinding) (action : PendingMarkerAction) : Prop where
  /-- The run and the heads are cut at no other colons into a run and two heads that an action of
  this kind may have. -/
  heads : ∀ runId source output, trim source ≠ "" → trim output ≠ "" →
    (output = noRemediationOutputHead → action.actionKind ≠ .commentFixed) →
    headsText binding runId source output
      = headsText binding binding.runId action.sourceHeadSha action.remediationOutputHead →
    runId = binding.runId ∧ source = action.sourceHeadSha ∧ output = action.remediationOutputHead
  /-- Behind no further colon stand a body hash, a kind and a marker key. -/
  tail : ∀ before body kind key, validPendingBodyHashFormat body = true → trim key ≠ "" →
    tailText action.bodyHash action.actionKind action.stableMarkerKey
      ≠ before ++ ':' :: tailText body kind key

/-! ### The tail -/

theorem MarkerActionKind.text_inj (h : kind.text = kind'.text) : kind = kind' := by
  cases kind <;> cases kind' <;> first | rfl | exact absurd h (by decide)

theorem MarkerActionKind.colon_notMem_text (kind : MarkerActionKind) : ':' ∉ kind.text.toList := by
  cases kind <;> decide

theorem MarkerOperation.colon_notMem_text (operation : MarkerOperation) :
    ':' ∉ operation.text.toList := by
  cases operation <;> decide

section

variable (h : validPendingBodyHashFormat body = true)

include h

/-- Of two body hashes with something behind them, neither goes on into the other's rest. -/
theorem bodyHash_append_inj (h' : validPendingBodyHashFormat body') {rest rest' : List Char}
    (htext : body.toList ++ ':' :: rest = body'.toList ++ ':' :: rest') :
    body = body' ∧ rest = rest' := by
  obtain ⟨opening, hopening, suffix, hlist, hall⟩ := bodyHash_shape h
  obtain ⟨opening', hopening', suffix', hlist', hall'⟩ := bodyHash_shape h'
  have hcolon : ∀ {text : List Char}, (∀ c ∈ text, c.isAlphanum = true ∨ c = '-' ∨ c = '_') →
      ':' ∉ text := by
    intro text htext hmem
    exact absurd (htext ':' hmem) (by decide)
  rw [hlist, hlist', List.append_assoc, List.append_assoc] at htext
  have hsame : opening = opening' := by
    simp only [List.mem_cons, List.not_mem_nil, or_false] at hopening hopening'
    rcases hopening with rfl | rfl | rfl <;> rcases hopening' with rfl | rfl | rfl <;>
      first | rfl | exact absurd (congrArg List.head? htext) (by simp)
  subst hsame
  obtain ⟨hsuffix, hrest⟩ :=
    append_cons_inj (hcolon hall) (hcolon hall') (List.append_cancel_left htext)
  exact ⟨String.toList_inj.mp (by rw [hlist, hlist', hsuffix]), hrest⟩

theorem tailText_inj (h' : validPendingBodyHashFormat body')
    (htext : tailText body kind key = tailText body' kind' key') :
    body = body' ∧ kind = kind' ∧ key = key' := by
  obtain ⟨rfl, hrest⟩ := bodyHash_append_inj h h' htext
  obtain ⟨hkind, hkey⟩ := append_cons_inj kind.colon_notMem_text kind'.colon_notMem_text hrest
  exact ⟨rfl, MarkerActionKind.text_inj (String.toList_inj.mp hkind), String.toList_inj.mp hkey⟩

theorem bodyHash_first : ∃ c ∈ ['f', 'h', 's'], ∃ rest, body.toList = c :: rest := by
  obtain ⟨opening, hopening, suffix, hlist, -⟩ := bodyHash_shape h
  simp only [List.mem_cons, List.not_mem_nil, or_false] at hopening
  rcases hopening with rfl | rfl | rfl
  · exact ⟨'f', by simp, _, hlist⟩
  · exact ⟨'h', by simp, _, hlist⟩
  · exact ⟨'s', by simp, _, hlist⟩

/-- No body hash begins with a colon, with a blank, or as `none` does. -/
theorem bodyHash_not_behind {part : List Char}
    {rest rest' : List Char} (htext : body.toList ++ ':' :: rest = part ++ ':' :: rest') :
    trim (String.ofList part) ≠ "" ∧ String.ofList part ≠ noRemediationOutputHead := by
  obtain ⟨c, hletter, rest₀, hfirst⟩ := bodyHash_first h
  rw [hfirst] at htext
  cases part with
  | nil =>
    obtain rfl : c = ':' := (List.cons.inj htext).1
    exact absurd hletter (by decide)
  | cons first others =>
    obtain rfl : c = first := (List.cons.inj htext).1
    constructor
    · refine trim_ne_empty (c := c) (by simp) ?_
      simp only [List.mem_cons, List.not_mem_nil, or_false] at hletter
      rcases hletter with rfl | rfl | rfl <;> decide
    · intro hnone
      have hchars : c :: others = "none".toList := by
        rw [← String.toList_ofList (l := c :: others), hnone]
        rfl
      obtain rfl : c = 'n' := (List.cons.inj hchars).1
      exact absurd hletter (by decide)

end

/-! ### Texts without colons -/

/-- **Without colons in the run and the heads, and without a letter behind a colon that a body hash
begins with, an action is read once.** -/
theorem readOnce_of_plain (hrun : ':' ∉ binding.runId.toList)
    (hsource : ':' ∉ action.sourceHeadSha.toList)
    (houtput : ':' ∉ action.remediationOutputHead.toList)
    (htail : ∀ c ∈ ['f', 'h', 's'], ¬ [':', c] <:+:
      tailText action.bodyHash action.actionKind action.stableMarkerKey) :
    ReadOnce binding action where
  heads := by
    intro runId source output _ _ _ htext
    have hcount := congrArg (List.count ':') htext
    unfold headsText at hcount htext
    simp only [List.count_append, List.count_cons_self, List.count_eq_zero.mpr hrun,
      List.count_eq_zero.mpr hsource, List.count_eq_zero.mpr houtput] at hcount
    have hnone : ∀ {text : List Char}, text.count ':' = 0 → ':' ∉ text := List.count_eq_zero.mp
    obtain ⟨hrun', hrest⟩ := append_cons_inj (hnone (by omega)) hrun htext
    have hrest := (List.cons.inj (List.append_cancel_left hrest)).2
    have hrest := (List.cons.inj (List.append_cancel_left hrest)).2
    have hrest := (List.cons.inj (List.append_cancel_left hrest)).2
    obtain ⟨hsource', houtput'⟩ := append_cons_inj (hnone (by omega)) hsource hrest
    exact ⟨String.toList_inj.mp hrun', String.toList_inj.mp hsource',
      String.toList_inj.mp houtput'⟩
  tail := by
    intro before body kind key hbody _ htext
    obtain ⟨c, hc, rest, hrest⟩ := bodyHash_first hbody
    refine htail c hc ⟨before, rest ++ ':' :: (kind.text.toList ++ ':' :: key.toList), ?_⟩
    rw [htext, tailText, hrest]
    simp

/-! ### Actions with given texts -/

/-- A pending action with given heads, hash, kind and key. -/
def pendingActionValue (source output body : String) (kind : MarkerActionKind) (key : String) :
    Json :=
  .obj [("action_id", .str "a"), ("action_kind", .str kind.text), ("item_id", .str "i"),
    ("stable_marker_key", .str key), ("source_head_sha", .str source),
    ("remediation_output_head", .str output), ("body_hash", .str body), ("status", .str "pending"),
    ("resolution_required", .bool (kind == .commentFixed)),
    ("remediation_output_head_sha",
      if output = noRemediationOutputHead then .null else .str output)]

theorem requiredPendingActionString_str {value : Json} {field text : String}
    (hget : value.get? field = some (.str text)) (htext : trim text ≠ "") :
    requiredPendingActionString value field = .ok text := by
  have hfilter : ((value.get? field).bind Json.asStr?).filter (fun text => trim text ≠ "")
      = some text := by
    rw [hget]
    exact Option.filter_eq_some_iff.mpr ⟨rfl, by simpa using htext⟩
  unfold requiredPendingActionString
  rw [hfilter]

theorem pendingActionValue_optional (houtput : trim output ≠ "") :
    validatePendingActionOptionalFields (pendingActionValue source output body kind key) "i"
      = .ok () := by
  unfold pendingActionValue
  by_cases hnone : output = noRemediationOutputHead
  · rw [if_pos hnone]
    rfl
  · rw [if_neg hnone]
    show (if trim output ≠ "" then Except.ok () else _) = _
    exact if_pos houtput

theorem pendingActionValue_routing
    (hfixed : output = noRemediationOutputHead → kind ≠ .commentFixed) :
    validateOutputRouting (pendingActionValue source output body kind key) "i" kind output
      = .ok () := by
  unfold validateOutputRouting pendingActionValue
  by_cases hnone : output = noRemediationOutputHead
  · rw [if_pos hnone]
    show requirePendingAction (if output = noRemediationOutputHead then
      (none : Option String).isNone && kind != .commentFixed else _) _ = _
    rw [if_pos hnone, bne_iff_ne.mpr (hfixed hnone)]
    rfl
  · rw [if_neg hnone]
    show requirePendingAction (if output = noRemediationOutputHead then _ else
      some output == some output) _ = _
    rw [if_neg hnone, beq_self_eq_true]
    rfl

/-- **Any texts that pass the checks are those of an action.** -/
theorem pendingActionValue_accepted (hsource : trim source ≠ "") (houtput : trim output ≠ "")
    (hfixed : output = noRemediationOutputHead → kind ≠ .commentFixed)
    (hbody : validPendingBodyHashFormat body) (hkey : trim key ≠ "") :
    ∃ action, pendingMarkerActionFromValue (pendingActionValue source output body kind key)
        = .ok action
      ∧ action.sourceHeadSha = source ∧ action.remediationOutputHead = output
      ∧ action.bodyHash = body ∧ action.actionKind = kind ∧ action.stableMarkerKey = key := by
  have hblank : trim body ≠ "" := by
    have hplain := (markerText_iff.mp (markerText_bodyHash hbody)).1
    rw [trim_of_no_blank hplain]
    exact validPendingBodyHashFormat_ne hbody
  have hparse : validateActionKind kind.text "a" = .ok kind := by cases kind <;> rfl
  have hkind : trim kind.text ≠ "" := by cases kind <;> decide
  have hcontract : validateResolutionContract kind (kind == .commentFixed) "i" = .ok () := by
    cases kind <;> rfl
  have htext {name text : String} (hget : (pendingActionValue source output body kind key).get? name
      = some (.str text)) (hne : trim text ≠ "") := requiredPendingActionString_str hget hne
  exact ⟨_, bind_ok.mpr ⟨(), rfl, bind_ok.mpr ⟨"a", htext rfl (by decide),
    bind_ok.mpr ⟨kind.text, htext rfl hkind, bind_ok.mpr ⟨kind, hparse,
    bind_ok.mpr ⟨"i", htext rfl (by decide), bind_ok.mpr ⟨body, htext rfl hblank,
    bind_ok.mpr ⟨(), if_pos hbody, bind_ok.mpr ⟨"pending", htext rfl (by decide),
    bind_ok.mpr ⟨.pending, rfl, bind_ok.mpr ⟨kind == .commentFixed, rfl,
    bind_ok.mpr ⟨(), hcontract, bind_ok.mpr ⟨key, htext rfl hkey,
    bind_ok.mpr ⟨source, htext rfl hsource, bind_ok.mpr ⟨output, htext rfl houtput,
    bind_ok.mpr ⟨(), pendingActionValue_optional houtput,
    bind_ok.mpr ⟨(), pendingActionValue_routing hfixed, rfl⟩⟩⟩⟩⟩⟩⟩⟩⟩⟩⟩⟩⟩⟩⟩⟩,
    rfl, rfl, rfl, rfl, rfl⟩

/-! ### Keys and identities -/

/-- The text of two heads, with a colon between them. -/
def joinedHeads (front behind : String) : String := front ++ ":" ++ behind

@[simp] theorem toList_joinedHeads (front behind : String) :
    (joinedHeads front behind).toList = front.toList ++ ':' :: behind.toList := by
  have hcolon : ":".toList = [':'] := rfl
  simp [joinedHeads, hcolon]

theorem trim_joinedHeads (front behind : String) : trim (joinedHeads front behind) ≠ "" :=
  trim_ne_empty (c := ':') (by simp) (by decide)

theorem joinedHeads_ne (front behind : String) : joinedHeads front behind ≠ noRemediationOutputHead := by
  intro h
  have hcolon : ':' ∈ noRemediationOutputHead.toList := by
    rw [← h]
    simp
  exact absurd hcolon (by decide)

/-- Two bindings are of one pull request. -/
structure SamePullRequest (later binding : PrFollowupBinding) : Prop where
  repositoryOwner : later.repositoryOwner = binding.repositoryOwner
  repositoryName : later.repositoryName = binding.repositoryName
  prNumber : later.prNumber = binding.prNumber

theorem headsText_later (h : SamePullRequest later binding) (runId source output : String) :
    headsText later runId source output = headsText binding runId source output := by
  unfold headsText
  rw [h.repositoryOwner, h.repositoryName, h.prNumber]

/-- **An action that is read once shares its key with no other.** -/
theorem ReadOnce.markerIdentity_eq (h : ReadOnce binding action) (hwf : action.WellFormed)
    (hother : other.WellFormed) (hsame : SamePullRequest later binding)
    (hkey : markerActionKey later other operation = markerActionKey binding action operation') :
    markerIdentity later other = markerIdentity binding action := by
  have htext := congrArg String.toList hkey
  rw [toList_markerActionKey, toList_markerActionKey, headsText_later hsame] at htext
  obtain ⟨-, htext⟩ :=
    append_cons_inj operation.colon_notMem_text operation'.colon_notMem_text htext
  rcases append_cons_cases htext with ⟨hheads, htail⟩ | ⟨before, -, htail⟩ | ⟨between, hheads, htail⟩
  · obtain ⟨hrun, hsource, houtput⟩ := h.heads _ _ _ hother.sourceHeadSha
      hother.remediationOutputHead (fun hnone hfixed => hother.routing hnone (by
        rw [(tailText_inj hother.bodyHash hwf.bodyHash htail).2.1, hfixed])) hheads
    obtain ⟨hbody, hkind, hmarker⟩ := tailText_inj hother.bodyHash hwf.bodyHash htail
    unfold markerIdentity
    rw [hrun, hsource, houtput, hbody, hkind, hmarker]
  · exact absurd htail
      (h.tail before _ _ _ hother.bodyHash hother.stableMarkerKey)
  · -- The other hash would begin within the heads; so they could be cut at its colon.
    exfalso
    have hlong : headsText binding later.runId other.sourceHeadSha
        (joinedHeads other.remediationOutputHead (String.ofList between))
          = headsText binding binding.runId action.sourceHeadSha action.remediationOutputHead := by
      rw [hheads]
      simp [headsText]
    obtain ⟨-, -, houtput⟩ := h.heads _ _ _ hother.sourceHeadSha (trim_joinedHeads _ _)
      (fun hnone => absurd hnone (joinedHeads_ne _ _)) hlong
    obtain ⟨hblank, hnone⟩ := bodyHash_not_behind hother.bodyHash htail
    have hcut := (h.heads binding.runId
      (joinedHeads action.sourceHeadSha other.remediationOutputHead) (String.ofList between)
      (trim_joinedHeads _ _) hblank (fun h => absurd h hnone) (by
        rw [← houtput]
        simp [headsText])).2.2
    have hlength := congrArg (fun text => text.toList.length) (houtput.trans hcut.symm)
    simp only [toList_joinedHeads, String.toList_ofList, List.length_append,
      List.length_cons] at hlength
    omega

end Luther
