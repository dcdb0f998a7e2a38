/-
A marker comment is posted once, and counts for its own action only.

The parser of pending actions accepts any text that is not blank, and both the marker and the key of
an action are written without escaping.  Where a text is one that a marker cannot carry
(`MarkerTexts`) the comment is not recognised, and every later pass posts it again; where the texts
of the action can be read in two ways (`ReadOnce`), the comment counts for another action too, which
is then never answered.
-/
import Luther.Feedback.MarkerActions
import Luther.Proofs.MarkerKeys
import Luther.Proofs.MarkerRecognition

namespace Luther

open Sql

/-! ### Scans -/

variable {binding : PrFollowupBinding} {action : PendingMarkerAction}

variable {later : PrFollowupBinding} {scan scan' : RemoteMarkerScan} {comment : RemoteComment}
  {processor : MarkerActionProcessor} {outcome : MarkerActionOutcome}

theorem markerActionKeyFromMarker_markerOf
    (h : SamePullRequest later binding) (action : PendingMarkerAction)
    (operation : MarkerOperation) :
    markerActionKeyFromMarker later (markerOf binding action) operation
      = markerActionKey binding action operation := by
  have houtput : (markerOf binding action).remediationOutputHeadSha.getD noRemediationOutputHead
      = action.remediationOutputHead := by
    unfold markerOf
    dsimp only
    by_cases hnone : action.remediationOutputHead = noRemediationOutputHead
    · rw [if_neg (not_not.mpr hnone), Option.getD_none, hnone]
    · rw [if_pos hnone, Option.getD_some]
  unfold markerActionKeyFromMarker markerActionKey
  rw [houtput, h.repositoryOwner, h.repositoryName, h.prNumber]
  rfl

theorem scanRemoteMarkerComment_mono
    (h : scanRemoteMarkerComment binding scan comment = .ok scan') {key : String}
    (hkey : key ∈ scan.completed) : key ∈ scan'.completed := by
  unfold scanRemoteMarkerComment at h
  cases hparse : parseMarkerFromCommentBody comment.body with
  | ok marker =>
    rw [hparse] at h
    obtain rfl := Except.ok.inj h
    dsimp only
    unfold recordCompletedRemoteMarker
    by_cases hstatus : marker.status = "completed"
    · rw [if_pos hstatus]
      exact List.mem_cons_of_mem _ (List.mem_cons_of_mem _ hkey)
    · rwa [if_neg hstatus]
  | error e =>
    rw [hparse] at h
    cases e with
    | sliceOutOfRange => cases h
    | diagnostic text =>
      dsimp only at h
      by_cases hname : containsText comment.body markerNamespace = true
      · rw [if_pos hname] at h
        obtain rfl := Except.ok.inj h
        exact hkey
      · rw [if_neg hname] at h
        obtain rfl := Except.ok.inj h
        exact hkey

/-- **A scan records the keys of each comment that it reads.** -/
theorem mem_scanRemoteMarkerCompletions {comments : List RemoteComment}
    (h : comments.foldlM (scanRemoteMarkerComment binding) scan = .ok scan')
    (hcomment : comment ∈ comments) {marker : RemoteFeedbackMarker}
    (hparse : parseMarkerFromCommentBody comment.body = .ok marker)
    (hstatus : marker.status = "completed") (operation : MarkerOperation) :
    markerActionKeyFromMarker binding marker operation ∈ scan'.completed := by
  have hmono : ∀ {rest : List RemoteComment} {s : RemoteMarkerScan} {key : String},
      rest.foldlM (scanRemoteMarkerComment binding) s = .ok scan' → key ∈ s.completed →
      key ∈ scan'.completed := by
    intro rest
    induction rest with
    | nil =>
      intro s key hrest hkey
      obtain rfl := Except.ok.inj hrest
      exact hkey
    | cons first rest ih =>
      intro s key hrest hkey
      rw [List.foldlM_cons] at hrest
      obtain ⟨next, hnext, hrest⟩ := bind_ok.mp hrest
      exact ih hrest (scanRemoteMarkerComment_mono hnext hkey)
  induction comments generalizing scan with
  | nil => cases hcomment
  | cons first rest ih =>
    rw [List.foldlM_cons] at h
    obtain ⟨next, hnext, hrest⟩ := bind_ok.mp h
    rcases List.mem_cons.mp hcomment with rfl | hcomment
    · refine hmono hrest ?_
      unfold scanRemoteMarkerComment at hnext
      rw [hparse] at hnext
      obtain rfl := Except.ok.inj hnext
      dsimp only
      unfold recordCompletedRemoteMarker
      rw [if_pos hstatus]
      cases operation <;> simp
    · exact ih hrest hcomment

/-! ### Passes -/

theorem processMarkerAction_action (h : processMarkerAction processor action = .ok outcome) :
    outcome.action = action := by
  obtain ⟨-, rfl⟩ | ⟨-, rfl⟩ | ⟨-, state, -, rfl⟩ := processMarkerAction_cases h <;> rfl

theorem processMarkerAction_notPosted (h : processMarkerAction processor action = .ok outcome)
    (hdone : markerActionKey processor.binding action .comment ∈ processor.remoteCompleted) :
    outcome.postedComment = none := by
  obtain ⟨-, rfl⟩ | ⟨-, rfl⟩ | ⟨-, state, hcomment, rfl⟩ := processMarkerAction_cases h
  · rfl
  · rfl
  · have halready : markerCommentAlreadyDone processor action
        (markerActionKey processor.binding action .comment) = true := by
      simp [markerCommentAlreadyDone, hdone]
    unfold handleMarkerComment at hcomment
    rw [if_pos halready] at hcomment
    obtain rfl := Except.ok.inj hcomment
    simp [buildMarkerActionOutcome]

/-- **A marker comment is posted once.** -/
structure PostedOnce (binding : PrFollowupBinding) (action : PendingMarkerAction) : Prop where
  /-- The comment is read back, in every later pass over the pull request, with the keys of the
  action. -/
  recognised : ∀ later, SamePullRequest later binding → ∃ marker,
    parseMarkerFromCommentBody (renderMarkerCommentBody binding action) = .ok marker
      ∧ ∀ operation, markerActionKeyFromMarker later marker operation
        = markerActionKey binding action operation
  /-- A pass that sees the comment posts none for this action. -/
  notReposted : ∀ (input : MarkerPassInput) (report : Option MarkerReport) comments,
    SamePullRequest input.binding binding → discoverMarkerRemoteComments input = .ok comments →
    (∃ comment ∈ comments, comment.body = renderMarkerCommentBody binding action) →
    ∀ outcome ∈ (markCoderabbitFeedback input report).outcomes,
      markerIdentity input.binding outcome.action = markerIdentity binding action →
      outcome.postedComment = none
  /-- The comment counts, of all the actions that are accepted, for this one only. -/
  notMistaken : ∀ (later : PrFollowupBinding) (scan : RemoteMarkerScan) (comment : RemoteComment),
    SamePullRequest later binding → comment.body = renderMarkerCommentBody binding action →
    ∃ scan', scanRemoteMarkerComment later scan comment = .ok scan'
      ∧ scan'.malformed = scan.malformed
      ∧ ∀ value other, pendingMarkerActionFromValue value = .ok other → ∀ operation,
        markerActionKey later other operation ∈ scan'.completed
          ↔ markerActionKey later other operation ∈ scan.completed
            ∨ markerIdentity later other = markerIdentity binding action

theorem markerActionKey_congr {other : PendingMarkerAction} (hsame : SamePullRequest later binding)
    (h : markerIdentity later other = markerIdentity binding action) (operation : MarkerOperation) :
    markerActionKey later other operation = markerActionKey binding action operation := by
  obtain ⟨hrun, hsource, houtput, hbody, hkind, hkey⟩ := MarkerIdentity.mk.inj h
  refine String.toList_inj.mp ?_
  rw [toList_markerActionKey, toList_markerActionKey, headsText_later hsame, hrun, hsource, houtput,
    hbody, hkind, hkey]

/-- What a scan makes of the comment of an action whose texts a marker can carry. -/
theorem scan_render (hwf : action.WellFormed) (h : MarkerTexts binding action)
    (hsame : SamePullRequest later binding) (scan : RemoteMarkerScan)
    (hbody : comment.body = renderMarkerCommentBody binding action) :
    scanRemoteMarkerComment later scan comment = .ok { scan with
      completed := markerActionKey binding action .resolution
        :: markerActionKey binding action .comment :: scan.completed } := by
  have hstatus : (markerOf binding action).status = "completed" := rfl
  unfold scanRemoteMarkerComment
  rw [hbody, parse_render hwf h]
  dsimp only
  unfold recordCompletedRemoteMarker
  rw [if_pos hstatus, markerActionKeyFromMarker_markerOf hsame,
    markerActionKeyFromMarker_markerOf hsame]

/-- **A comment that counts for no other action is one of an action that is read once.** -/
theorem PostedOnce.readOnce (h : PostedOnce binding action) (hwf : action.WellFormed)
    (htexts : MarkerTexts binding action) : ReadOnce binding action := by
  -- An action with the same key would be counted.
  have hone : ∀ (later : PrFollowupBinding) (value : Json) (other : PendingMarkerAction),
      SamePullRequest later binding → pendingMarkerActionFromValue value = .ok other →
      markerActionKey later other .comment = markerActionKey binding action .comment →
      markerIdentity later other = markerIdentity binding action := by
    intro later value other hsame haccepted hkey
    obtain ⟨scan', hscan, -, hcounts⟩ :=
      h.notMistaken later {} { body := renderMarkerCommentBody binding action } hsame rfl
    rw [scan_render hwf htexts hsame {} rfl] at hscan
    obtain rfl := Except.ok.inj hscan
    refine ((hcounts value other haccepted .comment).mp ?_).resolve_left (List.not_mem_nil)
    rw [hkey]
    exact List.mem_cons_of_mem _ List.mem_cons_self
  refine ⟨?_, ?_⟩
  · intro runId source output hsource houtput hfixed htext
    obtain ⟨other, haccepted, hother⟩ := pendingActionValue_accepted hsource houtput hfixed
      hwf.bodyHash hwf.stableMarkerKey
    have hsame : SamePullRequest { binding with runId := runId } binding := ⟨rfl, rfl, rfl⟩
    have hidentity := hone _ _ other hsame haccepted (by
      refine String.toList_inj.mp ?_
      rw [toList_markerActionKey, toList_markerActionKey, headsText_later hsame, hother.1,
        hother.2.1, hother.2.2.1, hother.2.2.2.1, hother.2.2.2.2, htext])
    obtain ⟨hrun, hs, ho, -⟩ := MarkerIdentity.mk.inj hidentity
    exact ⟨hrun, hother.1.symm.trans hs, hother.2.1.symm.trans ho⟩
  · intro before body kind key hbody hkey htext
    obtain ⟨other, haccepted, hother⟩ := pendingActionValue_accepted hwf.sourceHeadSha
      (trim_joinedHeads action.remediationOutputHead (String.ofList before))
      (fun hnone (_ : kind = .commentFixed) => absurd hnone (joinedHeads_ne _ _)) hbody hkey
    have hidentity := hone binding _ other ⟨rfl, rfl, rfl⟩ haccepted (by
      refine String.toList_inj.mp ?_
      rw [toList_markerActionKey, toList_markerActionKey, hother.1, hother.2.1, hother.2.2.1,
        hother.2.2.2.1, hother.2.2.2.2, htext]
      simp [headsText])
    have houtput := hother.2.1.symm.trans (MarkerIdentity.mk.inj hidentity).2.2.1
    have hlength := congrArg (fun text => text.toList.length) houtput
    simp only [toList_joinedHeads, List.length_append, List.length_cons] at hlength
    omega

/-- **A comment is posted once, and counts for its action only, exactly if a marker can carry the
texts of the action and they are read in one way.** -/
theorem marker_posted_once {value : Json} {action : PendingMarkerAction}
    (haccepted : pendingMarkerActionFromValue value = .ok action) (binding : PrFollowupBinding) :
    PostedOnce binding action ↔ MarkerTexts binding action ∧ ReadOnce binding action := by
  have hwf := pendingMarkerActionFromValue_wellFormed haccepted
  constructor
  · intro h
    obtain ⟨marker, hparse, hkey⟩ := h.recognised binding ⟨rfl, rfl, rfl⟩
    have htexts := markerTexts_of_recognised hwf rfl rfl rfl hparse (hkey .comment)
    exact ⟨htexts, h.readOnce hwf htexts⟩
  · rintro ⟨h, hread⟩
    have hparse := parse_render hwf h
    exact {
      recognised := fun later hsame =>
        ⟨_, hparse, fun operation => markerActionKeyFromMarker_markerOf hsame action operation⟩
      notReposted := by
        intro input report comments hsame hcomments hseen outcome houtcome hidentity
        obtain ⟨comment, hmem, hbody⟩ := hseen
        rcases markCoderabbitFeedback_cases input report with ⟨hnone, -⟩ | hpass
        · rw [hnone] at houtcome
          cases houtcome
        · obtain ⟨comments', scan, hcomments', hscan, houtcomes, -⟩ := hpass
          obtain rfl : comments = comments' := by
            rw [hcomments] at hcomments'
            exact Except.ok.inj hcomments'
          rcases houtcomes outcome houtcome with ⟨_, -, rfl⟩ | ⟨action', -, hprocess⟩
          · rfl
          · have hsame' : outcome.action = action' := processMarkerAction_action hprocess
            have hdone : markerActionKey binding action .comment ∈ scan.completed := by
              rw [← markerActionKeyFromMarker_markerOf hsame action .comment]
              exact mem_scanRemoteMarkerCompletions hscan hmem (by rw [hbody]; exact hparse) rfl _
            refine processMarkerAction_notPosted hprocess ?_
            show markerActionKey input.binding action' .comment ∈ scan.completed
            rw [← hsame', markerActionKey_congr hsame hidentity]
            exact hdone
      notMistaken := by
        intro later scan comment hsame hbody
        refine ⟨_, scan_render hwf h hsame scan hbody, rfl, ?_⟩
        intro value other hother operation
        dsimp only
        rw [List.mem_cons, List.mem_cons]
        constructor
        · rintro (hres | hcom | hold)
          · exact .inr (hread.markerIdentity_eq hwf
              (pendingMarkerActionFromValue_wellFormed hother) hsame hres)
          · exact .inr (hread.markerIdentity_eq hwf
              (pendingMarkerActionFromValue_wellFormed hother) hsame hcom)
          · exact .inl hold
        · rintro (hold | hidentity)
          · exact .inr (.inr hold)
          · rw [markerActionKey_congr hsame hidentity]
            cases operation with
            | comment => exact .inr (.inl rfl)
            | resolution => exact .inl rfl }

/-- A binding of a pull request, for the examples. -/
def markerBinding : PrFollowupBinding where
  schemaVersion := 1
  runId := "run-1"
  repositoryOwner := "vybestack"
  repositoryName := "llxprt"
  prNumber := 7
  headRef := "feature"
  headSha := "aaaa"
  baseRef := "main"
  baseSha := some "bbbb"

/-- A pending action on an invalid finding, with a given key. -/
def invalidFinding (stableMarkerKey : String) : Json :=
  .obj [("action_id", .str "a1"), ("action_kind", .str "comment_invalid"), ("item_id", .str "i1"),
    ("stable_marker_key", .str stableMarkerKey), ("source_head_sha", .str "aaaa"),
    ("remediation_output_head", .str "none"), ("body_hash", .str "hash-1"),
    ("status", .str "pending"), ("resolution_required", .bool false),
    ("response_text", .str "Not a defect.")]

def invalidFindingAction (stableMarkerKey : String) : PendingMarkerAction where
  value := invalidFinding stableMarkerKey
  actionId := "a1"
  actionKind := .commentInvalid
  itemId := "i1"
  stableMarkerKey := stableMarkerKey
  sourceHeadSha := "aaaa"
  remediationOutputHead := "none"
  bodyHash := "hash-1"
  reason := "recorded marker action"
  responseText := some "Not a defect."
  threadId := none
  commentDatabaseId := none
  resolutionRequired := false
  status := .pending

theorem marker_posted_once_example :
    PostedOnce markerBinding (invalidFindingAction "review:r1") := by
  have haccepted : pendingMarkerActionFromValue (invalidFinding "review:r1")
      = .ok (invalidFindingAction "review:r1") := by decide +kernel
  refine (marker_posted_once haccepted markerBinding).mpr ⟨?_, ?_⟩
  · exact {
      stableMarkerKey := by decide
      sourceHeadSha := by decide
      remediationOutputHead := by decide
      runId := by decide
      runId_ne := by decide }
  · refine readOnce_of_plain (by decide) (by decide) (by decide) ?_
    rw [List.forall_mem_cons, List.forall_mem_cons, List.forall_mem_singleton]
    decide

/-- **A key with a blank is accepted, and its comment is not recognised.** -/
theorem marker_posted_once_blank :
    pendingMarkerActionFromValue (invalidFinding "review:r 1")
        = .ok (invalidFindingAction "review:r 1")
      ∧ ¬ PostedOnce markerBinding (invalidFindingAction "review:r 1") := by
  have haccepted : pendingMarkerActionFromValue (invalidFinding "review:r 1")
      = .ok (invalidFindingAction "review:r 1") := by decide +kernel
  refine ⟨haccepted, ?_⟩
  intro h
  obtain ⟨marker, hparse, hkey⟩ := h.recognised markerBinding ⟨rfl, rfl, rfl⟩
  have htexts := markerTexts_of_recognised (pendingMarkerActionFromValue_wellFormed haccepted)
    rfl rfl rfl hparse (hkey .comment)
  have hblank : markerText "review:r 1" = false := by decide
  have hword : markerText "review:r 1" = true := htexts.stableMarkerKey
  rw [hblank] at hword
  cases hword

end Luther
