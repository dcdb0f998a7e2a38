/-
Carrying out the pending marker actions of a pull request.

One pass reads which actions are done, from the report of the last pass and from the comments on
the pull request, then posts a comment for each action that is not, and resolves its thread.
GitHub may refuse any call.  A comment that cannot be posted ends the pass without a report; a
thread that cannot be resolved leaves the action `failed`, for a later pass.
-/
import Luther.Feedback.Marker

namespace Luther

/-! ### Policies -/

def isSummaryMarkerKey (stableMarkerKey : String) : Bool := startsWith stableMarkerKey "summary:"

/-- What `resolution_policy` returns. -/
inductive ResolutionPolicy where
  | required
  | skip
  deriving DecidableEq

section

variable (action : PendingMarkerAction)

/-- `resolution_policy`, with the `resolve_fixed` parameter of the step. -/
def resolutionPolicy (resolveFixed : Option Bool) : ResolutionPolicy :=
  if action.actionKind = .commentNeedsUserJudgment then .skip
  else if action.threadId.isNone then .skip
  else
    match (if action.actionKind = .commentFixed then resolveFixed else none) with
    | some true => .required
    | some false => .skip
    | none =>
      if action.actionKind = .commentOutOfScope then .skip
      else if action.resolutionRequired then .required else .skip

def markerActionClaimsReviewThreadIdentity : Bool :=
  let graphqlItem (itemId : String) : Bool :=
    (stripPrefix "graphql:" (trim itemId)).any fun suffix => startsWith suffix "PRRT_"
  [["thread_id"], ["evidence", "thread_id"], ["original_feedback_identity", "thread_id"]].any
      (fun path => (stringAt action.value path).any fun id => startsWith (trim id) "PRRT_")
    || startsWith (trim action.stableMarkerKey) "thread:"
    || graphqlItem action.itemId
    || (stringAt action.value ["source_id"]).any graphqlItem
    || (stringAt action.value ["original_feedback_identity", "item_id"]).any graphqlItem

/-! ### Checks before the first call -/

def markerActionCycleIdentity : String :=
  s!"{action.itemId}:{action.stableMarkerKey}:{action.sourceHeadSha}:"
    ++ s!"{action.remediationOutputHead}:{action.bodyHash}:{action.actionKind.text}"

/-- The violations of the actions, with the ids and identities of those before them. -/
def markerViolations : List PendingMarkerAction → List String → List String →
    List (String × String)
  | [], _, _ => []
  | action :: rest, ids, cycles =>
    if action.actionKind = .skipNeedsUserJudgment then markerViolations rest ids cycles
    else
      let violation (found : Bool) (name : String) : List (String × String) :=
        if found then [(action.itemId, name)] else []
      let duplicate := violation (decide (action.actionId ∈ ids)) "duplicate_action_id"
      if isSummaryMarkerKey action.stableMarkerKey then
        duplicate ++ markerViolations rest (action.actionId :: ids) cycles
      else
        let claims := markerActionClaimsReviewThreadIdentity action
        let cycle := markerActionCycleIdentity action
        duplicate
          ++ violation (decide (cycle ∈ cycles)) "duplicate_result_for_remediation_cycle"
          ++ violation (!(action.responseText.map trim).any (· != "")) "missing_response_text"
          ++ violation (action.resolutionRequired && action.threadId.isNone && claims)
              "resolution_required_without_thread_id"
          ++ violation (claims && action.commentDatabaseId.isNone && action.threadId.isNone)
              "review_thread_identity_without_reply_target"
          ++ markerViolations rest (action.actionId :: ids) (cycle :: cycles)

/-- `validate_marker_actions_before_mutation`: no violation where the list is empty. -/
def validateMarkerActionsBeforeMutation (actions : List PendingMarkerAction) :
    List (String × String) := markerViolations actions [] []

/-! ### Records and reports -/

def markerActionId : Json :=
  (action.value.get? "action_id").getD .null

end

/-- `MarkerActionOutcome`, without the audit and the updated action, which repeat it. -/
structure MarkerActionOutcome where
  action : PendingMarkerAction
  status : MarkerActionStatus
  commentKey : String
  resolutionKey : String
  postedComment : Option Json := none
  resolvedThread : Option Json := none
  skipped : List Json := []
  partialRecord : Option Json := none
  retryable : Option Json := none
  failed : Option Json := none

/-- The sections of the report of a pass. -/
structure MarkerReport where
  postedComments : List Json := []
  resolvedThreads : List Json := []
  skippedActions : List Json := []
  partialActions : List Json := []
  retryableActions : List Json := []
  failedActions : List Json := []
  malformedRemoteMarkers : List (Json × String) := []
  actionStatuses : List (Json × MarkerActionStatus) := []
  violations : List (String × String) := []

def markerReportPayload (outcomes : List MarkerActionOutcome) (malformed : List (Json × String)) :
    MarkerReport where
  postedComments := outcomes.filterMap (·.postedComment)
  resolvedThreads := outcomes.filterMap (·.resolvedThread)
  skippedActions := outcomes.flatMap (·.skipped)
  partialActions := outcomes.filterMap (·.partialRecord)
  retryableActions := outcomes.filterMap (·.retryable)
  failedActions := outcomes.filterMap (·.failed)
  malformedRemoteMarkers := malformed
  actionStatuses := outcomes.map fun outcome => (markerActionId outcome.action, outcome.status)

def idempotencyKey (record : Json) : Option String :=
  (record.get? "idempotency_key").bind Json.asStr?

/-- `read_local_marker_completions`, of the report that could be read. -/
def readLocalMarkerCompletions (report : Option MarkerReport) : List String :=
  match report with
  | none => []
  | some report =>
    (report.postedComments ++ report.resolvedThreads ++ report.skippedActions).filterMap
      idempotencyKey

/-! ### Calls -/

/-- How a comment is delivered. -/
inductive MarkerReplyRoute where
  | restReviewComment (commentDatabaseId : Int)
  | graphqlThread (threadId : String)
  | issueComment

/-- `GithubPrCommandRunner`: what GitHub answers, with an answer that is no JSON in the object that
the program puts in its place. -/
structure MarkerApi where
  reply : MarkerReplyRoute → PendingMarkerAction → Except String Json
  resolveThread : PendingMarkerAction → String → Except String Json

/-- What a pass carries its actions out with. -/
structure MarkerActionProcessor where
  binding : PrFollowupBinding
  api : MarkerApi
  localCompleted : List String
  remoteCompleted : List String
  resolveFixed : Option Bool

structure MarkerActionMutationState where
  postedComment : Option Json := none
  resolvedThread : Option Json := none
  skipped : List Json := []
  partialRecord : Option Json := none
  retryable : Option Json := none
  failed : Option Json := none

/-- The record of a comment that was posted, as far as it is read again. -/
def markerReplyRecord (action : PendingMarkerAction) (commentKey : String) (response : Json) :
    Json :=
  .obj [("idempotency_key", .str commentKey), ("action_id", markerActionId action),
    ("response", response)]

def postMarkerReply (api : MarkerApi) (action : PendingMarkerAction) (commentKey : String) :
    Except String Json :=
  match action.commentDatabaseId, action.threadId with
  | some databaseId, _ => do
    let parsed ← api.reply (.restReviewComment databaseId) action
    .ok (markerReplyRecord action commentKey parsed)
  | none, some threadId => do
    let parsed ← api.reply (.graphqlThread threadId) action
    let comment := jsonPointer ["data", "addPullRequestReviewThreadReply", "comment"] parsed
    -- Without a comment, the answer must at least have data: the reply may have been posted.
    if (comment.bind Json.asObject?).isSome || (parsed.get? "data").any (· != .null) then
      .ok (markerReplyRecord action commentKey parsed)
    else .error (s!"GraphQL addPullRequestReviewThreadReply failed for thread {threadId}; "
      ++ "no data returned")
  | none, none =>
    if markerActionClaimsReviewThreadIdentity action then
      .error (s!"review-thread marker action {action.actionId} has no usable "
        ++ "comment_database_id or thread_id")
    else do
      let parsed ← api.reply .issueComment action
      .ok (markerReplyRecord action commentKey parsed)

/-! ### One action -/

section

variable (processor : MarkerActionProcessor)

def markerCommentAlreadyDone (action : PendingMarkerAction) (commentKey : String) : Bool :=
  decide (commentKey ∈ processor.localCompleted) || decide (commentKey ∈ processor.remoteCompleted)
    || action.status == .completed

def skipRecord (action : PendingMarkerAction) (key reason actionKind : String) : Json :=
  .obj [("idempotency_key", .str key), ("action_id", markerActionId action),
    ("reason", .str reason), ("action_kind", .str actionKind)]

def handleMarkerComment (action : PendingMarkerAction) (commentKey : String)
    (state : MarkerActionMutationState) : Except String MarkerActionMutationState :=
  if markerCommentAlreadyDone processor action commentKey then
    let reason := if commentKey ∈ processor.remoteCompleted then "already_completed_remote"
      else "already_completed_local"
    .ok { state with
      skipped := state.skipped ++ [skipRecord action commentKey reason action.actionKind.text] }
  else do
    let posted ← postMarkerReply processor.api action commentKey
    .ok { state with postedComment := some posted }

/-- What is to become of the thread. -/
inductive MarkerResolutionPlan where
  | skip (reason : String)
  | partialUnavailable
  | resolve (threadId : String)

def markerResolutionPlan (action : PendingMarkerAction)
    (resolutionKey : String) : MarkerResolutionPlan :=
  match resolutionPolicy action processor.resolveFixed with
  | .skip => .skip "resolution_skipped_by_policy"
  | .required =>
    match action.threadId with
    | none => .partialUnavailable
    | some threadId =>
      if resolutionKey ∈ processor.localCompleted ∨ resolutionKey ∈ processor.remoteCompleted
      then .skip "resolution_already_completed"
      else .resolve threadId

/-- Whether the answer to a resolve call says that the thread is resolved. -/
def resolveSucceeded (response : Json) : Bool :=
  (response.get? "errors").isNone
    && (jsonPointer ["data", "resolveReviewThread", "thread", "isResolved"] response).bind
        Json.asBool? == some true

/-- A record of a thread that is still to be resolved. -/
def partialResolutionRecord (action : PendingMarkerAction) (resolutionKey reason error : String) :
    Json :=
  .obj [("idempotency_key", .str resolutionKey), ("action_id", markerActionId action),
    ("reason", .str reason), ("error", .str error),
    ("partial_state", .str "comment_posted_resolution_pending")]

def applyMarkerResolution (action : PendingMarkerAction) (resolutionKey threadId : String)
    (state : MarkerActionMutationState) : MarkerActionMutationState :=
  let failing (reason error : String) : MarkerActionMutationState :=
    let record := partialResolutionRecord action resolutionKey reason error
    { state with partialRecord := some record, retryable := some record }
  match processor.api.resolveThread action threadId with
  | .error error => failing "resolution_transport_error" error
  | .ok response =>
    if resolveSucceeded response then
      { state with resolvedThread := some (.obj [("idempotency_key", .str resolutionKey),
        ("thread_id", .str threadId), ("response", response),
        ("action_id", markerActionId action)]) }
    else failing "resolution_failed_after_comment" "resolution_failed_after_comment"

def handleMarkerResolution (action : PendingMarkerAction)
    (resolutionKey : String) (state : MarkerActionMutationState) : MarkerActionMutationState :=
  match markerResolutionPlan processor action resolutionKey with
  | .skip reason =>
    { state with
      skipped := state.skipped ++ [skipRecord action resolutionKey reason "resolve_thread"] }
  | .partialUnavailable =>
    let record : Json := .obj [("idempotency_key", .str resolutionKey),
      ("action_id", markerActionId action), ("reason", .str "resolution_unavailable"),
      ("partial_state", .str "comment_posted_resolution_pending")]
    { state with partialRecord := some record, retryable := some record }
  | .resolve threadId => applyMarkerResolution processor action resolutionKey threadId state

end

section

variable (action : PendingMarkerAction)

def applyNeedsUserJudgmentPartial (commentKey : String)
    (state : MarkerActionMutationState) : MarkerActionMutationState :=
  if action.actionKind = .commentNeedsUserJudgment ∧ state.partialRecord = none then
    let record : Json := .obj [("idempotency_key", .str commentKey),
      ("action_id", markerActionId action), ("reason", .str "unhandled_needs_user_judgment"),
      ("partial_state", .str "unhandled_needs_user_judgment")]
    { state with partialRecord := some record, retryable := some record }
  else state

def applyUnhandledMarkerFailure (commentKey : String)
    (state : MarkerActionMutationState) : MarkerActionMutationState :=
  if state.failed = none ∧ state.partialRecord = none ∧ state.postedComment = none
      ∧ state.skipped = [] ∧ state.resolvedThread = none then
    { state with failed := some (.obj [("idempotency_key", .str commentKey),
      ("action_id", markerActionId action), ("reason", .str "marker_action_not_handled")]) }
  else state

def buildMarkerActionOutcome (commentKey resolutionKey : String)
    (state : MarkerActionMutationState) : MarkerActionOutcome where
  action := action
  status := if state.failed.isSome || state.partialRecord.isSome then .failed else .completed
  commentKey := commentKey
  resolutionKey := resolutionKey
  postedComment := state.postedComment
  resolvedThread := state.resolvedThread
  skipped := state.skipped
  partialRecord := state.partialRecord
  retryable := state.retryable
  failed := state.failed

def skippedSummaryMarkerOutcome (commentKey resolutionKey : String) : MarkerActionOutcome where
  action := action
  status := .skipped
  commentKey := commentKey
  resolutionKey := resolutionKey
  skipped := [
    skipRecord action commentKey "coderabbit_summary_informational_only" action.actionKind.text,
    skipRecord action resolutionKey "coderabbit_summary_informational_only" "resolve_thread"]

def skippedNeedsUserJudgmentOutcome (commentKey resolutionKey : String) : MarkerActionOutcome :=
  let record : Json := .obj [("idempotency_key", .str commentKey),
    ("action_id", markerActionId action), ("reason", .str "unhandled_needs_user_judgment"),
    ("partial_state", .str "unhandled_needs_user_judgment")]
  { action, commentKey, resolutionKey
    status := .failed
    skipped := [
      skipRecord action commentKey "needs_user_judgment_comments_disabled"
        "comment_needs_user_judgment",
      skipRecord action resolutionKey "resolution_skipped_needs_user_judgment" "resolve_thread"]
    partialRecord := some record
    retryable := some record }

end

def processMarkerAction (processor : MarkerActionProcessor) (action : PendingMarkerAction) :
    Except String MarkerActionOutcome :=
  let commentKey := markerActionKey processor.binding action .comment
  let resolutionKey := markerActionKey processor.binding action .resolution
  if isSummaryMarkerKey action.stableMarkerKey then
    .ok (skippedSummaryMarkerOutcome action commentKey resolutionKey)
  else if action.actionKind = .skipNeedsUserJudgment then
    .ok (skippedNeedsUserJudgmentOutcome action commentKey resolutionKey)
  else do
    let state ← handleMarkerComment processor action commentKey {}
    let state := handleMarkerResolution processor action resolutionKey state
    let state := applyNeedsUserJudgmentPartial action commentKey state
    let state := applyUnhandledMarkerFailure action commentKey state
    .ok (buildMarkerActionOutcome action commentKey resolutionKey state)

/-! ### One pass -/

/-- What a pass finds: its pending actions, the comments on the pull request and on its review
threads, whether a fixed action has the validator's evidence, and what GitHub answers.  The report
of the last pass may be unreadable, and the process may die after some actions. -/
structure MarkerPassInput where
  binding : PrFollowupBinding
  actions : List PendingMarkerAction
  resolveFixed : Option Bool := none
  reportReadable : Bool := true
  issueComments : Except String (List RemoteComment)
  reviewComments : Except String (List RemoteComment)
  validatorSuccess : PendingMarkerAction → Except String Bool
  api : MarkerApi
  diesAfter : Option Nat := none

/-- What a pass leaves: the outcomes of the actions it carried out, and the report it wrote. -/
structure MarkerPassResult where
  outcomes : List MarkerActionOutcome := []
  report : Option MarkerReport := none
  error : Option String := none

section

variable (input : MarkerPassInput)

/-- `discover_marker_remote_comments`: review comments that cannot be read are left out. -/
def discoverMarkerRemoteComments : Except String (List RemoteComment) := do
  let comments ← input.issueComments
  match input.reviewComments with
  | .ok reviewComments => .ok (comments ++ reviewComments)
  | .error _ => .ok comments

def missingValidatorEvidenceOutcome (binding : PrFollowupBinding) (action : PendingMarkerAction) :
    MarkerActionOutcome where
  action := action
  status := .failed
  commentKey := markerActionKey binding action .comment
  resolutionKey := markerActionKey binding action .resolution
  failed := some (.obj [("idempotency_key", .str (markerActionKey binding action .comment)),
    ("resolution_idempotency_key", .str (markerActionKey binding action .resolution)),
    ("action_id", markerActionId action), ("reason", .str "missing_validator_success_evidence"),
    ("failure_state", .str "failed_fatal")])

/-- The fixed actions without the validator's evidence. -/
def markerEvidenceFailures (input : MarkerPassInput) :
    List PendingMarkerAction → Except String (List MarkerActionOutcome)
  | [] => .ok []
  | action :: rest =>
    if isSummaryMarkerKey action.stableMarkerKey || action.actionKind != .commentFixed then
      markerEvidenceFailures input rest
    else do
      let success ← input.validatorSuccess action
      let failures ← markerEvidenceFailures input rest
      .ok (if success then failures
        else missingValidatorEvidenceOutcome input.binding action :: failures)

/-- The actions one after another, to the first comment that cannot be posted. -/
def processEach (processor : MarkerActionProcessor) :
    List PendingMarkerAction → List MarkerActionOutcome × Option String
  | [] => ([], none)
  | action :: rest =>
    match processMarkerAction processor action with
    | .error error => ([], some error)
    | .ok outcome =>
      let others := processEach processor rest
      (outcome :: others.1, others.2)

def processPendingMarkerActions (processor : MarkerActionProcessor) :
    List MarkerActionOutcome × Option String :=
  match markerEvidenceFailures input input.actions with
  | .error error => ([], some error)
  | .ok [] => processEach processor input.actions
  | .ok failures => (failures, none)

def markerProcessor (report : Option MarkerReport)
    (scan : RemoteMarkerScan) : MarkerActionProcessor where
  binding := input.binding
  api := input.api
  localCompleted := if input.reportReadable then readLocalMarkerCompletions report else []
  remoteCompleted := scan.completed
  resolveFixed := input.resolveFixed

/-- `mark_coderabbit_feedback`, with the report of the last pass. -/
def markCoderabbitFeedback (report : Option MarkerReport) : MarkerPassResult :=
  let violations := validateMarkerActionsBeforeMutation input.actions
  if violations ≠ [] then { report := some { violations } }
  else
    match discoverMarkerRemoteComments input with
    | .error error => { error := some ("discover remote marker comments: " ++ error) }
    | .ok comments =>
      match scanRemoteMarkerCompletions input.binding comments with
      | .error _ => { error := some "slice index out of range" }
      | .ok scan =>
        let processed := processPendingMarkerActions input (markerProcessor input report scan)
        match input.diesAfter, processed.2 with
        | some count, _ => { outcomes := processed.1.take count, error := some "interrupted" }
        | none, some error => { outcomes := processed.1, error := some error }
        | none, none =>
          { outcomes := processed.1
            report := some (markerReportPayload processed.1 scan.malformed) }

end

/-! ### What carrying out an action does -/

section Spec

variable {processor : MarkerActionProcessor} {action : PendingMarkerAction}

@[simp] theorem applyNeedsUserJudgmentPartial_postedComment (key : String)
    (state : MarkerActionMutationState) :
    (applyNeedsUserJudgmentPartial action key state).postedComment = state.postedComment := by
  unfold applyNeedsUserJudgmentPartial
  split <;> rfl

@[simp] theorem applyNeedsUserJudgmentPartial_resolvedThread (key : String)
    (state : MarkerActionMutationState) :
    (applyNeedsUserJudgmentPartial action key state).resolvedThread = state.resolvedThread := by
  unfold applyNeedsUserJudgmentPartial
  split <;> rfl

@[simp] theorem applyNeedsUserJudgmentPartial_skipped (key : String)
    (state : MarkerActionMutationState) :
    (applyNeedsUserJudgmentPartial action key state).skipped = state.skipped := by
  unfold applyNeedsUserJudgmentPartial
  split <;> rfl

@[simp] theorem applyUnhandledMarkerFailure_postedComment (key : String)
    (state : MarkerActionMutationState) :
    (applyUnhandledMarkerFailure action key state).postedComment = state.postedComment := by
  unfold applyUnhandledMarkerFailure
  split <;> rfl

@[simp] theorem applyUnhandledMarkerFailure_resolvedThread (key : String)
    (state : MarkerActionMutationState) :
    (applyUnhandledMarkerFailure action key state).resolvedThread = state.resolvedThread := by
  unfold applyUnhandledMarkerFailure
  split <;> rfl

@[simp] theorem applyUnhandledMarkerFailure_skipped (key : String)
    (state : MarkerActionMutationState) :
    (applyUnhandledMarkerFailure action key state).skipped = state.skipped := by
  unfold applyUnhandledMarkerFailure
  split <;> rfl

@[simp] theorem applyUnhandledMarkerFailure_partialRecord (key : String)
    (state : MarkerActionMutationState) :
    (applyUnhandledMarkerFailure action key state).partialRecord = state.partialRecord := by
  unfold applyUnhandledMarkerFailure
  split <;> rfl

theorem applyNeedsUserJudgmentPartial_partialRecord {key : String}
    {state : MarkerActionMutationState} (h : state.partialRecord ≠ none) :
    (applyNeedsUserJudgmentPartial action key state).partialRecord = state.partialRecord := by
  unfold applyNeedsUserJudgmentPartial
  rw [if_neg fun hc => h hc.2]

variable {outcome : MarkerActionOutcome}

/-- **How an action is carried out**: not at all, or its comment first and its thread then. -/
theorem processMarkerAction_cases (h : processMarkerAction processor action = .ok outcome) :
    (isSummaryMarkerKey action.stableMarkerKey = true
      ∧ outcome = skippedSummaryMarkerOutcome action
        (markerActionKey processor.binding action .comment)
        (markerActionKey processor.binding action .resolution))
    ∨ (action.actionKind = .skipNeedsUserJudgment
      ∧ outcome = skippedNeedsUserJudgmentOutcome action
        (markerActionKey processor.binding action .comment)
        (markerActionKey processor.binding action .resolution))
    ∨ (isSummaryMarkerKey action.stableMarkerKey = false ∧ ∃ state,
      handleMarkerComment processor action (markerActionKey processor.binding action .comment) {}
        = .ok state
      ∧ outcome = buildMarkerActionOutcome action
        (markerActionKey processor.binding action .comment)
        (markerActionKey processor.binding action .resolution)
        (applyUnhandledMarkerFailure action (markerActionKey processor.binding action .comment)
          (applyNeedsUserJudgmentPartial action (markerActionKey processor.binding action .comment)
            (handleMarkerResolution processor action
              (markerActionKey processor.binding action .resolution) state)))) := by
  unfold processMarkerAction at h
  dsimp only at h
  by_cases hsummary : isSummaryMarkerKey action.stableMarkerKey = true
  · rw [if_pos hsummary] at h
    exact Or.inl ⟨hsummary, (Except.ok.inj h).symm⟩
  · rw [if_neg hsummary] at h
    by_cases hskip : action.actionKind = .skipNeedsUserJudgment
    · rw [if_pos hskip] at h
      exact Or.inr (Or.inl ⟨hskip, (Except.ok.inj h).symm⟩)
    · rw [if_neg hskip] at h
      obtain ⟨state, hcomment, h⟩ := Sql.bind_ok.mp h
      exact Or.inr (Or.inr ⟨Bool.eq_false_iff.mpr hsummary, state, hcomment,
        (Except.ok.inj h).symm⟩)

@[simp] theorem handleMarkerResolution_postedComment (key : String)
    (state : MarkerActionMutationState) :
    (handleMarkerResolution processor action key state).postedComment = state.postedComment := by
  unfold handleMarkerResolution
  cases markerResolutionPlan processor action key with
  | skip reason => rfl
  | partialUnavailable => rfl
  | resolve threadId =>
    dsimp only
    unfold applyMarkerResolution
    dsimp only
    cases processor.api.resolveThread action threadId with
    | error error => rfl
    | ok response =>
      dsimp only
      split <;> rfl

theorem mem_processEach {actions : List PendingMarkerAction}
    (h : outcome ∈ (processEach processor actions).1) :
    ∃ action ∈ actions, processMarkerAction processor action = .ok outcome := by
  induction actions with
  | nil => cases h
  | cons action rest ih =>
    unfold processEach at h
    cases hprocess : processMarkerAction processor action with
    | error error =>
      rw [hprocess] at h
      cases h
    | ok first =>
      rw [hprocess] at h
      rcases List.mem_cons.mp h with rfl | h
      · exact ⟨action, List.mem_cons_self, hprocess⟩
      · obtain ⟨action', hmem, hok⟩ := ih h
        exact ⟨action', List.mem_cons_of_mem _ hmem, hok⟩

theorem mem_markerEvidenceFailures {input : MarkerPassInput} {actions : List PendingMarkerAction}
    {failures : List MarkerActionOutcome} (h : markerEvidenceFailures input actions = .ok failures)
    (hmem : outcome ∈ failures) :
    ∃ action ∈ actions, outcome = missingValidatorEvidenceOutcome input.binding action := by
  induction actions generalizing failures with
  | nil =>
    obtain rfl := Except.ok.inj h
    cases hmem
  | cons action rest ih =>
    unfold markerEvidenceFailures at h
    by_cases hexempt : (isSummaryMarkerKey action.stableMarkerKey
        || action.actionKind != .commentFixed) = true
    · rw [if_pos hexempt] at h
      obtain ⟨action', hin, heq⟩ := ih h hmem
      exact ⟨action', List.mem_cons_of_mem _ hin, heq⟩
    · rw [if_neg hexempt] at h
      obtain ⟨success, -, h⟩ := Sql.bind_ok.mp h
      obtain ⟨others, hothers, h⟩ := Sql.bind_ok.mp h
      obtain rfl := Except.ok.inj h
      have hcase : outcome = missingValidatorEvidenceOutcome input.binding action
          ∨ outcome ∈ others := by
        cases success with
        | true => exact Or.inr hmem
        | false => exact List.mem_cons.mp hmem
      rcases hcase with rfl | hother
      · exact ⟨action, List.mem_cons_self, rfl⟩
      · obtain ⟨action', hin, heq⟩ := ih hothers hother
        exact ⟨action', List.mem_cons_of_mem _ hin, heq⟩

end Spec

/-- **Where the outcome of a pass comes from**: an action without evidence, or an action that was
carried out with what the pass found. -/
def OutcomeOf (input : MarkerPassInput) (report : Option MarkerReport) (scan : RemoteMarkerScan)
    (outcome : MarkerActionOutcome) : Prop :=
  (∃ action ∈ input.actions, outcome = missingValidatorEvidenceOutcome input.binding action)
    ∨ ∃ action ∈ input.actions,
      processMarkerAction (markerProcessor input report scan) action = .ok outcome

theorem outcomeOf_processPendingMarkerActions {input : MarkerPassInput}
    {report : Option MarkerReport} {scan : RemoteMarkerScan} {outcome : MarkerActionOutcome}
    (h : outcome ∈ (processPendingMarkerActions input (markerProcessor input report scan)).1) :
    OutcomeOf input report scan outcome := by
  unfold processPendingMarkerActions at h
  cases hevidence : markerEvidenceFailures input input.actions with
  | error error =>
    rw [hevidence] at h
    cases h
  | ok failures =>
    rw [hevidence] at h
    cases failures with
    | nil => exact Or.inr (mem_processEach h)
    | cons first others => exact Or.inl (mem_markerEvidenceFailures hevidence h)

/-- **What a pass leaves**: nothing, a report of violations, or outcomes of its actions, with a
report of all of them if it wrote one. -/
theorem markCoderabbitFeedback_cases (input : MarkerPassInput) (report : Option MarkerReport) :
    ((markCoderabbitFeedback input report).outcomes = []
      ∧ ∀ written, (markCoderabbitFeedback input report).report = some written →
        ∃ violations, written = { violations })
    ∨ ∃ comments scan, discoverMarkerRemoteComments input = .ok comments
      ∧ scanRemoteMarkerCompletions input.binding comments = .ok scan
      ∧ (∀ outcome ∈ (markCoderabbitFeedback input report).outcomes,
        OutcomeOf input report scan outcome)
      ∧ ∀ written, (markCoderabbitFeedback input report).report = some written →
        written = markerReportPayload (markCoderabbitFeedback input report).outcomes
          scan.malformed := by
  unfold markCoderabbitFeedback
  dsimp only
  by_cases hviolations : validateMarkerActionsBeforeMutation input.actions ≠ []
  · rw [if_pos hviolations]
    left
    refine ⟨rfl, ?_⟩
    intro written hwritten
    exact ⟨_, (Option.some.inj hwritten).symm⟩
  · rw [if_neg hviolations]
    cases hcomments : discoverMarkerRemoteComments input with
    | error error =>
      left
      refine ⟨rfl, ?_⟩
      intro written hwritten
      cases hwritten
    | ok comments =>
      dsimp only
      cases hscan : scanRemoteMarkerCompletions input.binding comments with
      | error error =>
        left
        refine ⟨rfl, ?_⟩
        intro written hwritten
        cases hwritten
      | ok scan =>
        right
        refine ⟨comments, scan, rfl, hscan, ?_⟩
        dsimp only
        cases hdies : input.diesAfter with
        | some count =>
          refine ⟨?_, ?_⟩
          · intro outcome houtcome
            exact outcomeOf_processPendingMarkerActions (List.mem_of_mem_take houtcome)
          · intro written hwritten
            cases hwritten
        | none =>
          cases (processPendingMarkerActions input (markerProcessor input report scan)).2 with
          | some error =>
            refine ⟨?_, ?_⟩
            · intro outcome houtcome
              exact outcomeOf_processPendingMarkerActions houtcome
            · intro written hwritten
              cases hwritten
          | none =>
            refine ⟨?_, ?_⟩
            · intro outcome houtcome
              exact outcomeOf_processPendingMarkerActions houtcome
            · intro written hwritten
              exact (Option.some.inj hwritten).symm

end Luther
