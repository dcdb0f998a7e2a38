/-
What is kept of a validated result, and the actions that are made from it.

The result that an agent has given is published with the verdict of its validation.  Where a
retry state was on record, its counters take the place of those the result has given.  Of a
success, each item that answers a reviewer's comment becomes a pending action that says that the
comment was dealt with, and names the numbers of the document that was published.
-/
import Luther.Remediation.PendingMarkerActions
import Luther.Remediation.RetryPolicy

namespace Luther

/-! ### The scope of a validation -/

def retryScopeU64 (result : Json) (field : String) : Option Nat :=
  ((result.get? "retry_scope").bind (Json.u64? field)).or (result.u64? field)

def remediationRetryScope (binding : PrFollowupBinding) (plan result params : Json) :
    RemediationRetryScope where
  runId := binding.runId
  repositoryOwner := binding.repositoryOwner
  repositoryName := binding.repositoryName
  prNumber := binding.prNumber.toNat
  inputHeadSha := binding.headSha
  outputHeadSha := result.text? "output_head_sha"
  planArtifactSequence := (plan.u64? "artifact_sequence").getD 0
  remediationAttemptIndex := (retryScopeU64 result "remediation_attempt_index").getD 0
  maxRemediationAttempts := (retryScopeU64 result "max_remediation_attempts").getD
    (u64Param params "max_remediation_attempts" 2)
  validationRetryIndex := (retryScopeU64 result "validation_retry_index").getD 0
  maxValidationRetries := (retryScopeU64 result "max_validation_retries").getD
    (u64Param params "max_validation_retries" 2)
  staleArtifactRetryIndex := (retryScopeU64 result "stale_artifact_retry_index").getD 0
  maxStaleArtifactRetries := (retryScopeU64 result "max_stale_artifact_retries").getD
    (u64Param params "max_stale_artifact_retries" 2)
  scopeKind := "remediation_result_validation"

def retryScopeJson (scope : RemediationRetryScope) : Json :=
  .obj [
    ("run_id", .str scope.runId),
    ("repository_owner", .str scope.repositoryOwner),
    ("repository_name", .str scope.repositoryName),
    ("pr_number", .num scope.prNumber),
    ("input_head_sha", .str scope.inputHeadSha),
    ("output_head_sha", (scope.outputHeadSha.map Json.str).getD .null),
    ("plan_artifact_sequence", .num scope.planArtifactSequence),
    ("remediation_attempt_index", .num scope.remediationAttemptIndex),
    ("max_remediation_attempts", .num scope.maxRemediationAttempts),
    ("validation_retry_index", .num scope.validationRetryIndex),
    ("max_validation_retries", .num scope.maxValidationRetries),
    ("stale_artifact_retry_index", .num scope.staleArtifactRetryIndex),
    ("max_stale_artifact_retries", .num scope.maxStaleArtifactRetries),
    ("scope_kind", .str scope.scopeKind)]

/-! ### The artifact -/

def ValidationState.text : ValidationState → String
  | .valid => "valid"
  | .fixableMalformed => "fixable_malformed"
  | .malformedCapExhausted => "malformed_cap_exhausted"
  | .validButUnsuccessful => "valid_but_unsuccessful"
  | .unsuccessfulRemediationCapExhausted => "unsuccessful_remediation_cap_exhausted"
  | .staleArtifact => "stale_artifact"
  | .staleArtifactCapExhausted => "stale_artifact_cap_exhausted"

/-- What a result says, once it is accepted. -/
structure RemediationResultValidationArtifact where
  inputHeadSha : String
  outputHeadSha : String
  overallStatus : String
  results : List Json
  verificationCommands : Json
  successFilePath : Json
  validationState : ValidationState
  validationRetryIndex : Nat
  maxValidationRetries : Nat
  remediationAttemptIndex : Nat
  maxRemediationAttempts : Nat
  retryScope : Json
  planArtifactSequence : Json
  unsuccessfulStatuses : List String
  noChangeAfterRemediation : Bool
  validationErrors : List String
  failureReason : String
  expectedScope : Json
  observedScope : Json
  staleScopeErrors : List String
  staleArtifactRetryIndex : Nat
  maxStaleArtifactRetries : Nat
  classifiedAs : Option String
  validationSourceId : String
  agentResultSourceIdentity : String
  retryLaunchTransitionId : Option String
  retryLaunchOrdinal : Option Nat
  validatedAt : String

def RemediationResultValidationArtifact.toJson (artifact : RemediationResultValidationArtifact) :
    Json :=
  .obj [
    ("input_head_sha", .str artifact.inputHeadSha),
    ("output_head_sha", .str artifact.outputHeadSha),
    ("overall_status", .str artifact.overallStatus),
    ("results", .arr artifact.results),
    ("verification_commands", artifact.verificationCommands),
    ("success_file_path", artifact.successFilePath),
    ("validation_state", .str artifact.validationState.text),
    ("validation_retry_index", .num artifact.validationRetryIndex),
    ("max_validation_retries", .num artifact.maxValidationRetries),
    ("remediation_attempt_index", .num artifact.remediationAttemptIndex),
    ("max_remediation_attempts", .num artifact.maxRemediationAttempts),
    ("retry_scope", artifact.retryScope),
    ("plan_artifact_sequence", artifact.planArtifactSequence),
    ("unsuccessful_statuses", .arr (artifact.unsuccessfulStatuses.map Json.str)),
    ("no_change_after_remediation", .bool artifact.noChangeAfterRemediation),
    ("validation_errors", .arr (artifact.validationErrors.map Json.str)),
    ("failure_reason", .str artifact.failureReason),
    ("expected_scope", artifact.expectedScope),
    ("observed_scope", artifact.observedScope),
    ("stale_scope_errors", .arr (artifact.staleScopeErrors.map Json.str)),
    ("stale_artifact_retry_index", .num artifact.staleArtifactRetryIndex),
    ("max_stale_artifact_retries", .num artifact.maxStaleArtifactRetries),
    ("classified_as", (artifact.classifiedAs.map Json.str).getD .null),
    ("validation_source_id", .str artifact.validationSourceId),
    ("agent_result_source_identity", .str artifact.agentResultSourceIdentity),
    ("retry_launch_transition_id",
      (artifact.retryLaunchTransitionId.map Json.str).getD .null),
    ("retry_launch_ordinal", (artifact.retryLaunchOrdinal.map fun n => Json.num n).getD .null),
    ("validated_at", .str artifact.validatedAt)]

def remediationRetryScopePayload (result : Json) (validation : RemediationResultValidation) :
    Json :=
  match observedRetryScope result, validation.staleScope with
  | .obj entries, some staleScope =>
    .obj (Assoc.insert "max_stale_artifact_retries" (.num staleScope.maxStaleArtifactRetries)
      (Assoc.insert "stale_artifact_retry_index" (.num staleScope.staleArtifactRetryIndex)
        entries))
  | scope, _ => scope

def remediationResultPayload (binding : PrFollowupBinding) (result : Json)
    (validation : RemediationResultValidation) (validationSourceId : String)
    (retryState : Option RetryState) (validatedAt : String) :
    RemediationResultValidationArtifact where
  inputHeadSha := stringField result "input_head_sha" binding.headSha
  outputHeadSha := stringField result "output_head_sha" binding.headSha
  overallStatus := stringField result "overall_status" "unknown"
  results := arrayField result "results"
  verificationCommands := (result.get? "verification_commands").getD (.arr [])
  successFilePath := fieldOrNull result "success_file_path"
  validationState := validation.state
  validationRetryIndex := validation.validationRetryIndex
  maxValidationRetries := validation.maxValidationRetries
  remediationAttemptIndex := validation.remediationAttemptIndex
  maxRemediationAttempts := validation.maxRemediationAttempts
  retryScope := remediationRetryScopePayload result validation
  planArtifactSequence := fieldOrNull result "plan_artifact_sequence"
  unsuccessfulStatuses := validation.unsuccessfulStatuses
  noChangeAfterRemediation := validation.noChangeAfterRemediation
  validationErrors := validation.errors
  failureReason := validation.failureReason
  expectedScope := (validation.staleScope.map fun s => retryScopeJson s.expectedScope).getD .null
  observedScope := (validation.staleScope.map fun s => s.observedScope).getD .null
  staleScopeErrors := (validation.staleScope.map fun s => s.errors).getD []
  staleArtifactRetryIndex := (validation.staleScope.map fun s => s.staleArtifactRetryIndex).getD
    ((retryScopeU64 result "stale_artifact_retry_index").getD 0)
  maxStaleArtifactRetries := (validation.staleScope.map fun s => s.maxStaleArtifactRetries).getD
    ((retryScopeU64 result "max_stale_artifact_retries").getD 2)
  classifiedAs := validation.staleScope.map fun _ =>
    if validation.state = .staleArtifactCapExhausted then "stale_artifact_cap_exhausted"
    else "stale_artifact_retryable"
  validationSourceId := validationSourceId
  agentResultSourceIdentity := stringField result "agent_result_source_identity" ""
  retryLaunchTransitionId := retryState.map durableLaunchTransitionId
  retryLaunchOrdinal := retryState.map fun state => state.launchOrdinal.toNat
  validatedAt := validatedAt

/-! ### The retry state -/

section

variable (state : RetryState)

def retryCounterFields : List (String × Json) :=
  [("remediation_attempt_index", .ofU64 state.counters.remediationAttemptIndex),
   ("max_remediation_attempts", .ofU64 state.budget.maxRemediationAttempts),
   ("validation_retry_index", .ofU64 state.counters.validationRetryIndex),
   ("max_validation_retries", .ofU64 state.budget.maxValidationRetries),
   ("stale_artifact_retry_index", .ofU64 state.counters.staleArtifactRetryIndex),
   ("max_stale_artifact_retries", .ofU64 state.budget.maxStaleArtifactRetries)]

/-- The counters, written into the entries of an object. -/
def insertRetryCounters (entries : List (String × Json)) : List (String × Json) :=
  (retryCounterFields state).foldl (fun object field => Assoc.insert field.1 field.2 object) entries

/-- The scope of a result, with the counters of the state. -/
def projectedRetryScope (scope : Option Json) : Json :=
  match scope with
  | some (.obj entries) => .obj (insertRetryCounters state entries)
  | _ => .obj (insertRetryCounters state [])

def projectRetryState (result : Json) (state : RetryState) : Json :=
  let entries := (result.asObject?).getD []
  .obj (Assoc.insert "retry_scope" (projectedRetryScope state (entries.lookup "retry_scope"))
    (Assoc.insert "retry_launch_ordinal" (.ofU64 state.launchOrdinal)
      (Assoc.insert "retry_launch_transition_id" (.str (durableLaunchTransitionId state))
        (insertRetryCounters state entries))))

/-- The artifact that is read back from the JSON of one, after `project_retry_state`. -/
def RemediationResultValidationArtifact.projected
    (artifact : RemediationResultValidationArtifact) : RemediationResultValidationArtifact :=
  { artifact with
    remediationAttemptIndex := state.counters.remediationAttemptIndex.toNat
    maxRemediationAttempts := state.budget.maxRemediationAttempts.toNat
    validationRetryIndex := state.counters.validationRetryIndex.toNat
    maxValidationRetries := state.budget.maxValidationRetries.toNat
    staleArtifactRetryIndex := state.counters.staleArtifactRetryIndex.toNat
    maxStaleArtifactRetries := state.budget.maxStaleArtifactRetries.toNat
    retryScope := projectedRetryScope state (some artifact.retryScope)
    retryLaunchTransitionId := some (durableLaunchTransitionId state)
    retryLaunchOrdinal := some state.launchOrdinal.toNat }

end

/-- What `publish_result` publishes: with a retry state, the one that the transition has left is
written over what the result has said. -/
def publishedResult (recorded : Option RetryState)
    (artifact : RemediationResultValidationArtifact) : RemediationResultValidationArtifact :=
  (recorded.map fun state => artifact.projected state).getD artifact

/-- `PreparedRemediationValidation`: the result, with the retry state that was projected into it,
and what it is judged by. -/
structure PreparedRemediationValidation where
  binding : PrFollowupBinding
  plan : Json
  result : Json
  params : Json
  validationSourceId : String
  retryState : Option RetryState
  advanceValidation : Bool

namespace PreparedRemediationValidation

def validation (prepared : PreparedRemediationValidation) :
    Except String RemediationResultValidation :=
  evaluateRemediationResult prepared.binding prepared.plan prepared.result
    (remediationRetryScope prepared.binding prepared.plan prepared.result prepared.params)
    prepared.retryState.isSome prepared.advanceValidation

/-- The artifact of `publish_result`, once the transition was recorded. -/
def payload (prepared : PreparedRemediationValidation) (validation : RemediationResultValidation)
    (recorded : Option RetryState) (validatedAt : String) : RemediationResultValidationArtifact :=
  publishedResult recorded
    (remediationResultPayload prepared.binding prepared.result validation
      prepared.validationSourceId prepared.retryState validatedAt)

end PreparedRemediationValidation

/-! ### The items that were fixed -/

/-- An item that answers a reviewer's comment, with success. -/
def isFixedFeedback (result : Json) : Bool :=
  stringField result "source_type" "" == "coderabbit_feedback"
    && successStatuses.contains (stringField result "status" "")

/-- A field that is carried over where it is there. -/
def carriedField (result : Json) (field : String) : List (String × Json) :=
  ((result.get? field).map fun value => (field, value)).toList

/-- What is written over the item of the plan that was fixed. -/
def fixedFeedbackFields (result : Json) (payload : RemediationResultValidationArtifact)
    (resultSequence : ArtifactSequenceMetadata) : List (String × Json) :=
  carriedField result "thread_id" ++ carriedField result "comment_database_id" ++
    [("decision", .str "valid"),
     ("marker_action", .str "comment_fixed"),
     ("remediation_result_status", .str (stringField result "status" "")),
     ("remediation_input_head_sha", .str payload.inputHeadSha),
     ("remediation_output_head_sha", .str payload.outputHeadSha)] ++
    carriedField result "response_text" ++
    [("remediation_result_evidence", (result.get? "evidence").getD result),
     ("remediation_result_artifact_sequence", .num resultSequence.artifactSequence),
     ("remediation_result_write_sequence", .num resultSequence.writeSequence),
     ("remediation_result_producer_step_id", .str resultSequence.producerStepId),
     ("plan_artifact_sequence", payload.planArtifactSequence),
     ("remediation_attempt_index", .num payload.remediationAttemptIndex)]

/-- The item of the plan, with what was made of it.  An item with a key is an object. -/
def fixedFeedbackItem (planItem result : Json) (payload : RemediationResultValidationArtifact)
    (resultSequence : ArtifactSequenceMetadata) : Json :=
  .obj ((fixedFeedbackFields result payload resultSequence).foldl
    (fun object field => Assoc.insert field.1 field.2 object) (planItem.asObject?.getD []))

/-- The loop of `fixed_feedback_marker_items`: an item of the plan is used once. -/
def fixedFeedbackMarkerItemsFrom (payload : RemediationResultValidationArtifact)
    (resultSequence : ArtifactSequenceMetadata) : List Json → List (String × Json) → List Json
  | [], _ => []
  | result :: rest, planItems =>
    if isFixedFeedback result then
      match planItems.lookup (itemKey result) with
      | none => fixedFeedbackMarkerItemsFrom payload resultSequence rest planItems
      | some planItem =>
        fixedFeedbackItem planItem result payload resultSequence ::
          fixedFeedbackMarkerItemsFrom payload resultSequence rest
            (planItems.filter fun entry => entry.1 != itemKey result)
    else fixedFeedbackMarkerItemsFrom payload resultSequence rest planItems

def fixedFeedbackMarkerItems (plan : Json) (payload : RemediationResultValidationArtifact)
    (resultSequence : ArtifactSequenceMetadata) : List Json :=
  fixedFeedbackMarkerItemsFrom payload resultSequence payload.results (planItemsByKey plan)

/-- The actions that `write_pending_marker_actions_for_fixed_feedback` derives. -/
def fixedFeedbackActions (binding : PrFollowupBinding) (plan : Json)
    (payload : RemediationResultValidationArtifact) (resultSequence : ArtifactSequenceMetadata) :
    List Json :=
  ((fixedFeedbackMarkerItems plan payload resultSequence).filter fun item =>
    !valueHasSummaryMarkerKey item).map fun item =>
      pendingMarkerAction binding item (some payload.outputHeadSha)

end Luther
