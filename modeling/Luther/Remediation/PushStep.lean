/-
The step that pushes what a remediation has changed.

It looks at the worktree, commits what has changed, and pushes the head.  It goes by what it
finds: the local head, the head of the remote branch, and the changed paths.  Of the
executions before it, it knows the last artifact only, from which it counts how often a push
of the same head has failed.
-/
import Luther.Remediation.GitCommands

namespace Luther

def pushFamily : String := "push-remediation-result"

/-! ### The executions before -/

/-- `PushRunSetup`, and the retries that are configured. -/
structure PushRunSetup where
  plan : Json
  result : Json
  stepOrder : Nat
  maxPushRetries : Nat
  deriving DecidableEq

def u64RequiredParam (params : Json) (key : String) (default : Nat) : Except String Nat :=
  match params.get? key with
  | some value =>
    match value.asU64?.filter (0 < ·) with
    | some n => .ok n
    | none => .error s!"{key} must be a positive integer"
  | none => .ok default

section

variable (validate : FamilyInvariants)

def loadPushRunSetup (step : PushStep) (store : ArtifactStore) : Except String PushRunSetup := do
  let plan ← readCurrentJson validate step.binding planFamily store
  let result ← readCurrentJson validate step.binding resultFamily store
  let maxPushRetries ← u64RequiredParam step.params "max_push_retries" 1
  let _ ← u64RequiredParam step.params "push_timeout_seconds" 900
  .ok
    { plan := plan
      result := result
      stepOrder := u64Param step.params "step_order_index" 11
      maxPushRetries := maxPushRetries }

/-- What the artifact of an execution is about, its head apart. -/
def retryScopeOf (step : PushStep) (setup : PushRunSetup) : List (String × Json) :=
  [("run_id", .str step.binding.runId),
   ("repository_owner", .str step.binding.repositoryOwner),
   ("repository_name", .str step.binding.repositoryName),
   ("pr_number", .num step.binding.prNumber.toNat),
   ("remote_ref", .str step.remoteRef),
   ("plan_artifact_sequence", artifactSequenceOf setup.plan),
   ("remediation_result_artifact_sequence", artifactSequenceOf setup.result)]

def pushRetryScopeMatches (step : PushStep) (setup : PushRunSetup) (localHead : String)
    (scope : Json) : Bool :=
  (scope.get? "run_id").bind Json.asStr? == some step.binding.runId
    && (scope.get? "repository_owner").bind Json.asStr? == some step.binding.repositoryOwner
    && (scope.get? "repository_name").bind Json.asStr? == some step.binding.repositoryName
    && scope.u64? "pr_number" == some step.binding.prNumber.toNat
    && (scope.get? "head_sha").bind Json.asStr? == some localHead
    && (scope.get? "remote_ref").bind Json.asStr? == some step.remoteRef
    && scope.get? "plan_artifact_sequence" == setup.plan.get? "artifact_sequence"
    && scope.get? "remediation_result_artifact_sequence" == setup.result.get? "artifact_sequence"

/-- The next index, after an artifact of the same scope. -/
def nextRetryIndex (value : Json) : Except String Nat :=
  let index := (value.u64? "push_retry_index").getD 0
  if index + 1 < 2 ^ 64 then .ok (index + 1) else .error "attempt to add with overflow"

def currentPushRetryIndex (step : PushStep)
    (setup : PushRunSetup) (localHead : String) (store : ArtifactStore) : Except String Nat :=
  match store.currentFile step.binding pushFamily with
  | none => .ok 0
  | some _ => do
    let value ← readCurrentJson validate step.binding pushFamily store
    match value.get? "retry_scope" with
    | some (.obj entries) =>
      if pushRetryScopeMatches step setup localHead (.obj entries) then nextRetryIndex value
      else .ok 0
    | _ => .ok 0

/-! ### The artifact of an execution -/

/-- The arguments of `push_payload` that the executions differ in. -/
structure PushPayload where
  pushState : String
  retryIndex : Nat
  prePushLocalHeadSha : String
  prePushRemoteHeadSha : String
  committedHeadSha : Option String := none
  postPushLocalHeadSha : String
  postPushRemoteHeadSha : Option String := none
  expectedHeadSha : String
  verifiedRemoteMatchesExpected : Bool := false
  stagedPaths : List String := []
  excludedPaths : List String := []
  commitMessage : Option String := none
  pushErrorClass : Option String := none
  commands : List Json := []
  authPreflight : Option WorkflowAuthPreflightReport := none

/-- `push_payload`, and `with_auth_preflight`. -/
def pushPayload (step : PushStep) (run : PushRun) (setup : PushRunSetup) (testResult : Json)
    (payload : PushPayload) : Json :=
  .obj (
    [("push_state", .str payload.pushState),
     ("push_retry_index", .num payload.retryIndex),
     ("max_push_retries", .num setup.maxPushRetries),
     ("retry_scope", .obj
      (("head_sha", .str (payload.committedHeadSha.getD payload.prePushLocalHeadSha)) ::
        retryScopeOf step setup)),
     ("remote_ref", .str step.remoteRef),
     ("pre_push_local_head_sha", .str payload.prePushLocalHeadSha),
     ("pre_push_remote_head_sha", .str payload.prePushRemoteHeadSha),
     ("pre_push_pr_head_sha", .str step.binding.headSha),
     ("committed_head_sha", jsonOfText payload.committedHeadSha),
     ("post_push_local_head_sha", .str payload.postPushLocalHeadSha),
     ("post_push_remote_head_sha", jsonOfText payload.postPushRemoteHeadSha),
     ("expected_head_sha", .str payload.expectedHeadSha),
     ("verified_remote_matches_expected", .bool payload.verifiedRemoteMatchesExpected),
     ("staged_paths", jsonOfTexts payload.stagedPaths),
     ("excluded_paths", jsonOfTexts payload.excludedPaths),
     ("commit_message", jsonOfText payload.commitMessage),
     ("push_error_class", jsonOfText payload.pushErrorClass),
     ("commands", .arr payload.commands),
     ("stdout_artifact_path", .null),
     ("stderr_artifact_path", .null),
     ("source_artifacts", .arr
      [sourceArtifact setup.plan planFamily, sourceArtifact setup.result resultFamily,
        sourceArtifact testResult testFamily]),
     ("pushed_at", .str run.pushedAt.toRfc3339)] ++
    (payload.authPreflight.map fun report => ("auth_preflight", report.toJson)).toList)

def pushRequest (step : PushStep) (run : PushRun) (setup : PushRunSetup) (testResult : Json)
    (payload : PushPayload) (failure : Option ArtifactFailure) : JsonArtifactWriteRequest where
  binding := step.binding
  artifactFamily := pushFamily
  producerStepId := step.stepId
  stepOrderIndex := UInt64.ofNat setup.stepOrder
  writtenAt := run.writtenAt
  producedAt := run.writtenAt
  payload := pushPayload step run setup testResult payload
  failure := failure

/-- `write_push_result`, and the outcome that is answered when it is written. -/
def writePushResult (step : PushStep) (run : PushRun) (setup : PushRunSetup) (testResult : Json)
    (payload : PushPayload) (failure : Option ArtifactFailure) (outcome : StepOutcome) :
    Effect PushWorld StepOutcome :=
  Effect.of fun world =>
    let (written, store) := writeJsonArtifactLocked validate run.order
      (pushRequest step run setup testResult payload failure) run.publication world.store
    (written.map fun _ => outcome, { world with store := store })

/-- The details of a failure that is to be tried again. -/
def retryDetails (retryIndex : Nat) : Json := .obj [("push_retry_index", .num retryIndex)]

/-- The details of a remote head that is not what was pushed. -/
def mismatchDetails (committedHead remoteHead : String) : Json :=
  .obj [("committed_head", .str committedHead), ("remote_head", .str remoteHead)]

/-- `write_push_config_fatal`, and `write_missing_validator_success_evidence`. -/
def writePushConfigFatal (step : PushStep) (run : PushRun) (setup : PushRunSetup)
    (testResult : Json) (reason : String) (details : Json) : Effect PushWorld StepOutcome :=
  writePushResult validate step run setup testResult
    { pushState := "fatal"
      retryIndex := 0
      prePushLocalHeadSha := "unknown"
      prePushRemoteHeadSha := "unknown"
      postPushLocalHeadSha := "unknown"
      expectedHeadSha := "unknown"
      pushErrorClass := some reason }
    (some ⟨"fatal", reason, details⟩) .fatal

/-- `write_push_failure_from_observation`, of an inspection that has failed. -/
def writePushFailureFromObservation (step : PushStep) (run : PushRun) (setup : PushRunSetup)
    (testResult : Json) (reason : String) (commands : List Json) : Effect PushWorld StepOutcome :=
  writePushResult validate step run setup testResult
    { pushState := "fatal"
      retryIndex := 0
      prePushLocalHeadSha := step.binding.headSha
      prePushRemoteHeadSha := "unknown"
      postPushLocalHeadSha := step.binding.headSha
      expectedHeadSha := step.binding.headSha
      pushErrorClass := some reason
      commands := commands }
    (some ⟨"fatal", reason, retryDetails 0⟩) .fatal

def writeRetryablePushFailure (step : PushStep) (run : PushRun) (setup : PushRunSetup)
    (testResult : Json) (retryIndex : Nat) (reason : String) (commands : List Json)
    (inspection : PushInspection) : Effect PushWorld StepOutcome :=
  let exhausted := decide (setup.maxPushRetries ≤ retryIndex)
  let state := if exhausted then "retry_exhausted" else "retryable_failed"
  writePushResult validate step run setup testResult
    { pushState := state
      retryIndex := retryIndex
      prePushLocalHeadSha := inspection.prePushLocalHeadSha
      prePushRemoteHeadSha := inspection.prePushRemoteHeadSha
      postPushLocalHeadSha := inspection.prePushLocalHeadSha
      postPushRemoteHeadSha := some inspection.prePushRemoteHeadSha
      expectedHeadSha := inspection.prePushLocalHeadSha
      stagedPaths := inspection.includedPaths
      excludedPaths := inspection.excludedPaths
      pushErrorClass := some reason
      commands := commands }
    (some ⟨state, reason, retryDetails retryIndex⟩)
    (if exhausted then .fatal else .retryable)

def writeFatalAuthPreflightPushResult (step : PushStep) (run : PushRun) (setup : PushRunSetup)
    (testResult : Json) (retryIndex : Nat) (report : WorkflowAuthPreflightReport)
    (commands : List Json) (inspection : PushInspection) : Effect PushWorld StepOutcome :=
  let reason := report.missingCapability.getD "workflow auth capability missing"
  writePushResult validate step run setup testResult
    { pushState := "fatal"
      retryIndex := retryIndex
      prePushLocalHeadSha := inspection.prePushLocalHeadSha
      prePushRemoteHeadSha := inspection.prePushRemoteHeadSha
      postPushLocalHeadSha := inspection.prePushLocalHeadSha
      postPushRemoteHeadSha := some inspection.prePushRemoteHeadSha
      expectedHeadSha := inspection.prePushLocalHeadSha
      stagedPaths := inspection.includedPaths
      excludedPaths := inspection.excludedPaths
      pushErrorClass := some reason
      commands := commands
      authPreflight := some report }
    (some ⟨"fatal", reason, .obj [("operator_action_required", .bool true)]⟩) .fatal

def pushOutcomeForVerification (verified : Bool) (retryIndex maxPushRetries : Nat) :
    StepOutcome :=
  if verified then .success
  else if maxPushRetries ≤ retryIndex then .fatal
  else .retryable

/-- `write_existing_head_push_result`, and `write_committed_head_push_result`: the head that was
pushed is compared with what the remote branch has. -/
def writeVerifiedPushResult (step : PushStep) (run : PushRun) (setup : PushRunSetup)
    (testResult : Json) (pushedState : String) (retryIndex : Nat) (commands : List Json)
    (inspection : PushInspection) (stagedPaths : List String) (commitMessage : Option String)
    (pushedHead remoteAfter : String) : Effect PushWorld StepOutcome :=
  let verified := remoteAfter == pushedHead
  writePushResult validate step run setup testResult
    { pushState := if verified then pushedState else "retryable_failed"
      retryIndex := retryIndex
      prePushLocalHeadSha := inspection.prePushLocalHeadSha
      prePushRemoteHeadSha := inspection.prePushRemoteHeadSha
      committedHeadSha := some pushedHead
      postPushLocalHeadSha := pushedHead
      postPushRemoteHeadSha := some remoteAfter
      expectedHeadSha := pushedHead
      verifiedRemoteMatchesExpected := verified
      stagedPaths := stagedPaths
      excludedPaths := inspection.excludedPaths
      commitMessage := commitMessage
      pushErrorClass := if verified then none else some "remote_head_mismatch_after_push"
      commands := commands }
    (if verified then none
      else some ⟨"retryable_failed", "remote_head_mismatch_after_push",
        mismatchDetails pushedHead remoteAfter⟩)
    (pushOutcomeForVerification verified retryIndex setup.maxPushRetries)

def writeNoChangePushResult (step : PushStep)
    (run : PushRun) (setup : PushRunSetup) (testResult : Json) (retryIndex : Nat)
    (commands : List Json) (inspection : PushInspection) : Effect PushWorld StepOutcome :=
  let verified := inspection.prePushRemoteHeadSha == inspection.prePushLocalHeadSha
  writePushResult validate step run setup testResult
    { pushState :=
        if inspection.excludedPaths.isEmpty then "no_change" else "no_change_excluded_only"
      retryIndex := retryIndex
      prePushLocalHeadSha := inspection.prePushLocalHeadSha
      prePushRemoteHeadSha := inspection.prePushRemoteHeadSha
      postPushLocalHeadSha := inspection.prePushLocalHeadSha
      postPushRemoteHeadSha := some inspection.prePushRemoteHeadSha
      expectedHeadSha := inspection.prePushLocalHeadSha
      verifiedRemoteMatchesExpected := verified
      excludedPaths := inspection.excludedPaths
      pushErrorClass := if verified then none else some "remote_head_mismatch"
      commands := commands }
    (if verified then none
      else some ⟨"fatal", "remote_head_mismatch",
        .obj [("local_head", .str inspection.prePushLocalHeadSha),
          ("remote_head", .str inspection.prePushRemoteHeadSha)]⟩)
    (if verified then .fixable else .fatal)

end

/-! ### Pushing -/

section Pushing

variable (validate : FamilyInvariants) (step : PushStep) (run : PushRun)
  (setup : PushRunSetup) (testResult : Json)

/-- `push_existing_local_head`, and `push_committed_head`: the head is pushed, and the remote
branch is looked at again. -/
def pushHead (pushedState : String) (retryIndex : Nat) (commands : List Json)
    (inspection : PushInspection) (stagedPaths : List String) (commitMessage : Option String)
    (pushedHead : String) : Effect PushWorld StepOutcome := do
  let push ← pushRunnerCommand step (.push step.remoteName step.remoteRef) run.push
  let commands := commands ++ [pushCommandResultJson push]
  if push.status = "passed" then
    match ← remoteHeadSha step run.verifiedHead with
    | (.error reason, observed) =>
      writeRetryablePushFailure validate step run setup testResult retryIndex
        reason (commands ++ observed) (inspection.withRetryHead pushedHead)
    | (.ok remoteAfter, observed) =>
      writeVerifiedPushResult validate step run setup testResult pushedState
        retryIndex (commands ++ observed) inspection stagedPaths commitMessage pushedHead
        remoteAfter
  else
    writeRetryablePushFailure validate step run setup testResult retryIndex
      "push_failed" commands (inspection.withRetryHead pushedHead)

section

variable (commands : List Json)

section

variable (inspection : PushInspection)

def handleNoIncludedPushPaths (retryIndex : Nat) : Effect PushWorld StepOutcome :=
  if inspection.prePushRemoteHeadSha ≠ inspection.prePushLocalHeadSha then
    pushHead validate step run setup testResult "pushed_existing_head" retryIndex
      commands inspection [] none inspection.prePushLocalHeadSha
  else
    writeNoChangePushResult validate step run setup testResult retryIndex commands
      inspection

def pushCommitMessage : String :=
  match ((step.params.get? "commit_message").bind Json.asStr?).filter fun message =>
      !message.trimAscii.isEmpty with
  | some message => message
  | none =>
    let count := (arrayField setup.plan "must_fix").length
    let plural := if count = 1 then "" else "s"
    let number := step.binding.prNumber.toNat
    s!"Apply PR follow-up remediation for #{number} ({count} item{plural})"

/-- The end of `handle_included_push_paths`: the commit is there, and is pushed. -/
def pushCommitted (retryIndex : Nat) (commitMessage : String) : Effect PushWorld StepOutcome := do
  match ← localHeadSha step run.committedHead with
  | (.error reason, observed) =>
    writeRetryablePushFailure validate step run setup testResult retryIndex
      reason (commands ++ observed) inspection
  | (.ok committedHead, observed) =>
    let world ← Effect.state
    match currentPushRetryIndex validate step setup committedHead
        world.store with
    | .error error => throw error
    | .ok committedRetryIndex =>
      pushHead validate step run setup testResult "pushed"
        committedRetryIndex (commands ++ observed) inspection inspection.includedPaths
        (some commitMessage) committedHead

def handleIncludedPushPaths (retryIndex : Nat) : Effect PushWorld StepOutcome := do
  let stage ← pushRunnerCommand step (.stage inspection.includedPaths) run.stage
  let commands := commands ++ [pushCommandResultJson stage]
  if stage.status = "passed" then
    let commitMessage := pushCommitMessage step setup
    let commit ← pushRunnerCommand step (.commit commitMessage inspection.includedPaths)
      run.commit
    let commands := commands ++ [pushCommandResultJson commit]
    if commit.status = "passed" then
      pushCommitted validate step run setup testResult commands inspection
        retryIndex commitMessage
    else
      writeRetryablePushFailure validate step run setup testResult retryIndex
        "commit_failed" commands inspection
  else
    writeRetryablePushFailure validate step run setup testResult retryIndex
      "stage_failed" commands inspection

/-- `workflow_auth_preflight_for_push`, with the commands it runs: only workflow files need more
than the right to push. -/
def workflowAuthPreflightForPush (workflowPaths : String → Bool) (includedPaths : List String) :
    AuthPreflight × List Json :=
  if includedPaths.any workflowPaths then
    (run.preflight, run.preflightCommands.map RedactedCommand.toJson)
  else (.permitted, [])

def pushInspected : Effect PushWorld StepOutcome := do
  let world ← Effect.state
  match currentPushRetryIndex validate step setup inspection.prePushLocalHeadSha
      world.store with
  | .error error => throw error
  | .ok retryIndex =>
    match step.workflowPaths with
    | .error error => throw s!"invalid workflow auth preflight parameters: {error}"
    | .ok workflowPaths =>
      match workflowAuthPreflightForPush run workflowPaths inspection.includedPaths with
      | (.failed error, _) => throw error
      | (.refused report, observed) =>
        writeFatalAuthPreflightPushResult validate step run setup testResult
          retryIndex report (commands ++ observed) inspection
      | (.permitted, observed) =>
        if inspection.includedPaths.isEmpty then
          handleNoIncludedPushPaths validate step run setup testResult
            (commands ++ observed) inspection retryIndex
        else
          handleIncludedPushPaths validate step run setup testResult
            (commands ++ observed) inspection retryIndex

end

end

def pushVerified : Effect PushWorld StepOutcome := do
  match ← inspectPushWorktree step run with
  | (.error reason, commands) =>
    writePushFailureFromObservation validate step run setup testResult reason
      commands
  | (.ok inspection, commands) =>
    pushInspected validate step run setup testResult commands inspection

/-- The gates: `read_verified_post_pr_test_result`, and the evidence of the result. -/
def pushGated : Effect PushWorld StepOutcome := do
  let world ← Effect.state
  match readCurrentJson validate step.binding testFamily world.store with
  | .error error =>
    writePushConfigFatal validate step run setup .null
      "missing_or_unreadable_post_pr_test_result" (.obj [("error", .str error)])
  | .ok testResult =>
    match validatePushLocalVerificationResult step.binding setup.plan setup.result testResult with
    | [] =>
      if mustFixSuccessEvidenceIsAcceptable setup.plan setup.result then
        pushVerified validate step run setup testResult
      else
        writePushConfigFatal validate step run setup testResult
          "missing_validator_success_evidence" (.obj [])
    | errors =>
      writePushConfigFatal validate step run setup testResult
        "post_pr_local_verification_not_passed" (.obj [("errors", jsonOfTexts errors)])

end Pushing

def pushRemediationChanges (validate : FamilyInvariants) (step : PushStep)
    (run : PushRun) : Effect PushWorld StepOutcome := do
  match run.barrier with
  | .blocked => pure .wait
  | .denied => pure .fatal
  | .allow =>
    let world ← Effect.state
    match loadPushRunSetup validate step world.store with
    | .error error => throw error
    | .ok setup => pushGated validate step run setup

end Luther
