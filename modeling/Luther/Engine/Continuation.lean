/-
Going on with a run: resume, retry, rewind.

A continuation is planned and committed.  The plan checks the run and selects a
checkpoint; it writes nothing.  The commit selects again, in one transaction, and only
goes on when it selects the checkpoint that was planned.  A step that is not known to be
safe to run again needs an authorization, which is read from the tables both times.
-/
import Luther.Lib.Text
import Luther.Persistence.ExternalWait
import Luther.Recovery.Protocol

namespace Luther

open Sql

/-- Where to rewind a run to. -/
inductive RewindTarget where
  | toStep (step : String)
  | toCheckpoint (id : String)
  deriving DecidableEq

inductive ContinuationKind where
  | resume
  | retry (fromFailedStep : Bool)
  | rewind (target : RewindTarget)
  deriving DecidableEq

/-- `matches!(kind, ContinuationKind::Resume)`. -/
def ContinuationKind.isResume (kind : ContinuationKind) : Bool := kind == .resume

def ContinuationKind.isRetryOrRewind : ContinuationKind → Bool
  | resume => false
  | retry _ | rewind _ => true

/-- An operator's request. -/
structure ContinuationRequest where
  runId : String
  kind : ContinuationKind
  force : Bool

/-- Why a continuation cannot be planned or applied. -/
inductive ContinuationError where
  | runNotFound (runId : String)
  | noResumableCheckpoint (runId : String)
  | checkpointNotFound (what : String)
  | invalidTarget (detail : String)
  | persistence (detail : String)

def ContinuationError.text : ContinuationError → String
  | runNotFound id => s!"run {id} not found in registry"
  | noResumableCheckpoint id => s!"run {id} has no resumable checkpoint"
  | checkpointNotFound what => s!"checkpoint not found: {what}"
  | invalidTarget detail => s!"invalid target: {detail}"
  | persistence detail => s!"persistence error: {detail}"

/-- A single safety check result. -/
structure SafetyCheck where
  name : String
  passed : Bool
  detail : String

/-- The checks of a request, and their verdict. -/
structure ContinuationValidation where
  ok : Bool
  checks : List SafetyCheck

/-- `from_checks`: all of them. -/
def ContinuationValidation.fromChecks (checks : List SafetyCheck) : ContinuationValidation :=
  { ok := checks.all SafetyCheck.passed, checks := checks }

/-- The machine a continuation runs on: its processes, its files, and how it reads a time. -/
structure ContinuationHost where
  isPidStale : UInt32 → Bool
  /-- `symlink_metadata`: nothing when there is no file, else whether it is a link. -/
  isSymlink : String → Option Bool
  isDir : String → Bool
  /-- `verify_workspace_ownership`: the reason why the workspace is not the run's. -/
  verifyWorkspaceOwnership : String → String → Option String
  parseFromRfc3339 : String → Except String Timestamp

/-- `checkpoint_identity`: `step_id@rfc3339`. -/
def checkpointIdentity (cp : Checkpoint) : String := s!"{cp.stepId}@{cp.timestamp.toRfc3339}"

section

variable (host : ContinuationHost)

def parseCheckpointIdentityTarget (id : String) : Except ContinuationError (String × Timestamp) :=
  match splitOnce '@' id with
  | none => .error (.invalidTarget s!"checkpoint identity '{id}' is missing the '@' separator")
  | some (step, ts) =>
    match host.parseFromRfc3339 ts with
    | .ok parsed => .ok (step, parsed)
    | .error err =>
      .error (.invalidTarget
        s!"checkpoint identity '{id}' has an invalid RFC3339 timestamp: {err}")

/-! ### Which checkpoint -/

/-- Steps that a retry of the failed step goes back to. -/
def retryableWaitSteps : List String := ["watch_pr_checks"]

/-- The terminal step of a workflow that follows a pull request. -/
def terminalStep : String := "post_pr_failure_terminal"

def newestResumable (cps : List Checkpoint) : Option Checkpoint :=
  cps.reverse.find? fun cp => isResumableCheckpointStatus cp.stateSnapshot.status

section

variable (cps : CheckpointTable)

def selectRewindCheckpoint (runId : String)
    (target : RewindTarget) : Except ContinuationError Checkpoint := do
  let (step, expectedTs) ←
    match target with
    | .toStep step => .ok (step, none)
    | .toCheckpoint id => do
      let (step, ts) ← parseCheckpointIdentityTarget host id
      .ok (step, some ts)
  let cp ← okOr (.checkpointNotFound s!"{runId}:{step}") (getCheckpointForStep cps runId step)
  match expectedTs with
  | none => .ok cp
  | some expected =>
    if cp.timestamp = expected then .ok cp
    else .error (.invalidTarget (s!"checkpoint timestamp mismatch for {step}: " ++
      s!"stored {cp.timestamp.toRfc3339}, requested {expected.toRfc3339}"))

/-- `select_failed_cleanup_checkpoint`: where the run failed, while its cleanup is unfinished or
has left its one recovery. -/
def selectFailedCleanupCheckpoint
    (runId : String) (metadata : RunMetadata) : Except ContinuationError (Option Checkpoint) :=
  match metadata.failureCleanup with
  | none => .ok none
  | some failure =>
    let completedRecoveryAvailable :=
      metadata.isCleanupFailureAbandonment && failure.recoveryIsAvailable
    if (failure.cleanupSucceeded && !completedRecoveryAvailable)
        || failure.failedCheckpointId == "" then .ok none
    else do
      let cp ← selectRewindCheckpoint host cps runId (.toCheckpoint failure.failedCheckpointId)
      .ok (if checkpointIdentity cp = failure.failedCheckpointId then some cp else none)

def selectResumeCheckpoint (runId : String)
    (metadata : RunMetadata) : Except ContinuationError Checkpoint := do
  match ← selectFailedCleanupCheckpoint host cps runId metadata with
  | some cp => .ok cp
  | none =>
    let checkpoints := listCheckpoints cps runId
    let beforeTerminal :=
      loadCheckpointBeforeStep cps runId (metadata.currentStep.getD terminalStep)
    -- The newest that is resumable, else the one before the terminal step, else the last.
    okOr (.noResumableCheckpoint runId)
      ((newestResumable checkpoints).or (beforeTerminal.or checkpoints.getLast?))

def selectRetryCheckpoint (runId : String)
    (metadata : RunMetadata) (fromFailedStep : Bool) : Except ContinuationError Checkpoint := do
  match ← selectFailedCleanupCheckpoint host cps runId metadata with
  | some cp => .ok cp
  | none =>
    if fromFailedStep then
      okOr (.noResumableCheckpoint s!"{runId} has no retryable external-wait checkpoint")
        ((listCheckpoints cps runId).reverse.find? fun cp =>
          retryableWaitSteps.contains cp.stepId)
    else selectResumeCheckpoint host cps runId metadata

/-- The checkpoints come by their instants, as their texts sort while years have four digits. -/
def selectCheckpoint (request : ContinuationRequest)
    (metadata : RunMetadata) : Except ContinuationError Checkpoint :=
  match request.kind with
  | .resume => selectResumeCheckpoint host cps request.runId metadata
  | .retry fromFailedStep => selectRetryCheckpoint host cps request.runId metadata fromFailedStep
  | .rewind target => selectRewindCheckpoint host cps request.runId target

end

/-! ### Authorization -/

/-- What permits a step outside the safe ones, bound to a checkpoint of a run. -/
inductive ResumeAuthorization where
  | operator
  | operatorCurrentWait (checkpointIdentity runId : String)
  | operatorCommittedCheckpoint (checkpointIdentity runId : String)
  | trustedInternalWait (checkpointIdentity runId : String)

def ResumeAuthorization.forResume (waits : WaitStateTable) (metadata : RunMetadata)
    (request : ContinuationRequest) (cp : Checkpoint) : ResumeAuthorization :=
  let identity := checkpointIdentity cp
  let atCurrentStep := metadata.currentStep == some cp.stepId
  let trusted := (getWaitState waits request.runId).any fun wait =>
    wait.runId == request.runId && wait.checkpointId == identity && wait.resumeStep == cp.stepId
  if !request.kind.isResume then .operator
  else if atCurrentStep && metadata.status == .waitingExternal
      && cp.stateSnapshot.status == checkpointStatusWaiting then
    .operatorCurrentWait identity request.runId
  else if atCurrentStep && (metadata.status == .running || metadata.status == .failed)
      && (metadata.liveWorkflowPid host.isPidStale).isNone
      && (metadata.liveChildPid host.isPidStale).isNone
      && cp.stateSnapshot.status == checkpointStatusReadyToResume
      && metadata.continuationRearmCheckpointId == some identity then
    .operatorCommittedCheckpoint identity request.runId
  else if trusted then .trustedInternalWait identity request.runId
  else .operator

def ResumeAuthorization.permitsNonSafeRerun (cp : Checkpoint) : ResumeAuthorization → Bool
  | operatorCurrentWait bound runId | operatorCommittedCheckpoint bound runId
  | trustedInternalWait bound runId => bound == checkpointIdentity cp && runId == cp.runId
  | operator => false

def authorizesCleanupResume (metadata : RunMetadata) (request : ContinuationRequest)
    (cp : Checkpoint) : Bool :=
  !metadata.isOwnershipDeniedTerminal && metadata.failureCleanup.any fun failure =>
    let exactFailedCheckpoint := checkpointIdentity cp == failure.failedCheckpointId
    request.kind.isResume
      && ((!failure.cleanupSucceeded
            && (exactFailedCheckpoint || cp.stepId == failure.cleanupStep))
          || (metadata.status == .running && failure.isComplete
            && failure.recoveryConsumedAt.isSome && exactFailedCheckpoint))

def checkpointIsAuthorized (waits : WaitStateTable)
    (metadata : RunMetadata) (request : ContinuationRequest) (cp : Checkpoint) : Bool :=
  let authorizedFailedCheckpoint :=
    (metadata.failureCleanup.any fun failure =>
      metadata.isCleanupFailureAbandonment && failure.recoveryIsAvailable
        && checkpointIdentity cp == failure.failedCheckpointId)
      || authorizesCleanupResume metadata request cp
  !metadata.isOwnershipDeniedTerminal
    && (authorizedFailedCheckpoint
      || (ResumeAuthorization.forResume host waits metadata request cp).permitsNonSafeRerun cp)

end

/-! ### The plan -/

def pass (name detail : String) : SafetyCheck := { name := name, passed := true, detail := detail }

def fail (name detail : String) : SafetyCheck := { name := name, passed := false, detail := detail }

def checkRunExists (metadata : Option RunMetadata) (runId : String) : SafetyCheck :=
  match metadata with
  | some _ => pass "run_exists" s!"run {runId} found in registry"
  | none => fail "run_exists" s!"run {runId} not found in registry"

def checkWorkflowResolvable (metadata : RunMetadata) : SafetyCheck :=
  if metadata.workflowTypeId = "" ∨ metadata.configId = "" then
    fail "workflow_resolvable" "run record is missing workflow_type_id or config_id"
  else
    pass "workflow_resolvable"
      s!"workflow_type={metadata.workflowTypeId} config={metadata.configId}"

section

variable (host : ContinuationHost)

section

variable (metadata : RunMetadata)

def runningClaimIsAvailable : Bool :=
  metadata.status == .running
    && (metadata.isProcessStale host.isPidStale || metadata.processPid.isNone)

/-- A forced retry or rewind of an abandonment whose one recovery is left. -/
def cleanupRecovery (request : ContinuationRequest) : Bool :=
  metadata.isCleanupFailureAbandonment
    && metadata.failureCleanup.any FailureCleanupState.recoveryIsAvailable
    && request.force && request.kind.isRetryOrRewind

def checkResumableStatus (request : ContinuationRequest) : SafetyCheck :=
  if metadata.isOwnershipDeniedTerminal then
    fail "resumable_status" ("run terminated with a workspace ownership denial and cannot be " ++
      "resumed; cleanup cannot execute in an unowned workspace")
  else if metadata.status.isResumable then
    pass "resumable_status" s!"run status {metadata.status.toText} is resumable"
  else if cleanupRecovery metadata request then
    pass "resumable_status" "forced retry/rewind of an evidenced cleanup abandonment"
  else if runningClaimIsAvailable host metadata then
    pass "resumable_status" (s!"run status {metadata.status.toText} is resumable because " ++
      "recorded workflow PID is stale or unrecorded")
  else
    fail "resumable_status" (s!"run status {metadata.status.toText} is not resumable; " ++
      "terminal states other than failed cannot be continued")

def debugOption {α : Type} (debug : α → String) : Option α → String
  | some a => s!"Some({debug a})"
  | none => "None"

def checkIdentityRecoverable : SafetyCheck :=
  let identity := s!"repository={debugOption String.quote metadata.repository} " ++
    s!"issue={debugOption toString metadata.issueNumber} " ++
    s!"pr={debugOption toString metadata.prNumber}"
  if metadata.repository.isSome && (metadata.issueNumber.isSome || metadata.prNumber.isSome) then
    pass "identity_recoverable" identity
  else
    fail "identity_recoverable"
      s!"continuation requires a repository plus an issue or PR anchor; got {identity}"

def checkCleanupWorkspaceOwnership (path : String) (metadata : RunMetadata) : SafetyCheck :=
  match host.isSymlink path with
  | some true => fail "workspace" s!"cleanup workspace must not be a symlink: {path}"
  | none => fail "workspace" s!"preserved workspace is missing or not a directory: {path}"
  | some false =>
    if !host.isDir path then
      fail "workspace" s!"preserved workspace is not a directory: {path}"
    else
      match host.verifyWorkspaceOwnership path metadata.runId with
      | some reason => fail "workspace" reason
      | none => pass "workspace" s!"workspace_path={path} (ownership verified)"

def checkWorkspace : SafetyCheck :=
  match metadata.workspacePath with
  | some path =>
    if metadata.isCleanupFailureAbandonment then
      checkCleanupWorkspaceOwnership host path metadata
    else if host.isDir path then pass "workspace" s!"workspace_path={path}"
    else fail "workspace" s!"workspace_path={path} is missing or not a directory"
  | none =>
    if metadata.isCleanupFailureAbandonment then
      fail "workspace" "cleanup-abandonment recovery requires an explicit preserved workspace"
    else pass "workspace" "workspace path reconstructable from run id"

end

def checkCheckpointExists : Except ContinuationError Checkpoint → SafetyCheck
  | .ok cp => pass "checkpoint_exists" s!"selected checkpoint at step {cp.stepId}"
  | .error err => fail "checkpoint_exists" err.text

def checkSafeStep (stepId : String) (force authorized : Bool) : SafetyCheck :=
  if isSafeRerunStep stepId || authorized then
    pass "safe_step" s!"step {stepId} is explicitly authorized for this rerun"
  else
    fail "safe_step" (s!"step {stepId} is not safe to re-run" ++
      (if force then "; --force cannot bypass rerun safety" else ""))

def checkSelection (waits : WaitStateTable) (metadata : RunMetadata)
    (request : ContinuationRequest) (selection : Except ContinuationError Checkpoint) :
    List SafetyCheck :=
  checkCheckpointExists selection ::
    match selection with
    | .ok cp =>
      [checkSafeStep cp.stepId request.force
        (checkpointIsAuthorized host waits metadata request cp)]
    | .error _ => []

def validateContinuation (request : ContinuationRequest) (db : RunDb) : ContinuationValidation :=
  let metadata := getRun db.runs request.runId
  let runExists := checkRunExists metadata request.runId
  match metadata with
  | none => .fromChecks [runExists]
  | some md => .fromChecks <|
      [runExists, checkWorkflowResolvable md, checkResumableStatus host md request,
        checkIdentityRecoverable md, checkWorkspace host md]
        ++ checkSelection host db.waits md request
            (selectCheckpoint host db.checkpoints request md)

end

/-! ### The commit -/

def reopenStatusIsAllowed (metadata : RunMetadata) (request : ContinuationRequest) : Bool :=
  !metadata.isOwnershipDeniedTerminal
    && (metadata.status.isResumable || metadata.status == .running
      || cleanupRecovery metadata request)

/-- The statuses of a lease that a continuation may take over. -/
def acquirableStatuses : List LeaseStatus :=
  [.claimed, .running, .waitingExternal, .readyToResume, .failed, .abandoned, .cleanupAbandoned,
    .stale]

def mapStatement {α : Type} (x : Except Error α) : Except ContinuationError α :=
  x.mapError fun e => .persistence e.text

/-- `acquire_continuation_lease`: the lease of the run's issue, when it has one. -/
def acquireContinuationLease (now : Timestamp) (metadata : RunMetadata)
    (request : ContinuationRequest) (leases : LeaseTable) : Except ContinuationError LeaseTable :=
  match metadata.repository, metadata.issueLeaseNumber with
  | some repository, some issueNumber => do
    match ← mapStatement (getLeaseForIssue leases repository issueNumber) with
    | none =>
      .error (.invalidTarget (s!"run {request.runId} references {repository}#{issueNumber} " ++
        "but no issue lease exists; the durable claim is missing and continuation cannot " ++
        "proceed authoritatively"))
    | some lease =>
      match lease.runId with
      | none =>
        .error (.invalidTarget
          s!"issue lease {lease.leaseId} is active without a run owner")
      | some expectedOwner =>
        if expectedOwner ≠ request.runId then
          .error (.invalidTarget (s!"issue lease {lease.leaseId} belongs to run " ++
            s!"{expectedOwner} rather than {request.runId}"))
        else do
          let targetStatus : LeaseStatus :=
            match request.kind with
            | .rewind _ => .readyToResume
            | _ => .running
          let (acquired, leases) ← mapStatement
            (updateLeaseStatusConditional now lease.leaseId targetStatus acquirableStatuses
              (some request.runId) (some request.runId) leases)
          if acquired then .ok leases
          else .error (.invalidTarget (s!"issue lease {lease.leaseId} could not be " ++
            "acquired for continuation"))
  | _, _ => .ok leases

section

variable (host : ContinuationHost)

/-- The processes and the workspace of a run that is to be reopened. -/
def ensureNothingIsLive (metadata : RunMetadata)
    (request : ContinuationRequest) : Except ContinuationError Unit :=
  let livePid :=
    if metadata.status = .running then metadata.liveWorkflowPid host.isPidStale else none
  match livePid, metadata.liveChildPid host.isPidStale with
  | some pid, _ =>
    .error (.invalidTarget
      s!"run {request.runId} is already running with live workflow PID {pid}")
  | none, some pid => .error (.invalidTarget s!"run {request.runId} still has live child PID {pid}")
  | none, none =>
    if metadata.isCleanupFailureAbandonment then
      match metadata.workspacePath with
      | some path =>
        let workspaceCheck := checkCleanupWorkspaceOwnership host path metadata
        if workspaceCheck.passed then .ok ()
        else .error (.invalidTarget s!"run {request.runId}: {workspaceCheck.detail}")
      | none =>
        .error (.invalidTarget
          s!"run {request.runId} preserved workspace is missing or invalid")
    else .ok ()

def ensureReopenClaimIsAvailable (now : Timestamp)
    (metadata : RunMetadata) (request : ContinuationRequest) (leases : LeaseTable) :
    Except ContinuationError LeaseTable :=
  if !reopenStatusIsAllowed metadata request then
    .error (.invalidTarget (s!"run {request.runId} status {metadata.status.toText} is not " ++
      "resumable; terminal states other than failed cannot be continued"))
  else do
    let leases ← acquireContinuationLease now metadata request leases
    let _ ← ensureNothingIsLive host metadata request
    .ok leases

/-- The wait that a resume uses up: it must be the wait of the selected checkpoint. -/
def consumeWait (request : ContinuationRequest) (selected : Checkpoint)
    (waits : WaitStateTable) : Except ContinuationError WaitStateTable :=
  if !request.kind.isResume then .ok waits
  else
    match getWaitState waits request.runId with
    | none => .ok waits
    | some wait =>
      let currentIdentity := checkpointIdentity selected
      if wait.checkpointId ≠ currentIdentity then
        .error (.invalidTarget ("durable wait checkpoint identity changed before commit: " ++
          s!"expected {currentIdentity}, found {wait.checkpointId}"))
      else if wait.resumeStep ≠ selected.stepId then
        .error (.invalidTarget ("durable wait resume step changed before commit: " ++
          s!"expected {selected.stepId}, found {wait.resumeStep}"))
      else
        match deleteWaitStateForSuspension request.runId wait.suspensionId waits with
        | (true, waits) => .ok waits
        | (false, _) => .error (.invalidTarget "durable wait suspension changed before commit")

/-- `reopen_run`: the run as it is reopened. -/
def reopenedRun (now : Timestamp) (pid : UInt32) (stepId : String) (metadata : RunMetadata) :
    RunMetadata :=
  let consumed :=
    if metadata.isCleanupFailureAbandonment then
      { metadata with
        failureCleanup := metadata.failureCleanup.map fun failure =>
          { failure with recoveryConsumedAt := some now } }
    else metadata
  let reopened := consumed.reopen now pid
  let cleared :=
    if metadata.status = .readyToResume then reopened.clearChildPids now else reopened
  cleared.setCurrentStep now stepId

/-- The run with the identity its checkpoint has been given, where it names the old one. -/
def rearmedRun (currentIdentity committedIdentity : String) (metadata : RunMetadata) :
    RunMetadata :=
  { metadata with
    continuationRearmCheckpointId := some committedIdentity
    failureCleanup := metadata.failureCleanup.map fun failure =>
      if failure.failedCheckpointId = currentIdentity then
        { failure with failedCheckpointId := committedIdentity }
      else failure }

def commitContinuationInTransaction (now : Timestamp) (pid : UInt32)
    (request : ContinuationRequest) (boundIdentity : String) (db : RunDb) :
    Except ContinuationError (RunMetadata × RunDb) := do
  let metadata ← okOr (.runNotFound request.runId) (getRun db.runs request.runId)
  let leases ← ensureReopenClaimIsAvailable host now metadata request db.leases
  let selected ← selectCheckpoint host db.checkpoints request metadata
  let currentIdentity := checkpointIdentity selected
  if currentIdentity ≠ boundIdentity then
    .error (.invalidTarget ("continuation checkpoint identity changed before commit: " ++
      s!"expected {boundIdentity}, selected {currentIdentity}"))
  else do
    let waits ← consumeWait request selected db.waits
    let authorized := checkpointIsAuthorized host waits metadata request selected
    let safety := checkSafeStep selected.stepId request.force authorized
    if !safety.passed then .error (.invalidTarget safety.detail)
    else do
      let (resumeTimestamp, checkpoints) ←
        (setResumePoint now request.runId selected.stepId db.checkpoints).mapError
          fun e => .persistence e.text
      let committedIdentity := s!"{selected.stepId}@{resumeTimestamp.toRfc3339}"
      let metadata := reopenedRun now pid selected.stepId
        (rearmedRun currentIdentity committedIdentity metadata)
      .ok (metadata,
        { checkpoints := checkpoints
          runs := persistRun metadata db.runs
          waits := waits
          leases := leases })

def commitContinuation (now : Timestamp) (pid : UInt32)
    (request : ContinuationRequest) (boundIdentity : String) (db : RunDb) :
    Except ContinuationError RunMetadata × RunDb :=
  atomically (commitContinuationInTransaction host now pid request boundIdentity) db

end

end Luther
