/-
What a runner writes when a step has ended, and the failure that a cleanup step is about.

A step that fails into a cleanup step leaves a record: which step failed, how, and the
state of the run at that point.  The record is kept until the cleanup has succeeded.  A
workspace that is not the run's is never cleaned up: there the run ends at once.
-/
import Luther.Engine.Runner

namespace Luther

open Sql

def isFailureCleanupStep (wf : WorkflowType) (stepId : String) : Bool :=
  wf.steps.any fun step =>
    step.stepId == stepId && step.terminal == some true && step.stepType == "failure_cleanup"

def isSafeFailureCategory (category : String) : Bool :=
  ["process_error", "agent_failure", "no_diff", "idle_timeout", "timeout", "push_failure",
    "validation_failure"].contains category

/-- `public_failure_reason`: a category that is safe to show, or none. -/
def publicFailureReason (failedStep : String) (outcome : StepOutcome)
    (llxprtCategory : Option String) : String :=
  match llxprtCategory with
  | some category =>
    if isSafeFailureCategory category then
      s!"{category} ({outcome.asConditionStr} at {failedStep})"
    else s!"{outcome.asConditionStr} outcome at {failedStep}"
  | none => s!"{outcome.asConditionStr} outcome at {failedStep}"

def failsInto (wf : WorkflowType) (outcome : StepOutcome) (nextStep : Option String) : Bool :=
  match nextStep with
  | some next => outcome != .success && isFailureCleanupStep wf next
  | none => false

def buildFailureCleanupState (now : Timestamp) (failedStep nextStep : String)
    (outcome : StepOutcome) (checkpoint : Checkpoint) (r : Runner) : FailureCleanupState where
  schemaVersion := failureCleanupSchemaVersion
  failedStep := failedStep
  failureOutcome := outcome.asConditionStr
  failureReason := publicFailureReason failedStep outcome
    (r.context.get s!"{failedStep}.llxprt_failure_reason")
  failedCheckpointId := checkpointId checkpoint
  failedStateSnapshot := checkpoint.stateSnapshot
  cleanupStep := nextStep
  cleanupSucceeded := false
  capturedAt := now
  cleanupCompletedAt := none
  recoveryConsumedAt := none
  ownershipDenied := false

def buildTerminalOwnershipFailureState (now : Timestamp) (currentStep cleanupStep : String)
    (outcome : StepOutcome) (checkpoint : Checkpoint) : FailureCleanupState where
  schemaVersion := failureCleanupSchemaVersion
  failedStep := currentStep
  failureOutcome := outcome.asConditionStr
  failureReason := s!"workspace ownership denied before cleanup step {cleanupStep}"
  failedCheckpointId := checkpointId checkpoint
  failedStateSnapshot := checkpoint.stateSnapshot
  cleanupStep := cleanupStep
  cleanupSucceeded := false
  capturedAt := now
  cleanupCompletedAt := none
  recoveryConsumedAt := none
  ownershipDenied := true

section

variable (cfg : RunnerConfig)

/-- `verify_failure_cleanup_workspace`: why the workspace may not be cleaned up. -/
def verifyFailureCleanupWorkspace (input : LoopInput)
    (outcome : StepOutcome) (nextStep : Option String) : Option String :=
  if !failsInto cfg.workflowType outcome nextStep then none
  else if !input.ownershipEvidence && !cfg.daemonManaged then none
  else input.ownershipRejection

/-- `failure_states_for_step`: the failure that begins here, and the one that ends here. -/
def failureStatesForStep (now : Timestamp) (currentStep : String)
    (outcome : StepOutcome) (nextStep : Option String) (checkpoint : Checkpoint) (r : Runner) :
    Except EngineError (Option FailureCleanupState × Option FailureCleanupState) :=
  let failure := nextStep.bind fun next =>
    if failsInto cfg.workflowType outcome (some next) then
      some (buildFailureCleanupState now currentStep next outcome checkpoint r)
    else none
  if !isFailureCleanupStep cfg.workflowType currentStep then .ok (failure, none)
  else
    match r.failedWork cfg with
    | none => .error
        (.persistenceError "failure cleanup completed without failed-work provenance")
    | some state =>
      if outcome = .success then
        .ok (failure, some
          { state with cleanupSucceeded := true, cleanupCompletedAt := some now })
      else .ok (failure, some state)

/-! ### Leases -/

/-- The lease of the run's issue, where a daemon claimed the run for one. -/
def leaseAuthority (md : RunMetadata) : Option (String × UInt64) :=
  if !cfg.daemonManaged then none
  else
    match md.repository, md.issueLeaseNumber with
    | some repository, some issueNumber => some (repository, issueNumber)
    | _, _ => none

def protectFailureCleanupLease (now : Timestamp) (md : RunMetadata)
    (leases : LeaseTable) : Except EngineError LeaseTable :=
  match leaseAuthority cfg md with
  | none => .ok leases
  | some (repository, issueNumber) =>
    match getLeaseForIssue leases repository issueNumber with
    | .error e => .error (.persistenceError e.text)
    | .ok none => .error (.persistenceError
        (s!"issue lease for {repository}#{issueNumber} is missing; "
          ++ s!"cannot protect failure cleanup for run {cfg.runId} without a durable lease"))
    | .ok (some lease) =>
      if lease.runId ≠ some cfg.runId then
        .error (.persistenceError
          s!"issue lease {lease.leaseId} is not owned by run {cfg.runId}")
      else
        match updateLeaseStatusConditional now lease.leaseId .cleanupAbandoned
            [.running, .cleanupAbandoned] none (some cfg.runId) leases with
        | .error e => .error (.persistenceError e.text)
        | .ok (true, leases') => .ok leases'
        | .ok (false, _) => .error (.persistenceError
            s!"issue lease {lease.leaseId} could not be protected for failure cleanup")

def failOwnedLeaseForOwnershipDenial (now : Timestamp) (md : RunMetadata)
    (leases : LeaseTable) : Except EngineError LeaseTable :=
  match leaseAuthority cfg md with
  | none => .ok leases
  | some (repository, issueNumber) =>
    match getLeaseForIssue leases repository issueNumber with
    | .error e => .error (.persistenceError e.text)
    | .ok none => .ok leases
    | .ok (some lease) =>
      if lease.runId ≠ some cfg.runId then .ok leases
      else
        match updateLeaseStatusConditional now lease.leaseId .failed [.running] none
            (some cfg.runId) leases with
        | .error e => .error (.persistenceError e.text)
        | .ok (_, leases') => .ok leases'

/-! ### The result of a step -/

def persistRegistryStepState (now : Timestamp) (currentStep : String)
    (outcome : StepOutcome) (failure terminalFailure : Option FailureCleanupState)
    (db : RunnerDb) : Except EngineError RunnerDb := do
  let missing : EngineError :=
    .persistenceError s!"persistent run {cfg.runId} is missing from the registry"
  let md ← okOr missing (getRun db.runs cfg.runId)
  let md := md.setPreviousStepAndOutcome now currentStep outcome.asConditionStr
  let md := md.setNextStepCandidates now (computeNextStepCandidates cfg currentStep)
  let md : RunMetadata :=
    match terminalFailure with
    | some state =>
      RunMetadata.setCurrentStep now state.failedStep
        { md with
          failureCleanup := some state
          status := if outcome = .success then .abandoned else .failed }
    | none =>
      match failure with
      | some state => { md with failureCleanup := some state }
      | none => md
  let leases ←
    if failure.isSome || terminalFailure.isSome then
      protectFailureCleanupLease cfg now md db.leases
    else .ok db.leases
  .ok { db with runs := persistRun md db.runs, leases := leases }

def persistTerminalOwnershipFailureRegistry (now : Timestamp)
    (currentStep : String) (outcome : StepOutcome) (cleanupStep : String)
    (failure : FailureCleanupState) (db : RunnerDb) : Except EngineError RunnerDb := do
  let missing : EngineError :=
    .persistenceError s!"persistent run {cfg.runId} is missing from the registry"
  let md ← okOr missing (getRun db.runs cfg.runId)
  let md := md.setPreviousStepAndOutcome now currentStep outcome.asConditionStr
  let md := md.setNextStepCandidates now [cleanupStep]
  let md := RunMetadata.setCurrentStep now currentStep
    { md with failureCleanup := some failure, status := .failed }
  let leases ← failOwnedLeaseForOwnershipDenial cfg now md db.leases
  .ok { db with runs := persistRun md db.runs, leases := leases }

section

variable (input : LoopInput)

section

variable (currentStep : String)

def persistTerminalOwnershipFailure
    (outcome : StepOutcome) (nextStep : Option String) (r : Runner) :
    Except EngineError Unit × Runner :=
  let checkpoint := createCheckpoint cfg input.now currentStep "completed" r
  -- The failed step of the details is the next step too.
  let cleanupStep := nextStep.getD ""
  let failure :=
    buildTerminalOwnershipFailureState input.now currentStep cleanupStep outcome checkpoint
  let db := r.db.save checkpoint
  let persisted :=
    if cfg.persistRegistry then
      persistTerminalOwnershipFailureRegistry cfg input.now currentStep outcome cleanupStep
        failure db
    else .ok db
  match persisted with
  | .error e => (.error e, r)
  | .ok db =>
    (.ok (), { r with
      db := db
      pendingFailureCleanup := some failure
      terminalOwnershipFailure := true })

/-- `persist_step_result`: one transaction, with the checkpoint and the registry's row. -/
def persistStepResult (outcome : StepOutcome)
    (nextStep : Option String) (r : Runner) : Except EngineError Unit × Runner :=
  match verifyFailureCleanupWorkspace cfg input outcome nextStep with
  | some _ => persistTerminalOwnershipFailure cfg input currentStep outcome nextStep r
  | none =>
    let checkpoint := createCheckpoint cfg input.now currentStep "completed" r
    match failureStatesForStep cfg input.now currentStep outcome nextStep checkpoint r with
    | .error e => (.error e, r)
    | .ok (failure, terminalFailure) =>
      let db := r.db.save checkpoint
      let persisted :=
        if cfg.persistRegistry then
          persistRegistryStepState cfg input.now currentStep outcome failure terminalFailure db
        else .ok db
      match persisted with
      | .error e => (.error e, r)
      | .ok db =>
        (.ok (), { r with
          db := db
          pendingFailureCleanup :=
            (terminalFailure.or failure).or r.pendingFailureCleanup })

/-! ### The end of a run -/

def runOutcomeWithoutTransition (stepId : String) (outcome : StepOutcome) : RunOutcome :=
  match outcome with
  | .success => .success
  | .fatal => .failure stepId "Fatal error occurred"
  | .fixable => .failure stepId "Fixable error with no recovery transition"
  | .retryable => .failure stepId "Retryable error with no recovery transition"
  | _ => .failure stepId "Unexpected outcome"

/-- The completion is recorded, and is the outcome unless that fails. -/
def completeWith (runOutcome : RunOutcome)
    (stepId : String) (r : Runner) : Except EngineError RunOutcome × Runner :=
  match recordRunCompletion cfg input runOutcome stepId r with
  | (.error e, r) => (.error e, r)
  | (.ok (), r) => (.ok runOutcome, r)

def pauseForExternalWait (stepId : String) (r : Runner) : Except EngineError RunOutcome × Runner :=
  let checkpoint := createCheckpoint cfg input.now stepId "waiting" r
  let r := { r with db := r.db.save checkpoint }
  completeWith cfg input
    (.waitingExternal stepId "External condition still pending at watch limit") stepId r

def finishWithoutTransition
    (outcome : StepOutcome) (r : Runner) : Except EngineError RunOutcome × Runner :=
  if isFailureCleanupStep cfg.workflowType currentStep then
    match r.failedWork cfg with
    | none =>
      (.error (.persistenceError
        "failure cleanup completed without failed-work provenance"), r)
    | some failure =>
      let r := { r with pendingFailureCleanup := some failure }
      if outcome = .success then
        (.ok (.abandoned failure.failedStep failure.failureReason), r)
      else
        (.ok (.failure failure.failedStep
          (s!"failure cleanup step {failure.cleanupStep} ended with "
            ++ s!"{outcome.asConditionStr}; original failure: {failure.failureReason}")), r)
  else if outcome = .wait then pauseForExternalWait cfg input currentStep r
  else if outcome = .retryable then
    completeWith cfg input
      (.failure currentStep "Retryable error with no recovery transition") currentStep r
  else completeWith cfg input (runOutcomeWithoutTransition currentStep outcome) currentStep r

def abandonAtStep (r : Runner) : RunOutcome × Runner :=
  let runOutcome : RunOutcome := .abandoned currentStep "Loop limit exceeded"
  (runOutcome, (recordRunCompletion cfg input runOutcome currentStep r).2)

end

end

end

end Luther
