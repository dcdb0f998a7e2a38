/-
The `runs` table.
-/
import Luther.Persistence.Checkpoint

namespace Luther

open Sql

/-- The status of a run in the registry. -/
inductive RunStatus where
  | initialized
  | queued
  | starting
  | running
  | waitingForChecks
  | waitingExternal
  | readyToResume
  | remediating
  | blocked
  | paused
  | reviewReady
  | completed
  | failed
  | abandoned
  | merged
  | cancelled
  deriving DecidableEq

namespace RunStatus

def toText : RunStatus → String
  | initialized => "initialized"
  | queued => "queued"
  | starting => "starting"
  | running => "running"
  | waitingForChecks => "waiting_for_checks"
  | waitingExternal => "waiting_external"
  | readyToResume => "ready_to_resume"
  | remediating => "remediating"
  | blocked => "blocked"
  | paused => "paused"
  | reviewReady => "review_ready"
  | completed => "completed"
  | failed => "failed"
  | abandoned => "abandoned"
  | merged => "merged"
  | cancelled => "cancelled"

def isTerminal (status : RunStatus) : Bool :=
  match status with
  | completed | failed | abandoned | merged | cancelled => true
  | _ => false

/-- The run can be continued by an operator: what waits, and what has failed. -/
def isResumable (status : RunStatus) : Bool :=
  match status with
  | waitingForChecks | waitingExternal | readyToResume | paused | blocked | failed => true
  | _ => false

end RunStatus

/-- Where a failed run failed, kept while its cleanup step runs. -/
structure FailureCleanupState where
  schemaVersion : UInt32
  failedStep : String
  failureOutcome : String
  failureReason : String
  failedCheckpointId : String
  failedStateSnapshot : StateSnapshot
  cleanupStep : String
  cleanupSucceeded : Bool
  capturedAt : Timestamp
  cleanupCompletedAt : Option Timestamp
  recoveryConsumedAt : Option Timestamp
  ownershipDenied : Bool

/-- `FailureCleanupState::SCHEMA_VERSION`. -/
def failureCleanupSchemaVersion : UInt32 := 1

namespace FailureCleanupState

/-- The cleanup is over, and everything about the failure is written down. -/
def isComplete (failure : FailureCleanupState) : Bool :=
  failure.schemaVersion == failureCleanupSchemaVersion
    && failure.failedStep != "" && failure.failureOutcome != "" && failure.failureReason != ""
    && failure.failedCheckpointId != "" && failure.cleanupStep != ""
    && failure.cleanupSucceeded && failure.cleanupCompletedAt.isSome

/-- The one recovery that follows a cleanup has not been used. -/
def recoveryIsAvailable (failure : FailureCleanupState) : Bool :=
  failure.isComplete && failure.recoveryConsumedAt.isNone

end FailureCleanupState

/-- One row of the `runs` table. -/
structure RunMetadata where
  runId : String
  workflowTypeId : String := ""
  configId : String := ""
  status : RunStatus := .initialized
  updatedAt : Option Timestamp := none
  currentStep : Option String := none
  previousStep : Option String := none
  previousOutcome : Option String := none
  nextStepCandidates : List String := []
  workspacePath : Option String := none
  repository : Option String := none
  issueNumber : Option Int := none
  prNumber : Option Int := none
  headSha : Option String := none
  processPid : Option UInt32 := none
  childPids : List UInt32 := []
  continuationRearmCheckpointId : Option String := none
  failureCleanup : Option FailureCleanupState := none

namespace RunMetadata

/-- `run_id TEXT PRIMARY KEY`. -/
def Clash (a b : RunMetadata) : Prop := a.runId = b.runId

instance : DecidableRel Clash := fun a b => inferInstanceAs (Decidable (a.runId = b.runId))

instance : Std.Symm Clash := ⟨fun _ _ h => Eq.symm h⟩

def isRun (runId : String) (md : RunMetadata) : Bool := md.runId == runId

theorem clash_of_isRun {runId : String} (a b : RunMetadata) (ha : a.isRun runId)
    (hb : b.isRun runId) : Clash a b := by
  simp only [isRun, beq_iff_eq] at ha hb
  exact ha.trans hb.symm

/-- `issue_lease_number`: the issue, never a pull request. -/
def issueLeaseNumber (md : RunMetadata) : Option UInt64 :=
  md.issueNumber.bind fun number =>
    if 0 ≤ number then some (UInt64.ofNat number.toNat) else none

def isCleanupFailureAbandonment (md : RunMetadata) : Bool :=
  md.status == .abandoned && md.failureCleanup.any FailureCleanupState.isComplete

/-- `is_ownership_denied_terminal`: whatever the status is. -/
def isOwnershipDeniedTerminal (md : RunMetadata) : Bool :=
  md.failureCleanup.any fun failure => failure.ownershipDenied && !failure.cleanupSucceeded

section

variable (isPidStale : UInt32 → Bool)

/-- `live_workflow_pid`: the process that is recorded, when it is alive. -/
def liveWorkflowPid (md : RunMetadata) : Option UInt32 :=
  md.processPid.filter fun pid => !isPidStale pid

def liveChildPid (md : RunMetadata) : Option UInt32 :=
  md.childPids.find? fun pid => !isPidStale pid

def isProcessStale (md : RunMetadata) : Bool :=
  md.processPid.any isPidStale

end

/-- `reopen`: by the process that continues the run. -/
def reopen (now : Timestamp) (pid : UInt32) (md : RunMetadata) : RunMetadata :=
  { md with status := .running, processPid := some pid, updatedAt := some now }

def clearChildPids (now : Timestamp) (md : RunMetadata) : RunMetadata :=
  { md with childPids := [], updatedAt := some now }

def markStarted (now : Timestamp) (md : RunMetadata) : RunMetadata :=
  { md with status := .running, updatedAt := some now }

def setCurrentStep (now : Timestamp) (step : String) (md : RunMetadata) : RunMetadata :=
  { md with currentStep := some step, updatedAt := some now }

def setPreviousStepAndOutcome (now : Timestamp) (step outcome : String) (md : RunMetadata) :
    RunMetadata :=
  { md with previousStep := some step, previousOutcome := some outcome, updatedAt := some now }

def setNextStepCandidates (now : Timestamp) (candidates : List String) (md : RunMetadata) :
    RunMetadata :=
  { md with nextStepCandidates := candidates, updatedAt := some now }

end RunMetadata

/-- The `runs` table. -/
abbrev RunTable := Table RunMetadata RunMetadata.Clash

/-- `get_run_with_conn`. -/
def getRun (runs : RunTable) (runId : String) : Option RunMetadata :=
  runs.find? (RunMetadata.isRun runId)

/-- `persist_run_with_conn`: an upsert of every column. -/
def persistRun (metadata : RunMetadata) (runs : RunTable) : RunTable :=
  runs.upsert metadata (RunMetadata.isRun metadata.runId)
    (fun row => { metadata with runId := row.runId }) (fun _ _ h => h)

theorem getRun_some {runs : RunTable} {runId : String} {md : RunMetadata}
    (h : getRun runs runId = some md) : md ∈ runs ∧ md.runId = runId := by
  obtain ⟨hmem, hrun⟩ := Table.find?_some h
  exact ⟨hmem, by simpa [RunMetadata.isRun] using hrun⟩

theorem getRun_of_mem {runs : RunTable} {md : RunMetadata} (h : md ∈ runs) :
    getRun runs md.runId = some md :=
  Table.find?_eq_some_of_key RunMetadata.clash_of_isRun h (by simp [RunMetadata.isRun])

/-!
### Guarded writes of a run's status

Both say which statuses the run may have; what they do not write they classify, by a
reading of the status in the same transaction.
-/

/-- What a write guarded against terminal statuses did. -/
inductive ConditionalStatusOutcome where
  | updated
  | alreadyTerminal (current : RunStatus)
  | runMissing

/-- What a write guarded by its source statuses did. -/
inductive ExpectedRunStatusOutcome where
  | updated
  | statusMismatch
  | runMissing

def RunMetadata.withStatus (now : Timestamp) (status : RunStatus) (currentStep : Option String)
    (md : RunMetadata) : RunMetadata :=
  { md with status := status, currentStep := currentStep.or md.currentStep, updatedAt := some now }

/-- `UPDATE runs SET status, current_step, updated_at WHERE run_id AND` a guard on the status. -/
def updateRunStatus (now : Timestamp) (runId : String) (status : RunStatus)
    (currentStep : Option String) (guard : RunStatus → Bool) (runs : RunTable) :
    Bool × RunTable :=
  let selected (md : RunMetadata) : Bool := md.isRun runId && guard md.status
  (0 < runs.count selected,
    runs.update selected (RunMetadata.withStatus now status currentStep) (fun _ _ h => h))

/-- `persist_run_status_conditional_outcome_in_transaction`. -/
def persistRunStatusConditionalOutcome (now : Timestamp) (runId : String) (status : RunStatus)
    (currentStep : Option String) (runs : RunTable) : ConditionalStatusOutcome × RunTable :=
  let (changed, runs') :=
    updateRunStatus now runId status currentStep (fun current => !current.isTerminal) runs
  if changed then (.updated, runs')
  else
    match getRun runs' runId with
    | none => (.runMissing, runs')
    | some md => (.alreadyTerminal md.status, runs')

/-- `persist_run_status_from_expected_in_transaction`. -/
def persistRunStatusFromExpected (now : Timestamp) (runId : String) (status : RunStatus)
    (currentStep : Option String) (expectedStatuses : List RunStatus) (runs : RunTable) :
    ExpectedRunStatusOutcome × RunTable :=
  let (changed, runs') :=
    updateRunStatus now runId status currentStep expectedStatuses.contains runs
  if changed then (.updated, runs')
  else
    match getRun runs' runId with
    | none => (.runMissing, runs')
    | some _ => (.statusMismatch, runs')

end Luther
