/-
Applying what a poll of an external wait has found.

A poller reads a wait, asks the outside, and applies the decision to the tables in one
transaction.  Between the reading and the transaction other pollers and operators may
have been at the run; every write names what it expects to find.
-/
import Luther.Persistence.ExternalWait

namespace Luther

open Sql

/-- What a poll says of the wait. -/
inductive PollClassification where
  | stillWaiting
  | readyToResume
  | terminalFailure
  | transientFailure
  | timedOut

/-- What a poll makes of a wait. -/
structure PollDecision where
  runId : String
  classification : PollClassification
  nextPollAt : Option Timestamp
  observedState : Json

/-- Why a decision cannot be applied. -/
inductive PollApplyError where
  | leaseTransitionRejected (runId leaseId reason : String)
  | waitStateConcurrentTransition (runId : String)
  | runMissing (runId stepId : String)
  | runStatusConcurrentTransition (runId stepId : String)
  | sqlite (error : Error)
  | persistence (error : PersistenceError)
  deriving DecidableEq

def readyTransitionRejected : String :=
  "lease_ready_transition_rejected: lease status not in [WaitingExternal, ReadyToResume] " ++
    "or run_id mismatch"

def terminalTransitionRejected : String :=
  "lease_terminal_transition_rejected: lease status not in " ++
    "[WaitingExternal, ReadyToResume, Running, Claimed] or run_id mismatch"

def stillWaitingTransitionRejected : String :=
  "lease_still_waiting_transition_rejected: lease has advanced past waiting or owned by " ++
    "another run"

def maxPollIntervalSeconds : Nat := 86400

/-- `bounded_poll_interval_seconds`: at least a second, at most a day. -/
def boundedPollIntervalSeconds (pollIntervalSeconds : UInt64) : Nat :=
  if pollIntervalSeconds.toNat < 2 ^ 63 then
    max 1 (min pollIntervalSeconds.toNat maxPollIntervalSeconds)
  else maxPollIntervalSeconds

def nextPollTimeAt (pollIntervalSeconds : UInt64) (now : Timestamp) : Timestamp :=
  now + boundedPollIntervalSeconds pollIntervalSeconds * 1000000000

section

variable (record : WaitStateRecord)

/-- `validated_next_poll_time`: the time that was proposed, when it is to come. -/
def validatedNextPollTime (candidate : Option Timestamp) (now : Timestamp) : Timestamp :=
  (candidate.filter fun next => now < next).getD (nextPollTimeAt record.pollIntervalSeconds now)

def markRunStatus (now : Timestamp) (runId : String) (status : RunStatus) (stepId : String)
    (expectedStatuses : List RunStatus) (runs : RunTable) : Except PollApplyError RunTable :=
  match persistRunStatusFromExpected now runId status (some stepId) expectedStatuses runs with
  | (.updated, runs') => .ok runs'
  | (.statusMismatch, _) => .error (.runStatusConcurrentTransition runId stepId)
  | (.runMissing, _) => .error (.runMissing runId stepId)

/-- The lease of the record, when it names one, from one of the expected statuses. -/
def advanceLease (now : Timestamp) (record : WaitStateRecord) (status : LeaseStatus)
    (expectedStatuses : List LeaseStatus) (reason : String) (leases : LeaseTable) :
    Except PollApplyError LeaseTable :=
  match record.leaseId with
  | none => .ok leases
  | some leaseId => do
    let (applied, leases) ← (updateLeaseStatusConditional now leaseId status expectedStatuses
      none (some record.runId) leases).mapError .sqlite
    if applied then .ok leases
    else .error (.leaseTransitionRejected record.runId leaseId reason)

def consumeSuspension (waits : WaitStateTable) : Except PollApplyError WaitStateTable :=
  match deleteWaitStateForSuspension record.runId record.suspensionId waits with
  | (true, waits) => .ok waits
  | (false, _) => .error (.waitStateConcurrentTransition record.runId)

def applyReadyToResume (now : Timestamp) (record : WaitStateRecord) (db : RunDb) :
    Except PollApplyError RunDb := do
  let waits ← consumeSuspension record db.waits
  let (_, checkpoints) ←
    (setResumePoint now record.runId record.resumeStep db.checkpoints).mapError .persistence
  let runs ← markRunStatus now record.runId .readyToResume record.resumeStep [.waitingExternal]
    db.runs
  let leases ← advanceLease now record .readyToResume [.waitingExternal, .readyToResume]
    readyTransitionRejected db.leases
  .ok { checkpoints := checkpoints, runs := runs, waits := waits, leases := leases }

def applyTerminalFailure (now : Timestamp) (record : WaitStateRecord) (db : RunDb) :
    Except PollApplyError RunDb := do
  let waits ← consumeSuspension record db.waits
  let runs ← markRunStatus now record.runId .failed record.resumeStep [.waitingExternal] db.runs
  let leases ← advanceLease now record .failed
    [.waitingExternal, .readyToResume, .running, .claimed] terminalTransitionRejected db.leases
  .ok { db with runs := runs, waits := waits, leases := leases }

def applyStillWaiting (now : Timestamp) (record : WaitStateRecord) (decision : PollDecision)
    (db : RunDb) : Except PollApplyError RunDb := do
  let runs ← markRunStatus now record.runId .waitingExternal record.resumeStep
    [.waitingExternal] db.runs
  let nextPollAt := validatedNextPollTime record decision.nextPollAt now
  let (refreshed, waits) ← (updateWaitStateAfterPoll now record.runId decision.observedState
    nextPollAt record.pollCount record.suspensionId db.waits).mapError .sqlite
  if refreshed then do
    let leases ← advanceLease now record .waitingExternal [.waitingExternal]
      stillWaitingTransitionRejected db.leases
    .ok { db with runs := runs, waits := waits, leases := leases }
  else .error (.waitStateConcurrentTransition record.runId)

/-- The transaction of `apply_poll_decision_at`. -/
def applyPollDecisionAt (decision : PollDecision) (now : Timestamp)
    (db : RunDb) : Except PollApplyError Unit × RunDb :=
  atomically (fun db =>
    match decision.classification with
    | .readyToResume => (applyReadyToResume now record db).map fun db => ((), db)
    | .terminalFailure | .timedOut => (applyTerminalFailure now record db).map fun db => ((), db)
    | .stillWaiting | .transientFailure =>
      (applyStillWaiting now record decision db).map fun db => ((), db)) db

end

end Luther
