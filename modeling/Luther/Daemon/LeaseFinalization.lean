/-
The lease of a run whose launch is over.

What the workflow runner returned becomes a transition of the lease, and every transition
is a compare-and-swap on the owner and the status: a launcher that has been overtaken
changes nothing.  A launch that failed may have left the run waiting, so there the run, its
wait and its lease are looked at first.
-/
import Luther.Persistence.ExternalWait

namespace Luther

open Sql

/-- What a workflow runner returns once it has started. -/
inductive WorkflowLaunchResult where
  | completedSuccess
  | completedFailure
  | cleanupAbandoned
  | suspendedExternalWait
  | ownershipDenied

/-- What a launcher reports. -/
inductive LaunchOutcome where
  | launched (runId : String) (success : Bool)
  | waitingExternal (runId : String)
  | leaseStatePreserved (runId : String) (currentStatus : Option LeaseStatus)
      (currentRunId : Option String)
  deriving DecidableEq

/-- The outcome of a transition that was not applied. -/
def LaunchOutcome.preserved (runId : String) (current : Option IssueLease) : LaunchOutcome :=
  .leaseStatePreserved runId (current.map IssueLease.status) (current.bind IssueLease.runId)

/-- A compare-and-swap from the owner to the owner, and its outcome by what became of it. -/
def finalizeLease (now : Timestamp) (leaseId runId : String) (targetStatus : LeaseStatus)
    (expectedStatuses : List LeaseStatus)
    (outcome : ConditionalLeaseStatusOutcome → Except Error LaunchOutcome)
    (leases : LeaseTable) : Except Error LaunchOutcome × LeaseTable :=
  match atomically (updateLeaseStatusConditionalOutcome now leaseId targetStatus expectedStatuses
    (some runId) (some runId)) leases with
  | (.ok transition, leases) => (outcome transition, leases)
  | (.error e, leases) => (.error e, leases)

def finalizeExactOwnerLease (now : Timestamp) (leaseId runId : String)
    (targetStatus : LeaseStatus) (expectedStatuses : List LeaseStatus)
    (appliedOutcome : LaunchOutcome) (leases : LeaseTable) :
    Except Error LaunchOutcome × LeaseTable :=
  finalizeLease now leaseId runId targetStatus expectedStatuses
    (fun
      | .applied => .ok appliedOutcome
      | .rejected currentStatus currentRunId =>
        .ok (.leaseStatePreserved runId (some currentStatus) currentRunId)
      | .missing => .ok (.leaseStatePreserved runId none none))
    leases

/-- `finalize_terminal_lease`: from a running lease only. -/
def finalizeTerminalLease (now : Timestamp) (leaseId runId : String) (targetStatus : LeaseStatus)
    (success : Bool) (leases : LeaseTable) : Except Error LaunchOutcome × LeaseTable :=
  finalizeExactOwnerLease now leaseId runId targetStatus [.running] (.launched runId success)
    leases

def missingOwnershipDeniedLeaseError (leaseId runId : String) : Error :=
  .sqliteFailure (s!"ownership-denied finalization for run {runId}: lease {leaseId} is missing; " ++
    "durable state cannot be verified")

def inconsistentOwnershipDeniedLeaseError (leaseId runId : String) (currentStatus : LeaseStatus)
    (currentRunId : Option String) : Error :=
  let owner :=
    match currentRunId with
    | some owner => s!"Some({owner.quote})"
    | none => "None"
  .sqliteFailure (s!"ownership-denied finalization for run {runId}: lease {leaseId} is in an " ++
    s!"inconsistent state (status={currentStatus.asStr}, owner={owner}); expected " ++
    "same-owner Failed")

/-- `classify_ownership_denied_rejection`: the runner may have failed the lease itself. -/
def classifyOwnershipDeniedRejection (leaseId runId : String) (currentStatus : LeaseStatus)
    (currentRunId : Option String) : Except Error LaunchOutcome :=
  if currentStatus = .failed ∧ currentRunId = some runId then .ok (.launched runId false)
  else .error (inconsistentOwnershipDeniedLeaseError leaseId runId currentStatus currentRunId)

def finalizeOwnershipDeniedLease (now : Timestamp) (leaseId runId : String)
    (leases : LeaseTable) : Except Error LaunchOutcome × LeaseTable :=
  finalizeLease now leaseId runId .failed [.running]
    (fun
      | .applied => .ok (.launched runId false)
      | .rejected currentStatus currentRunId =>
        classifyOwnershipDeniedRejection leaseId runId currentStatus currentRunId
      | .missing => .error (missingOwnershipDeniedLeaseError leaseId runId))
    leases

def classifyRejectedOrMissing (leaseId runId : String) (leases : LeaseTable) : LaunchOutcome :=
  .preserved runId (leases.find? fun row => row.leaseId == leaseId)

/-- `compensate_lease_after_launch_error`: the look at the wait and the write are one
transaction. -/
def compensateLeaseAfterLaunchError (now : Timestamp) (leaseId runId : String) (db : RunDb) :
    Except Error LaunchOutcome × RunDb :=
  atomically (fun db => do
    let pollable := hasPollableExternalWait db runId
    let targetStatus : LeaseStatus := if pollable then .waitingExternal else .failed
    let (applied, leases) ← updateLeaseStatusConditional now leaseId targetStatus
      [.running, .waitingExternal] (some runId) (some runId) db.leases
    let outcome :=
      if applied then
        if pollable then .waitingExternal runId else .launched runId false
      else classifyRejectedOrMissing leaseId runId leases
    .ok (outcome, { db with leases := leases })) db

/-- The leases that a transition leaves, with the rest of the database. -/
def withLeases (db : RunDb) (r : Except Error LaunchOutcome × LeaseTable) :
    Except Error LaunchOutcome × RunDb :=
  (r.1, { db with leases := r.2 })

/-- `finish_lease_after_result`: of an error of the launch only that it is one is looked at. -/
def finishLeaseAfterResult (now : Timestamp) (leaseId runId : String)
    (result : Except String WorkflowLaunchResult) (db : RunDb) :
    Except Error LaunchOutcome × RunDb :=
  match result with
  | .ok .completedSuccess =>
    withLeases db (finalizeTerminalLease now leaseId runId .completed true db.leases)
  | .ok .completedFailure =>
    withLeases db (finalizeTerminalLease now leaseId runId .failed false db.leases)
  | .ok .ownershipDenied => withLeases db (finalizeOwnershipDeniedLease now leaseId runId db.leases)
  | .ok .cleanupAbandoned =>
    withLeases db (finalizeExactOwnerLease now leaseId runId .cleanupAbandoned
      [.running, .cleanupAbandoned] (.launched runId false) db.leases)
  | .ok .suspendedExternalWait =>
    withLeases db (finalizeExactOwnerLease now leaseId runId .waitingExternal
      [.running, .waitingExternal] (.waitingExternal runId) db.leases)
  | .error _ => compensateLeaseAfterLaunchError now leaseId runId db

end Luther
