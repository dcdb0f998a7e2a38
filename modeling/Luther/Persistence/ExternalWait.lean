/-
Suspending a run on an external event.

Four tables say together that a run waits: its checkpoint is the one to go on from, its
status and its lease are those of a run that waits, and a record says for what.  They
are written in one transaction.
-/
import Luther.Persistence.RunMetadata
import Luther.Persistence.Leases
import Luther.Persistence.WaitState

namespace Luther

open Sql

/-- The tables that say where a run stands. -/
structure RunDb where
  checkpoints : CheckpointTable
  runs : RunTable
  waits : WaitStateTable
  leases : LeaseTable

/-- Why a run cannot be suspended. -/
inductive ExternalWaitError where
  | runMissing (runId : String)
  | runAlreadyTerminal (runId : String) (current : RunStatus)
  | leaseTransitionRejected (runId : String)
  | identityIncomplete (runId field : String)
  | waitState (error : WaitStateWriteError)
  | checkpoint (error : PersistenceError)
  | sqlite (error : Error)
  deriving DecidableEq

def markRunWaitingExternal (now : Timestamp) (runId stepId : String) (runs : RunTable) :
    Except ExternalWaitError RunTable :=
  match persistRunStatusConditionalOutcome now runId .waitingExternal (some stepId) runs with
  | (.updated, runs') => .ok runs'
  | (.runMissing, _) => .error (.runMissing runId)
  | (.alreadyTerminal current, _) => .error (.runAlreadyTerminal runId current)

/-- The writes of `persist_external_wait`, for the lease that the record names. -/
def externalWaitWrites (now : Timestamp) (record : WaitStateRecord) (leaseId : String)
    (db : RunDb) : Except ExternalWaitError (Unit × RunDb) := do
  let (_, checkpoints) ←
    (setResumePoint now record.runId record.resumeStep db.checkpoints).mapError .checkpoint
  let runs ← markRunWaitingExternal now record.runId record.resumeStep db.runs
  let waits ← (upsertWaitState record db.waits).mapError .waitState
  let (applied, leases) ←
    (updateLeaseStatusConditional now leaseId .waitingExternal [.running, .waitingExternal] none
      (some record.runId) db.leases).mapError .sqlite
  if applied then
    .ok ((), { checkpoints := checkpoints, runs := runs, waits := waits, leases := leases })
  else .error (.leaseTransitionRejected record.runId)

/-- `persist_external_wait`: the identities are looked at before the transaction. -/
def persistExternalWait (now : Timestamp) (record : WaitStateRecord) (db : RunDb) :
    Except ExternalWaitError Unit × RunDb :=
  let incomplete (field : String) : Except ExternalWaitError Unit × RunDb :=
    (.error (.identityIncomplete record.runId field), db)
  match record.leaseId.filter (· ≠ "") with
  | none => incomplete "lease_id"
  | some leaseId =>
    if record.runId = "" then incomplete "run_id"
    else if record.resumeStep = "" then incomplete "resume_step"
    else if record.suspensionId = "" then incomplete "suspension_id"
    else atomically (externalWaitWrites now record leaseId) db

/-- `has_pollable_external_wait`: the join of the run, its wait and the wait's lease. -/
def hasPollableExternalWait (db : RunDb) (runId : String) : Bool :=
  db.runs.rows.any fun run =>
    run.runId == runId && run.status == .waitingExternal
      && db.waits.rows.any fun wait =>
        wait.runId == run.runId && wait.leaseId.any (· ≠ "") && wait.resumeStep ≠ ""
          && wait.suspensionId ≠ ""
          && db.leases.rows.any fun lease =>
            some lease.leaseId == wait.leaseId && lease.runId == some wait.runId
              && lease.status == .waitingExternal

end Luther
