/-
The runner's registry statements, one at a time.

The runner goes back to a row in two statements: it reads the whole row, and it writes all
the columns of the row, changed in a few, back.  Between the two other processes may update
the status of the run, under a guard.  Only the result of a step is read and written in one
transaction.
-/
import Luther.Engine.TransitionLoop
import Luther.Recovery.TypedMerge

namespace Luther

open Sql

/-- A pair of statements of the runner: a reading of the row, and a writing of it. -/
inductive RegistryOp where
  /-- `mark_run_started`. -/
  | markStarted
  /-- The registry's part of `prepare_step_start`. -/
  | prepareStart (step : String)
  /-- `record_run_completion`. -/
  | complete (outcome : RunOutcome) (finalStep : String)

namespace RegistryOp

def apply (cfg : RunnerConfig) (now : Timestamp) (op : RegistryOp) (md : RunMetadata) :
    RunMetadata :=
  match op with
  | markStarted => md.markStarted now
  | prepareStart step =>
    (md.setCurrentStep now step).setNextStepCandidates now (computeNextStepCandidates cfg step)
  | complete outcome finalStep =>
    RunMetadata.setCurrentStep now finalStep
      { md with status := statusForCompletion outcome cfg.mergeRequired }

/-- The row that is read; a completion makes one up where there is none. -/
def read (cfg : RunnerConfig) (op : RegistryOp) (runs : RunTable) : Option RunMetadata :=
  match op with
  | complete outcome _ =>
    some ((getRun runs cfg.runId).getD
      (buildMetadata cfg (statusForCompletion outcome cfg.mergeRequired)))
  | _ => getRun runs cfg.runId

def status? (cfg : RunnerConfig) : RegistryOp → Option RunStatus
  | markStarted => some .running
  | prepareStart _ => none
  | complete outcome _ => some (statusForCompletion outcome cfg.mergeRequired)

def step? : RegistryOp → Option String
  | markStarted => none
  | prepareStart step => some step
  | complete _ finalStep => some finalStep

end RegistryOp

/-- A statement on the run's row. -/
inductive RegistryCall where
  /-- The first half of an operation of the runner. -/
  | load (op : RegistryOp)
  /-- The second half of the operation that the runner is in. -/
  | writeBack (now : Timestamp)
  /-- The transaction of `persist_step_result`. -/
  | stepResult (now : Timestamp) (currentStep : String) (outcome : StepOutcome)
      (failure terminalFailure : Option FailureCleanupState)
  /-- The transaction of `persist_terminal_ownership_failure`. -/
  | ownershipDenied (now : Timestamp) (currentStep : String) (outcome : StepOutcome)
      (cleanupStep : String) (failure : FailureCleanupState)
  /-- The status of a merge that has been completed, for a run that is ready for it. -/
  | mergeCompleted (now : Timestamp) (headSha : String)
  /-- Another process's `persist_run_status_conditional_with_conn`. -/
  | conditional (now : Timestamp) (status : RunStatus) (currentStep : Option String)
  /-- Another process's `persist_run_status_from_expected_in_transaction`. -/
  | fromExpected (now : Timestamp) (status : RunStatus) (currentStep : Option String)
      (expectedStatuses : List RunStatus)

/-- The registry, the row that the runner is holding, and the terminal status that another
process has moved the run to, as long as it stands. -/
structure RegistryWorld where
  db : RunnerDb
  held : Option (RegistryOp × RunMetadata) := none
  foreign : Option RunStatus := none

namespace RegistryWorld

def row (cfg : RunnerConfig) (w : RegistryWorld) : Option RunMetadata := getRun w.db.runs cfg.runId

/-- The world with other tables, where a terminal status that does not stand is forgotten. -/
def withDb (cfg : RunnerConfig) (db : RunnerDb) (w : RegistryWorld) : RegistryWorld :=
  { w with
    db := db
    foreign := w.foreign.filter fun status =>
      (getRun db.runs cfg.runId).map RunMetadata.status == some status }

/-- An update by another process, and what it has moved the run to. -/
def foreignUpdate (now : Timestamp) (runId : String) (status : RunStatus)
    (currentStep : Option String) (guard : RunStatus → Bool) (w : RegistryWorld) : RegistryWorld :=
  let updated := updateRunStatus now runId status currentStep guard w.db.runs
  if updated.1 then
    { w with
      db := { w.db with runs := updated.2 }
      foreign := if status.isTerminal then some status else none }
  else w

end RegistryWorld

/-- The runs table after the status of a merge: a compare-and-swap on the status and the head. -/
def mergedRuns (cfg : RunnerConfig) (now : Timestamp) (headSha : String) (runs : RunTable) :
    RunTable :=
  runs.update (fun md => md.runId == cfg.runId && md.status == allowedMergePredecessor
      && md.headSha == some headSha)
    (fun md => { md with status := .merged, updatedAt := some now }) (fun _ _ h => h)

def registryStep (cfg : RunnerConfig) (w : RegistryWorld) : RegistryCall → RegistryWorld
  | .load op =>
    if cfg.persistRegistry then { w with held := (op.read cfg w.db.runs).map fun md => (op, md) }
    else w
  | .writeBack now =>
    match w.held with
    | none => w
    | some (op, md) =>
      { w.withDb cfg { w.db with runs := persistRun (op.apply cfg now md) w.db.runs } with
        held := none }
  | .stepResult now currentStep outcome failure terminalFailure =>
    if cfg.persistRegistry then
      match persistRegistryStepState cfg now currentStep outcome failure terminalFailure w.db with
      | .ok db => w.withDb cfg db
      | .error _ => w
    else w
  | .ownershipDenied now currentStep outcome cleanupStep failure =>
    if cfg.persistRegistry then
      match persistTerminalOwnershipFailureRegistry cfg now currentStep outcome cleanupStep
          failure w.db with
      | .ok db => w.withDb cfg db
      | .error _ => w
    else w
  | .mergeCompleted now headSha =>
    w.withDb cfg { w.db with runs := mergedRuns cfg now headSha w.db.runs }
  | .conditional now status currentStep =>
    w.foreignUpdate now cfg.runId status currentStep fun current => !current.isTerminal
  | .fromExpected now status currentStep expectedStatuses =>
    w.foreignUpdate now cfg.runId status currentStep expectedStatuses.contains

/-- One runner and any number of other processes, on a registry that has the run. -/
def registryMachine (cfg : RunnerConfig) : StateMachine RegistryWorld RegistryCall Unit where
  start w := w.held = none ∧ w.foreign = none
  step w call := ((), registryStep cfg w call)

end Luther
