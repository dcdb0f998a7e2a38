/-
The launch of a run: its row and its capsule, in one transaction.

The run row is a plain insertion, and so is the capsule row, and either is dropped with the other.
Beyond the constraints of the tables a statement can fail for reasons of the machine (a busy
database, a full disk); where that happens is an input of the call.
-/
import Luther.Persistence.RunMetadata
import Luther.Recovery.Capsule

namespace Luther

open Sql

/-- The two tables of a launch. -/
structure LaunchDb where
  runs : RunTable
  capsules : CapsuleTable

/-- Which statements fail for reasons of the machine. -/
structure LaunchFaults where
  beginTransaction : Option Error := none
  runInsert : Option Error := none
  capsuleInsert : Option Error := none
  commit : Option Error := none

/-- Outcome of an atomic initial-run insert. -/
inductive InitialRunInsert where
  | inserted (runs : RunTable)
  | collision

/-- Why a launch is not put on record. -/
inductive LaunchPersistenceError where
  | runCollision (runId : String)
  | capsuleCollision (runId : String)
  | database (runId message : String)

/-- `LaunchPersistenceOutcome`: only success has one. -/
inductive LaunchPersistenceOutcome where
  | persisted

/-- A statement that fails for reasons of the machine, where it would not fail for its own. -/
def orFault {α : Type} (fault : Option Error) (result : Except Error α) : Except Error α := do
  let value ← result
  match fault with
  | some error => .error error
  | none => .ok value

def classifyCollision (error : Error) : Except Error InitialRunInsert :=
  if error = .constraintViolation then .ok .collision else .error error

/-- `insert_initial_run_with_conn`: `INSERT OR FAIL`. -/
def insertInitialRun (fault : Option Error) (metadata : RunMetadata) (runs : RunTable) :
    Except Error InitialRunInsert :=
  match orFault fault (okOr .constraintViolation (runs.insert metadata)) with
  | .ok runs' => .ok (.inserted runs')
  | .error error => classifyCollision error

/-- What is done between `BEGIN IMMEDIATE` and the end of the transaction. -/
def launchTransaction (sha : Sha256Hex) (faults : LaunchFaults) (metadata : RunMetadata)
    (capsule : ExecutionCapsuleV1) (db : LaunchDb) :
    Except LaunchPersistenceError (LaunchPersistenceOutcome × LaunchDb) :=
  match insertInitialRun faults.runInsert metadata db.runs with
  | .error error => .error (.database metadata.runId s!"initial run insert failed: {error.text}")
  | .ok .collision => .error (.runCollision metadata.runId)
  | .ok (.inserted runs') =>
    match orFault faults.capsuleInsert (persistCapsuleV1 sha capsule db.capsules) with
    | .error error =>
      if error = .constraintViolation then .error (.capsuleCollision metadata.runId)
      else .error (.database metadata.runId s!"capsule insert failed: {error.text}")
    | .ok capsules' =>
      match faults.commit with
      | some error =>
        .error
          (.database metadata.runId s!"launch transaction commit failed: {error.text}")
      | none => .ok (.persisted, { runs := runs', capsules := capsules' })

/-- `persist_launch_atomically`: the answer, and the tables after it. -/
def persistLaunchAtomically (sha : Sha256Hex) (faults : LaunchFaults) (metadata : RunMetadata)
    (capsule : ExecutionCapsuleV1) (db : LaunchDb) :
    Except LaunchPersistenceError LaunchPersistenceOutcome × LaunchDb :=
  match faults.beginTransaction with
  | some error =>
    (.error (.database metadata.runId s!"failed to begin launch transaction: {error.text}"), db)
  | none => atomically (launchTransaction sha faults metadata capsule) db

end Luther
