/-
Checkpoints: the state of a run as it is written down.

There is one checkpoint for each step of a run, and the run resumes from the
newest.  The counts of the loops have no column of their own: they are written into
the context under a reserved key and read back from there.
-/
import Luther.Lib.Assoc
import Luther.Lib.Json
import Luther.Lib.Sorted
import Luther.Lib.Sql
import Luther.Persistence.Time

namespace Luther

open Sql

/-- What is needed to go on from a point of a run. -/
structure StateSnapshot where
  retryCount : UInt32 := 0
  loopCount : UInt32 := 0
  /-- How often each `"from:to"` edge has been counted. -/
  edgeLoopCounts : List (String × UInt32) := []
  context : List (String × Json) := []
  status : String := "running"

/-- The snapshot of a step of a run. -/
structure Checkpoint where
  runId : String
  stepId : String
  stateSnapshot : StateSnapshot
  timestamp : Timestamp

/-- One row of the `checkpoints` table, as it is read.  `StoredCheckpoint` has the texts. -/
structure CheckpointRow where
  runId : String
  stepId : String
  retryCount : UInt32
  loopCount : UInt32
  context : List (String × Json)
  status : String
  timestamp : Timestamp

/-- `PRIMARY KEY (run_id, step_id)`. -/
def CheckpointRow.Clash (a b : CheckpointRow) : Prop := a.runId = b.runId ∧ a.stepId = b.stepId

instance : DecidableRel CheckpointRow.Clash := fun a b =>
  inferInstanceAs (Decidable (a.runId = b.runId ∧ a.stepId = b.stepId))

instance : Std.Symm CheckpointRow.Clash := ⟨fun _ _ h => ⟨h.1.symm, h.2.symm⟩⟩

/-- The `checkpoints` table. -/
abbrev CheckpointTable := Table CheckpointRow CheckpointRow.Clash

def edgeLoopCountsKey : String := "__edge_loop_counts"

def Checkpoint.toRow (checkpoint : Checkpoint) : CheckpointRow :=
  let snapshot := checkpoint.stateSnapshot
  { runId := checkpoint.runId
    stepId := checkpoint.stepId
    retryCount := snapshot.retryCount
    loopCount := snapshot.loopCount
    context := Assoc.insert edgeLoopCountsKey (Json.ofMap Json.ofU32 snapshot.edgeLoopCounts)
      snapshot.context
    status := snapshot.status
    timestamp := checkpoint.timestamp }

def CheckpointRow.toCheckpoint (row : CheckpointRow) : Checkpoint :=
  { runId := row.runId
    stepId := row.stepId
    stateSnapshot :=
      { retryCount := row.retryCount
        loopCount := row.loopCount
        edgeLoopCounts :=
          ((row.context.lookup edgeLoopCountsKey).bind (Json.toMap? Json.asU32?)).getD []
        context := row.context
        status := row.status }
    timestamp := row.timestamp }

/-- `save_checkpoint_with_conn`: an upsert on the step of the run. -/
def saveCheckpoint (checkpoint : Checkpoint) (checkpoints : CheckpointTable) : CheckpointTable :=
  let row := checkpoint.toRow
  checkpoints.upsert row (fun r => r.runId == row.runId && r.stepId == row.stepId)
    (fun r =>
      { r with
        retryCount := row.retryCount
        loopCount := row.loopCount
        context := row.context
        status := row.status
        timestamp := row.timestamp })
    (fun _ _ h => h)

/-- `load_checkpoint_with_conn`: the newest checkpoint of the run. -/
def loadCheckpoint (checkpoints : CheckpointTable) (runId : String) : Option Checkpoint :=
  (checkpoints.latest? (fun row => row.runId == runId) CheckpointRow.timestamp).map
    CheckpointRow.toCheckpoint

/-- Why a checkpoint statement fails. -/
inductive PersistenceError where
  | database (text : String)
  | serialization (text : String)
  | notFound (text : String)
  deriving DecidableEq

def PersistenceError.text : PersistenceError → String
  | database text => s!"database error: {text}"
  | serialization text => s!"serialization error: {text}"
  | notFound text => s!"checkpoint not found: {text}"

def checkpointStatusWaiting : String := "waiting"

def checkpointStatusInterrupted : String := "interrupted"

/-- The status of a checkpoint that was chosen to go on from. -/
def checkpointStatusReadyToResume : String := "ready_to_resume"

def isResumableCheckpointStatus (status : String) : Bool :=
  status == checkpointStatusWaiting || status == checkpointStatusInterrupted
    || status == checkpointStatusReadyToResume

section

variable (checkpoints : CheckpointTable)

/-- `list_checkpoints`: `ORDER BY timestamp ASC`; among equals, in the table's order. -/
def listCheckpoints (runId : String) : List Checkpoint :=
  (Sorted.sort CheckpointRow.timestamp (checkpoints.select fun row => row.runId == runId)).map
    CheckpointRow.toCheckpoint

def getCheckpointForStep (runId stepId : String) : Option Checkpoint :=
  (listCheckpoints checkpoints runId).find? fun cp => cp.stepId == stepId

/-- `load_checkpoint_before_step`: the one just before the step's own, in time. -/
def loadCheckpointBeforeStep (runId stepId : String) : Option Checkpoint :=
  let list := listCheckpoints checkpoints runId
  match list.findIdx? fun cp => cp.stepId == stepId with
  | some (before + 1) => list[before]?
  | _ => none

end

def CheckpointRow.isStep (runId stepId : String) (row : CheckpointRow) : Bool :=
  row.runId == runId && row.stepId == stepId

def CheckpointRow.rearmed (now : Timestamp) (row : CheckpointRow) : CheckpointRow :=
  { row with status := checkpointStatusReadyToResume, timestamp := now }

/-- `set_resume_point`: only the status and the time of the step's checkpoint change. -/
def setResumePoint (now : Timestamp) (runId stepId : String) (checkpoints : CheckpointTable) :
    Except PersistenceError (Timestamp × CheckpointTable) :=
  if checkpoints.count (CheckpointRow.isStep runId stepId) = 0 then
    .error (.notFound s!"no checkpoint for run {runId} step {stepId}")
  else
    .ok (now, checkpoints.update (CheckpointRow.isStep runId stepId) (CheckpointRow.rearmed now)
      (fun _ _ h => h))

/-! ### Writing and reading back -/

/-- **What is counted is what is read back.** -/
theorem toCheckpoint_toRow_edgeLoopCounts (checkpoint : Checkpoint) :
    checkpoint.toRow.toCheckpoint.stateSnapshot.edgeLoopCounts
      = checkpoint.stateSnapshot.edgeLoopCounts := by
  show ((checkpoint.toRow.context.lookup edgeLoopCountsKey).bind
    (Json.toMap? Json.asU32?)).getD [] = _
  simp only [Checkpoint.toRow, Assoc.lookup_insert_self, Option.bind_some,
    Json.toMap?_ofMap Json.asU32?_ofU32, Option.getD_some]

end Luther
