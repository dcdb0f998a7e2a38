/-
Checkpoints as the columns of their table hold them.

A context is held as the text of its JSON, which `serde_json` reads back unless it is nested too
deep, and a time as RFC 3339 text: the newest checkpoint of a run is the one whose text sorts last.
-/
import Luther.Followup.Envelope
import Luther.Persistence.Checkpoint
import Luther.Recovery.Capsule
import Mathlib.Data.String.Basic

namespace Luther

open Sql

/-- One row of the `checkpoints` table, as its columns hold it. -/
structure StoredCheckpoint where
  runId : String
  stepId : String
  retryCount : Int
  loopCount : Int
  /-- The value that the text in the column was written from. -/
  context : Json
  status : String
  /-- RFC 3339 text. -/
  timestamp : String

/-- `PRIMARY KEY (run_id, step_id)`. -/
def StoredCheckpoint.Clash (a b : StoredCheckpoint) : Prop :=
  a.runId = b.runId ∧ a.stepId = b.stepId

instance : DecidableRel StoredCheckpoint.Clash := fun a b =>
  inferInstanceAs (Decidable (a.runId = b.runId ∧ a.stepId = b.stepId))

instance : Std.Symm StoredCheckpoint.Clash := ⟨fun _ _ h => ⟨h.1.symm, h.2.symm⟩⟩

abbrev StoredCheckpoints := Table StoredCheckpoint StoredCheckpoint.Clash

/-- What the columns hold of a row. -/
def CheckpointRow.stored (row : CheckpointRow) : StoredCheckpoint :=
  { runId := row.runId
    stepId := row.stepId
    retryCount := row.retryCount.toNat
    loopCount := row.loopCount.toNat
    context := .obj row.context
    status := row.status
    timestamp := row.timestamp.toRfc3339 }

/-- `save_checkpoint_with_conn`, on the columns. -/
def saveCheckpointWithConn (checkpoint : Checkpoint) (checkpoints : StoredCheckpoints) :
    StoredCheckpoints :=
  let row := checkpoint.toRow.stored
  checkpoints.upsert row (fun r => r.runId == row.runId && r.stepId == row.stepId)
    (fun r =>
      { r with
        retryCount := row.retryCount
        loopCount := row.loopCount
        context := row.context
        status := row.status
        timestamp := row.timestamp })
    (fun _ _ h => h)

section

variable (parse : String → Except String Timestamp)

/-- The checkpoint that a row is read as; `parse` is `DateTime::<Utc>::from_str`. -/
def StoredCheckpoint.read (row : StoredCheckpoint) : Except PersistenceError Checkpoint := do
  let failure (error : String) := PersistenceError.serialization
    s!"Failed to deserialize context: {error}"
  let value ← (Json.fromText row.context).mapError failure
  let context ← match value.asObject? with
    | some entries => Except.ok entries
    | none => .error (failure "invalid type: expected a map")
  let timestamp ← (parse row.timestamp).mapError fun _ =>
    PersistenceError.database "Invalid timestamp format"
  .ok (CheckpointRow.toCheckpoint
    { runId := row.runId
      stepId := row.stepId
      retryCount := asU32 row.retryCount
      loopCount := asU32 row.loopCount
      context := context
      status := row.status
      timestamp := timestamp })

/-- `load_checkpoint_with_conn`: `ORDER BY timestamp DESC LIMIT 1`. -/
def loadCheckpointWithConn (checkpoints : StoredCheckpoints) (runId : String) :
    Except PersistenceError (Option Checkpoint) :=
  match checkpoints.latest? (fun row => row.runId == runId) StoredCheckpoint.timestamp with
  | none => .ok none
  | some row => (row.read parse).map some

end

end Luther
