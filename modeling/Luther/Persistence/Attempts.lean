/-
The `recovery_epoch` table: one counter a run, moved by compare-and-swap.

The column is a 64-bit integer of the database.  One past its largest value is kept
as a floating-point number, which still compares as a number but reads as no
integer: the epoch of that run cannot be read any more.  A negative value reads as zero
and compares as what it is.
-/
import Luther.Persistence.Checkpoint

namespace Luther

open Sql

/-- One row of the `recovery_epoch` table. -/
structure EpochRow where
  runId : String
  epoch : Int

namespace EpochRow

/-- `run_id TEXT PRIMARY KEY`. -/
def Clash (a b : EpochRow) : Prop := a.runId = b.runId

instance : DecidableRel Clash := fun a b => inferInstanceAs (Decidable (a.runId = b.runId))

instance : Std.Symm Clash := ⟨fun _ _ h => Eq.symm h⟩

def isRun (runId : String) (row : EpochRow) : Bool := row.runId == runId

end EpochRow

/-- The `recovery_epoch` table. -/
abbrev EpochTable := Table EpochRow EpochRow.Clash

/-- The largest value of an `i64`. -/
def i64Max : Nat := 2 ^ 63 - 1

/-- `i64::try_from(n).unwrap_or(i64::MAX)` on a `u64`. -/
def saturateI64 (n : Nat) : Nat := min n i64Max

/-- The outcome of a compare-and-swap epoch advancement. -/
inductive CasOutcome where
  | advanced («from» «to» : Nat)
  | stale (persisted expected : Nat)
  deriving DecidableEq

/-- `read_epoch`: zero for a run that has no row. -/
def readEpoch (epochs : EpochTable) (runId : String) : Except Error Nat :=
  match epochs.find? (EpochRow.isRun runId) with
  | none => .ok 0
  | some row =>
    if row.epoch ≤ i64Max then .ok row.epoch.toNat
    else .error (.invalidColumnType 0 "epoch" "Real")

/-- `cas_advance_epoch`: the first row of a run is written as the caller expects it; a row
that is there moves on when it holds what the caller expects. -/
def casAdvanceEpoch (runId : String) (expectedEpoch : Nat) (epochs : EpochTable) :
    Except Error (CasOutcome × EpochTable) :=
  let nextEpoch := if expectedEpoch + 1 < 2 ^ 64 then expectedEpoch + 1 else expectedEpoch
  match epochs.find? (EpochRow.isRun runId) with
  | none =>
    match epochs.insert { runId := runId, epoch := saturateI64 nextEpoch } with
    | some epochs' => .ok (.advanced expectedEpoch nextEpoch, epochs')
    | none => .error .constraintViolation
  | some row =>
    if row.epoch = saturateI64 expectedEpoch then
      .ok (.advanced expectedEpoch nextEpoch,
        epochs.update (EpochRow.isRun runId) (fun r => { r with epoch := r.epoch + 1 })
          (fun _ _ h => h))
    else
      match readEpoch epochs runId with
      | .ok persisted => .ok (.stale persisted expectedEpoch, epochs)
      | .error e => .error e

end Luther

/-
The `recovery_attempts` table.

An attempt is written when it starts and completed once, with its outcome.  Its
identifier is never given out twice: the table remembers the last one, and the
remembered number bounds every row, so the next one is new.
-/

namespace Luther

open Sql

/-- One row of the `recovery_attempts` table. -/
structure AttemptRow where
  attemptId : Nat
  runId : String
  epoch : Nat
  /-- The attempt this one recovers from. -/
  sourceAttemptId : Option Nat
  operationId : String
  stepId : String
  stepStatus : String
  capsuleSchemaVersion : UInt32
  capsuleEnvelopeDigest : String
  stateSnapshot : StateSnapshot
  checkpointDigest : Option String := none
  runnerResult : Option Json := none
  startedAt : Timestamp
  /-- Nothing until the outcome is appended. -/
  finalizedAt : Option Timestamp := none

namespace AttemptRow

/-- `attempt_id INTEGER PRIMARY KEY`. -/
def Clash (a b : AttemptRow) : Prop := a.attemptId = b.attemptId

instance : Std.Symm Clash := ⟨fun _ _ h => Eq.symm h⟩

end AttemptRow

/-- The `recovery_attempts` table, with the last identifier it gave out. -/
structure AttemptTable where
  table : Table AttemptRow AttemptRow.Clash
  /-- What `AUTOINCREMENT` remembers. -/
  lastId : Nat
  positive : ∀ row ∈ table, 0 < row.attemptId
  bounded : ∀ row ∈ table, row.attemptId ≤ lastId
  fits : lastId < 2 ^ 63

namespace AttemptTable

def empty : AttemptTable where
  table := Table.empty
  lastId := 0
  positive _ h := absurd h (Table.not_mem_empty _)
  bounded _ h := absurd h (Table.not_mem_empty _)
  fits := by decide

/-- The table with a row under the next identifier. -/
def push (attempts : AttemptTable) (row : AttemptRow) (hid : row.attemptId = attempts.lastId + 1)
    (hfits : attempts.lastId + 1 < 2 ^ 63) : AttemptTable where
  table := ⟨attempts.table.rows ++ [row], by
    refine List.pairwise_append.mpr ⟨attempts.table.distinct, List.pairwise_singleton _ _, ?_⟩
    intro a ha b hb hclash
    rw [List.mem_singleton.mp hb] at hclash
    have hle := attempts.bounded a ha
    unfold AttemptRow.Clash at hclash
    omega⟩
  lastId := attempts.lastId + 1
  positive a ha := by
    rcases List.mem_append.mp ha with h | h
    · exact attempts.positive a h
    · rw [List.mem_singleton.mp h]; omega
  bounded a ha := by
    rcases List.mem_append.mp ha with h | h
    · have := attempts.bounded a h
      omega
    · rw [List.mem_singleton.mp h]; omega
  fits := hfits

/-- The table with some columns of some rows changed, but no identifier. -/
def amend (attempts : AttemptTable) (p : AttemptRow → Bool) (f : AttemptRow → AttemptRow)
    (hf : ∀ row, (f row).attemptId = row.attemptId) : AttemptTable where
  table := attempts.table.update p f (fun a b h => (hf a).symm.trans h)
  lastId := attempts.lastId
  positive row h := by
    obtain ⟨a, ha, rfl⟩ := (Table.mem_set rfl).mp h
    rw [Table.set_column AttemptRow.attemptId hf]
    exact attempts.positive a ha
  bounded row h := by
    obtain ⟨a, ha, rfl⟩ := (Table.mem_set rfl).mp h
    rw [Table.set_column AttemptRow.attemptId hf]
    exact attempts.bounded a ha
  fits := attempts.fits

end AttemptTable

/-- Values required to reserve an execution attempt. -/
structure AttemptStart where
  runId : String
  epoch : Nat
  sourceAttemptId : Option Nat
  operationId : String
  stepId : String
  capsuleSchemaVersion : UInt32
  capsuleEnvelopeDigest : String
  stateSnapshot : StateSnapshot

/-- The row that is inserted under an identifier. -/
def AttemptStart.row (now : Timestamp) (attempt : AttemptStart) (attemptId : Nat) : AttemptRow where
  attemptId := attemptId
  runId := attempt.runId
  epoch := saturateI64 attempt.epoch
  sourceAttemptId := attempt.sourceAttemptId
  operationId := attempt.operationId
  stepId := attempt.stepId
  stepStatus := "started"
  capsuleSchemaVersion := attempt.capsuleSchemaVersion
  capsuleEnvelopeDigest := attempt.capsuleEnvelopeDigest
  stateSnapshot := attempt.stateSnapshot
  startedAt := now

/-- `record_attempt_start`: fails when the identifiers have run out. -/
def recordAttemptStart (now : Timestamp) (attempt : AttemptStart) (attempts : AttemptTable) :
    Except Error (Nat × AttemptTable) :=
  let attemptId := attempts.lastId + 1
  if hfits : attempts.lastId + 1 < 2 ^ 63 then
    .ok (attemptId, attempts.push (attempt.row now attemptId) rfl hfits)
  else .error .databaseFull

def AttemptRow.isOpen (attemptId : Nat) (row : AttemptRow) : Bool :=
  row.attemptId == attemptId && row.finalizedAt.isNone

/-- `append_attempt_outcome`: once for each attempt. -/
def appendAttemptOutcome (now : Timestamp) (attemptId : Nat) (stepStatus : String)
    (stateSnapshot : StateSnapshot) (runnerResult : Option Json)
    (checkpointDigest : Option String) (attempts : AttemptTable) : Except Error AttemptTable :=
  let affected := attempts.table.count (AttemptRow.isOpen attemptId)
  if affected = 1 then
    .ok (attempts.amend (AttemptRow.isOpen attemptId)
      (fun row =>
        { row with
          stepStatus := stepStatus
          stateSnapshot := stateSnapshot
          runnerResult := runnerResult
          checkpointDigest := checkpointDigest
          finalizedAt := some now })
      (fun _ => rfl))
  else .error (.sqliteFailure
    s!"append_attempt_outcome guard failed for attempt {attemptId} (affected {affected})")

def AttemptRow.finalizedFor (runId stepId : String) (row : AttemptRow) : Bool :=
  row.runId == runId && row.stepId == stepId && row.finalizedAt.isSome

/-- `latest_for_step`: the finalized attempt of the step with the largest identifier. -/
def latestForStep (attempts : AttemptTable) (runId stepId : String) : Option AttemptRow :=
  attempts.table.latest? (AttemptRow.finalizedFor runId stepId) AttemptRow.attemptId

end Luther
