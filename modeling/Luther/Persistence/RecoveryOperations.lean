/-
The `recovery_operations` ledger.

Each recovery is one row.  The row's key is computed from the run, the step, the
capsule, the source attempt and the operator's intent; a second, coarser key names
the logical request, so that a request finds the operation that was made for it.
A pending row is claimed under a lease, and leaves the pending status once.
-/
import Luther.Digest
import Luther.Persistence.Attempts

namespace Luther

open Sql

/-- The durable status of a recovery operation. -/
inductive OperationStatus where
  | pending
  | completed
  | refused
  | conflict
  deriving DecidableEq

/-- What a finalized row says about its outcome: a JSON text, kept as the value it is the
text of, or a detail in words. -/
inductive SerializedOutcome where
  | json (value : Json)
  | detail (text : String)

def SerializedOutcome.text : SerializedOutcome → String
  | json value => value.render
  | detail text => text

/-- One row of the ledger. -/
structure RecoveryOperation where
  operationId : String
  runId : String
  /-- The epoch at which the operation was reserved. -/
  epoch : Nat
  stepId : String
  capsuleEnvelopeDigest : String
  sourceAttemptId : Option Nat
  logicalRequestKey : String
  intentDigest : String
  status : OperationStatus := .pending
  ownerPid : Option UInt32
  leaseExpiresAt : Option Timestamp
  executionAttemptId : Option Nat
  serializedOutcome : Option SerializedOutcome := none
  createdAt : Timestamp
  finalizedAt : Option Timestamp := none

namespace RecoveryOperation

/-- `operation_id TEXT PRIMARY KEY` and `logical_request_key TEXT NOT NULL UNIQUE`. -/
def Clash (a b : RecoveryOperation) : Prop :=
  a.operationId = b.operationId ∨ a.logicalRequestKey = b.logicalRequestKey

instance : DecidableRel Clash := fun a b =>
  inferInstanceAs (Decidable (a.operationId = b.operationId ∨ _))

instance : Std.Symm Clash := ⟨fun _ _ h => h.imp Eq.symm Eq.symm⟩

def isOperation (operationId : String) (row : RecoveryOperation) : Bool :=
  row.operationId == operationId

def isRequest (logicalRequestKey : String) (row : RecoveryOperation) : Bool :=
  row.logicalRequestKey == logicalRequestKey

/-- `status = 'pending'`. -/
def isPending (row : RecoveryOperation) : Bool := row.status == .pending

/-- `lease_expires_at IS NULL OR lease_expires_at < now`. -/
def leaseExpired (now : Timestamp) (row : RecoveryOperation) : Bool :=
  match row.leaseExpiresAt with
  | none => true
  | some expiry => expiry < now

end RecoveryOperation

/-- The `recovery_operations` table. -/
abbrev OperationTable := Table RecoveryOperation RecoveryOperation.Clash

/-! ### Keys -/

/-- A source attempt as eight bytes; no source is eight zeros. -/
def sourceBytes (sourceAttemptId : Option Nat) : List UInt8 :=
  match sourceAttemptId with
  | some id => Framing.beBytes 8 id
  | none => List.replicate 8 0

def computeOperationId (sha : Sha256Hex) (runId stepId capsuleEnvelopeDigest : String)
    (sourceAttemptId : Option Nat) (normalizedIntent : String) : String :=
  sha (pushLenPrefixed (asBytes runId)
    ++ pushLenPrefixed (asBytes stepId)
    ++ pushLenPrefixed (asBytes capsuleEnvelopeDigest)
    ++ pushLenPrefixed (sourceBytes sourceAttemptId)
    ++ pushLenPrefixed (asBytes normalizedIntent))

/-- `compute_logical_request_key`: the run, the source attempt and the intent. -/
def computeLogicalRequestKey (sha : Sha256Hex) (runId : String) (sourceAttemptId : Option Nat)
    (normalizedIntent : String) : String :=
  sha (pushLenPrefixed (asBytes runId)
    ++ pushLenPrefixed (sourceBytes sourceAttemptId)
    ++ pushLenPrefixed (asBytes normalizedIntent))

def computeIntentDigest (sha : Sha256Hex) (normalizedIntent : String) : String :=
  sha (asBytes normalizedIntent)

/-! ### Statements -/

def lookupLogicalOperation (operations : OperationTable) (logicalRequestKey : String) :
    Option RecoveryOperation :=
  operations.find? (RecoveryOperation.isRequest logicalRequestKey)

/-- Values required to reserve a new pending recovery operation. -/
structure PendingOperationInsert where
  operationId : String
  runId : String
  epoch : Nat
  stepId : String
  capsuleEnvelopeDigest : String
  sourceAttemptId : Option Nat
  logicalRequestKey : String
  intentDigest : String
  ownerPid : UInt32
  leaseExpiresAt : Timestamp
  executionAttemptId : Nat

def PendingOperationInsert.row (now : Timestamp) (operation : PendingOperationInsert) :
    RecoveryOperation where
  operationId := operation.operationId
  runId := operation.runId
  epoch := saturateI64 operation.epoch
  stepId := operation.stepId
  capsuleEnvelopeDigest := operation.capsuleEnvelopeDigest
  sourceAttemptId := operation.sourceAttemptId
  logicalRequestKey := operation.logicalRequestKey
  intentDigest := operation.intentDigest
  ownerPid := some operation.ownerPid
  leaseExpiresAt := some operation.leaseExpiresAt
  executionAttemptId := some operation.executionAttemptId
  createdAt := now

def insertPending (now : Timestamp) (operation : PendingOperationInsert)
    (operations : OperationTable) : Except Error OperationTable :=
  match operations.insert (operation.row now) with
  | some operations' => .ok operations'
  | none => .error .constraintViolation

/-- The outcome of attempting to adopt an expired-lease pending operation. -/
inductive AdoptOutcome where
  | adopted
  | stillOwned
  deriving DecidableEq

def tryAdoptPending (operationId : String) (newOwnerPid : UInt32)
    (newLeaseExpiresAt now : Timestamp) (operations : OperationTable) :
    AdoptOutcome × OperationTable :=
  let selected (row : RecoveryOperation) : Bool :=
    row.isOperation operationId && row.isPending && row.leaseExpired now
  let operations' := operations.update selected
    (fun row =>
      { row with ownerPid := some newOwnerPid, leaseExpiresAt := some newLeaseExpiresAt })
    (fun _ _ h => h)
  (if operations.count selected = 1 then .adopted else .stillOwned, operations')

/-- The guarded update that takes a row out of the pending status. -/
def finalizeRow (now : Timestamp) (operationId : String) (terminal : OperationStatus)
    (outcome : SerializedOutcome) (guardName : String) (operations : OperationTable) :
    Except Error OperationTable :=
  let selected (row : RecoveryOperation) : Bool := row.isOperation operationId && row.isPending
  let affected := operations.count selected
  if affected = 1 then
    .ok (operations.update selected
      (fun row =>
        { row with
          status := terminal
          serializedOutcome := some outcome
          finalizedAt := some now })
      (fun _ _ h => h))
  else
    .error (.sqliteFailure s!"{guardName} guard failed for {operationId} (affected {affected})")

def attemptIdFromOutcome (outcome : SerializedOutcome) : Except Error Int :=
  match outcome with
  | .json value =>
    match (value.get? "attempt_id").bind Json.asI64? with
    | some attemptId => .ok attemptId
    | none => .error
        (.fromSqlConversionFailure 0 "Text" "serialized_outcome missing integer attempt_id")
  | .detail _ => .error (.fromSqlConversionFailure 0 "Text" "serialized_outcome is not valid JSON")

/-- `finalize_completed`: the attempt id that the outcome encodes. -/
def finalizeCompleted (now : Timestamp) (operationId : String) (outcome : SerializedOutcome)
    (operations : OperationTable) : Except Error (Int × OperationTable) := do
  let operations' ←
    finalizeRow now operationId .completed outcome "finalize_completed" operations
  let attemptId ← attemptIdFromOutcome outcome
  .ok (attemptId, operations')

def finalizeRefused (now : Timestamp) (operationId reason : String)
    (operations : OperationTable) : Except Error OperationTable :=
  finalizeRow now operationId .refused (.detail reason) "refused" operations

def finalizeConflict (now : Timestamp) (operationId detail : String)
    (operations : OperationTable) : Except Error OperationTable :=
  finalizeRow now operationId .conflict (.detail detail) "conflict" operations

end Luther
