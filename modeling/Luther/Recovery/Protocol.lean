/-
Which recovery a step of the capsule's workflow gets.
-/
import Luther.Persistence.Leases
import Luther.Persistence.RecoveryOperations
import Luther.Persistence.RunMetadata
import Luther.Persistence.WaitState
import Luther.Recovery.Capsule
import Luther.Workflow.Schema
import Mathlib.Data.List.Infix

namespace Luther

/-- Why a recovery is refused. -/
inductive RefusalReason where
  | nonRecoverable
  | verificationFailed (detail : String)
  | notAuthorized
  | salvageOnly
  | conflictingOperation
  deriving DecidableEq

/-- Concrete recovery strategy selected from a policy. -/
inductive RecoveryStrategy where
  | continueWorkspace
  | reenter
  | reconcileThenReenter
  | compensateThenRetry
  | refused (reason : RefusalReason)
  deriving DecidableEq

def safeRerunSteps : List String :=
  ["watch_pr_checks", "collect_ci_failures", "collect_coderabbit_feedback",
    "capture_pr_identity", "post_pr_iteration_guard"]

def isSafeRerunStep (stepId : String) : Bool := safeRerunSteps.contains stepId

/-- `policy_for_step`: what the step declares, else what its id is known for. -/
def policyForStep (stepDef : StepDef) (stepId : String) : StepRecoveryPolicy :=
  match stepDef.recoveryPolicy with
  | some declared => declared
  | none => if isSafeRerunStep stepId then .idempotent else .nonRecoverable

def selectStrategy : StepRecoveryPolicy → RecoveryStrategy
  | .pureReenter => .reenter
  | .idempotent => .reenter
  | .reconcileThenReenter => .reconcileThenReenter
  | .continueWorkspace => .continueWorkspace
  | .compensateThenRetry => .compensateThenRetry
  | .nonRecoverable => .refused .nonRecoverable

/-- Errors produced by capsule adapter operations. -/
inductive AdapterError where
  | unsupportedCapsuleVersion (version : UInt32)
  | stepNotFound (stepId : String)
  | deserialization (detail : String)

def AdapterError.text : AdapterError → String
  | unsupportedCapsuleVersion v => s!"unsupported capsule version: {v}"
  | stepNotFound stepId => s!"step not found in capsule: {stepId}"
  | deserialization detail => s!"capsule workflow deserialization error: {detail}"

/-- `adapter_for` and the adapter's `step_def_for`: only version 1 has an adapter. -/
def stepDefFor (decodeWorkflow : List UInt8 → Except String WorkflowType)
    (capsule : ExecutionCapsuleV1) (stepId : String) : Except AdapterError StepDef :=
  if capsule.schemaVersion ≠ 1 then .error (.unsupportedCapsuleVersion capsule.schemaVersion)
  else
    match decodeWorkflow capsule.resolvedWorkflowBytes with
    | .error detail => .error (.deserialization detail)
    | .ok workflow =>
      match workflow.steps.find? (fun step => step.stepId == stepId) with
      | some step => .ok step
      | none => .error (.stepNotFound stepId)

end Luther

/-
The recovery protocol: prepare, reserve, execute, finalize.

Prepare reads: the run's capsule, the step's policy, the latest finalized attempt of
the step, who owns the workspace, and what state the run is in.  Reserve is one
immediate transaction: it looks for an operation that was made for this request, and
either answers with it, takes it over, or moves the epoch and makes a new one.
Execute is somebody else's work, outside every transaction.  Finalize is a second
transaction, which writes the outcome of the attempt and completes the operation.

Between any two of these, other recoverers and the rest of the program may act.
-/

namespace Luther

open Sql

/-! ### The types of the protocol -/

inductive OperatorVerb where
  | resume
  | retry
  | rewind

def normalizeOperatorVerb : OperatorVerb → String
  | .resume => "resume"
  | .retry => "retry"
  | .rewind => "rewind"

/-- What a caller asks for. -/
structure RecoveryRequest where
  runId : String
  stepId : String
  /-- The caller's view of the current epoch. -/
  expectedEpoch : Nat
  operatorVerb : OperatorVerb
  /-- No string is longer than the address space. -/
  runIdFits : runId.utf8ByteSize < 2 ^ 63

/-- The identity of the workspace directory that was verified. -/
structure WorkspaceAuthorization where
  dev : UInt64
  ino : UInt64
  deriving DecidableEq

/-- Who owns a workspace: what its markers say for a run. -/
inductive OwnershipVerdict where
  /-- An exact-owner marker was verified; the descriptor that was verified is kept. -/
  | owned (verified : WorkspaceAuthorization)
  | noEvidence
  | rejected (reason : String)

/-- A workspace, as far as recovery asks: the verdict of its markers for a run. -/
abbrev Workspace := String → OwnershipVerdict

/-- Exact checkpoint identity: the step, and the text `step@timestamp`. -/
structure CheckpointIdentity where
  stepId : String
  timestamp : Timestamp
  deriving DecidableEq

/-- Why the protocol fails. -/
inductive RecoveryError where
  | persistence (detail : String)
  | capsule (detail : String)
  | verification (detail : String)
  | operationConflict (detail : String)
  | workspaceNotOwned
  | authorityChanged
  | workspaceAuthorizationRevoked
  | execution (detail : String)
  deriving DecidableEq

/-- What a recovery goes by, read from the database. -/
structure RecoveryAuthority where
  workspaceAuthorization : Option WorkspaceAuthorization
  capsule : ExecutionCapsuleV1
  sourceAttempt : Option AttemptRow
  policy : StepRecoveryPolicy
  strategy : RecoveryStrategy

/-- Output of the prepare phase. -/
structure PreparedRecovery where
  authority : RecoveryAuthority
  expectedEpoch : Nat
  stepId : String
  operatorVerb : OperatorVerb
  operationId : String
  logicalRequestKey : String
  intentDigest : String
  runStatus : RunStatus
  currentStep : Option String
  livePid : Option UInt32
  checkpointIdentity : Option CheckpointIdentity
  waitState : Option WaitStateRecord
  lease : Option IssueLease
  /-- The descriptor that was verified. -/
  verifiedWorkspace : Option WorkspaceAuthorization

/-- `run_id_of`: the capsule's. -/
def PreparedRecovery.runId (prepared : PreparedRecovery) : String :=
  prepared.authority.capsule.runId

/-- `source_attempt_id_of`. -/
def PreparedRecovery.sourceAttemptId (prepared : PreparedRecovery) : Option Nat :=
  prepared.authority.sourceAttempt.map AttemptRow.attemptId

/-- Result of recovery dispatch. -/
inductive RecoveryOutcome where
  | recovered (resumedAtStep : String) (attemptId : Nat) (operationId : String)
  | alreadyApplied (priorOutcome : String) (attemptId : Nat) (operationId : String)
  | refused (reason : RefusalReason)
  | staleEpoch (persisted expected : Nat)
  | conflict (detail : String)
  deriving DecidableEq

/-- Reserved state produced by reserve, consumed by execute and finalize. -/
structure ReservedRecovery where
  operationId : String
  attemptId : Nat
  epoch : Nat
  deriving DecidableEq

/-- Whether the caller is to go on. -/
inductive ReserveOutcome where
  | proceed (reserved : ReservedRecovery)
  | shortCircuit (outcome : RecoveryOutcome)

/-- The tables that the rest of the program writes and recovery reads. -/
structure AuthorityTables where
  runs : RunTable
  checkpoints : CheckpointTable
  waitStates : WaitStateTable
  leases : LeaseTable
  capsules : CapsuleTable

/-- The tables that recovery writes. -/
structure RecoveryDb where
  epochs : EpochTable
  operations : OperationTable
  attempts : AttemptTable

/-- `map_persist`: the error of a statement, behind the context it failed in. -/
def mapPersist {α : Type} (context : String) (x : Except Error α) : Except RecoveryError α :=
  x.mapError fun e => .persistence s!"{context}: {e.text}"

/-! ### Prepare -/

/-- `anchor_workspace_ownership`: only work in place needs an owned workspace. -/
def anchorWorkspaceOwnership (workspace : Workspace) (runId : String)
    (strategy : RecoveryStrategy) :
    Except RecoveryError (Option WorkspaceAuthorization × Option WorkspaceAuthorization) :=
  match workspace runId with
  | .owned verified => .ok (some verified, some verified)
  | .noEvidence =>
    if strategy = .continueWorkspace then
      .error (.verification
        "workspace ownership evidence is missing for ContinueWorkspace")
    else .ok (none, none)
  | .rejected reason => .error (.verification reason)

def checkpointIdentityOf (checkpoint : Checkpoint) : CheckpointIdentity :=
  { stepId := checkpoint.stepId, timestamp := checkpoint.timestamp }

/-- `issue_lease_number`: an issue number, when there is one that is not negative. -/
def issueLeaseNumber (metadata : RunMetadata) : Option UInt64 :=
  match metadata.issueNumber with
  | some number => if 0 ≤ number ∧ number < 2 ^ 64 then some (UInt64.ofNat number.toNat) else none
  | none => none

/-- `load_issue_lease`: by the run, else by the issue; nothing without an issue. -/
def loadIssueLease (leases : LeaseTable) (metadata : RunMetadata) : Option IssueLease := do
  let repo ← metadata.repository
  let issueNumber ← issueLeaseNumber metadata
  match getLeaseForRun leases metadata.runId with
  | some lease => some lease
  | none =>
    match getLeaseForIssue leases repo issueNumber with
    | .ok lease => lease
    | .error _ => none

/-- The keys a request is bound to. -/
structure RecoveryBindings where
  operationId : String
  logicalRequestKey : String
  intentDigest : String

def computeBindings (sha : Sha256Hex) (request : RecoveryRequest) (capsule : ExecutionCapsuleV1)
    (sourceAttempt : Option AttemptRow) : RecoveryBindings :=
  let normalizedIntent := normalizeOperatorVerb request.operatorVerb
  let sourceAttemptId := sourceAttempt.map AttemptRow.attemptId
  { operationId := computeOperationId sha request.runId request.stepId capsule.envelopeDigest
      sourceAttemptId normalizedIntent
    logicalRequestKey := computeLogicalRequestKey sha request.runId sourceAttemptId
      normalizedIntent
    intentDigest := computeIntentDigest sha normalizedIntent }

/-- `prepare::run`. -/
def prepare (sha : Sha256Hex) (decodeWorkflow : List UInt8 → Except String WorkflowType)
    (workspace : Workspace) (request : RecoveryRequest) (world : AuthorityTables)
    (attempts : AttemptTable) : Except RecoveryError PreparedRecovery := do
  let capsule ← mapPersist "load capsule" (loadCapsuleV1 sha world.capsules request.runId)
  let _ ← (verifyEnvelopeDigest sha capsule).mapError fun e => .capsule e.text
  let stepDef ← (stepDefFor decodeWorkflow capsule request.stepId).mapError fun e =>
    .capsule e.text
  let policy := policyForStep stepDef request.stepId
  let strategy := selectStrategy policy
  let sourceAttempt := latestForStep attempts request.runId request.stepId
  let (verifiedWorkspace, workspaceAuthorization) ←
    anchorWorkspaceOwnership workspace request.runId strategy
  let bindings := computeBindings sha request capsule sourceAttempt
  let metadata ← okOr (.persistence s!"run not found: {request.runId}")
    (getRun world.runs request.runId)
  .ok
    { authority := { workspaceAuthorization, capsule, sourceAttempt, policy, strategy }
      expectedEpoch := request.expectedEpoch
      stepId := request.stepId
      operatorVerb := request.operatorVerb
      operationId := bindings.operationId
      logicalRequestKey := bindings.logicalRequestKey
      intentDigest := bindings.intentDigest
      runStatus := metadata.status
      currentStep := metadata.currentStep
      livePid := metadata.processPid
      checkpointIdentity :=
        (loadCheckpoint world.checkpoints request.runId).map checkpointIdentityOf
      waitState := getWaitState world.waitStates request.runId
      lease := loadIssueLease world.leases metadata
      verifiedWorkspace }

/-! ### Reserve -/

/-- `RECOVERY_LEASE_MINUTES`, in nanoseconds. -/
def recoveryLease : Int := 5 * 60 * 1000000000

/-- Resolution of an existing operation for the logical request. -/
inductive ExistingResolution where
  | notFound
  | shortCircuit (outcome : RecoveryOutcome)
  | adoptedPending (reserved : ReservedRecovery)

/-- The outcome column as the text it holds, empty when it is `NULL`. -/
def RecoveryOperation.outcomeText (row : RecoveryOperation) : String :=
  (row.serializedOutcome.map SerializedOutcome.text).getD ""

def resolveCompleted (prepared : PreparedRecovery) (existing : RecoveryOperation) :
    Except RecoveryError ExistingResolution :=
  if existing.capsuleEnvelopeDigest ≠ prepared.authority.capsule.envelopeDigest then
    .ok (.shortCircuit (.refused .conflictingOperation))
  else
    match existing.executionAttemptId with
    | none => .error (.persistence
        s!"completed operation '{existing.operationId}' has no execution_attempt_id (ledger corruption)")
    | some attemptId =>
      .ok (.shortCircuit
        (.alreadyApplied existing.outcomeText attemptId existing.operationId))

def occursIn (needle text : String) : Bool := decide (needle.toList <:+: text.toList)

/-- `persisted_refusal_reason`: the closest reason to a refusal in words. -/
def persistedRefusalReason (detail : String) : RefusalReason :=
  if occursIn "not recoverable" detail then .nonRecoverable
  else if occursIn "not authorized" detail then .notAuthorized
  else if occursIn "salvage" detail then .salvageOnly
  else if occursIn "conflicting" detail then .conflictingOperation
  else .verificationFailed detail

/-- `resolve_refused_or_conflict`: a terminal decision is replayed. -/
def resolveRefusedOrConflict (prepared : PreparedRecovery) (existing : RecoveryOperation) :
    ExistingResolution :=
  if existing.capsuleEnvelopeDigest ≠ prepared.authority.capsule.envelopeDigest then
    .shortCircuit (.refused .conflictingOperation)
  else
    match existing.status with
    | .refused => .shortCircuit (.refused (persistedRefusalReason existing.outcomeText))
    | .conflict => .shortCircuit (.conflict existing.outcomeText)
    | _ => .shortCircuit
        (.conflict "unexpected terminal status in resolve_refused_or_conflict")

def resolveAdoptOutcome (existing : RecoveryOperation) (adopt : AdoptOutcome) :
    Except RecoveryError ExistingResolution :=
  match existing.executionAttemptId with
  | none => .error (.persistence
      s!"pending operation '{existing.operationId}' has no execution_attempt_id (ledger corruption)")
  | some attemptId =>
    match adopt with
    | .adopted => .ok (.adoptedPending
        { operationId := existing.operationId
          attemptId := attemptId
          epoch := existing.epoch })
    | .stillOwned => .ok (.shortCircuit
        (.alreadyApplied existing.outcomeText attemptId existing.operationId))

/-- `resolve_pending`: adopt if the lease has expired, else do not duplicate. -/
def resolvePending (now : Timestamp) (pid : UInt32) (prepared : PreparedRecovery)
    (existing : RecoveryOperation) (operations : OperationTable) :
    Except RecoveryError (ExistingResolution × OperationTable) :=
  if existing.capsuleEnvelopeDigest ≠ prepared.authority.capsule.envelopeDigest then
    .ok (.shortCircuit (.refused .conflictingOperation), operations)
  else do
    let (adopt, operations') :=
      tryAdoptPending existing.operationId pid (now + recoveryLease) now operations
    let resolution ← resolveAdoptOutcome existing adopt
    .ok (resolution, operations')

def resolveExistingOperation (now : Timestamp) (pid : UInt32) (prepared : PreparedRecovery)
    (operations : OperationTable) : Except RecoveryError (ExistingResolution × OperationTable) :=
  match lookupLogicalOperation operations prepared.logicalRequestKey with
  | none => .ok (.notFound, operations)
  | some existing =>
    match existing.status with
    | .completed => do
      let resolution ← resolveCompleted prepared existing
      .ok (resolution, operations)
    | .refused | .conflict => .ok (resolveRefusedOrConflict prepared existing, operations)
    | .pending => resolvePending now pid prepared existing operations

def revalidateEpoch (epochs : EpochTable) (prepared : PreparedRecovery) :
    Except RecoveryError (Option RecoveryOutcome) := do
  let persisted ← mapPersist "read epoch" (readEpoch epochs prepared.runId)
  if persisted ≠ prepared.expectedEpoch then
    .ok (some (.staleEpoch persisted prepared.expectedEpoch))
  else .ok none

/-- `revalidate_authority_snapshot`: every captured field, for exact equality. -/
def revalidateAuthoritySnapshot (world : AuthorityTables) (prepared : PreparedRecovery) :
    Except RecoveryError Unit :=
  match getRun world.runs prepared.runId with
  | none => .error (.persistence s!"run not found in reserve: {prepared.runId}")
  | some current =>
    if current.status ≠ prepared.runStatus then .error .authorityChanged
    else if current.currentStep ≠ prepared.currentStep then .error .authorityChanged
    else if current.processPid ≠ prepared.livePid then .error .authorityChanged
    else if (loadCheckpoint world.checkpoints prepared.runId).map checkpointIdentityOf
        ≠ prepared.checkpointIdentity then .error .authorityChanged
    else if getWaitState world.waitStates prepared.runId ≠ prepared.waitState then
      .error .authorityChanged
    else if loadIssueLease world.leases current ≠ prepared.lease then .error .authorityChanged
    else .ok ()

/-- `revalidate_continue_workspace_authorization`: the descriptor that was kept, and the
marker once more. -/
def revalidateContinueWorkspaceAuthorization (workspace : Workspace)
    (prepared : PreparedRecovery) : Except RecoveryError Unit :=
  if prepared.authority.strategy ≠ .continueWorkspace then .ok ()
  else
    match prepared.verifiedWorkspace with
    | none => .error .workspaceAuthorizationRevoked
    | some verified =>
      if some verified ≠ prepared.authority.workspaceAuthorization then
        .error .workspaceAuthorizationRevoked
      else
        match workspace prepared.runId with
        | .owned current =>
          if some current = prepared.authority.workspaceAuthorization then .ok ()
          else .error .workspaceAuthorizationRevoked
        | .noEvidence | .rejected _ => .error .workspaceAuthorizationRevoked

def checkStrategyRefusal (prepared : PreparedRecovery) : Option RecoveryOutcome :=
  match prepared.authority.strategy with
  | .refused reason => some (.refused reason)
  | _ => none

/-- The checks that stand before every execution: nothing when all of them pass. -/
def revalidate (workspace : Workspace) (world : AuthorityTables) (epochs : EpochTable)
    (prepared : PreparedRecovery) : Except RecoveryError (Option RecoveryOutcome) := do
  match ← revalidateEpoch epochs prepared with
  | some outcome => .ok (some outcome)
  | none => do
    let _ ← revalidateAuthoritySnapshot world prepared
    let _ ← revalidateContinueWorkspaceAuthorization workspace prepared
    .ok (checkStrategyRefusal prepared)

/-- What `allocate_attempt` starts. -/
def attemptStart (prepared : PreparedRecovery) (newEpoch : Nat) : AttemptStart where
  runId := prepared.runId
  epoch := newEpoch
  sourceAttemptId := prepared.sourceAttemptId
  operationId := prepared.operationId
  stepId := prepared.stepId
  capsuleSchemaVersion := prepared.authority.capsule.schemaVersion
  capsuleEnvelopeDigest := prepared.authority.capsule.envelopeDigest
  stateSnapshot := {}

def allocateAttempt (now : Timestamp) (prepared : PreparedRecovery) (newEpoch : Nat)
    (attempts : AttemptTable) : Except RecoveryError (Nat × AttemptTable) :=
  mapPersist "record attempt start"
    (recordAttemptStart now (attemptStart prepared newEpoch) attempts)

/-- What `insert_pending_operation` inserts. -/
def pendingInsert (now : Timestamp) (pid : UInt32) (prepared : PreparedRecovery) (newEpoch : Nat)
    (attemptId : Nat) : PendingOperationInsert where
  operationId := prepared.operationId
  runId := prepared.runId
  epoch := newEpoch
  stepId := prepared.stepId
  capsuleEnvelopeDigest := prepared.authority.capsule.envelopeDigest
  sourceAttemptId := prepared.sourceAttemptId
  logicalRequestKey := prepared.logicalRequestKey
  intentDigest := prepared.intentDigest
  ownerPid := pid
  leaseExpiresAt := now + recoveryLease
  executionAttemptId := attemptId

def insertPendingOperation (now : Timestamp) (pid : UInt32) (prepared : PreparedRecovery)
    (newEpoch : Nat) (attemptId : Nat) (operations : OperationTable) :
    Except RecoveryError OperationTable :=
  mapPersist "insert pending"
    (insertPending now (pendingInsert now pid prepared newEpoch attemptId) operations)

/-- A fresh reservation: one compare-and-swap, one attempt, one pending operation. -/
def reserveFresh (now : Timestamp) (pid : UInt32) (prepared : PreparedRecovery)
    (db : RecoveryDb) : Except RecoveryError (ReserveOutcome × RecoveryDb) := do
  let (cas, epochs) ←
    mapPersist "CAS epoch" (casAdvanceEpoch prepared.runId prepared.expectedEpoch db.epochs)
  match cas with
  | .stale persisted _ => .ok (.shortCircuit (.staleEpoch persisted prepared.expectedEpoch), db)
  | .advanced _ newEpoch => do
    let (attemptId, attempts) ← allocateAttempt now prepared newEpoch db.attempts
    let operations ←
      insertPendingOperation now pid prepared newEpoch attemptId db.operations
    .ok (.proceed
        { operationId := prepared.operationId, attemptId := attemptId, epoch := newEpoch },
      { epochs := epochs, operations := operations, attempts := attempts })

/-- What reserve does with the resolution.  A path that does not commit hands back the tables
it was given. -/
def reserveResolved (now : Timestamp) (pid : UInt32) (workspace : Workspace)
    (world : AuthorityTables) (prepared : PreparedRecovery) (db : RecoveryDb)
    (existing : ExistingResolution) (operations : OperationTable) :
    Except RecoveryError (ReserveOutcome × RecoveryDb) :=
  match existing with
  | .shortCircuit outcome => .ok (.shortCircuit outcome, db)
  | .notFound => do
    match ← revalidate workspace world db.epochs prepared with
    | some outcome => .ok (.shortCircuit outcome, db)
    | none => reserveFresh now pid prepared db
  | .adoptedPending reserved => do
    match ← revalidate workspace world db.epochs prepared with
    | some outcome => .ok (.shortCircuit outcome, db)
    | none => .ok (.proceed reserved, { db with operations := operations })

def reserveTx (now : Timestamp) (pid : UInt32) (workspace : Workspace) (world : AuthorityTables)
    (prepared : PreparedRecovery) (db : RecoveryDb) :
    Except RecoveryError (ReserveOutcome × RecoveryDb) := do
  let resolved ← resolveExistingOperation now pid prepared db.operations
  reserveResolved now pid workspace world prepared db resolved.1 resolved.2

/-- `reserve::run`. -/
def reserve (now : Timestamp) (pid : UInt32) (workspace : Workspace) (world : AuthorityTables)
    (prepared : PreparedRecovery) (db : RecoveryDb) :
    Except RecoveryError ReserveOutcome × RecoveryDb :=
  atomically (reserveTx now pid workspace world prepared) db

/-! ### Execute and finalize -/

/-- Typed input of an executor. -/
structure RecoveryExecutionInvocation where
  runId : String
  stepId : String
  operationId : String
  attemptId : Nat
  epoch : Nat
  strategy : RecoveryStrategy
  capsule : ExecutionCapsuleV1

/-- Typed output of an executor. -/
structure RecoveryExecutionResult where
  stepStatus : String
  stateSnapshot : StateSnapshot
  runnerResult : Option Json

/-- Why the execution did not succeed. -/
inductive RecoveryExecutionError where
  | unavailable (detail : String)
  | failed (detail : String)

def RecoveryExecutionError.text : RecoveryExecutionError → String
  | unavailable detail => s!"recovery executor unavailable: {detail}"
  | failed detail => s!"recovery execution failed: {detail}"

/-- An injected executor: it runs the step, and writes what the step writes. -/
abbrev RecoveryExecutor :=
  RecoveryExecutionInvocation → AuthorityTables →
    Except RecoveryExecutionError RecoveryExecutionResult × AuthorityTables

/-- What `execute::run` hands to the executor. -/
def executionInvocation (prepared : PreparedRecovery) (reserved : ReservedRecovery) :
    RecoveryExecutionInvocation where
  runId := prepared.runId
  stepId := prepared.stepId
  operationId := reserved.operationId
  attemptId := reserved.attemptId
  epoch := reserved.epoch
  strategy := prepared.authority.strategy
  capsule := prepared.authority.capsule

def serializedOutcome (reserved : ReservedRecovery) (result : RecoveryExecutionResult) :
    SerializedOutcome :=
  .json (.obj [("attempt_id", .num reserved.attemptId), ("status", .str "completed"),
    ("step_status", .str result.stepStatus)])

def finalizeTx (now : Timestamp) (prepared : PreparedRecovery) (reserved : ReservedRecovery)
    (result : RecoveryExecutionResult) (db : RecoveryDb) :
    Except RecoveryError (RecoveryOutcome × RecoveryDb) := do
  let attempts ← mapPersist "append attempt outcome"
    (appendAttemptOutcome now reserved.attemptId result.stepStatus result.stateSnapshot
      result.runnerResult none db.attempts)
  let (_, operations) ← mapPersist "finalize completed"
    (finalizeCompleted now reserved.operationId (serializedOutcome reserved result) db.operations)
  .ok (.recovered prepared.stepId reserved.attemptId reserved.operationId,
    { db with operations := operations, attempts := attempts })

/-- `finalize::run`. -/
def finalize (now : Timestamp) (prepared : PreparedRecovery) (reserved : ReservedRecovery)
    (result : RecoveryExecutionResult) (db : RecoveryDb) :
    Except RecoveryError RecoveryOutcome × RecoveryDb :=
  atomically (finalizeTx now prepared reserved result) db

/-! ### One recovery from end to end -/

/-- A recovery call: its answer, the executions it asked for, and the tables it left. -/
structure RecoveryReport where
  answer : Except RecoveryError RecoveryOutcome
  invocations : List RecoveryExecutionInvocation
  world : AuthorityTables
  db : RecoveryDb

/-- The refusals that an error of a phase is reported as. -/
def refusalOf : RecoveryError → Except RecoveryError RecoveryOutcome
  | .verification detail => .ok (.refused (.verificationFailed detail))
  | .workspaceNotOwned => .ok (.refused .notAuthorized)
  | e => .error e

/-- As `refusalOf`, where reserve may also find the workspace revoked. -/
def reserveRefusalOf : RecoveryError → Except RecoveryError RecoveryOutcome
  | .workspaceAuthorizationRevoked => .ok (.refused .notAuthorized)
  | e => refusalOf e

/-- `recover_with_executor`: no observer acts between prepare and reserve. -/
def recover (sha : Sha256Hex) (decodeWorkflow : List UInt8 → Except String WorkflowType)
    (reservedAt finalizedAt : Timestamp) (pid : UInt32) (workspace : Workspace)
    (executor : RecoveryExecutor) (request : RecoveryRequest) (world : AuthorityTables)
    (db : RecoveryDb) : RecoveryReport :=
  match prepare sha decodeWorkflow workspace request world db.attempts with
  | .error e => { answer := refusalOf e, invocations := [], world := world, db := db }
  | .ok prepared =>
    match reserve reservedAt pid workspace world prepared db with
    | (.error e, db') =>
      { answer := reserveRefusalOf e, invocations := [], world := world, db := db' }
    | (.ok (.shortCircuit outcome), db') =>
      { answer := .ok outcome, invocations := [], world := world, db := db' }
    | (.ok (.proceed reserved), db') =>
      let invocation := executionInvocation prepared reserved
      match executor invocation world with
      | (.error e, world') =>
        { answer := .error (.execution e.text), invocations := [invocation],
          world := world', db := db' }
      | (.ok result, world') =>
        let finalized := finalize finalizedAt prepared reserved result db'
        { answer := finalized.1, invocations := [invocation], world := world',
          db := finalized.2 }

/-! ### All recoverers on one database -/

/-- The database, and every recovery in flight: what was prepared and what was reserved.
Nothing is taken off the lists: a recoverer that crashes is one that is not heard of again. -/
structure RecoverySystem where
  world : AuthorityTables
  db : RecoveryDb
  prepared : List PreparedRecovery
  reserved : List (PreparedRecovery × ReservedRecovery)

/-- One atomic action of some recoverer, or of somebody else. -/
inductive RecoveryCall where
  /-- Anything that happens to the tables recovery only reads. -/
  | others (world : AuthorityTables)
  | prepare (workspace : Workspace) (request : RecoveryRequest)
  /-- Reserve of the recovery that was prepared as number `i`. -/
  | reserve (now : Timestamp) (pid : UInt32) (workspace : Workspace) (i : Nat)
  /-- Finalize of the recovery that was reserved as number `i`, with what it executed. -/
  | finalize (now : Timestamp) (i : Nat) (result : RecoveryExecutionResult)
  /-- The ledger's other two terminal transitions. -/
  | finalizeRefused (now : Timestamp) (operationId reason : String)
  | finalizeConflict (now : Timestamp) (operationId detail : String)

/-- What an action returned. -/
inductive RecoveryAnswer where
  | nothing
  | prepared (result : Except RecoveryError PreparedRecovery)
  | reserved (prepared : PreparedRecovery) (result : Except RecoveryError ReserveOutcome)
  | finalized (reserved : ReservedRecovery) (result : Except RecoveryError RecoveryOutcome)
  | ledger (result : Except Error Unit)

/-- A terminal transition of the ledger outside the protocol. -/
def ledgerStep (body : OperationTable → Except Error OperationTable) (s : RecoverySystem) :
    RecoveryAnswer × RecoverySystem :=
  match body s.db.operations with
  | .ok operations => (.ledger (.ok ()), { s with db := { s.db with operations := operations } })
  | .error e => (.ledger (.error e), s)

def recoveryStep (sha : Sha256Hex) (decodeWorkflow : List UInt8 → Except String WorkflowType)
    (s : RecoverySystem) : RecoveryCall → RecoveryAnswer × RecoverySystem
  | .others world => (.nothing, { s with world := world })
  | .prepare workspace request =>
    match prepare sha decodeWorkflow workspace request s.world s.db.attempts with
    | .ok p => (.prepared (.ok p), { s with prepared := s.prepared ++ [p] })
    | .error e => (.prepared (.error e), s)
  | .reserve now pid workspace i =>
    match s.prepared[i]? with
    | none => (.nothing, s)
    | some p =>
      match reserve now pid workspace s.world p s.db with
      | (.ok (.proceed r), db') =>
        (.reserved p (.ok (.proceed r)),
          { s with db := db', reserved := s.reserved ++ [(p, r)] })
      | (result, db') => (.reserved p result, { s with db := db' })
  | .finalize now i result =>
    match s.reserved[i]? with
    | none => (.nothing, s)
    | some (p, r) =>
      let finalized := finalize now p r result s.db
      (.finalized r finalized.1, { s with db := finalized.2 })
  | .finalizeRefused now operationId reason => ledgerStep (finalizeRefused now operationId reason) s
  | .finalizeConflict now operationId detail =>
    ledgerStep (finalizeConflict now operationId detail) s

/-- Any number of recoverers, on tables that no recovery has written yet. -/
def recoveryMachine (sha : Sha256Hex)
    (decodeWorkflow : List UInt8 → Except String WorkflowType) :
    StateMachine RecoverySystem RecoveryCall RecoveryAnswer where
  start s :=
    s.db.epochs = Table.empty ∧ s.db.operations = Table.empty
      ∧ s.db.attempts = AttemptTable.empty ∧ s.prepared = [] ∧ s.reserved = []
  step := recoveryStep sha decodeWorkflow

end Luther

/-
Salvage: what becomes of a run that no capsule speaks for.

A run is classified by the capsule that is stored for it.  One that has a valid capsule is
recovered by the protocol; one that has none is refused, and the refusal is put on record in a
lineage that is only ever appended to.
-/

namespace Luther

open Sql

/-- One row of `salvage_lineage`. -/
structure SalvageRecord where
  salvageId : Nat
  runId : String
  recordedAt : Timestamp
  detail : Option String

/-- The `salvage_lineage` table: its rows, in the order of their identifiers, and the last
identifier that was given out. -/
structure SalvageLineage where
  records : List SalvageRecord
  lastId : Nat

/-- Classification of a run for recovery purposes. -/
inductive RunClassification where
  | capsuleBacked (capsule : ExecutionCapsuleV1)
  | salvageOnly (runId : String)

/-- Errors produced by the salvage subsystem. -/
inductive SalvageError where
  | persistence (text : String)
  | unexpectedCapsuleBackedRun

def classifyRun (sha : Sha256Hex) (capsules : CapsuleTable) (runId : String) :
    Except SalvageError RunClassification :=
  match loadCapsuleV1 sha capsules runId with
  | .ok capsule =>
    match verifyEnvelopeDigest sha capsule with
    | .ok () => .ok (.capsuleBacked capsule)
    | .error _ => .ok (.salvageOnly runId)
  | .error .queryReturnedNoRows => .ok (.salvageOnly runId)
  | .error error => .error (.persistence error.text)

/-- The `detail` of every record. -/
def salvageDetail : String := "salvage-only run: no valid pre-execution V1 capsule"

/-- The lineage has an identifier left. -/
def SalvageLineage.HasRoom (lineage : SalvageLineage) : Prop := lineage.lastId + 1 < 2 ^ 63

instance (lineage : SalvageLineage) : Decidable lineage.HasRoom :=
  inferInstanceAs (Decidable (_ < _))

def SalvageLineage.next (now : Timestamp) (runId : String) (lineage : SalvageLineage) :
    SalvageRecord :=
  { salvageId := lineage.lastId + 1, runId := runId, recordedAt := now
    detail := some salvageDetail }

/-- `append_salvage_record`: a plain insertion under the next identifier. -/
def appendSalvageRecord (now : Timestamp) (runId : String) (lineage : SalvageLineage) :
    Except SalvageError (Nat × SalvageLineage) :=
  if lineage.HasRoom then
    .ok (lineage.lastId + 1,
      { records := lineage.records ++ [lineage.next now runId], lastId := lineage.lastId + 1 })
  else .error (.persistence Error.databaseFull.text)

/-- `salvage_recover`: the answer, and the lineage after it. -/
def salvageRecover (sha : Sha256Hex) (capsules : CapsuleTable) (now : Timestamp) (runId : String)
    (lineage : SalvageLineage) : Except SalvageError RecoveryOutcome × SalvageLineage :=
  match classifyRun sha capsules runId with
  | .error error => (.error error, lineage)
  | .ok (.capsuleBacked _) => (.error .unexpectedCapsuleBackedRun, lineage)
  | .ok (.salvageOnly runId) =>
    match appendSalvageRecord now runId lineage with
    | .error error => (.error error, lineage)
    | .ok (_, lineage') => (.ok (.refused .salvageOnly), lineage')

end Luther
