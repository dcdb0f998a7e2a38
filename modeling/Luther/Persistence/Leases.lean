/-
The `issue_leases` table and the statements that write it.

A daemon that wants to work on an issue claims it: it inserts a lease for the
issue, or takes over the lease that is there when that lease no longer protects
the issue.  Everything else that happens to a lease moves its status, its owner or
its clocks.  Each function below is one SQL statement, or one transaction, so
several daemons at once are an interleaving of these functions.
-/
import Luther.Lib.Sql
import Luther.Lib.StateMachine
import Luther.Persistence.Time
import Mathlib.Algebra.Group.Nat.Defs

namespace Luther

open Sql

/-- Lifecycle status of an issue lease. -/
inductive LeaseStatus where
  | pending
  | claimed
  | running
  | waitingExternal
  | readyToResume
  | completed
  | failed
  | abandoned
  | cleanupAbandoned
  | stale
  deriving DecidableEq

namespace LeaseStatus

def asStr : LeaseStatus → String
  | pending => "pending"
  | claimed => "claimed"
  | running => "running"
  | waitingExternal => "waiting_external"
  | readyToResume => "ready_to_resume"
  | completed => "completed"
  | failed => "failed"
  | abandoned => "abandoned"
  | cleanupAbandoned => "cleanup_abandoned"
  | stale => "stale"

def fromStr (s : String) : Except String LeaseStatus :=
  match s with
  | "pending" => .ok pending
  | "claimed" => .ok claimed
  | "running" => .ok running
  | "waiting_external" => .ok waitingExternal
  | "ready_to_resume" => .ok readyToResume
  | "completed" => .ok completed
  | "failed" => .ok failed
  | "abandoned" => .ok abandoned
  | "cleanup_abandoned" => .ok cleanupAbandoned
  | "stale" => .ok stale
  | _ => .error s!"Unknown lease status: {s}"

/-- What is written to the status column reads back as the status: a row of the
model holds the status itself. -/
theorem fromStr_asStr (status : LeaseStatus) : fromStr status.asStr = .ok status := by
  cases status <;> rfl

/-- The statuses whose lease a fresh claim may supersede. -/
def reclaimable : List LeaseStatus := [completed, failed, abandoned, stale]

/-- Whether the lease occupies a concurrency slot. -/
def isActive (status : LeaseStatus) : Bool := status == claimed || status == running

/-- Whether the lease keeps other claims off its issue. -/
def blocksDuplicateWork (status : LeaseStatus) : Bool := !reclaimable.contains status

end LeaseStatus

/-- One row of the `leases` table. -/
structure IssueLease where
  leaseId : String
  issueRepo : String
  issueNumber : UInt64
  configId : String
  runId : Option String
  status : LeaseStatus
  claimedAt : Timestamp
  updatedAt : Timestamp
  heartbeatAt : Timestamp
  deriving DecidableEq

namespace IssueLease

def covers (repo : String) (issueNumber : UInt64) (lease : IssueLease) : Bool :=
  lease.issueRepo == repo && lease.issueNumber == issueNumber

/-- `lease_id TEXT PRIMARY KEY` and `UNIQUE(issue_repo, issue_number)`. -/
def Clash (a b : IssueLease) : Prop :=
  a.leaseId = b.leaseId ∨ a.issueRepo = b.issueRepo ∧ a.issueNumber = b.issueNumber

instance : DecidableRel Clash := fun a b =>
  inferInstanceAs (Decidable (a.leaseId = b.leaseId ∨ _ ∧ _))

instance : Std.Symm Clash where
  symm := by
    rintro a b (h | ⟨hr, hn⟩)
    · exact Or.inl h.symm
    · exact Or.inr ⟨hr.symm, hn.symm⟩

end IssueLease

/-- The `issue_leases` table. -/
abbrev LeaseTable := Table IssueLease IssueLease.Clash

/-- `i64::try_from` on an issue number. -/
def issueNumberToSqlI64 (issueNumber : UInt64) : Except Error Int :=
  if issueNumber.toNat < 2 ^ 63 then .ok issueNumber.toNat
  else .error (.toSqlConversionFailure
    s!"issue number {issueNumber} overflows i64 for SQLite binding")

/-- `create_lease`: a plain insertion. -/
def createLease (lease : IssueLease) (db : LeaseTable) : Except Error (Unit × LeaseTable) := do
  let _ ← issueNumberToSqlI64 lease.issueNumber
  match db.insert lease with
  | some db' => .ok ((), db')
  | none => .error .constraintViolation

/-! ### Claiming -/

/-- The columns that the claim's `DO UPDATE SET` takes from the excluded row. -/
def supersede (excluded row : IssueLease) : IssueLease :=
  { row with
    leaseId := excluded.leaseId
    configId := excluded.configId
    runId := excluded.runId
    status := excluded.status
    claimedAt := excluded.claimedAt
    updatedAt := excluded.updatedAt
    heartbeatAt := excluded.heartbeatAt }

/-- `INSERT … ON CONFLICT(issue_repo, issue_number) DO UPDATE … WHERE status IN
(reclaimable) RETURNING lease_id`.  The conflict on the issue is looked at before the
other constraints are; an update that the `WHERE` suppresses returns no row. -/
def upsertClaim (lease : IssueLease) (db : LeaseTable) :
    Except Error (Option String × LeaseTable) :=
  let here := IssueLease.covers lease.issueRepo lease.issueNumber
  match db.find? here with
  | none =>
    match db.insert lease with
    | some db' => .ok (some lease.leaseId, db')
    | none => .error .constraintViolation
  | some row =>
    if LeaseStatus.reclaimable.contains row.status then
      match db.tryUpdate here (supersede lease) with
      | some db' => .ok (some (supersede lease row).leaseId, db')
      | none => .error .constraintViolation
    else .ok (none, db)

def claimedLease (now : Timestamp) (repo : String) (issueNumber : UInt64) (configId : String) :
    IssueLease :=
  let nanos := now.timestampNanosOpt.getD 0
  { leaseId := s!"lease-{repo}-{issueNumber}-{nanos}"
    issueRepo := repo
    issueNumber := issueNumber
    configId := configId
    runId := none
    status := .claimed
    claimedAt := now
    updatedAt := now
    heartbeatAt := now }

/-- `try_claim`: the lease when the claim wins the issue. -/
def tryClaim (now : Timestamp) (repo : String) (issueNumber : UInt64) (configId : String)
    (db : LeaseTable) : Except Error (Option IssueLease × LeaseTable) := do
  let lease := claimedLease now repo issueNumber configId
  let _ ← issueNumberToSqlI64 lease.issueNumber
  let (claimedLeaseId, db') ← upsertClaim lease db
  match claimedLeaseId with
  | some leaseId => if leaseId = lease.leaseId then .ok (some lease, db') else .ok (none, db')
  | none => .ok (none, db')

/-! ### Moving the status -/

/-- `update_lease_status`: by lease id alone, whatever the status is. -/
def updateLeaseStatus (now : Timestamp) (leaseId : String) (status : LeaseStatus)
    (runId : Option String) (db : LeaseTable) : LeaseTable :=
  match runId with
  | some rid =>
    db.update (fun row => row.leaseId == leaseId)
      (fun row => { row with status := status, runId := some rid, updatedAt := now })
      (fun _ _ h => h)
  | none =>
    db.update (fun row => row.leaseId == leaseId)
      (fun row => { row with status := status, updatedAt := now })
      (fun _ _ h => h)

/-- The two conditional transitions, which differ in the guard on the owner only. -/
def conditionalTransition (ownershipGuard : Option String → Bool) (now : Timestamp)
    (leaseId : String) (status : LeaseStatus) (expectedStatuses : List LeaseStatus)
    (newRunId : Option String) (db : LeaseTable) : Except Error (Bool × LeaseTable) :=
  if newRunId = some "" then .error (.toSqlConversionFailure "new run id must not be empty")
  else if expectedStatuses = [] then .ok (false, db)
  else
    let selected (row : IssueLease) : Bool :=
      row.leaseId == leaseId && expectedStatuses.contains row.status && ownershipGuard row.runId
    let changed := db.count selected
    .ok (0 < changed, db.update selected
      (fun row => { row with
        status := status
        runId := newRunId.or row.runId
        updatedAt := now
        heartbeatAt := now })
      (fun _ _ h => h))

/-- `update_lease_status_conditional`: no expected owner, no guard on the owner. -/
def updateLeaseStatusConditional (now : Timestamp) (leaseId : String) (status : LeaseStatus)
    (expectedStatuses : List LeaseStatus) (newRunId expectedRunId : Option String)
    (db : LeaseTable) : Except Error (Bool × LeaseTable) :=
  let ownershipGuard (runId : Option String) : Bool :=
    match expectedRunId with
    | some expected => runId == some expected
    | none => true
  conditionalTransition ownershipGuard now leaseId status expectedStatuses newRunId db

/-- `update_lease_status_conditional_exact_owner`: no expected owner, the owner must be `NULL`. -/
def updateLeaseStatusConditionalExactOwner (now : Timestamp) (leaseId : String)
    (status : LeaseStatus) (expectedStatuses : List LeaseStatus)
    (newRunId expectedRunId : Option String) (db : LeaseTable) :
    Except Error (Bool × LeaseTable) :=
  let ownershipGuard (runId : Option String) : Bool :=
    match expectedRunId with
    | some expected => runId == some expected
    | none => runId == none
  conditionalTransition ownershipGuard now leaseId status expectedStatuses newRunId db

/-- What a conditional transition did, with the durable state it met. -/
inductive ConditionalLeaseStatusOutcome where
  | applied
  | rejected (currentStatus : LeaseStatus) (currentRunId : Option String)
  | missing

/-- `update_lease_status_conditional_outcome`: the transition and the reading of a rejected
state are one immediate transaction. -/
def updateLeaseStatusConditionalOutcome (now : Timestamp) (leaseId : String)
    (status : LeaseStatus) (expectedStatuses : List LeaseStatus)
    (newRunId expectedRunId : Option String) (db : LeaseTable) :
    Except Error (ConditionalLeaseStatusOutcome × LeaseTable) := do
  let (applied, db') ←
    updateLeaseStatusConditional now leaseId status expectedStatuses newRunId expectedRunId db
  if applied then .ok (.applied, db')
  else
    match db'.find? (fun row => row.leaseId == leaseId) with
    | some row => .ok (.rejected row.status row.runId, db')
    | none => .ok (.missing, db')

def touchOwnedRunningLeaseHeartbeat (now : Timestamp) (leaseId expectedRunId : String)
    (db : LeaseTable) : Bool × LeaseTable :=
  let selected (row : IssueLease) : Bool :=
    row.leaseId == leaseId && row.runId == some expectedRunId && row.status == .running
  (db.count selected == 1,
    db.update selected (fun row => { row with heartbeatAt := now, updatedAt := now })
      (fun _ _ h => h))

/-- The two stale markings: what is selected is stale from now on. -/
def markStale (now : Timestamp) (selected : IssueLease → Bool) (db : LeaseTable) :
    Nat × LeaseTable :=
  (db.count selected,
    db.update selected (fun row => { row with status := .stale, updatedAt := now })
      (fun _ _ h => h))

/-- `mark_stale_leases`: active leases whose heartbeat is too old. -/
def markStaleLeases (now : Timestamp) (timeoutSecs : UInt64) (db : LeaseTable) :
    Nat × LeaseTable :=
  let cutoff := now - durationSeconds timeoutSecs
  markStale now (fun row =>
    (row.status == .claimed || row.status == .running) && row.heartbeatAt < cutoff) db

/-- `mark_stale_ready_to_resume_leases`: leases that have been ready for too long. -/
def markStaleReadyToResumeLeases (now : Timestamp) (timeoutSecs : UInt64) (db : LeaseTable) :
    Nat × LeaseTable :=
  let cutoff := now - durationSeconds timeoutSecs
  markStale now (fun row => row.status == .readyToResume && row.updatedAt < cutoff) db

/-- `clear_child_lease_for_relaunch`: a compare-and-swap on the status and owner that the
caller has read, back to a claimed lease without a run. -/
def clearChildLeaseForRelaunch (now : Timestamp) (lease : IssueLease) (db : LeaseTable) :
    Bool × LeaseTable :=
  let selected (row : IssueLease) : Bool :=
    row.leaseId == lease.leaseId && row.status == lease.status && row.runId == lease.runId
  (db.count selected == 1,
    db.update selected (fun row => { row with status := .claimed, runId := none, updatedAt := now })
      (fun _ _ h => h))

/-! ### Reading -/

/-- `get_lease_for_run`: the lease of the run that was updated last. -/
def getLeaseForRun (db : LeaseTable) (runId : String) : Option IssueLease :=
  db.latest? (fun row => row.runId == some runId) IssueLease.updatedAt

def getLeaseForIssue (db : LeaseTable) (repo : String) (issueNumber : UInt64) :
    Except Error (Option IssueLease) := do
  let _ ← issueNumberToSqlI64 issueNumber
  .ok (db.find? (IssueLease.covers repo issueNumber))

/-- `get_leases_for_issues`: the leases of some issues, by issue. -/
def getLeasesForIssues (db : LeaseTable) (repo : String) (issueNumbers : List UInt64) :
    Except Error (UInt64 → Option IssueLease) := do
  let _ ← issueNumbers.mapM issueNumberToSqlI64
  .ok fun issueNumber =>
    if issueNumbers.contains issueNumber then db.find? (IssueLease.covers repo issueNumber)
    else none

/-! ### All the daemons on one table -/

/-- One call of some daemon. -/
inductive LeaseCall where
  | createLease (lease : IssueLease)
  | tryClaim (now : Timestamp) (repo : String) (issueNumber : UInt64) (configId : String)
  | updateLeaseStatus (now : Timestamp) (leaseId : String) (status : LeaseStatus)
      (runId : Option String)
  | updateLeaseStatusConditional (now : Timestamp) (leaseId : String) (status : LeaseStatus)
      (expectedStatuses : List LeaseStatus) (newRunId expectedRunId : Option String)
  | updateLeaseStatusConditionalExactOwner (now : Timestamp) (leaseId : String)
      (status : LeaseStatus) (expectedStatuses : List LeaseStatus)
      (newRunId expectedRunId : Option String)
  | updateLeaseStatusConditionalOutcome (now : Timestamp) (leaseId : String)
      (status : LeaseStatus) (expectedStatuses : List LeaseStatus)
      (newRunId expectedRunId : Option String)
  | touchOwnedRunningLeaseHeartbeat (now : Timestamp) (leaseId expectedRunId : String)
  | markStaleLeases (now : Timestamp) (timeoutSecs : UInt64)
  | markStaleReadyToResumeLeases (now : Timestamp) (timeoutSecs : UInt64)
  | clearChildLeaseForRelaunch (now : Timestamp) (lease : IssueLease)

/-- What a call returned. -/
inductive LeaseReply where
  | unit
  | claim (lease : Option IssueLease)
  | applied (changed : Bool)
  | outcome (outcome : ConditionalLeaseStatusOutcome)
  | marked (rows : Nat)
  | failed (error : Error)

/-- The answer of a fallible call; one that fails leaves the table alone. -/
def replyOf {α : Type} (wrap : α → LeaseReply) (body : LeaseTable → Except Error (α × LeaseTable))
    (db : LeaseTable) : LeaseReply × LeaseTable :=
  match atomically body db with
  | (.ok a, db') => (wrap a, db')
  | (.error e, db') => (.failed e, db')

def leaseStep (db : LeaseTable) : LeaseCall → LeaseReply × LeaseTable
  | .createLease lease => replyOf (fun _ => .unit) (createLease lease) db
  | .tryClaim now repo issueNumber configId =>
    replyOf .claim (tryClaim now repo issueNumber configId) db
  | .updateLeaseStatus now leaseId status runId =>
    (.unit, updateLeaseStatus now leaseId status runId db)
  | .updateLeaseStatusConditional now leaseId status expected newRunId expectedRunId =>
    replyOf .applied
      (updateLeaseStatusConditional now leaseId status expected newRunId expectedRunId) db
  | .updateLeaseStatusConditionalExactOwner now leaseId status expected newRunId expectedRunId =>
    replyOf .applied
      (updateLeaseStatusConditionalExactOwner now leaseId status expected newRunId
        expectedRunId) db
  | .updateLeaseStatusConditionalOutcome now leaseId status expected newRunId expectedRunId =>
    replyOf .outcome
      (updateLeaseStatusConditionalOutcome now leaseId status expected newRunId
        expectedRunId) db
  | .touchOwnedRunningLeaseHeartbeat now leaseId expectedRunId =>
    let r := touchOwnedRunningLeaseHeartbeat now leaseId expectedRunId db
    (.applied r.1, r.2)
  | .markStaleLeases now timeoutSecs =>
    let r := markStaleLeases now timeoutSecs db
    (.marked r.1, r.2)
  | .markStaleReadyToResumeLeases now timeoutSecs =>
    let r := markStaleReadyToResumeLeases now timeoutSecs db
    (.marked r.1, r.2)
  | .clearChildLeaseForRelaunch now lease =>
    let r := clearChildLeaseForRelaunch now lease db
    (.applied r.1, r.2)

/-- The call moves leases that are there: it claims none, and writes no new one. -/
def LeaseCall.isTransition : LeaseCall → Bool
  | createLease _ | tryClaim _ _ _ _ => false
  | _ => true

def leaseMachine : StateMachine LeaseTable LeaseCall LeaseReply where
  start db := db = Table.empty
  step := leaseStep

end Luther

/-
The `claim_metadata` table: what a claim changed on GitHub.

A receipt belongs to a lease.  Its key is the lease's, it can only be written while
there is such a lease, and it follows the lease when a later claim gives it a new id.
-/

namespace Luther

open Sql

/-- What the claim of a lease added to the issue, and whether it is to be taken back. -/
structure ClaimMetadataReceipt where
  leaseId : String
  assignee : String
  label : String
  assignmentAdded : Bool
  labelAdded : Bool
  cleanupPending : Bool

/-- `lease_id TEXT PRIMARY KEY`. -/
def ClaimMetadataReceipt.Clash (a b : ClaimMetadataReceipt) : Prop := a.leaseId = b.leaseId

instance : DecidableRel ClaimMetadataReceipt.Clash := fun a b =>
  inferInstanceAs (Decidable (a.leaseId = b.leaseId))

instance : Std.Symm ClaimMetadataReceipt.Clash := ⟨fun _ _ h => Eq.symm h⟩

/-- The `claim_metadata` table. -/
abbrev ReceiptTable := Table ClaimMetadataReceipt ClaimMetadataReceipt.Clash

/-- The two tables that claims write. -/
structure ClaimDb where
  leases : LeaseTable
  receipts : ReceiptTable

def ClaimMetadataReceipt.isFor (leaseId : String) (receipt : ClaimMetadataReceipt) : Bool :=
  receipt.leaseId == leaseId

/-- `upsert_claim_metadata`: the foreign key is looked at when a row is new. -/
def upsertClaimMetadata (receipt : ClaimMetadataReceipt) (db : ClaimDb) : Except Error ClaimDb :=
  match db.receipts.insert receipt with
  | some receipts =>
    if 0 < db.leases.count (fun lease => lease.leaseId == receipt.leaseId) then
      .ok { db with receipts := receipts }
    else .error (.sqliteFailure "FOREIGN KEY constraint failed")
  | none => .ok
      { db with
        receipts := db.receipts.update (ClaimMetadataReceipt.isFor receipt.leaseId)
          (fun row =>
            { row with
              assignee := receipt.assignee
              label := receipt.label
              assignmentAdded := receipt.assignmentAdded
              labelAdded := receipt.labelAdded
              cleanupPending := receipt.cleanupPending })
          (fun _ _ h => h) }

def getClaimMetadata (db : ClaimDb) (leaseId : String) : Option ClaimMetadataReceipt :=
  db.receipts.find? (ClaimMetadataReceipt.isFor leaseId)

/-- `ON UPDATE CASCADE`: the receipt of a lease that gets another id. -/
def cascadeLeaseId (oldId newId : String) (receipts : ReceiptTable) : Option ReceiptTable :=
  receipts.tryUpdate (ClaimMetadataReceipt.isFor oldId) fun row => { row with leaseId := newId }

/-- `try_claim`, with what it does to the receipts: the lease it takes over gets a new id. -/
def tryClaimCascading (now : Timestamp) (repo : String) (issueNumber : UInt64)
    (configId : String) (db : ClaimDb) : Except Error (Option IssueLease × ClaimDb) := do
  let (claimed, leases) ← tryClaim now repo issueNumber configId db.leases
  match claimed, db.leases.find? (IssueLease.covers repo issueNumber) with
  | some lease, some old => do
    let receipts ← okOr .constraintViolation
      (cascadeLeaseId old.leaseId lease.leaseId db.receipts)
    .ok (some lease, { db with leases := leases, receipts := receipts })
  | _, _ => .ok (claimed, { db with leases := leases })

/-- A receipt that waits for its cleanup, with the issue of its lease. -/
structure PendingClaimCleanup where
  issueRepo : String
  issueNumber : UInt64
  leaseStatus : LeaseStatus
  receipt : ClaimMetadataReceipt

/-- The statuses in which a lease's claim may be taken back. -/
def cleanableStatuses : List LeaseStatus :=
  [.pending, .claimed, .completed, .failed, .abandoned, .stale]

/-- `list_pending_claim_cleanups`: for the leases of a repository, by issue number. -/
def listPendingClaimCleanups (db : ClaimDb) (repo : String) : List PendingClaimCleanup :=
  let leases := db.leases.select fun lease =>
    lease.issueRepo == repo && cleanableStatuses.contains lease.status
  let cleanups := leases.flatMap fun lease =>
    (db.receipts.select fun receipt =>
      receipt.isFor lease.leaseId && receipt.cleanupPending).map fun receipt =>
        { issueRepo := lease.issueRepo
          issueNumber := lease.issueNumber
          leaseStatus := lease.status
          receipt := receipt }
  cleanups.mergeSort fun a b => a.issueNumber ≤ b.issueNumber

end Luther
