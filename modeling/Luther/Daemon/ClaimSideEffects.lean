/-
What a claim adds to an issue on GitHub, and who takes it back.

Between the claim of a lease and the launch, the daemon assigns the issue and labels it,
and writes down which of the two it has added.  When the launch fails, the daemon takes
back what it added; when it did not get round to it, a later pass of some daemon does, from
the receipt.  GitHub is what it answers, and whether a change was made: an answer can be
lost.
-/
import Luther.Lib.Text
import Luther.Daemon.Claim

namespace Luther

open Sql

/-! ### GitHub -/

/-- An issue, as far as claims read it. -/
structure GithubIssue where
  number : UInt64
  labels : List String
  assignees : List String

/-- A change that is asked of GitHub. -/
structure RemoteChange where
  made : Bool
  answer : Except String Unit

/-- The change was made: the answer says so, or it was lost. -/
def RemoteChange.happened (change : RemoteChange) : Bool := change.made || change.answer.isOk

/-- What GitHub answers in one step of a daemon. -/
structure RemoteAnswers where
  /-- `get_issue`. -/
  seen : Except String (Option GithubIssue)
  addAssignee : RemoteChange
  addLabel : RemoteChange
  /-- `get_issue`, after the changes. -/
  verified : Except String (Option GithubIssue)
  removeLabel : Except String Unit
  removeAssignee : Except String Unit

/-- What a claim can add to an issue. -/
inductive AdditionKind where
  | assignee
  | label
  deriving DecidableEq

/-- Something that a claim added to an issue. -/
structure Addition where
  issueRepo : String
  issueNumber : UInt64
  kind : AdditionKind
  value : String
  deriving DecidableEq

def ClaimMetadataReceipt.additions (repo : String) (issueNumber : UInt64)
    (receipt : ClaimMetadataReceipt) : List Addition :=
  (if receipt.assignmentAdded then [⟨repo, issueNumber, .assignee, receipt.assignee⟩] else [])
    ++ (if receipt.labelAdded then [⟨repo, issueNumber, .label, receipt.label⟩] else [])

/-! ### The remote half of a claim -/

/-- What the claim has put on the issue. -/
structure ClaimOwnership where
  assignmentAdded : Bool := false
  labelAdded : Bool := false

/-- The assignee and the label of a config that claims on GitHub. -/
def DiscoveryConfig.remoteClaim (cfg : DiscoveryConfig) : Option (String × String) :=
  match cfg.repo, cfg.claimAssignee, cfg.claimLabel with
  | some _, some assignee, some label => some (assignee, label)
  | _, _, _ => none

def inspectRemoteClaim (seen : Except String (Option GithubIssue)) (cfg : DiscoveryConfig)
    (issue : GithubIssue) : Except String ClaimOwnership :=
  match cfg.remoteClaim with
  | none => .ok {}
  | some (assignee, label) => do
    let current := (← seen).getD issue
    .ok
      { assignmentAdded := !current.assignees.any (eqIgnoreAsciiCase · assignee)
        labelAdded := !current.labels.any (eqIgnoreAsciiCase · label) }

section

variable (remote : RemoteAnswers)

def applyRemoteClaim (cfg : DiscoveryConfig) (ownership : ClaimOwnership) : Except String Unit :=
  match cfg.remoteClaim with
  | none => .ok ()
  | some _ => do
    if ownership.assignmentAdded then remote.addAssignee.answer
    if ownership.labelAdded then remote.addLabel.answer

/-- What `apply_remote_claim` adds: the label is asked for when the assignment went well. -/
def appliedAdditions (cfg : DiscoveryConfig) (repo : String)
    (issueNumber : UInt64) (ownership : ClaimOwnership) : List Addition :=
  match cfg.remoteClaim with
  | none => []
  | some (assignee, label) =>
    (if ownership.assignmentAdded && remote.addAssignee.happened then
      [⟨repo, issueNumber, .assignee, assignee⟩] else [])
    ++ (if (!ownership.assignmentAdded || remote.addAssignee.answer.isOk)
          && ownership.labelAdded && remote.addLabel.happened then
      [⟨repo, issueNumber, .label, label⟩] else [])

def verifyRemoteClaim (seen : Except String (Option GithubIssue)) (cfg : DiscoveryConfig)
    (issueNumber : UInt64) : Except String Unit :=
  match cfg.remoteClaim with
  | none => .ok ()
  | some (assignee, label) => do
    let repo := cfg.repo.getD ""
    match ← seen with
    | none => .error s!"claim metadata for {repo}#{issueNumber}"
    | some issue =>
      if issue.assignees.any (eqIgnoreAsciiCase · assignee)
          && issue.labels.any (eqIgnoreAsciiCase · label) then .ok ()
      else .error s!"verified claim metadata for {repo}#{issueNumber}"

/-- The label of the receipt, or its assignee, is still to be taken back. -/
def ClaimMetadataReceipt.mustRemove (issue : GithubIssue) (receipt : ClaimMetadataReceipt) :
    AdditionKind → Bool
  | .label => receipt.labelAdded && issue.labels.any (eqIgnoreAsciiCase · receipt.label)
  | .assignee =>
    receipt.assignmentAdded && issue.assignees.any (eqIgnoreAsciiCase · receipt.assignee)

/-- `cleanup_remote_claim`: both are tried, and the first error is returned. -/
def cleanupRemoteClaim (receipt : ClaimMetadataReceipt) : Except String Unit := do
  match ← remote.seen with
  | none => .ok ()
  | some issue =>
    if receipt.mustRemove issue .label then remote.removeLabel
    if receipt.mustRemove issue .assignee then remote.removeAssignee

/-- The cleanup of a receipt has taken care of a kind of addition: it was not there, or it was
removed. -/
def cleanupPerformed (receipt : ClaimMetadataReceipt) (kind : AdditionKind) : Bool :=
  match remote.seen with
  | .error _ => false
  | .ok none => true
  | .ok (some issue) =>
    !receipt.mustRemove issue kind ||
      match kind with
      | .label => remote.removeLabel.isOk
      | .assignee => remote.removeAssignee.isOk

/-- The additions that are left when the cleanup of a receipt has been tried. -/
def withoutCleaned (repo : String) (issueNumber : UInt64)
    (receipt : ClaimMetadataReceipt) (outstanding : List Addition) : List Addition :=
  outstanding.filter fun addition =>
    !((receipt.additions repo issueNumber).contains addition
      && cleanupPerformed remote receipt addition.kind)

end

/-! ### One daemon between two statements -/

def claimReceipt (leaseId : String) (cfg : DiscoveryConfig) (ownership : ClaimOwnership)
    (cleanupPending : Bool) : ClaimMetadataReceipt where
  leaseId := leaseId
  assignee := cfg.claimAssignee.getD ""
  label := cfg.claimLabel.getD ""
  assignmentAdded := ownership.assignmentAdded
  labelAdded := ownership.labelAdded
  cleanupPending := cleanupPending

def persistClaimOwnership (leaseId : String) (cfg : DiscoveryConfig) (ownership : ClaimOwnership)
    (cleanupPending : Bool) (db : ClaimDb) : Except Error ClaimDb := do
  let db ← upsertClaimMetadata (claimReceipt leaseId cfg ownership cleanupPending) db
  if (getClaimMetadata db leaseId).isNone then .error .queryReturnedNoRows else .ok db

/-- Where `prepare_launch_unit` is. -/
inductive PrepareStage where
  /-- The lease is taken, its config not yet counted. -/
  | claimed
  /-- `inspect_remote_claim` is next. -/
  | counted
  /-- What there is to add is to be written down. -/
  | inspected (ownership : ClaimOwnership)
  /-- It is to be added. -/
  | recorded (ownership : ClaimOwnership)
  /-- The lease is to be marked as running. -/
  | applied (ownership : ClaimOwnership)
  /-- The receipt is to say that nothing is pending. -/
  | started (ownership : ClaimOwnership)
  /-- `abandon_failed_claim`: what was added is to be taken back. -/
  | failed (ownership : ClaimOwnership)
  /-- Its result is to be written down. -/
  | cleaned (ownership : ClaimOwnership) (cleanupPending : Bool)
  /-- The lease is to be given up. -/
  | abandoned (ownership : ClaimOwnership)

/-- A daemon in the middle of `prepare_launch_unit`. -/
structure Preparation where
  configId : String
  cfg : DiscoveryConfig
  issue : GithubIssue
  leaseId : String
  runId : String
  bases : DaemonPathBases
  stage : PrepareStage

/-- Where the cleanup of one pending receipt is. -/
inductive CleanupStage where
  | listed
  | reserved
  | cleaned
  | confirmed

/-- A cleanup pass, at one of the receipts it has listed. -/
structure CleanupTask where
  cleanup : PendingClaimCleanup
  stage : CleanupStage

/-- Where `finalize_claim_after_outcome` is, for a launch that failed. -/
inductive FinalizeStage where
  | launched
  | marked (receipt : ClaimMetadataReceipt)
  | cleaned (receipt : ClaimMetadataReceipt)

/-- A launch that was prepared. -/
structure DispatchUnit where
  leaseId : String
  repo : String
  issueNumber : UInt64
  stage : FinalizeStage

/-- What a daemon is in the middle of. -/
inductive ClaimTask where
  | prepare (p : Preparation)
  | cleanup (c : CleanupTask)
  | finalize (u : DispatchUnit)

/-- The tables, what the daemons are in the middle of, and what was added on GitHub and not
taken back. -/
structure ClaimWorld where
  db : ClaimDb
  tasks : List ClaimTask := []
  outstanding : List Addition := []

/-- What a task is after its next step, if it goes on, and what it leaves. -/
structure TaskStep where
  task : Option ClaimTask
  db : ClaimDb
  outstanding : List Addition

/-- The next step of `prepare_launch_unit`; a statement that fails ends it. -/
def Preparation.step (now : Timestamp) (remote : RemoteAnswers) (db : ClaimDb)
    (outstanding : List Addition) (p : Preparation) : TaskStep :=
  let repo := p.cfg.repo.getD ""
  let go (stage : PrepareStage) : Option ClaimTask := some (.prepare { p with stage := stage })
  match p.stage with
  | .claimed =>
    let decision := decideClaim p.cfg (countActiveLeasesForConfig db.leases p.configId) p.bases
      p.issue.number p.runId
    { task := if decision.isOk then go .counted else none
      db := settleClaim now false p.leaseId p.runId decision db
      outstanding := outstanding }
  | .counted =>
    match inspectRemoteClaim remote.seen p.cfg p.issue with
    | .ok ownership => ⟨go (.inspected ownership), db, outstanding⟩
    | .error _ => ⟨go (.failed {}), db, outstanding⟩
  | .inspected ownership =>
    match persistClaimOwnership p.leaseId p.cfg ownership true db with
    | .ok db => ⟨go (.recorded ownership), db, outstanding⟩
    | .error _ => ⟨none, db, outstanding⟩
  | .recorded ownership =>
    let result := do
      applyRemoteClaim remote p.cfg ownership
      verifyRemoteClaim remote.verified p.cfg p.issue.number
    { task := if result.isOk then go (.applied ownership) else go (.failed ownership)
      db := db
      outstanding :=
        outstanding ++ appliedAdditions remote p.cfg repo p.issue.number ownership }
  | .applied ownership =>
    match updateLeaseStatusConditionalOutcome now p.leaseId .running [.claimed] (some p.runId)
        none db.leases with
    | .ok (.applied, leases) => ⟨go (.started ownership), { db with leases := leases }, outstanding⟩
    | .ok (_, leases) => ⟨go (.failed ownership), { db with leases := leases }, outstanding⟩
    | .error _ => ⟨none, db, outstanding⟩
  | .started ownership =>
    match persistClaimOwnership p.leaseId p.cfg ownership false db with
    | .ok db => ⟨some (.finalize ⟨p.leaseId, repo, p.issue.number, .launched⟩), db, outstanding⟩
    | .error _ => ⟨none, db, outstanding⟩
  | .failed ownership =>
    let receipt := claimReceipt p.leaseId p.cfg ownership true
    { task := go (.cleaned ownership (!(cleanupRemoteClaim remote receipt).isOk))
      db := db
      outstanding := withoutCleaned remote repo p.issue.number receipt outstanding }
  | .cleaned ownership cleanupPending =>
    match persistClaimOwnership p.leaseId p.cfg ownership cleanupPending db with
    | .ok db => ⟨go (.abandoned ownership), db, outstanding⟩
    | .error _ => ⟨none, db, outstanding⟩
  | .abandoned _ =>
    match updateLeaseStatusConditionalOutcome now p.leaseId .abandoned [.claimed, .pending]
        (some p.runId) none db.leases with
    | .ok (_, leases) => ⟨none, { db with leases := leases }, outstanding⟩
    | .error _ => ⟨none, db, outstanding⟩

/-- The next step of `reconcile_claim_cleanups`, for one receipt. -/
def CleanupTask.step (now : Timestamp) (remote : RemoteAnswers) (db : ClaimDb)
    (outstanding : List Addition) (c : CleanupTask) : TaskStep :=
  let cleanup := c.cleanup
  let receipt := cleanup.receipt
  let go (stage : CleanupStage) : Option ClaimTask := some (.cleanup { c with stage := stage })
  match c.stage with
  | .listed =>
    if cleanup.leaseStatus = .claimed then
      match updateLeaseStatusConditionalOutcome now receipt.leaseId .pending [.claimed] none none
          db.leases with
      | .ok (.applied, leases) => ⟨go .reserved, { db with leases := leases }, outstanding⟩
      | .ok (_, leases) => ⟨none, { db with leases := leases }, outstanding⟩
      | .error _ => ⟨none, db, outstanding⟩
    else ⟨go .reserved, db, outstanding⟩
  | .reserved =>
    { task := if (cleanupRemoteClaim remote receipt).isOk then go .cleaned else none
      db := db
      outstanding :=
        withoutCleaned remote cleanup.issueRepo cleanup.issueNumber receipt outstanding }
  | .cleaned =>
    match upsertClaimMetadata { receipt with cleanupPending := false } db with
    | .ok db => ⟨go .confirmed, db, outstanding⟩
    | .error _ => ⟨none, db, outstanding⟩
  | .confirmed =>
    if cleanup.leaseStatus = .claimed ∨ cleanup.leaseStatus = .pending then
      match updateLeaseStatusConditionalOutcome now receipt.leaseId .abandoned [.pending] none
          none db.leases with
      | .ok (_, leases) => ⟨none, { db with leases := leases }, outstanding⟩
      | .error _ => ⟨none, db, outstanding⟩
    else ⟨none, db, outstanding⟩

/-- The next step of `finalize_claim_after_outcome`, for a launch that failed. -/
def DispatchUnit.step (remote : RemoteAnswers) (db : ClaimDb) (outstanding : List Addition)
    (u : DispatchUnit) : TaskStep :=
  let go (stage : FinalizeStage) : Option ClaimTask := some (.finalize { u with stage := stage })
  match u.stage with
  | .launched =>
    match getClaimMetadata db u.leaseId with
    | none => ⟨none, db, outstanding⟩
    | some receipt =>
      let receipt := { receipt with cleanupPending := true }
      match upsertClaimMetadata receipt db with
      | .ok db => ⟨go (.marked receipt), db, outstanding⟩
      | .error _ => ⟨none, db, outstanding⟩
  | .marked receipt =>
    { task := if (cleanupRemoteClaim remote receipt).isOk then go (.cleaned receipt) else none
      db := db
      outstanding := withoutCleaned remote u.repo u.issueNumber receipt outstanding }
  | .cleaned receipt =>
    match upsertClaimMetadata { receipt with cleanupPending := false } db with
    | .ok db => ⟨none, db, outstanding⟩
    | .error _ => ⟨none, db, outstanding⟩

def ClaimTask.step (now : Timestamp) (remote : RemoteAnswers) (db : ClaimDb)
    (outstanding : List Addition) : ClaimTask → TaskStep
  | prepare p => p.step now remote db outstanding
  | cleanup c => c.step now remote db outstanding
  | finalize u => u.step remote db outstanding

/-! ### Any number of daemons -/

/-- One call of some daemon. -/
inductive SideEffectCall where
  /-- A claim for a launch takes its lease. -/
  | acquire (now : Timestamp) (configId : String) (cfg : DiscoveryConfig) (issue : GithubIssue)
      (bases : DaemonPathBases) (runId : String)
  /-- `claim_child_lease`: a claim without a receipt. -/
  | claimChild (now : Timestamp) (repo : String) (issueNumber : UInt64) (configId : String)
  /-- Any transition of any lease. -/
  | transition (call : { call : LeaseCall // call.isTransition = true })
  /-- A cleanup pass lists what is pending. -/
  | listCleanups (repo : String)
  /-- The task at this place makes its next step. -/
  | advance (now : Timestamp) (remote : RemoteAnswers) (task : Nat)
  /-- The task at this place ends: its launch went well, or its daemon is gone. -/
  | drop (task : Nat)

def sideEffectStep (s : ClaimWorld) : SideEffectCall → ClaimWorld
  | .acquire now configId cfg issue bases runId =>
    match acquireLeaseWithReceipt now (cfg.repo.getD "") issue.number configId cfg s.db with
    | (.ok (some lease), db) =>
      { s with
        db := db
        tasks := s.tasks ++
          [.prepare ⟨configId, cfg, issue, lease.leaseId, runId, bases, .claimed⟩] }
    | (_, db) => { s with db := db }
  | .claimChild now repo issueNumber configId =>
    { s with db := (atomically (tryClaimCascading now repo issueNumber configId) s.db).2 }
  | .transition call => { s with db := { s.db with leases := (leaseStep s.db.leases call.val).2 } }
  | .listCleanups repo =>
    { s with
      tasks := s.tasks ++
        (listPendingClaimCleanups s.db repo).map fun cleanup => .cleanup ⟨cleanup, .listed⟩ }
  | .advance now remote i =>
    match s.tasks[i]? with
    | none => s
    | some task =>
      let after := task.step now remote s.db s.outstanding
      { db := after.db
        tasks := s.tasks.eraseIdx i ++ after.task.toList
        outstanding := after.outstanding }
  | .drop i => { s with tasks := s.tasks.eraseIdx i }

/-- Any number of daemons that claim issues and take their claims back, on one database. -/
def sideEffectMachine : StateMachine ClaimWorld SideEffectCall Unit where
  start s := s.db = ⟨Table.empty, Table.empty⟩ ∧ s.tasks = [] ∧ s.outstanding = []
  step s call := ((), sideEffectStep s call)

end Luther
