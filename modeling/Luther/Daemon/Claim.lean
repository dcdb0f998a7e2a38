/-
Claiming an issue for a launch.

A claim is three statements.  The first takes the lease, with a receipt, in one
transaction; the second counts the leases of the config; the third marks the lease as
running, or gives it up when there are too many.  Between the statements of one daemon
there may be statements of others.
-/
import Luther.Lib.Path
import Luther.Persistence.Leases

namespace Luther

open Sql

/-! ### The paths of a run -/

/-- Base roots under which every run of a daemon gets its own directories. -/
structure DaemonPathBases where
  workDirBase : Option String := none
  artifactDirBase : Option String := none

/-- The directories of a run. -/
structure PerRunPaths where
  workDir : Option String := none
  artifactDir : Option String := none

def validateRunIdPathComponent (runId : String) : Except String Unit :=
  let unsafeComponent := s!"run_id must be a single safe path component: {runId}"
  if runId = "" then .error "run_id must not be empty"
  else if runId.toList.contains '\\' then .error unsafeComponent
  else
    match pathComponents runId with
    | [.normal _] => .ok ()
    | _ => .error unsafeComponent

def DaemonPathBases.perRunPaths (issueNumber : UInt64) (runId : String)
    (bases : DaemonPathBases) : Except String PerRunPaths := do
  let _ ← validateRunIdPathComponent runId
  let under (base : String) : String := joinPath (joinPath base s!"issue-{issueNumber}") runId
  .ok { workDir := bases.workDirBase.map under, artifactDir := bases.artifactDirBase.map under }

/-! ### One claim -/

/-- What a config says about discovery, as far as claims read it. -/
structure DiscoveryConfig where
  repo : Option String := none
  claimAssignee : Option String := none
  claimLabel : Option String := none
  maxConcurrentRuns : Option UInt32 := none
  maxConcurrentRunsPerConfig : Option UInt32 := none

/-- How many runs of the config there may be at once. -/
def DiscoveryConfig.maxRuns (cfg : DiscoveryConfig) : Nat :=
  ((cfg.maxConcurrentRunsPerConfig.or cfg.maxConcurrentRuns).getD 1).toNat

/-- Why a claim does not lead to a launch. -/
inductive SkipReason where
  | hasActiveLease
  | concurrencyLimitReached
  | invalidPath (error : String)

/-- What a launcher is asked to start. -/
structure LaunchRequest where
  configId : String
  workflowTypeId : Option String := none
  runId : String
  repo : String
  issueNumber : UInt64
  daemonManagedClaim : Bool := false
  claimAssignmentAdded : Bool := false
  claimLabelAdded : Bool := false
  workDir : Option String
  artifactDir : Option String
  configRoot : String

/-- A launch under the lease that was won for it. -/
structure ClaimedLaunch where
  leaseId : String
  request : LaunchRequest

/-- `acquire_lease_with_receipt`: one transaction. -/
def acquireLeaseWithReceipt (now : Timestamp) (repo : String) (issueNumber : UInt64)
    (configId : String) (cfg : DiscoveryConfig) (db : ClaimDb) :
    Except Error (Option IssueLease) × ClaimDb :=
  atomically (fun db => do
    let (claimed, db) ← tryClaimCascading now repo issueNumber configId db
    match claimed with
    | none => .ok (none, db)
    | some lease => do
      let db ← upsertClaimMetadata
        { leaseId := lease.leaseId
          assignee := cfg.claimAssignee.getD ""
          label := cfg.claimLabel.getD ""
          assignmentAdded := false
          labelAdded := false
          cleanupPending := false } db
      .ok (some lease, db)) db

def countActiveLeasesForConfig (leases : LeaseTable) (configId : String) : Nat :=
  leases.count fun row =>
    row.configId == configId && (row.status == .claimed || row.status == .running)

/-- What the count and the run's paths make of a claim. -/
def decideClaim (cfg : DiscoveryConfig) (active : Nat) (bases : DaemonPathBases)
    (issueNumber : UInt64) (runId : String) : Except SkipReason PerRunPaths :=
  if cfg.maxRuns < active then .error .concurrencyLimitReached
  else (bases.perRunPaths issueNumber runId).mapError .invalidPath

def settleClaim (now : Timestamp) (markRunning : Bool) (leaseId runId : String)
    (decision : Except SkipReason PerRunPaths) (db : ClaimDb) : ClaimDb :=
  match decision with
  | .error _ => { db with leases := updateLeaseStatus now leaseId .abandoned none db.leases }
  | .ok _ =>
    if markRunning then
      { db with leases := updateLeaseStatus now leaseId .running (some runId) db.leases }
    else db

def claimedLaunch (cfg : DiscoveryConfig) (configId : String) (issueNumber : UInt64)
    (leaseId runId configRoot : String) (paths : PerRunPaths) : ClaimedLaunch where
  leaseId := leaseId
  request :=
    { configId := configId
      runId := runId
      repo := cfg.repo.getD ""
      issueNumber := issueNumber
      workDir := paths.workDir
      artifactDir := paths.artifactDir
      configRoot := configRoot }

/-! ### Any number of daemons -/

/-- A daemon in the middle of `claim_for_launch`: it has the lease, and perhaps has counted. -/
structure PendingClaim where
  configId : String
  issueNumber : UInt64
  leaseId : String
  runId : String
  bases : DaemonPathBases
  configRoot : String
  decision : Option (Except SkipReason PerRunPaths) := none

/-- The claim has been granted its launch, and has not yet said so in the table. -/
def PendingClaim.isGranted (claim : PendingClaim) : Bool :=
  match claim.decision with
  | some (.ok _) => true
  | _ => false

/-- The tables, the claims that are under way, and the launches that were returned. -/
structure ClaimSystem where
  db : ClaimDb
  pending : List PendingClaim := []
  launched : List ClaimedLaunch := []

/-- One statement of some daemon. -/
inductive ClaimCall where
  /-- The first statement of a claim: it takes the lease. -/
  | acquire (now : Timestamp) (configId : String) (issueNumber : UInt64)
      (bases : DaemonPathBases) (configRoot runId : String)
  /-- The second: the claim at this place counts. -/
  | count (claim : Nat)
  /-- The third: the claim at this place marks its lease. -/
  | settle (now : Timestamp) (claim : Nat)
  /-- The lease of a run that has ended, or waits, is no longer active. -/
  | finish (now : Timestamp) (leaseId runId : String)
      (status : { status : LeaseStatus // status.isActive = false })
      (expectedStatuses : List LeaseStatus)

/-- One statement, where every daemon has the same config of an id. -/
def claimStep (configs : String → DiscoveryConfig) (s : ClaimSystem) : ClaimCall → ClaimSystem
  | .acquire now configId issueNumber bases configRoot runId =>
    let cfg := configs configId
    match acquireLeaseWithReceipt now (cfg.repo.getD "") issueNumber configId cfg s.db with
    | (.ok (some lease), db) =>
      { s with
        db := db
        pending := s.pending ++
          [⟨configId, issueNumber, lease.leaseId, runId, bases, configRoot, none⟩] }
    | (_, db) => { s with db := db }
  | .count i =>
    match s.pending[i]? with
    | none => s
    | some claim =>
      if claim.decision.isSome then s
      else
        let active := countActiveLeasesForConfig s.db.leases claim.configId
        let decision := decideClaim (configs claim.configId) active claim.bases
          claim.issueNumber claim.runId
        { s with pending := s.pending.set i { claim with decision := some decision } }
  | .settle now i =>
    match s.pending[i]? with
    | none => s
    | some claim =>
      match claim.decision with
      | none => s
      | some decision =>
        let launch := decision.toOption.map <|
          claimedLaunch (configs claim.configId) claim.configId claim.issueNumber
            claim.leaseId claim.runId claim.configRoot
        { db := settleClaim now true claim.leaseId claim.runId decision s.db
          pending := s.pending.eraseIdx i
          launched := s.launched ++ launch.toList }
  | .finish now leaseId runId status expectedStatuses =>
    match updateLeaseStatusConditional now leaseId status.val expectedStatuses none
        (some runId) s.db.leases with
    | .ok (_, leases) => { s with db := { s.db with leases := leases } }
    | .error _ => s

/-- Any number of daemons that claim issues on one database. -/
def claimMachine (configs : String → DiscoveryConfig) :
    StateMachine ClaimSystem ClaimCall Unit where
  start s := s.pending = [] ∧ s.launched = []
  step s call := ((), claimStep configs s call)

/-- The lease was granted a launch: by a claim that has returned it, or is about to. -/
def ClaimSystem.isGranted (s : ClaimSystem) (row : IssueLease) : Bool :=
  s.launched.any (fun launch =>
    launch.leaseId == row.leaseId && row.runId == some launch.request.runId)
  || s.pending.any fun claim => claim.leaseId == row.leaseId && claim.isGranted

/-- How many leases of a config were granted a launch and are still claimed or running. -/
def ClaimSystem.grantedActive (s : ClaimSystem) (configId : String) : Nat :=
  s.db.leases.count fun row =>
    row.configId == configId && (row.status == .claimed || row.status == .running)
      && s.isGranted row

end Luther
