/-
Which issues of a repository a daemon may work on.

A pass lists the issues, puts them in the order of their milestones and numbers, and looks at one
after the other: at its labels and its state, at who has approved it, at its lease, at its parent,
and at its pull requests.  The first reason against an issue is recorded.  What is left is taken
up to the limit of the config, and routed: an issue with sub-issues goes to the workflow of
parents.  GitHub is asked through queries, whose answers are kept for the pass.
-/
import Luther.Daemon.Claim
import Luther.Lib.Assoc
import Luther.Lib.Text
import Mathlib.Data.List.Sort
import Mathlib.Data.Prod.Lex

namespace Luther.Discovery

open Sql

/-! ### The leases, as they are stored -/

/-- A value of a column, of which texts that are not UTF-8 are bytes. -/
inductive SqlValue where
  | null
  | integer (value : Int)
  | text (value : String)
  | blob (bytes : List UInt8)
  deriving DecidableEq

/-- A row of `issue_leases`, whatever its columns hold. -/
structure LeaseRow where
  leaseId : SqlValue
  issueRepo : SqlValue
  issueNumber : SqlValue
  configId : SqlValue
  runId : SqlValue
  status : SqlValue
  claimedAt : SqlValue
  updatedAt : SqlValue
  heartbeatAt : SqlValue

/-- `UNIQUE(issue_repo, issue_number)`. -/
def LeaseRow.Clash (a b : LeaseRow) : Prop :=
  a.issueRepo = b.issueRepo ∧ a.issueNumber = b.issueNumber

/-- The `issue_leases` table. -/
abbrev LeaseRows := Table LeaseRow LeaseRow.Clash

def LeaseRow.covers (repo : String) (issueNumber : UInt64) (row : LeaseRow) : Bool :=
  row.issueRepo == .text repo && row.issueNumber == .integer issueNumber.toNat

/-- `InvalidColumnType`, of a column that does not hold what it should. -/
def invalidColumnType (index : Nat) (name : String) : SqlValue → Error
  | .null => .invalidColumnType index name "Null"
  | .integer _ => .invalidColumnType index name "Integer"
  | .text _ => .invalidColumnType index name "Text"
  | .blob _ => .invalidColumnType index name "Blob"

/-- `row.get::<String>`. -/
def getText (index : Nat) (name : String) : SqlValue → Except Error String
  | .text value => .ok value
  | value => .error (invalidColumnType index name value)

/-- `row.get::<Option<String>>`. -/
def getOptionalText (index : Nat) (name : String) : SqlValue → Except Error (Option String)
  | .null => .ok none
  | value => (getText index name value).map some

/-- `row.get::<i64>`. -/
def getInteger (index : Nat) (name : String) : SqlValue → Except Error Int
  | .integer value => .ok value
  | value => .error (invalidColumnType index name value)

section Query

variable (rfc3339 : String → Option Timestamp)

/-- `parse_ts`: the epoch where the text is no instant. -/
def parseTs (text : String) : Timestamp := (rfc3339 text).getD 0

/-- `row_to_lease`: a status that is not known is pending. -/
def rowToLease (row : LeaseRow) : Except Error IssueLease := do
  let statusStr ← getText 5 "status" row.status
  let status := (LeaseStatus.fromStr statusStr).toOption.getD .pending
  let leaseId ← getText 0 "lease_id" row.leaseId
  let issueRepo ← getText 1 "issue_repo" row.issueRepo
  let issueNumber ← getInteger 2 "issue_number" row.issueNumber
  let configId ← getText 3 "config_id" row.configId
  let runId ← getOptionalText 4 "run_id" row.runId
  let claimedAt ← getText 6 "claimed_at" row.claimedAt
  let updatedAt ← getText 7 "updated_at" row.updatedAt
  let heartbeatAt ← getText 8 "heartbeat_at" row.heartbeatAt
  .ok
    { leaseId := leaseId
      issueRepo := issueRepo
      issueNumber := UInt64.ofInt issueNumber
      configId := configId
      runId := runId
      status := status
      claimedAt := parseTs rfc3339 claimedAt
      updatedAt := parseTs rfc3339 updatedAt
      heartbeatAt := parseTs rfc3339 heartbeatAt }

/-- `get_lease_for_issue`, of rows as they are stored. -/
def getLeaseForIssue (leases : LeaseRows) (repo : String) (issueNumber : UInt64) :
    Except Error (Option IssueLease) := do
  let _ ← issueNumberToSqlI64 issueNumber
  match leases.find? (LeaseRow.covers repo issueNumber) with
  | none => .ok none
  | some row => (rowToLease rfc3339 row).map some

/-! ### What GitHub says -/

/-- An issue, as GitHub lists it. -/
structure GithubIssue where
  number : UInt64
  title : String
  state : String
  labels : List String
  assignees : List String
  milestone : Option String
  body : Option String
  deriving DecidableEq

/-- Where a child issue was found. -/
inductive SubIssueSource where
  | native
  | fallbackChecklist

/-- A child issue, and its place. -/
structure GithubSubIssue where
  issue : GithubIssue
  position : Option UInt64
  source : SubIssueSource

/-- The issue that another is a child of. -/
structure GithubParentIssue where
  issue : GithubIssue

/-- `GithubIssueQuery`, as far as a pass asks, with the error as a text. -/
structure GithubIssueQuery where
  listIssues : String → List String → List String → Except String (List GithubIssue)
  latestLabelActor : String → UInt64 → String → Except String (Option String)
  hasOpenPrForIssue : String → UInt64 → Except String Bool
  listSubIssues : String → UInt64 → Except String (List GithubSubIssue)
  getParentIssue : String → UInt64 → Except String (Option GithubParentIssue)

/-- What a config says about discovery, as far as a pass reads it. -/
structure DiscoveryConfig extends Luther.DiscoveryConfig where
  includeLabels : List String := []
  excludeLabels : List String := []
  activeParentLabel : Option String := none
  issueStates : List String := []
  approvalLabel : Option String := none
  approvalActor : Option String := none
  milestoneOrder : Option String := none
  routeParentIssues : Bool := false
  parentWorkflowTypeId : Option String := none
  parentConfigId : Option String := none
  skipChildrenOfActiveParents : Bool := false

/-- `SkipReason`, of discovery. -/
inductive SkipReason where
  | missingRequiredLabel (label : String)
  | hasExcludedLabel (label : String)
  | wrongState (state : String)
  | missingApprovalProvenance
  | unauthorizedApprovalActor (actor : String)
  | hasActiveLease
  | hasOpenPr
  | childOfActiveParent
  | concurrencyLimitReached
  | invalidLeaseState
  | routingFailed (detail : String)
  deriving DecidableEq

/-- Why a pass gives up. -/
inductive DiscoveryError where
  | github (error : String)
  | database (error : Error)
  deriving DecidableEq

structure RoutedIssue where
  issue : GithubIssue
  workflowTypeId : Option String
  configId : Option String
  deriving DecidableEq

def RoutedIssue.ordinary (issue : GithubIssue) : RoutedIssue := ⟨issue, none, none⟩

def RoutedIssue.parent (issue : GithubIssue) (cfg : DiscoveryConfig) : RoutedIssue :=
  ⟨issue, cfg.parentWorkflowTypeId, cfg.parentConfigId⟩

/-- What a pass has found. -/
structure DiscoveryResult where
  eligible : List RoutedIssue := []
  skipped : List (GithubIssue × SkipReason) := []
  deriving DecidableEq

/-- The answers of GitHub that a pass keeps. -/
structure DiscoveryLookupCache where
  parents : List ((String × UInt64) × Option GithubIssue) := []
  subIssues : List ((String × UInt64) × List GithubSubIssue) := []

/-! ### The reasons against an issue -/

def issueHasLabel (issue : GithubIssue) (expected : String) : Bool :=
  issue.labels.any (eqIgnoreAsciiCase · expected)

section

variable (cfg : DiscoveryConfig)

def staticFilter (issue : GithubIssue) : Option SkipReason :=
  match cfg.includeLabels.find? (!issueHasLabel issue ·) with
  | some required => some (.missingRequiredLabel required)
  | none =>
    match cfg.excludeLabels.find? (issueHasLabel issue ·) with
    | some excluded => some (.hasExcludedLabel excluded)
    | none =>
      if !cfg.issueStates.isEmpty && !cfg.issueStates.any (eqIgnoreAsciiCase · issue.state) then
        some (.wrongState issue.state)
      else none

/-- `evaluate_approval_actor`, with the reason that its answer stands for. -/
def evaluateApprovalActor (approvalActor : Option String) (expectedActor : String) :
    Option SkipReason :=
  match approvalActor with
  | some actual =>
    if eqIgnoreAsciiCase actual expectedActor then none
    else some (.unauthorizedApprovalActor actual)
  | none => some .missingApprovalProvenance

section

variable (query : GithubIssueQuery)

def approvalSkip (repo : String) (issue : GithubIssue) : Except String (Option SkipReason) :=
  match cfg.approvalLabel, cfg.approvalActor with
  | some label, some expectedActor =>
    (query.latestLabelActor repo issue.number label).map fun actual =>
      evaluateApprovalActor actual expectedActor
  | none, none => .ok none
  | _, _ => .ok (some .missingApprovalProvenance)

def localDynamicSkip (leases : LeaseRows) (issue : GithubIssue) (repo : String) :
    Except Error (Option SkipReason) :=
  (getLeaseForIssue rfc3339 leases repo issue.number).map fun lease =>
    if lease.any (·.status.blocksDuplicateWork) then some .hasActiveLease else none

/-- `parent_issue`: asked once, and remembered. -/
def parentIssue (repo : String) (number : UInt64)
    (cache : DiscoveryLookupCache) : Except String (Option GithubIssue × DiscoveryLookupCache) :=
  match cache.parents.lookup (repo, number) with
  | some parent => .ok (parent, cache)
  | none =>
    (query.getParentIssue repo number).map fun parent =>
      (parent.map (·.issue),
        { cache with parents := ((repo, number), parent.map (·.issue)) :: cache.parents })

/-- `sub_issues`: asked once, and remembered. -/
def subIssues (query : GithubIssueQuery) (repo : String) (number : UInt64)
    (cache : DiscoveryLookupCache) : Except String (List GithubSubIssue × DiscoveryLookupCache) :=
  match cache.subIssues.lookup (repo, number) with
  | some children => .ok (children, cache)
  | none =>
    (query.listSubIssues repo number).map fun children =>
      (children, { cache with subIssues := ((repo, number), children) :: cache.subIssues })

def parentHasActiveLabel (parent : GithubIssue) : Bool :=
  (cfg.activeParentLabel.filter (· ≠ "")).any (issueHasLabel parent)

/-- What `has_active_parent` says of a parent: a lease that cannot be looked up is none. -/
def isActiveParent (leases : LeaseRows) (repo : String) (parent : GithubIssue) : Bool :=
  parentHasActiveLabel cfg parent ||
    match getLeaseForIssue rfc3339 leases repo parent.number with
    | .ok lease => lease.any (·.status.blocksDuplicateWork)
    | .error _ => false

def hasActiveParent (cache : DiscoveryLookupCache) (repo : String)
    (issue : GithubIssue) (leases : LeaseRows) : Except String (Bool × DiscoveryLookupCache) :=
  (parentIssue query repo issue.number cache).map fun (parent, cache) =>
    (parent.any (isActiveParent rfc3339 cfg leases repo), cache)

def remoteDynamicSkip (leases : LeaseRows)
    (cache : DiscoveryLookupCache) (issue : GithubIssue) (repo : String) :
    Except String (Option SkipReason × DiscoveryLookupCache) :=
  let activeParent :=
    if cfg.skipChildrenOfActiveParents then
      hasActiveParent rfc3339 cfg query cache repo issue leases
    else .ok (false, cache)
  match activeParent with
  | .error error => .error error
  | .ok (true, cache) => .ok (some .childOfActiveParent, cache)
  | .ok (false, cache) =>
    (query.hasOpenPrForIssue repo issue.number).map fun openPr =>
      (if openPr then some .hasOpenPr else none, cache)

end

/-! ### The order of the issues -/

/-- `trim_start_matches`, of a character. -/
def trimStartMatches (c : Char) (text : List Char) : List Char := text.dropWhile (· == c)

/-- `semver_key`: titles that are no version come last. -/
def semverKey (milestone : Option String) : Nat × Nat × Nat × Nat :=
  match milestone with
  | none => (1, 0, 0, 0)
  | some raw =>
    let trimmed := trimStartMatches 'V' (trimStartMatches 'v' raw.toList)
    match (trimmed.splitOn '.').map parseU64 with
    | some major :: rest => (0, major, (rest[0]?.join).getD 0, (rest[1]?.join).getD 0)
    | _ => (1, 0, 0, 0)

def issueKey (issue : GithubIssue) : Nat ×ₗ Nat ×ₗ Nat ×ₗ Nat ×ₗ Nat :=
  let (class_, major, minor, patch) :=
    if cfg.milestoneOrder = some "none" then (0, 0, 0, 0) else semverKey issue.milestone
  toLex (class_, toLex (major, toLex (minor, toLex (patch, issue.number.toNat))))

def orderIssues (issues : List GithubIssue) : List GithubIssue :=
  issues.insertionSort fun a b => issueKey cfg a ≤ issueKey cfg b

/-! ### The pass -/

def routeIssue (query : GithubIssueQuery) (cache : DiscoveryLookupCache)
    (issue : GithubIssue) (repo : String) : Except String (RoutedIssue × DiscoveryLookupCache) :=
  (subIssues query repo issue.number cache).map fun (children, cache) =>
    (if children.isEmpty then .ordinary issue else .parent issue cfg, cache)

/-- `cfg.repo.as_deref().unwrap_or("")`. -/
def DiscoveryConfig.repoName : String := cfg.repo.getD ""

end

namespace DiscoveryResult

def skip (issue : GithubIssue) (reason : SkipReason) (result : DiscoveryResult) :
    DiscoveryResult :=
  { result with skipped := result.skipped ++ [(issue, reason)] }

def take (routed : RoutedIssue) (result : DiscoveryResult) : DiscoveryResult :=
  { result with eligible := result.eligible ++ [routed] }

end DiscoveryResult

/-- The last part of the loop, for an issue that nothing is against. -/
def admitIssue (cfg : DiscoveryConfig) (query : GithubIssueQuery) (activeCount : Nat)
    (issue : GithubIssue) (result : DiscoveryResult) (cache : DiscoveryLookupCache) :
    DiscoveryResult × DiscoveryLookupCache :=
  if result.eligible.length + activeCount ≥ cfg.maxRuns then
    (result.skip issue .concurrencyLimitReached, cache)
  else if cfg.routeParentIssues then
    match routeIssue cfg query cache issue cfg.repoName with
    | .ok (routed, cache) => (result.take routed, cache)
    | .error error => (result.skip issue (.routingFailed error), cache)
  else (result.take (.ordinary issue), cache)

/-- The body of the loop of `discover`. -/
def discoverIssue (cfg : DiscoveryConfig) (query : GithubIssueQuery) (leases : LeaseRows)
    (activeCount : Nat) (state : DiscoveryResult × DiscoveryLookupCache) (issue : GithubIssue) :
    Except DiscoveryError (DiscoveryResult × DiscoveryLookupCache) :=
  let (result, cache) := state
  match staticFilter cfg issue with
  | some reason => .ok (result.skip issue reason, cache)
  | none =>
    match approvalSkip cfg query cfg.repoName issue with
    | .error error => .error (.github error)
    | .ok (some reason) => .ok (result.skip issue reason, cache)
    | .ok none =>
      match localDynamicSkip rfc3339 leases issue cfg.repoName with
      | .error _ => .ok (result.skip issue .invalidLeaseState, cache)
      | .ok (some reason) => .ok (result.skip issue reason, cache)
      | .ok none =>
        match remoteDynamicSkip rfc3339 cfg query leases cache issue cfg.repoName with
        | .error error => .error (.github error)
        | .ok (some reason, cache) => .ok (result.skip issue reason, cache)
        | .ok (none, cache) => .ok (admitIssue cfg query activeCount issue result cache)

def discover (cfg : DiscoveryConfig) (query : GithubIssueQuery) (leases : LeaseRows)
    (activeCount : Nat) : Except DiscoveryError DiscoveryResult :=
  match query.listIssues cfg.repoName cfg.includeLabels cfg.issueStates with
  | .error error => .error (.github error)
  | .ok issues =>
    ((orderIssues cfg issues).foldlM (discoverIssue rfc3339 cfg query leases activeCount)
      ({}, {})).map Prod.fst

end Query

end Luther.Discovery
