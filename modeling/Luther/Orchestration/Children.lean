/-
The children of a parent issue: how they are classified, ordered and selected.

What is known of a child comes from three places.  GitHub says whether its issue is closed and
what became of its pull request, the lease says whether a run is at work on it, and the rollup
of the parent says what an earlier pass recorded.  The later ones override the earlier ones.
-/
import Luther.Lib.Text
import Luther.Persistence.Leases
import Luther.Persistence.RunMetadata
import Mathlib.Data.List.Sort

namespace Luther

open Sql

/-! ### What GitHub says -/

/-- `GithubIssue`, as far as the orchestration reads it. -/
structure OrchestratedIssue where
  number : UInt64
  state : String
  body : Option String := none

/-- A child of the parent, and its place. -/
structure GithubSubIssue where
  issue : OrchestratedIssue
  position : Option UInt64 := none

structure GithubIssuePrState where
  number : UInt64
  state : String
  merged : Bool
  mergeCommitSha : Option String := none
  reviewDecision : Option String := none
  statusCheckRollup : Option String := none

/-- `GithubIssueQuery`: what is asked of GitHub, with the error as a text. -/
structure GithubIssueQuery where
  getIssue : UInt64 → Except String (Option OrchestratedIssue)
  listSubIssues : UInt64 → Except String (List GithubSubIssue)
  prStateForIssue : UInt64 → Except String (Option GithubIssuePrState)

/-! ### Classification -/

/-- What has become of a child. -/
inductive ChildIssueStatus where
  | «open»
  | activeRun
  | closed
  | merged
  | mergedIssueOpen
  | closedUnmerged
  | superseded
  | staleRun
  | failedRun
  | blocked
  deriving DecidableEq

/-- A child, and what has become of it. -/
structure ChildIssueState where
  issueNumber : UInt64
  terminalState : ChildIssueStatus
  prNumber : Option UInt64
  deriving DecidableEq

def classifyChild (issue : OrchestratedIssue) (pr : Option GithubIssuePrState) :
    ChildIssueState where
  issueNumber := issue.number
  terminalState :=
    let issueClosed := eqIgnoreAsciiCase issue.state "closed"
    match pr with
    | some pr =>
      if pr.merged && issueClosed then .merged
      else if pr.merged then .mergedIssueOpen
      else if eqIgnoreAsciiCase pr.state "superseded" then .superseded
      else if eqIgnoreAsciiCase pr.state "closed" then .closedUnmerged
      else .activeRun
    | none => if issueClosed then .closed else .open
  prNumber := pr.map (·.number)

/-! ### The rollup -/

structure ChildRollupEntry where
  childIssueNumber : UInt64
  childRunId : Option String
  childArtifactDir : Option String
  prNumber : Option UInt64
  prState : Option String
  mergeSha : Option String
  outcome : Option String
  nonActionableReason : Option String
  deriving DecidableEq

structure ParentOrchestrationRollup where
  parentIssueNumber : UInt64 := 0
  children : List ChildRollupEntry := []
  deriving DecidableEq

def nonActionableReasonForOutcome : String → Option String
  | "non_actionable_child" => some "child issue is explicitly non-actionable"
  | "non_actionable_child_lease" =>
    some "child lease is already terminal outside the parent orchestrator"
  | _ => none

/-- `update_rollup`: the record of the child is replaced, and the records are sorted.  The
artifact directory of a run, where there is one, is a function of the child and the run. -/
def updateRollup (childArtifactDir : UInt64 → String → Option String) (parentIssueNumber child : UInt64)
    (runId : Option String) (outcome : String) (pr : Option GithubIssuePrState)
    (rollup : ParentOrchestrationRollup) : ParentOrchestrationRollup where
  parentIssueNumber := parentIssueNumber
  children :=
    let entry : ChildRollupEntry :=
      { childIssueNumber := child
        childRunId := runId
        childArtifactDir := runId.bind (childArtifactDir child)
        prNumber := pr.map (·.number)
        prState := pr.map (·.state)
        mergeSha := pr.bind (·.mergeCommitSha)
        outcome := some outcome
        nonActionableReason := nonActionableReasonForOutcome outcome }
    (rollup.children.filter (fun entry => entry.childIssueNumber != child) ++ [entry]).insertionSort
      fun a b => a.childIssueNumber ≤ b.childIssueNumber

def unresolvedRollupOutcomeRequiresPr (entry : ChildRollupEntry) : Bool :=
  match entry.outcome with
  | some "missing_child_pr" | some "superseded_child_pr" | some "closed_unmerged_pr"
  | some "stale_child_run" | some "failed_child_run" | some "active_child_lease"
  | some "completed_failure" => true
  | _ => false

/-! ### What the lease and the rollup say -/

def staleChildRun (now : Timestamp) (lease : IssueLease) (pollIntervalSeconds : UInt64) : Bool :=
  let graceSeconds := max (min (pollIntervalSeconds.toNat * 3) (2 ^ 64 - 1)) 900
  if graceSeconds < 2 ^ 63 then
    (graceSeconds : Int) * 1000000000 < now - lease.heartbeatAt
  else false

def childWorkflowCompleted (runs : RunTable) (lease : IssueLease) : Bool :=
  match lease.runId.bind (getRun runs) with
  | some metadata =>
    metadata.status == .completed || metadata.status == .reviewReady
      || metadata.status == .merged
  | none => false

def applyChildRollupState (rollup : ParentOrchestrationRollup) (child : ChildIssueState) :
    ChildIssueState :=
  if rollup.children.any fun entry =>
      entry.childIssueNumber == child.issueNumber && unresolvedRollupOutcomeRequiresPr entry then
    { child with terminalState := .blocked }
  else child

/-- The state of a child, with the lease of its issue taken into account. -/
def applyChildLeaseState (now : Timestamp) (pollIntervalSeconds : UInt64) (runs : RunTable)
    (issue : OrchestratedIssue) (lease : IssueLease) (child : ChildIssueState) :
    ChildIssueState :=
  let issueOpen := eqIgnoreAsciiCase issue.state "open"
  match lease.status with
  | .failed | .abandoned | .cleanupAbandoned | .stale =>
    if issueOpen then { child with terminalState := .failedRun } else child
  | .claimed | .waitingExternal | .readyToResume | .running =>
    if staleChildRun now lease pollIntervalSeconds && issueOpen then
      { child with terminalState := .staleRun }
    else if !childWorkflowCompleted runs lease then { child with terminalState := .activeRun }
    else child
  | .pending | .completed => child

def applyChildRunState (now : Timestamp) (repo : String) (pollIntervalSeconds : UInt64)
    (leases : LeaseTable) (runs : RunTable) (rollup : ParentOrchestrationRollup)
    (issue : OrchestratedIssue) (child : ChildIssueState) : Except Error ChildIssueState := do
  let lease ← getLeaseForIssue leases repo child.issueNumber
  let child :=
    match lease with
    | some lease => applyChildLeaseState now pollIntervalSeconds runs issue lease child
    | none => child
  .ok (applyChildRollupState rollup child)

/-! ### Order and selection -/

def orderSubissues (children : List GithubSubIssue) : List UInt64 :=
  let position (child : GithubSubIssue) : Nat :=
    (child.position.map UInt64.toNat).getD (2 ^ 64 - 1)
  (children.insertionSort fun left right =>
    position left < position right
      ∨ (position left = position right ∧ left.issue.number ≤ right.issue.number)).map
    (·.issue.number)

def childStateBlocksSelection : ChildIssueStatus → Bool
  | .merged | .mergedIssueOpen | .closed | .closedUnmerged | .superseded | .blocked => true
  | _ => false

/-- `next_actionable_child`.  Of two states of one child the later counts. -/
def nextActionableChild (states : List ChildIssueState) (order : List UInt64) : Option UInt64 :=
  order.find? fun number =>
    (states.reverse.find? (·.issueNumber == number)).any fun state =>
      !childStateBlocksSelection state.terminalState

def missingOrderedChildStates (states : List ChildIssueState) (order : List UInt64) :
    List UInt64 :=
  order.filter fun number => !(states.map (·.issueNumber)).contains number

end Luther
