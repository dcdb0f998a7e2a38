/-
When a parent issue is complete.

A pass over the children discovers, classifies and orders them and selects the one to work on.
Where there is none, the completion of the parent is evaluated: from the states that the pass
found, the leases there are now, the rollup, and the checklist in the body of the parent.
-/
import Luther.Engine.Transition
import Luther.Orchestration.Children

namespace Luther

open Sql

/-! ### The checklist -/

/-- `checklist_marker`: a bullet, one space, and a marker. -/
def checklistMarker (trimmed : String) (markers : List String) : Bool :=
  ["-", "*", "+"].any fun bullet =>
    ((stripPrefix bullet trimmed).bind (stripPrefix " ")).any fun rest =>
      markers.any (startsWith rest)

def countAcceptanceCriteria (body : String) : Nat :=
  (splitLines body).countP fun line => checklistMarker (trimStart line) ["[x]", "[X]", "[ ]"]

def countUncheckedAcceptanceCriteria (body : String) : Nat :=
  (splitLines body).countP fun line => checklistMarker (trimStart line) ["[ ]"]

/-! ### The children -/

/-- `ChildRollupIndex::get`: the first record of the child. -/
def ParentOrchestrationRollup.get (rollup : ParentOrchestrationRollup)
    (childIssueNumber : UInt64) : Option ChildRollupEntry :=
  rollup.children.find? (·.childIssueNumber == childIssueNumber)

section

variable (child : ChildIssueState)

def childIsComplete : Bool := child.terminalState == .merged

def childIsBlocked : Bool :=
  match child.terminalState with
  | .blocked | .mergedIssueOpen | .superseded | .closedUnmerged => true
  | _ => false

def ChildRollupEntry.isExplicitlyNonActionable (entry : ChildRollupEntry) : Bool :=
  (entry.outcome == some "non_actionable_child"
      || entry.outcome == some "non_actionable_child_lease")
    && entry.nonActionableReason.any fun reason => trim reason != ""

def childHasExplicitNonActionableReason (rollup : ParentOrchestrationRollup) : Bool :=
  child.terminalState == .closed
    && (rollup.get child.issueNumber).any ChildRollupEntry.isExplicitlyNonActionable

def childCompletionSatisfied (rollup : ParentOrchestrationRollup) : Bool :=
  childIsComplete child || childHasExplicitNonActionableReason child rollup

end

section

variable (states : List ChildIssueState)

section

variable (rollup : ParentOrchestrationRollup)

def incompleteChildNumbers : List UInt64 :=
  (states.filter fun child => !childCompletionSatisfied child rollup).map (·.issueNumber)

def blockedChildNumbers : List UInt64 :=
  (states.filter childIsBlocked).map (·.issueNumber)

def requiredPrsSatisfied : Bool :=
  (states.all fun child =>
    match child.terminalState with
    | .merged => true
    | .closed => childHasExplicitNonActionableReason child rollup
    | _ => false)
    && !rollup.children.any unresolvedRollupOutcomeRequiresPr

/-- A part of `child_completion_evidence`. -/
structure ChildCompletionEvidence where
  childIssueNumber : UInt64
  terminalState : ChildIssueStatus
  prNumber : Option UInt64
  completionSatisfied : Bool
  nonActionableReason : Option String
  mergeSha : Option String
  childArtifactDir : Option String

def childCompletionEvidence : List ChildCompletionEvidence :=
  states.map fun child =>
    let rollupEntry := rollup.get child.issueNumber
    { childIssueNumber := child.issueNumber
      terminalState := child.terminalState
      prNumber := child.prNumber
      completionSatisfied := childCompletionSatisfied child rollup
      nonActionableReason := rollupEntry.bind (·.nonActionableReason)
      mergeSha := rollupEntry.bind (·.mergeSha)
      childArtifactDir := rollupEntry.bind (·.childArtifactDir) }

end

end

/-- Whether the criteria are met, and by what. -/
structure AcceptanceEvaluation where
  satisfied : Bool
  evidence : List String
  remainingWork : List String

/-- What a child adds to the evidence, or to the work that remains. -/
def childAcceptance (rollup : ParentOrchestrationRollup) (child : ChildIssueState) :
    String ⊕ String :=
  match child.terminalState with
  | .closed =>
    if childHasExplicitNonActionableReason child rollup then
      .inl s!"child issue #{child.issueNumber} is closed with explicit non-actionable evidence"
    else
      .inr (s!"child issue #{child.issueNumber} is closed without merged PR evidence or an "
        ++ "explicit non-actionable reason")
  | .merged => .inl s!"child issue #{child.issueNumber} is closed with merged PR evidence"
  | .mergedIssueOpen =>
    .inr s!"child issue #{child.issueNumber} has merged PR evidence but is still open"
  | _ => .inr s!"child issue #{child.issueNumber} lacks terminal completion evidence"

def evaluateAcceptanceCriteria (parentBody : Option String) (states : List ChildIssueState)
    (rollup : ParentOrchestrationRollup) : AcceptanceEvaluation :=
  let criteria := (parentBody.map countAcceptanceCriteria).getD 0
  let unchecked := (parentBody.map countUncheckedAcceptanceCriteria).getD 0
  let checklistEvidence :=
    if criteria = 0 then
      "no parent acceptance checklist found; relying on child completion evidence"
    else s!"{criteria} parent acceptance checklist item(s) found; {unchecked} unchecked"
  let checklistWork :=
    if criteria ≠ 0 ∧ 0 < unchecked then
      [s!"{unchecked} parent acceptance checklist item(s) remain unchecked"]
    else []
  let perChild := states.map (childAcceptance rollup)
  let remainingWork :=
    checklistWork ++ perChild.filterMap Sum.getRight?
      ++ (if rollup.children.any unresolvedRollupOutcomeRequiresPr then
        ["one or more child runs lack merged PR evidence"] else [])
  { satisfied := remainingWork.isEmpty
    evidence :=
      [s!"{states.length} child issue(s) classified",
        s!"{rollup.children.length} child rollup entry(s) recorded", checklistEvidence]
        ++ perChild.filterMap Sum.getLeft?
    remainingWork := remainingWork }

/-! ### The leases -/

def activeChildLeaseBlocksParent (lease : IssueLease) : Bool :=
  match lease.status with
  | .waitingExternal | .readyToResume | .claimed | .running => true
  | _ => false

/-- A child that still runs. -/
structure ActiveChildRun where
  issueNumber : UInt64
  runId : Option String
  status : LeaseStatus

def activeChildLeases (repo : String) (leases : LeaseTable) (children : List ChildIssueState) :
    Except Error (List ActiveChildRun) := do
  let leaseOf ← getLeasesForIssues leases repo (children.map (·.issueNumber))
  .ok (children.filterMap fun child =>
    ((leaseOf child.issueNumber).filter activeChildLeaseBlocksParent).map fun lease =>
      ⟨child.issueNumber, lease.runId, lease.status⟩)

/-! ### The steps of a pass -/

/-- `parent-completion-evaluation.json`. -/
structure ParentCompletionEvaluation where
  complete : Bool
  nativeSubissuesClosedOrNonActionable : Bool
  requiredChildPrsMergedOrSuperseded : Bool
  noActiveChildWorkflowRuns : Bool
  acceptance : AcceptanceEvaluation
  activeChildIssues : List UInt64
  blockedChildIssues : List UInt64
  activeChildRuns : List ActiveChildRun
  mergedChildPrs : List ChildRollupEntry
  closedWithoutCompletionEvidence : List UInt64
  childCompletionEvidence : List ChildCompletionEvidence
  children : List ChildIssueState
  rollup : ParentOrchestrationRollup

/-- `selected-child.json`. -/
structure SelectedChild where
  issueNumber : Option UInt64
  missingStateIssueNumbers : List UInt64 := []
  deriving DecidableEq

/-- The files of a parent that the steps read and write. -/
structure OrchestrationArtifacts where
  parentIssue : Option OrchestratedIssue := none
  subissues : Option (List GithubSubIssue) := none
  snapshot : Option (List ChildIssueState) := none
  orderPlan : Option (List UInt64) := none
  selectedChild : Option SelectedChild := none
  rollup : Option ParentOrchestrationRollup := none
  evaluation : Option ParentCompletionEvaluation := none

/-- What a step sees of the world: GitHub, the tables and the clock. -/
structure OrchestrationView where
  query : GithubIssueQuery
  leases : LeaseTable
  runs : RunTable
  now : Timestamp

/-- The parent that is worked on. -/
structure OrchestrationState where
  repo : String
  parentIssueNumber : UInt64
  mergePollIntervalSeconds : UInt64 := 300

/-- `read_json`, of a file that the steps write. -/
def readArtifact {α : Type} (name : String) (file : Option α) : Except String α :=
  match file with
  | some value => .ok value
  | none => .error s!"read {name}: No such file or directory (os error 2)"

def readRollup (artifacts : OrchestrationArtifacts) : ParentOrchestrationRollup :=
  artifacts.rollup.getD {}

/-- `discover_subissues`, and `refresh_parent_and_children`, which clears the selection. -/
def discoverSubissues (refresh : Bool) (state : OrchestrationState) (view : OrchestrationView)
    (artifacts : OrchestrationArtifacts) : Except String StepOutcome × OrchestrationArtifacts :=
  match view.query.listSubIssues state.parentIssueNumber with
  | .error error => (.error error, artifacts)
  | .ok children =>
    let artifacts := { artifacts with subissues := some children }
    (.ok .success, if refresh then { artifacts with selectedChild := none } else artifacts)

section

variable (state : OrchestrationState)

section

variable (view : OrchestrationView)

def classifyChildWithRunState (rollup : ParentOrchestrationRollup)
    (issue : OrchestratedIssue) : Except String ChildIssueState := do
  let pr ← view.query.prStateForIssue issue.number
  match applyChildRunState view.now state.repo state.mergePollIntervalSeconds view.leases view.runs
      rollup issue (classifyChild issue pr) with
  | .error error => .error error.text
  | .ok child => .ok child

section

variable (artifacts : OrchestrationArtifacts)

def classifySubissues : Except String StepOutcome × OrchestrationArtifacts :=
  let states := do
    let children ← readArtifact "parent-subissues.json" artifacts.subissues
    children.mapM fun (child : GithubSubIssue) =>
      classifyChildWithRunState state view (readRollup artifacts) child.issue
  match states with
  | .error error => (.error error, artifacts)
  | .ok states => (.ok .success, { artifacts with snapshot := some states })

def determineSubissueOrder : Except String StepOutcome × OrchestrationArtifacts :=
  match readArtifact "parent-subissues.json" artifacts.subissues with
  | .error error => (.error error, artifacts)
  | .ok children => (.ok .success, { artifacts with orderPlan := some (orderSubissues children) })

def selectNextChild : Except String StepOutcome × OrchestrationArtifacts :=
  let read := do
    let states ← readArtifact "subissue-state-snapshot.json" artifacts.snapshot
    let order ← readArtifact "subissue-order-plan.json" artifacts.orderPlan
    .ok (states, order)
  match read with
  | .error error => (.error error, artifacts)
  | .ok (states, order) =>
    let missingStates := missingOrderedChildStates states order
    if missingStates ≠ [] then
      (.ok .fixable, { artifacts with selectedChild := some ⟨none, missingStates⟩ })
    else
      let next := nextActionableChild states order
      (.ok (if next.isSome then .success else .fixable),
        { artifacts with selectedChild := some ⟨next, []⟩ })

/-- What `evaluate_parent_completion` makes of what it has read. -/
def parentCompletionEvaluation (parentBody : Option String) (states : List ChildIssueState)
    (rollup : ParentOrchestrationRollup) (activeRuns : List ActiveChildRun) :
    ParentCompletionEvaluation :=
  let activeChildren := incompleteChildNumbers states rollup
  let blockedChildren := blockedChildNumbers states
  let acceptance := evaluateAcceptanceCriteria parentBody states rollup
  let requiredPrs := requiredPrsSatisfied states rollup
  { complete :=
      activeChildren.isEmpty && requiredPrs && activeRuns.isEmpty && acceptance.satisfied
        && blockedChildren.isEmpty
    nativeSubissuesClosedOrNonActionable := activeChildren.isEmpty
    requiredChildPrsMergedOrSuperseded := requiredPrs
    noActiveChildWorkflowRuns := activeRuns.isEmpty
    acceptance := acceptance
    activeChildIssues := activeChildren
    blockedChildIssues := blockedChildren
    activeChildRuns := activeRuns
    mergedChildPrs := rollup.children.filter (·.outcome == some "merged")
    closedWithoutCompletionEvidence :=
      (states.filter (·.terminalState == .closed)).map (·.issueNumber)
    childCompletionEvidence := childCompletionEvidence states rollup
    children := states
    rollup := rollup }

def evaluateParentCompletion : Except String StepOutcome × OrchestrationArtifacts :=
  match view.query.getIssue state.parentIssueNumber with
  | .error error => (.error error, artifacts)
  | .ok none => (.error "parent issue could not be loaded", artifacts)
  | .ok (some parent) =>
    let artifacts := { artifacts with parentIssue := some parent }
    match readArtifact "subissue-state-snapshot.json" artifacts.snapshot with
    | .error error => (.error error, artifacts)
    | .ok states =>
      match activeChildLeases state.repo view.leases states with
      | .error error => (.error error.text, artifacts)
      | .ok activeRuns =>
        let evaluation :=
          parentCompletionEvaluation parent.body states (readRollup artifacts) activeRuns
        (.ok (if evaluation.complete then .success else .fixable),
          { artifacts with evaluation := some evaluation })

end

end

/-- The steps up to the launch of a child, and the evaluation. -/
inductive OrchestrationStep where
  | discoverSubissues
  | refreshParentAndChildren
  | classifySubissues
  | determineSubissueOrder
  | selectNextChild
  | evaluateParentCompletion

/-- The steps of a parent, each with the world as it finds it.  Whatever files there are, an
earlier pass may have left them. -/
def orchestrationMachine :
    StateMachine OrchestrationArtifacts (OrchestrationStep × OrchestrationView)
      (Except String StepOutcome) where
  start _ := True
  step artifacts
    | (.discoverSubissues, view) => discoverSubissues false state view artifacts
    | (.refreshParentAndChildren, view) => discoverSubissues true state view artifacts
    | (.classifySubissues, view) => classifySubissues state view artifacts
    | (.determineSubissueOrder, _) => determineSubissueOrder artifacts
    | (.selectNextChild, _) => selectNextChild artifacts
    | (.evaluateParentCompletion, view) => evaluateParentCompletion state view artifacts

end

end Luther
