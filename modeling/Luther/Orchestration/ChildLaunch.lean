/-
Launching the workflow of a child issue.

An orchestrator claims the lease of the child, or takes over one that no longer protects it, moves
it to running under the run that is to come, and calls the runner.  Where that fails the lease is
put back.  Each step below is what an orchestrator does between two points at which another
process may write the table: one statement or transaction, or one call of something slow.
-/
import Luther.Engine.Transition
import Luther.Orchestration.Children

namespace Luther

open Sql

/-- `sql_error`. -/
def sqlErrorText (error : Error) : String := s!"database error: {error.text}"

/-! ### Requests and results -/

/-- How the run of a child ends. -/
inductive ChildWorkflowRunResult where
  | completedSuccess
  | completedFailure
  | waitingExternal
  deriving DecidableEq

/-- What a launch reads of its orchestration: the child and its parent. -/
structure ChildSelection where
  repo : String
  parentIssueNumber : UInt64
  childConfigId : String
  child : UInt64
  deriving DecidableEq

/-- The run id of `child_launch_request`, with the milliseconds of the clock. -/
def childLaunchRunId (selection : ChildSelection) (now : Timestamp) : String :=
  s!"parent{selection.parentIssueNumber}-child{selection.child}-{now / 1000000}"

def isObservableExistingPr (pr : GithubIssuePrState) : Bool :=
  !pr.merged && !eqIgnoreAsciiCase pr.state "closed" && !eqIgnoreAsciiCase pr.state "superseded"

/-- `has_active_or_recoverable_child_lease`, of the lease that is there. -/
def activeOrRecoverable (lease : Option IssueLease) : Bool :=
  lease.any fun lease =>
    match lease.status with
    | .readyToResume | .failed | .abandoned | .stale | .waitingExternal | .claimed | .running => true
    | _ => false

def classifyChildRunResult (processResult : ChildWorkflowRunResult) :
    Option RunStatus → ChildWorkflowRunResult
  | some .initialized | some .queued | some .starting | some .running | some .waitingForChecks
  | some .waitingExternal | some .readyToResume | some .remediating | some .blocked | some .paused
  | some .reviewReady => .waitingExternal
  | some .completed | some .merged => .completedSuccess
  | some .failed | some .abandoned | some .cancelled => .completedFailure
  | none => processResult

/-! ### The steps of a launch -/

/-- A lease that a launch has moved to running, as it was before, and the run it is to have. -/
structure Takeover where
  lease : IssueLease
  runId : String
  resumed : Bool
  deriving DecidableEq

/-- Where a launch that has taken a lease over stands. -/
inductive DispatchStage where
  /-- The label is to be added. -/
  | labelling
  /-- The runner is to be called. -/
  | dispatching
  /-- The runner has been called. -/
  | running
  /-- It has returned, and the status of the run and the pull request are to be read. -/
  | collecting (result : ChildWorkflowRunResult)
  /-- Something failed with this text, and the lease is to be put back; the suffix says when, should
  that fail too. -/
  | compensating (text suffix : String)
  /-- The lease is to be settled. -/
  | finishing (result : ChildWorkflowRunResult)
  deriving DecidableEq

/-- Where a launch stands. -/
inductive ChildLaunchStage where
  /-- The child is selected. -/
  | selected
  /-- The lease of the child is to be read. -/
  | preparing
  /-- A lease is ready to resume, unless its run is complete. -/
  | readyToResume (lease : IssueLease)
  /-- There is no lease. -/
  | unleased
  /-- The lease is terminal and may be taken for another run. -/
  | relaunchable (lease : IssueLease)
  /-- `ChildLeaseAction::Wait`. -/
  | waiting (lease : Option IssueLease) (reason : String)
  /-- `ChildLeaseAction::Launch`. -/
  | launching (lease : IssueLease)
  /-- `ChildLeaseAction::Resume`. -/
  | resuming (lease : IssueLease)
  | holding (takeover : Takeover) (stage : DispatchStage)
  | over (outcome : Except String StepOutcome)
  deriving DecidableEq

/-- What a step is answered by the clock, the registry of runs, GitHub and the runner. -/
structure LaunchAnswers where
  now : Timestamp := 0
  runs : RunTable := Table.empty
  pr : Except String (Option GithubIssuePrState) := .ok none
  label : Except String Unit := .ok ()
  runner : Except String ChildWorkflowRunResult := .ok .completedSuccess
  runStatus : Except String (Option RunStatus) := .ok none
  sideEffects : Except String Unit := .ok ()

section

variable (selection : ChildSelection)

/-- `launch_child_workflow`, up to the preparation of the lease. -/
def selectChildLaunch (answers : LaunchAnswers) (db : LeaseTable) : ChildLaunchStage :=
  match answers.pr with
  | .error text => .over (.error text)
  | .ok pr =>
    if pr.any isObservableExistingPr then
      match getLeaseForIssue db selection.repo selection.child with
      | .error error => .over (.error (sqlErrorText error))
      | .ok lease =>
        if activeOrRecoverable lease then .preparing
        else .over (answers.label.map fun _ => .success)
    else .preparing

/-- `prepare_child_lease_with_conn`, up to what it does with the lease it has read. -/
def prepareChildLease (db : LeaseTable) : ChildLaunchStage :=
  match getLeaseForIssue db selection.repo selection.child with
  | .error error => .over (.error (sqlErrorText error))
  | .ok none => .unleased
  | .ok (some lease) =>
    match lease.status with
    | .readyToResume => .readyToResume lease
    | .failed | .abandoned | .stale => .relaunchable lease
    | .waitingExternal | .claimed | .running => .waiting (some lease) "active_child_lease"
    | .cleanupAbandoned => .waiting (some lease) "cleanup_abandoned_requires_continuation"
    | .pending | .completed => .waiting (some lease) "non_actionable_child_lease"

/-- What becomes of a lease that is ready to resume. -/
def prepareResume (runs : RunTable) (lease : IssueLease) : ChildLaunchStage :=
  if childWorkflowCompleted runs lease then
    .waiting (some lease) "child_workflow_completed_waiting_for_pr_merge"
  else .resuming lease

def claimChildLease (now : Timestamp) (db : LeaseTable) : ChildLaunchStage × LeaseTable :=
  match atomically (tryClaim now selection.repo selection.child selection.childConfigId) db with
  | (.ok (some lease), db') => (.launching lease, db')
  | (.ok none, db') => (.waiting none "child_lease_claim_contended", db')
  | (.error error, db') => (.over (.error (sqlErrorText error)), db')

end

/-- `prepare_relaunchable_child`: a transaction that drops what it did where it does not commit. -/
def prepareRelaunchableChild (now : Timestamp) (lease : IssueLease) (db : LeaseTable) :
    ChildLaunchStage × LeaseTable :=
  let (won, cleared) := clearChildLeaseForRelaunch now lease db
  if won then
    match getLeaseForIssue cleared lease.issueRepo lease.issueNumber with
    | .ok (some relaunchable) => (.launching relaunchable, cleared)
    | .ok none => (.over (.error "child lease disappeared while preparing relaunch"), db)
    | .error error => (.over (.error (sqlErrorText error)), db)
  else (.waiting none "child_lease_relaunch_contended", db)

def waitForExistingChild (runs : RunTable) (lease : Option IssueLease) : StepOutcome :=
  match (lease.bind IssueLease.runId).bind (getRun runs) with
  | some metadata => if metadata.status = .merged then .success else .wait
  | none => .wait

def claimRunningLeaseCas (now : Timestamp) (lease : IssueLease)
    (expectedStatuses : List LeaseStatus) (expectedRunId : Option String) (newRunId : String)
    (db : LeaseTable) : Except Error Bool × LeaseTable :=
  atomically (updateLeaseStatusConditionalExactOwner now lease.leaseId .running expectedStatuses
    (some newRunId) expectedRunId) db

/-- What follows a compare-and-swap to running: a rejected one has the orchestrator wait. -/
def afterTakeover (takeover : Takeover) (stage : DispatchStage) :
    Except Error Bool × LeaseTable → ChildLaunchStage × LeaseTable
  | (.ok true, db) => (.holding takeover stage, db)
  | (.ok false, db) => (.over (.ok .wait), db)
  | (.error error, db) => (.over (.error (sqlErrorText error)), db)

section

variable (selection : ChildSelection)

/-- `start_child_workflow`, up to the label. -/
def startChildWorkflow (now : Timestamp) (lease : IssueLease)
    (db : LeaseTable) : ChildLaunchStage × LeaseTable :=
  let runId := childLaunchRunId selection now
  afterTakeover { lease, runId, resumed := false } .labelling
    (claimRunningLeaseCas now lease [.claimed] lease.runId runId db)

def missingResumeRunIdOutcome (now : Timestamp) (lease : IssueLease)
    (db : LeaseTable) : ChildLaunchStage × LeaseTable :=
  match atomically (updateLeaseStatusConditionalExactOwner now lease.leaseId .failed
      [lease.status] none lease.runId) db with
  | (.error error, db') => (.over (.error (sqlErrorText error)), db')
  | (.ok true, db') => (.over (.ok .fixable), db')
  | (.ok false, db') =>
    match getLeaseForIssue db' selection.repo selection.child with
    | .error error => (.over (.error (sqlErrorText error)), db')
    | .ok none => (.over (.error "child lease disappeared"), db')
    | .ok (some _) => (.over (.ok .wait), db')

/-- `resume_child_workflow`, up to the dispatch. -/
def resumeChildWorkflow (now : Timestamp) (lease : IssueLease)
    (db : LeaseTable) : ChildLaunchStage × LeaseTable :=
  match lease.runId with
  | none => missingResumeRunIdOutcome selection now lease db
  | some runId =>
    afterTakeover { lease, runId, resumed := true } .dispatching
      (claimRunningLeaseCas now lease [.readyToResume] (some runId) runId db)

end

/-! ### Failure and finish -/

def restoreChildLeaseAfterRunnerError (now : Timestamp) (lease : IssueLease) (status : LeaseStatus)
    (runId : Option String) (expectedRunningRunId : String) (db : LeaseTable) :
    Except String Unit × LeaseTable :=
  match atomically (updateLeaseStatusConditional now lease.leaseId status [.running] runId
      (some expectedRunningRunId)) db with
  | (.ok true, db') => (.ok (), db')
  | (.ok false, db') =>
    (.error s!"child lease {lease.leaseId} changed owner or status; stale error compensation was rejected",
      db')
  | (.error error, db') => (.error (sqlErrorText error), db')

/-- `restore_for_compensation`, with the text of the error that is passed on. -/
def restoreForCompensation (now : Timestamp) (takeover : Takeover) (text suffix : String)
    (db : LeaseTable) : ChildLaunchStage × LeaseTable :=
  match restoreChildLeaseAfterRunnerError now takeover.lease takeover.lease.status
      takeover.lease.runId takeover.runId db with
  | (.ok (), db') => (.over (.error text), db')
  | (.error restoreError, db') =>
    (.over (.error
      s!"{text}; failed to restore child lease {takeover.lease.leaseId}{suffix}: {restoreError}"),
      db')

def postLaunchMetadataError (takeover : Takeover) (action text : String) : String :=
  s!"{action} after child launch failed for lease {takeover.lease.leaseId} run {takeover.runId}: {text}"

/-- `post_launch_metadata`, and the result that it leaves. -/
def postLaunchMetadata (takeover : Takeover) (result : ChildWorkflowRunResult)
    (answers : LaunchAnswers) : DispatchStage :=
  match answers.runStatus with
  | .error text =>
    .compensating (postLaunchMetadataError takeover "read child run status" text)
      " after metadata error"
  | .ok runStatus =>
    match answers.pr with
    | .error text =>
      .compensating (postLaunchMetadataError takeover "read child PR state" text)
        " after metadata error"
    | .ok _ => .finishing (classifyChildRunResult result runStatus)

/-- The status that a result gives the lease, and those it may replace. -/
def childLeaseTarget : ChildWorkflowRunResult → LeaseStatus × List LeaseStatus
  | .completedFailure => (.failed, [.running, .failed])
  | .completedSuccess => (.readyToResume, [.running, .waitingExternal])
  | .waitingExternal => (.waitingExternal, [.running, .waitingExternal])

def shouldApplyChildFinalizationSideEffects (result : ChildWorkflowRunResult) (runId : String) :
    ConditionalLeaseStatusOutcome → Bool
  | .applied => true
  | .missing => false
  | .rejected currentStatus currentRunId =>
    currentStatus == (childLeaseTarget result).1 && currentRunId == some runId

def stepOutcomeForChildResult : ChildWorkflowRunResult → StepOutcome
  | .completedFailure => .fixable
  | .completedSuccess => .success
  | .waitingExternal => .wait

def stepOutcomeFromDurableLease : ConditionalLeaseStatusOutcome → StepOutcome
  | .applied => .success
  | .missing => .fixable
  | .rejected currentStatus _ =>
    match currentStatus with
    | .completed => .success
    | .readyToResume | .running | .waitingExternal | .claimed | .pending => .wait
    | .failed | .abandoned | .stale | .cleanupAbandoned => .fixable

/-- `finish_child_launch`, with `advance_child_lease_for_result`. -/
def finishChildLaunch (takeover : Takeover) (result : ChildWorkflowRunResult)
    (answers : LaunchAnswers) (db : LeaseTable) : ChildLaunchStage × LeaseTable :=
  let (status, expectedStatuses) := childLeaseTarget result
  match atomically (updateLeaseStatusConditionalOutcome answers.now takeover.lease.leaseId status
      expectedStatuses none (some takeover.runId)) db with
  | (.error error, db') => (.over (.error (sqlErrorText error)), db')
  | (.ok outcome, db') =>
    if shouldApplyChildFinalizationSideEffects result takeover.runId outcome then
      (.over (answers.sideEffects.map fun _ => stepOutcomeForChildResult result), db')
    else (.over (.ok (stepOutcomeFromDurableLease outcome)), db')

/-- The next step of a launch that holds a lease. -/
def advanceDispatch (takeover : Takeover) (answers : LaunchAnswers) (db : LeaseTable) :
    DispatchStage → ChildLaunchStage × LeaseTable
  | .labelling =>
    match answers.label with
    | .ok () => (.holding takeover .dispatching, db)
    | .error text => (.holding takeover (.compensating text " after label add failure"), db)
  | .dispatching => (.holding takeover .running, db)
  | .running =>
    match answers.runner with
    | .ok result => (.holding takeover (.collecting result), db)
    | .error text => (.holding takeover (.compensating text ""), db)
  | .collecting result => (.holding takeover (postLaunchMetadata takeover result answers), db)
  | .compensating text suffix => restoreForCompensation answers.now takeover text suffix db
  | .finishing result => finishChildLaunch takeover result answers db

def advanceLaunch (selection : ChildSelection) (answers : LaunchAnswers) (db : LeaseTable) :
    ChildLaunchStage → ChildLaunchStage × LeaseTable
  | .selected => (selectChildLaunch selection answers db, db)
  | .preparing => (prepareChildLease selection db, db)
  | .readyToResume lease => (prepareResume answers.runs lease, db)
  | .unleased => claimChildLease selection answers.now db
  | .relaunchable lease => prepareRelaunchableChild answers.now lease db
  | .waiting lease _ => (.over (.ok (waitForExistingChild answers.runs lease)), db)
  | .launching lease => startChildWorkflow selection answers.now lease db
  | .resuming lease => resumeChildWorkflow selection answers.now lease db
  | .holding takeover stage => advanceDispatch takeover answers db stage
  | .over outcome => (.over outcome, db)

/-! ### Orchestrators and daemons on one table -/

/-- A launch of some orchestrator, and whether another process has changed the status or the owner
of the lease since it was taken over. -/
structure ChildLaunch where
  selection : ChildSelection
  stage : ChildLaunchStage := .selected
  changed : Bool := false
  deriving DecidableEq

/-- The call is one that a daemon makes: no lease is inserted but by a claim, none is made claimed
by moving its status, and only an orchestrator takes a terminal lease for another run. -/
def LeaseCall.isDaemonCall : LeaseCall → Bool
  | .createLease _ | .clearChildLeaseForRelaunch _ _ => false
  | .updateLeaseStatus _ _ status _
  | .updateLeaseStatusConditional _ _ status _ _ _
  | .updateLeaseStatusConditionalExactOwner _ _ status _ _ _
  | .updateLeaseStatusConditionalOutcome _ _ status _ _ _ => status != .claimed
  | _ => true

/-- A call of a daemon, or of the workflow of a child. -/
structure DaemonCall where
  call : LeaseCall
  isDaemonCall : call.isDaemonCall = true

/-- One step of anyone in the launches. -/
inductive LaunchStep where
  /-- An orchestrator begins to launch a child. -/
  | begin (selection : ChildSelection)
  /-- One of the launches goes on. -/
  | advance (launch : Nat) (answers : LaunchAnswers)
  /-- Another process writes the table. -/
  | daemon (call : DaemonCall)

/-- The lease ids of the claims that were won, of the claimed leases that were given a run, of the
leases that were taken over to resume their run, and of the two kinds of dispatched children. -/
structure LaunchLedger where
  claimed : List String := []
  started : List String := []
  resumed : List String := []
  launchedChildren : List String := []
  resumedChildren : List String := []

/-- The table, and the launches under way. -/
structure LaunchWorld where
  leases : LeaseTable := Table.empty
  launches : List ChildLaunch := []
  ledger : LaunchLedger := {}

def IssueLease.unstarted (row : IssueLease) : Bool := row.status == .claimed && row.runId == none

def startedBy (db db' : LeaseTable) : List String :=
  (db.select fun row => row.unstarted && db'.rows.any fun after =>
    after.leaseId == row.leaseId && after.status == .running && after.runId.isSome).map
      IssueLease.leaseId

def ownership (db : LeaseTable) (leaseId : String) : Option (LeaseStatus × Option String) :=
  (db.find? fun row => row.leaseId == leaseId).map fun row => (row.status, row.runId)

def ChildLaunchStage.takeover? : ChildLaunchStage → Option Takeover
  | .holding takeover _ => some takeover
  | _ => none

def ChildLaunch.watch (db db' : LeaseTable) (launch : ChildLaunch) : ChildLaunch :=
  match launch.stage.takeover? with
  | some takeover =>
    { launch with
      changed := launch.changed
        || ownership db takeover.lease.leaseId != ownership db' takeover.lease.leaseId }
  | none => launch

/-- A launch that has gone on to a stage; a takeover of its own changes nothing behind its back. -/
def ChildLaunch.moved (stage : ChildLaunchStage) (launch : ChildLaunch) : ChildLaunch :=
  { launch with
    stage := stage
    changed := launch.stage.takeover?.isSome && launch.changed }

/-- The lease that a launch has won with a step, before it has moved it. -/
def ChildLaunchStage.claimedBy : ChildLaunchStage → ChildLaunchStage → List String
  | .unleased, .launching lease | .relaunchable _, .launching lease => [lease.leaseId]
  | _, _ => []

/-- The lease that a launch has taken over with a step, to resume its run. -/
def ChildLaunchStage.resumedBy : ChildLaunchStage → ChildLaunchStage → List String
  | .resuming lease, .holding _ _ => [lease.leaseId]
  | _, _ => []

/-- The lease of the child whose workflow a step launches, or resumes. -/
def ChildLaunchStage.dispatchedBy (resumed : Bool) : ChildLaunchStage → List String
  | .holding takeover .dispatching =>
    if takeover.resumed = resumed then [takeover.lease.leaseId] else []
  | _ => []

/-- The ledger, after a launch has gone from one stage to another. -/
def LaunchLedger.record (ledger : LaunchLedger) (db db' : LeaseTable)
    (before after : ChildLaunchStage) : LaunchLedger where
  claimed := ledger.claimed ++ before.claimedBy after
  started := ledger.started ++ startedBy db db'
  resumed := ledger.resumed ++ before.resumedBy after
  launchedChildren := ledger.launchedChildren ++ before.dispatchedBy false
  resumedChildren := ledger.resumedChildren ++ before.dispatchedBy true

def LeaseReply.claimed : LeaseReply → List String
  | .claim (some lease) => [lease.leaseId]
  | _ => []

def launchStep (world : LaunchWorld) : LaunchStep → LaunchWorld
  | .begin selection => { world with launches := world.launches ++ [{ selection }] }
  | .advance index answers =>
    match world.launches[index]? with
    | none => world
    | some launch =>
      let (stage, leases) := advanceLaunch launch.selection answers world.leases launch.stage
      { leases
        launches := (world.launches.map (ChildLaunch.watch world.leases leases)).set index
          (launch.moved stage)
        ledger := world.ledger.record world.leases leases launch.stage stage }
  | .daemon call =>
    let (reply, leases) := leaseStep world.leases call.call
    { leases
      launches := world.launches.map (ChildLaunch.watch world.leases leases)
      ledger := { world.ledger with
        claimed := world.ledger.claimed ++ reply.claimed
        started := world.ledger.started ++ startedBy world.leases leases } }

/-- Any number of orchestrators and daemons on one database. -/
def launchMachine : StateMachine LaunchWorld LaunchStep Unit where
  start world := world = {}
  step world call := ((), launchStep world call)

end Luther
