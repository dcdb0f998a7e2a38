/-
A runner: the state of one run while it is executed.

The runner holds what the run has become so far and the database it writes to.  What
it does not decide itself (when an interrupt comes, what an executor does, who owns
the workspace, whether the pull request has been merged) is an input, one for each
pass of the loop.
-/
import Luther.Engine.StepContext
import Luther.Engine.Transition
import Luther.Persistence.Leases
import Luther.Persistence.RunMetadata
import Mathlib.Data.UInt

namespace Luther

open Sql

/-- Why the loop stops with an error. -/
inductive EngineError where
  | stepExecutionError (stepId message : String)
  | transitionNotFound (stepId : String) (outcome : StepOutcome)
  | loopLimitExceeded (stepId : String)
  | retryLimitExceeded (stepId : String)
  | persistenceError (text : String)
  | invalidState (text : String)
  | stepNotFound (stepId : String)
  | toolUnavailable (message : String)
  | ownershipFailure (failedStep reason : String)
  deriving DecidableEq

def EngineError.text : EngineError → String
  | stepExecutionError stepId message => s!"step execution failed: {stepId} - {message}"
  | transitionNotFound stepId outcome =>
    s!"transition not found from {stepId} with outcome {outcome.debugText}"
  | loopLimitExceeded stepId => s!"loop limit exceeded at step {stepId}"
  | retryLimitExceeded stepId => s!"retry limit exceeded for step {stepId}"
  | persistenceError text => s!"persistence error: {text}"
  | invalidState text => s!"invalid state: {text}"
  | stepNotFound stepId => s!"step not found: {stepId}"
  | toolUnavailable message => message
  | ownershipFailure failedStep reason =>
    s!"workspace ownership failure before cleanup step {failedStep}: {reason}"

/-- How a run ends. -/
inductive RunOutcome where
  | success
  | failure (stepId reason : String)
  | abandoned (stepId reason : String)
  | interrupted (stepId : String)
  | waitingExternal (stepId reason : String)
  deriving DecidableEq

/-- What the completed merge is found to be. -/
inductive MergeCompletionOutcome where
  | merged
  | notYetMerged
  /-- Anything else, as `{:?}` prints it. -/
  | other (debugText : String)

/-- What a runner is built with. -/
structure RunnerConfig where
  workflowType : WorkflowType
  runId : String
  /-- `guard_limits.max_iterations`, or ten. -/
  maxLoops : UInt32
  mergeRequired : Bool
  /-- The run belongs to a daemon's claim. -/
  daemonManaged : Bool
  /-- A database path was given, so the run registry is kept. -/
  persistRegistry : Bool
  /-- The step types that have an executor. -/
  registered : String → Bool
  workDir : String
  /-- The variables that `build_step_context` sets, in order. -/
  seeds : List (String × String)
  processPid : UInt32
  repository : Option String
  issueNumber : Option Int
  prNumber : Option Int
  headSha : Option String

/-- The tables a runner reads and writes. -/
structure RunnerDb where
  checkpoints : CheckpointTable
  runs : RunTable
  leases : LeaseTable

/-- The state of a runner, and its database. -/
structure Runner where
  /-- The step that is executed next. -/
  currentState : String
  retryCount : UInt32
  edgeLoopCounts : List (String × UInt32)
  context : StepContext
  pendingFailureCleanup : Option FailureCleanupState
  terminalOwnershipFailure : Bool
  db : RunnerDb

/-- What one pass of the loop meets. -/
structure LoopInput where
  /-- The interrupt flag, when the pass begins and after its step. -/
  interruptedBefore : Bool
  interruptedAfter : Bool
  now : Timestamp
  execute : StepDef → StepContext → Except EngineError StepOutcome × StepContext
  /-- The workspace carries evidence of an owner. -/
  ownershipEvidence : Bool
  /-- Why the workspace is not the run's, if it is not. -/
  ownershipRejection : Option String
  mergeCompletion : MergeCompletionOutcome

/-! ### The registry -/

namespace Runner

def loadMetadata (cfg : RunnerConfig) (r : Runner) : Option RunMetadata :=
  getRun r.db.runs cfg.runId

def persistMetadata (md : RunMetadata) (r : Runner) : Runner :=
  { r with db := { r.db with runs := persistRun md r.db.runs } }

/-- Loads the row, changes it and writes it back, where the registry is kept and has the run. -/
def updateMetadata (cfg : RunnerConfig) (f : RunMetadata → RunMetadata) (r : Runner) : Runner :=
  if cfg.persistRegistry then
    match r.loadMetadata cfg with
    | some md => r.persistMetadata (f md)
    | none => r
  else r

/-- The failure that a cleanup step is about: the registry's record, or the runner's. -/
def failedWork (cfg : RunnerConfig) (r : Runner) : Option FailureCleanupState :=
  ((r.loadMetadata cfg).bind RunMetadata.failureCleanup).or r.pendingFailureCleanup

end Runner

section

variable (cfg : RunnerConfig)

def buildMetadata (status : RunStatus) : RunMetadata where
  runId := cfg.runId
  status := status
  repository := cfg.repository
  issueNumber := cfg.issueNumber
  prNumber := cfg.prNumber
  headSha := cfg.headSha
  processPid := some cfg.processPid

def heartbeatOwnedLease (now : Timestamp) (r : Runner) : Runner :=
  if !cfg.daemonManaged then r
  else
    match r.loadMetadata cfg with
    | none => r
    | some md =>
      match md.repository, md.issueLeaseNumber with
      | some repository, some issueNumber =>
        match getLeaseForIssue r.db.leases repository issueNumber with
        | .ok (some lease) =>
          if lease.runId = some cfg.runId then
            let touched :=
              touchOwnedRunningLeaseHeartbeat now lease.leaseId cfg.runId r.db.leases
            { r with db := { r.db with leases := touched.2 } }
          else r
        | _ => r
      | _, _ => r

/-! ### Checkpoints -/

/-- `loop_count`: the sum of the counts, in 32 bits. -/
def loopCount (edgeLoopCounts : List (String × UInt32)) : UInt32 :=
  (edgeLoopCounts.map Prod.snd).sum

def createCheckpoint (now : Timestamp) (stepId status : String) (r : Runner) : Checkpoint where
  runId := cfg.runId
  stepId := stepId
  stateSnapshot :=
    { retryCount := r.retryCount
      loopCount := loopCount r.edgeLoopCounts
      edgeLoopCounts := r.edgeLoopCounts
      context := r.context.checkpointValues
      status := status }
  timestamp := now

def RunnerDb.save (checkpoint : Checkpoint) (db : RunnerDb) : RunnerDb :=
  { db with checkpoints := saveCheckpoint checkpoint db.checkpoints }

def checkpointId (checkpoint : Checkpoint) : String :=
  s!"{checkpoint.stepId}@{checkpoint.timestamp.toRfc3339}"

/-! ### Edges -/

/-- `compute_next_step_candidates`: for all outcomes, without repetition. -/
def computeNextStepCandidates (stepId : String) : List String :=
  let outcomes : List StepOutcome := [.success, .fixable, .fatal, .retryable, .abandon, .wait]
  outcomes.foldl (fun candidates outcome =>
    match resolveTransitionSchema stepId outcome cfg.workflowType.transitions with
    | some next => if candidates.contains next then candidates else candidates ++ [next]
    | none => candidates) []

end

section

variable (wf : WorkflowType)

/-- `find_transition`: the transition from the step for the outcome. -/
def findTransition (step : String) (outcome : StepOutcome) : Option TransitionDef :=
  wf.transitions.find? (TransitionDef.appliesTo step outcome)

def stepPosition (stepId : String) : Option Nat :=
  wf.steps.findIdx? fun step => step.stepId == stepId

/-- `is_loop_back`: the next step does not stand behind the current one. -/
def isLoopBack (currentStep nextStep : String) : Bool :=
  match stepPosition wf currentStep, stepPosition wf nextStep with
  | some curr, some next => next ≤ curr
  | _, _ => false

def isLimitedTransition (currentStep nextStep : String)
    (transition : Option TransitionDef) : Bool :=
  isLoopBack wf currentStep nextStep || (transition.bind TransitionDef.maxIterations).isSome

end

def edgeKey (currentStep nextStep : String) : String := s!"{currentStep}:{nextStep}"

def edgeLimit (cfg : RunnerConfig) (transition : Option TransitionDef) : UInt32 :=
  (transition.bind TransitionDef.maxIterations).getD cfg.maxLoops

def edgeCount (edgeLoopCounts : List (String × UInt32)) (key : String) : UInt32 :=
  (edgeLoopCounts.lookup key).getD 0

/-! ### Completion -/

def statusForCompletion (outcome : RunOutcome) (mergeRequired : Bool) : RunStatus :=
  match outcome with
  | .success => if mergeRequired then .reviewReady else .completed
  | .failure _ _ => .failed
  | .abandoned _ _ => .abandoned
  | .interrupted _ => .paused
  | .waitingExternal _ _ => .waitingExternal

/-- `record_run_completion`: the status of the run, and the merge of one that must be merged. -/
def recordRunCompletion (cfg : RunnerConfig) (input : LoopInput) (outcome : RunOutcome)
    (finalStepId : String) (r : Runner) : Except EngineError Unit × Runner :=
  if !cfg.persistRegistry then (.ok (), r)
  else
    let status := statusForCompletion outcome cfg.mergeRequired
    let metadata := (r.loadMetadata cfg).getD (buildMetadata cfg status)
    let metadata :=
      RunMetadata.setCurrentStep input.now finalStepId { metadata with status := status }
    let r := r.persistMetadata metadata
    if status = .reviewReady then
      match input.mergeCompletion with
      | .merged => (.ok (), r.persistMetadata { metadata with status := .merged })
      | .notYetMerged => (.ok (), r)
      | .other debugText =>
        (.error (.persistenceError s!"typed merge completion failed: {debugText}"), r)
    else (.ok (), r)

/-- `enforce_edge_limit`: counts a limited edge, or ends the run when its limit is reached. -/
def enforceEdgeLimit (cfg : RunnerConfig) (input : LoopInput) (currentStep nextStep : String)
    (outcome : StepOutcome) (r : Runner) : Option (UInt32 × RunOutcome) × Runner :=
  let transition := findTransition cfg.workflowType currentStep outcome
  if !isLimitedTransition cfg.workflowType currentStep nextStep transition then (none, r)
  else
    let key := edgeKey currentStep nextStep
    let limit := edgeLimit cfg transition
    let count := edgeCount r.edgeLoopCounts key
    if limit ≤ count then
      let runOutcome : RunOutcome := .abandoned currentStep
        s!"Per-edge loop limit ({limit}) exceeded on edge {key}"
      (some (limit, runOutcome), (recordRunCompletion cfg input runOutcome currentStep r).2)
    else
      (none, { r with edgeLoopCounts := Assoc.insert key (count + 1) r.edgeLoopCounts })

end Luther
