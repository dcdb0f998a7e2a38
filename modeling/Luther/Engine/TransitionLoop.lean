/-
The transition loop, and the processes that run it.

One pass of the loop executes a step, writes its result down and goes over an edge to
the next step, or ends the run.  A run that was interrupted is gone on with by another
process, which knows what is in the database and nothing else.

Beside the runner there is kept what it has done so far: the steps it executed and the
edges it went over.  The runner does not read this.
-/
import Luther.Engine.FailureCleanup

namespace Luther

open Sql

/-! ### Executing a step -/

section

variable (cfg : RunnerConfig)

def prepareStepStart (now : Timestamp) (currentStep : String) (r : Runner) :
    Except EngineError Unit × Runner :=
  let begin (r : Runner) : Except EngineError Unit × Runner :=
    let r := heartbeatOwnedLease cfg now r
    (.ok (), r.updateMetadata cfg fun md =>
      (md.setCurrentStep now currentStep).setNextStepCandidates now
        (computeNextStepCandidates cfg currentStep))
  let r := { r with context := r.context.setCurrentStepId currentStep }
  if isFailureCleanupStep cfg.workflowType currentStep then
    match r.failedWork cfg with
    | none =>
      (.error (.persistenceError
        "failure cleanup cannot start without failed-work provenance"), r)
    | some failure =>
      begin { r with
        context := (r.context.set "failed_work_step" failure.failedStep).set
          "failed_work_outcome" failure.failureOutcome }
  else begin r

def findStep (wf : WorkflowType) (stepId : String) : Option StepDef :=
  wf.steps.find? fun step => step.stepId == stepId

section

variable (input : LoopInput)

/-- `execute_step`: the executor of the step's type. -/
def executeStep (stepId : String)
    (context : StepContext) : Except EngineError StepOutcome × StepContext :=
  match findStep cfg.workflowType stepId with
  | none => (.error (.stepNotFound stepId), context)
  | some step =>
    if cfg.registered step.stepType then input.execute step context
    else
      (.error (.stepExecutionError step.stepType
        s!"No executor registered for step type '{step.stepType}'"), context)

def isRegisteredStepType (stepId : String) : Bool :=
  match findStep cfg.workflowType stepId with
  | some step => cfg.registered step.stepType
  | none => false

/-- What the loop makes of an executor's error: an outcome, where a tool or the step itself
failed. -/
def executeCurrentStep (stepId : String)
    (context : StepContext) : Except EngineError StepOutcome × StepContext :=
  match executeStep cfg input stepId context with
  | (.ok outcome, context) => (.ok outcome, context)
  | (.error (.stepExecutionError failed message), context) =>
    let error : EngineError := .stepExecutionError failed message
    if isRegisteredStepType cfg stepId then (.ok .fatal, context.set "diagnostic" error.text)
    else (.error error, context)
  | (.error (.toolUnavailable message), context) =>
    (.ok .fatal, context.set "diagnostic" (EngineError.toolUnavailable message).text)
  | (.error e, context) => (.error e, context)

/-! ### One pass of the loop -/

def interruptAtStep (currentStep : String) (r : Runner) : RunOutcome × Runner :=
  let checkpoint := createCheckpoint cfg input.now currentStep "interrupted" r
  let r := { r with db := r.db.save checkpoint }
  let runOutcome : RunOutcome := .interrupted currentStep
  (runOutcome, (recordRunCompletion cfg input runOutcome currentStep r).2)

/-- How a pass ends. -/
inductive PassResult where
  | returned (result : Except EngineError RunOutcome)
  /-- The run ends because the edge to the next step has reached its limit. -/
  | exceeded (nextStep : String) (limit : UInt32) (outcome : RunOutcome)
  /-- The next step is the current one now. -/
  | advanced (outcome : StepOutcome)

/-- What the loop returns after the pass, if it does. -/
def PassResult.result? : PassResult → Option (Except EngineError RunOutcome)
  | returned result => some result
  | exceeded _ _ outcome => some (.ok outcome)
  | advanced _ => none

/-- The rest of a pass, when the result of the step is written down. -/
def followOutcome (outcome : StepOutcome)
    (nextStep : Option String) (r : Runner) : PassResult × Runner :=
  if r.terminalOwnershipFailure then
    match r.pendingFailureCleanup with
    | none =>
      (.returned (.error (.invalidState
        "terminal ownership failure recorded without provenance")), r)
    | some failure => (.returned (.ok (.failure failure.failedStep failure.failureReason)), r)
  else if outcome = .abandon then
    if isFailureCleanupStep cfg.workflowType r.currentState then
      let (result, r) := finishWithoutTransition cfg input r.currentState outcome r
      (.returned result, r)
    else
      let (runOutcome, r) := abandonAtStep cfg input r.currentState r
      (.returned (.ok runOutcome), r)
  else
    match nextStep with
    | none =>
      let (result, r) := finishWithoutTransition cfg input r.currentState outcome r
      (.returned result, r)
    | some next =>
      match enforceEdgeLimit cfg input r.currentState next outcome r with
      | (some (limit, runOutcome), r) => (.exceeded next limit runOutcome, r)
      | (none, r) => (.advanced outcome, { r with currentState := next })

/-- One pass of `run_transition_loop`. -/
def loopPass (r : Runner) : PassResult × Runner :=
  if input.interruptedBefore then
    let (runOutcome, r) := interruptAtStep cfg input r.currentState r
    (.returned (.ok runOutcome), r)
  else
    match prepareStepStart cfg input.now r.currentState r with
    | (.error e, r) => (.returned (.error e), r)
    | (.ok (), r) =>
      match executeCurrentStep cfg input r.currentState r.context with
      | (.error e, context) => (.returned (.error e), { r with context := context })
      | (.ok outcome, context) =>
        let r := { r with context := context }
        if input.interruptedAfter then
          let (runOutcome, r) := interruptAtStep cfg input r.currentState r
          (.returned (.ok runOutcome), r)
        else
          let nextStep :=
            if outcome = .abandon then none
            else resolveTransitionSchema r.currentState outcome cfg.workflowType.transitions
          match persistStepResult cfg input r.currentState outcome nextStep r with
          | (.error e, r) => (.returned (.error e), r)
          | (.ok (), r) => followOutcome cfg input outcome nextStep r

end

/-! ### The loop -/

/-- One way over an edge: from a step, with an outcome, to the next. -/
structure Traversal where
  «from» : String
  outcome : StepOutcome
  «to» : String
  deriving DecidableEq

/-- A runner in its loop, and what it has done. -/
structure LoopState where
  runner : Runner
  executed : List String := []
  traversals : List Traversal := []
  /-- How the last pass ended, if it ended the run. -/
  ended : Option PassResult := none

/-- A pass of the loop; nothing, once the loop has returned. -/
def loopStep (s : LoopState) (input : LoopInput) : LoopState :=
  if s.ended.isSome then s
  else
    let current := s.runner.currentState
    let executed := if input.interruptedBefore then s.executed else s.executed ++ [current]
    match loopPass cfg input s.runner with
    | (.advanced outcome, r) =>
      { s with
        runner := r
        executed := executed
        traversals := s.traversals ++ [⟨current, outcome, r.currentState⟩] }
    | (last, r) => { s with runner := r, executed := executed, ended := some last }

/-- `run_transition_loop`, from any runner on. -/
def loopMachine : StateMachine LoopState LoopInput Unit where
  start s := s.executed = [] ∧ s.traversals = [] ∧ s.ended = none
  step s input := ((), loopStep cfg s input)

def LoopState.result (s : LoopState) : Option (Except EngineError RunOutcome) :=
  s.ended.bind PassResult.result?

/-! ### Processes -/

def buildStepContext : StepContext :=
  (StepContext.build cfg.workDir cfg.runId).setAll cfg.seeds

def firstStep : String :=
  ((cfg.workflowType.steps.head?).map StepDef.stepId).getD ""

/-- `persist_initial_run`: a row for the run, unless it has one. -/
def persistInitialRun (r : Runner) : Runner :=
  if !cfg.persistRegistry then r
  else
    match r.loadMetadata cfg with
    | some _ => r
    | none =>
      r.persistMetadata { buildMetadata cfg .starting with
        currentStep := (cfg.workflowType.steps.head?).map StepDef.stepId }

/-- `with_db_path_and_context`: a runner on a database. -/
def withDbPathAndContext (db : RunnerDb) : Runner :=
  let counts : UInt32 × List (String × UInt32) :=
    match loadCheckpoint db.checkpoints cfg.runId with
    | some checkpoint =>
      (checkpoint.stateSnapshot.retryCount, checkpoint.stateSnapshot.edgeLoopCounts)
    | none => (0, [])
  persistInitialRun cfg
    { currentState := firstStep cfg
      retryCount := counts.1
      edgeLoopCounts := counts.2
      context := buildStepContext cfg
      pendingFailureCleanup := none
      terminalOwnershipFailure := false
      db := db }

def Runner.restored (stepId : String) (snapshot : StateSnapshot) (r : Runner) :
    Except EngineError Runner := do
  let context ← (r.context.restoreCheckpointValues snapshot.context).mapError
    fun e => EngineError.persistenceError e.text
  .ok { r with
    context := context
    currentState := stepId
    retryCount := snapshot.retryCount
    edgeLoopCounts := snapshot.edgeLoopCounts }

def unfinishedCleanup (r : Runner) : Option FailureCleanupState :=
  ((r.loadMetadata cfg).bind RunMetadata.failureCleanup).filter fun failure =>
    !failure.cleanupSucceeded

/-- `resume_from_checkpoint`: an unfinished cleanup first, else the newest checkpoint. -/
def resumeFromCheckpoint (r : Runner) : Except EngineError Runner :=
  match unfinishedCleanup cfg r with
  | some failure =>
    if failure.ownershipDenied then
      .error (.invalidState
        (s!"run {cfg.runId} terminated with a workspace ownership denial and cannot resume "
          ++ s!"into cleanup step {failure.cleanupStep}; "
          ++ "cleanup cannot execute in an unowned workspace"))
    else do
      let r ← r.restored failure.cleanupStep failure.failedStateSnapshot
      .ok { r with pendingFailureCleanup := some failure }
  | none =>
    match loadCheckpoint r.db.checkpoints cfg.runId with
    | some checkpoint => r.restored checkpoint.stepId checkpoint.stateSnapshot
    | none => .ok r

def markRunStarted (now : Timestamp) (r : Runner) : Runner :=
  r.updateMetadata cfg (RunMetadata.markStarted now)

/-- The runner of a process on a database, where its loop begins. -/
def startProcess (now : Timestamp) (db : RunnerDb) : Except EngineError Runner := do
  let r ← resumeFromCheckpoint cfg (withDbPathAndContext cfg db)
  .ok (markRunStarted cfg now r)

/-- What happens to a run: a pass of its loop, or an interrupt at the head of the loop, after
which another process goes on with the run. -/
inductive SessionCall where
  | pass (input : LoopInput)
  | interruptAndResume (input : LoopInput) (resumedAt : Timestamp)

def sessionStep (s : LoopState) : SessionCall → LoopState
  | .pass input =>
    loopStep cfg s { input with interruptedBefore := false, interruptedAfter := false }
  | .interruptAndResume input resumedAt =>
    let interrupted := loopStep cfg s { input with interruptedBefore := true }
    if s.ended.isSome then s
    else
      match startProcess cfg resumedAt interrupted.runner.db with
      | .ok r => { interrupted with runner := r, ended := none }
      | .error e => { interrupted with ended := some (.returned (.error e)) }

/-- The database has nothing of the run. -/
structure RunnerDb.Fresh (runId : String) (db : RunnerDb) : Prop where
  checkpoints : ∀ row ∈ db.checkpoints, row.runId ≠ runId
  runs : ∀ md ∈ db.runs, md.runId ≠ runId

/-- One run, from a database that has nothing of it, over any number of processes. -/
def sessionMachine : StateMachine LoopState SessionCall Unit where
  start s := ∃ db now r, db.Fresh cfg.runId ∧ startProcess cfg now db = .ok r ∧ s = { runner := r }
  step s call := ((), sessionStep cfg s call)

end

end Luther
