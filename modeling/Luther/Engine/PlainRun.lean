/-
A run as it is meant: without processes.

The run goes from step to step over the edges that fit the outcomes.  It has a context that the
steps write to, the counts of its limited edges, and the ways that it has gone; in a cleanup step
the last of these names the failure that is cleaned up after.  Nothing is written down but the
leases, and nothing is read back.
-/
import Luther.Engine.TransitionLoop

namespace Luther

open Sql

/-! ### Without reasons -/

/-- The outcome without the reason that is given for a failure. -/
def RunOutcome.bare : RunOutcome → RunOutcome
  | failure step _ => failure step ""
  | abandoned step _ => abandoned step ""
  | outcome => outcome

/-- The end of a pass without the reason. -/
def PassResult.bare : PassResult → PassResult
  | returned result => returned (result.map RunOutcome.bare)
  | exceeded next limit outcome => exceeded next limit outcome.bare
  | advanced outcome => advanced outcome

/-! ### What a pass does, without a registry -/

section Pass

variable (cfg : RunnerConfig)

/-- The context with which a step is begun: a cleanup step knows the failure that led to it. -/
def beginStep (current : String) (last : Option Traversal) (context : StepContext) :
    StepContext :=
  let context := context.setCurrentStepId current
  match isFailureCleanupStep cfg.workflowType current, last with
  | true, some u =>
    (context.set "failed_work_step" u.from).set "failed_work_outcome" u.outcome.asConditionStr
  | _, _ => context

/-- The heartbeat of the run's lease. -/
def beatLeases (now : Timestamp) (leases : LeaseTable) : LeaseTable :=
  match leaseAuthority cfg (buildMetadata cfg .starting) with
  | none => leases
  | some (repository, issueNumber) =>
    match getLeaseForIssue leases repository issueNumber with
    | .ok (some lease) =>
      if lease.runId = some cfg.runId then
        (touchOwnedRunningLeaseHeartbeat now lease.leaseId cfg.runId leases).2
      else leases
    | _ => leases

/-- What the result of a step makes of the run's lease. -/
def settleLeases (input : LoopInput) (current : String) (outcome : StepOutcome)
    (nextStep : Option String) (leases : LeaseTable) : Except EngineError LeaseTable :=
  let md := buildMetadata cfg .starting
  if (verifyFailureCleanupWorkspace cfg input outcome nextStep).isSome then
    failOwnedLeaseForOwnershipDenial cfg input.now md leases
  else if failsInto cfg.workflowType outcome nextStep
      || isFailureCleanupStep cfg.workflowType current then
    protectFailureCleanupLease cfg input.now md leases
  else .ok leases

/-- An outcome as it is recorded: a merge that cannot be completed is an error. -/
def completion (input : LoopInput) (outcome : RunOutcome) : Except EngineError RunOutcome :=
  match input.mergeCompletion with
  | .other debugText =>
    if statusForCompletion outcome cfg.mergeRequired = .reviewReady then
      .error (.persistenceError s!"typed merge completion failed: {debugText}")
    else .ok outcome.bare
  | _ => .ok outcome.bare

/-- The end of a run in a step that no edge leaves. -/
def endRun (input : LoopInput) (current : String) (last : Option Traversal)
    (outcome : StepOutcome) : Except EngineError RunOutcome :=
  if isFailureCleanupStep cfg.workflowType current then
    let failedStep := (last.map Traversal.from).getD ""
    .ok (if outcome = .success then .abandoned failedStep "" else .failure failedStep "")
  else if outcome = .abandon then .ok (.abandoned current "")
  else if outcome = .wait then
    completion cfg input
      (.waitingExternal current "External condition still pending at watch limit")
  else completion cfg input (runOutcomeWithoutTransition current outcome)

/-- The counts after an edge, or the limit that it has reached. -/
def countEdge (current next : String) (outcome : StepOutcome) (counts : List (String × UInt32)) :
    Except UInt32 (List (String × UInt32)) :=
  let transition := findTransition cfg.workflowType current outcome
  if isLimitedTransition cfg.workflowType current next transition then
    let key := edgeKey current next
    if edgeLimit cfg transition ≤ edgeCount counts key then .error (edgeLimit cfg transition)
    else .ok (Assoc.insert key (edgeCount counts key + 1) counts)
  else .ok counts

end Pass

/-! ### The run -/

/-- The state of a run. -/
structure PlainRun where
  current : String
  context : StepContext
  counts : List (String × UInt32)
  leases : LeaseTable
  executed : List String := []
  traversals : List Traversal := []
  ended : Option PassResult := none

namespace PlainRun

/-- A pass that ends the run. -/
def endWith (result : PassResult) (v : PlainRun) : PlainRun := { v with ended := some result }

/-- A pass over an edge. -/
def follow (outcome : StepOutcome) (next : String) (context : StepContext)
    (counts : List (String × UInt32)) (leases : LeaseTable) (v : PlainRun) : PlainRun :=
  { v with
    current := next
    context := context
    counts := counts
    leases := leases
    traversals := v.traversals ++ [⟨v.current, outcome, next⟩] }

section

variable (cfg : RunnerConfig)

/-- What comes after the result of a step. -/
def settle (input : LoopInput) (outcome : StepOutcome) (nextStep : Option String)
    (context : StepContext) (leases : LeaseTable) (v : PlainRun) : PlainRun :=
  if (verifyFailureCleanupWorkspace cfg input outcome nextStep).isSome then
    v.endWith (.returned (.ok (.failure v.current "")))
  else
    match nextStep with
    | none => v.endWith (.returned (endRun cfg input v.current v.traversals.getLast? outcome))
    | some next =>
      match countEdge cfg v.current next outcome v.counts with
      | .error limit => v.endWith (.exceeded next limit (.abandoned v.current ""))
      | .ok counts => v.follow outcome next context counts leases

/-- The step that comes after the current one. -/
def nextStep (outcome : StepOutcome) (v : PlainRun) : Option String :=
  if outcome = .abandon then none
  else resolveTransitionSchema v.current outcome cfg.workflowType.transitions

/-- A pass. -/
def pass (input : LoopInput) (v : PlainRun) : PlainRun :=
  match executeCurrentStep cfg input v.current
      (beginStep cfg v.current v.traversals.getLast? v.context) with
  | (.error e, _) => v.endWith (.returned (.error e))
  | (.ok outcome, context) =>
    match settleLeases cfg input v.current outcome (v.nextStep cfg outcome)
        (beatLeases cfg input.now v.leases) with
    | .error e => v.endWith (.returned (.error e))
    | .ok leases => v.settle cfg input outcome (v.nextStep cfg outcome) context leases

/-- A run, and its passes. -/
def machine : StateMachine PlainRun LoopInput Unit where
  start v := v.executed = [] ∧ v.traversals = [] ∧ v.ended = none
  step v input := ((), if v.ended.isSome then v
    else { v.pass cfg input with executed := v.executed ++ [v.current] })

/-- The plain run of a workflow from its first step. -/
def first (leases : LeaseTable) : PlainRun where
  current := firstStep cfg
  context := buildStepContext cfg
  counts := []
  leases := leases

end

end PlainRun

/-! ### The calls of a session -/

/-- What a call meets. -/
def SessionCall.input : SessionCall → LoopInput
  | pass input => input
  | interruptAndResume input _ => input

/-- The pass that a call is, where it is one. -/
def SessionCall.pass? : SessionCall → Option LoopInput
  | pass input => some { input with interruptedBefore := false, interruptedAfter := false }
  | interruptAndResume _ _ => none

/-- A call that is a pass. -/
def SessionCall.isPass (call : SessionCall) : Bool := call.pass?.isSome

end Luther
