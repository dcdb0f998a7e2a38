/-
Graph-structural validation of a workflow.

A workflow whose routing is unsafe is refused before an engine is built for it.  Every
check adds its errors to one list, and a workflow is accepted when the list stays empty.
-/
import Luther.Lib.Assoc
import Luther.Lib.Walk
import Luther.Workflow.Schema

namespace Luther

/-- Entry point of the post-PR portion of the graph. -/
def postPrEntry : String := "capture_pr_identity"

/-- The pre-PR cleanup terminal that post-PR routes must never target. -/
def prePrCleanupTerminal : String := "abandon_and_log"

/-- The post-PR failure terminal that fatal and retryable post-PR routes must target. -/
def postPrFailureTerminal : String := "post_pr_failure_terminal"

def requiredCollectors : List String := ["collect_ci_failures", "collect_coderabbit_feedback"]

/-- The step type marking the PR remediation iteration guard. -/
def postPrIterationGuard : String := "post_pr_iteration_guard"

/-- The parameter that caps post-PR remediation loop iterations. -/
def remediationCapParam : String := "max_post_pr_remediation_iterations"

/-- Classification of graph-structural validation errors. -/
inductive GraphErrorCategory where
  | danglingTransition
  | duplicateOutcome
  | unreachableStep
  | unsafePostPrRoute
  | missingRequiredCollector
  | missingLoopLimit
  | terminalHasOutgoing
  | invalidFailureCleanup
  | missingRemediationCap
  deriving DecidableEq

/-- A single graph-structural validation error. -/
structure GraphValidationError where
  stepId : Option String
  detail : String
  category : GraphErrorCategory
  deriving DecidableEq

def effectiveCondition (condition : Option String) : String := condition.getD "success"

section

variable (wf : WorkflowType)

def stepIdSet : List String := wf.steps.map StepDef.stepId

/-! ### The checks -/

def validateTransitionsReferenceValidSteps : List GraphValidationError :=
  wf.transitions.flatMap fun t =>
    (if (stepIdSet wf).contains t.from then []
     else [{ stepId := some t.from
             detail := (s!"dangling transition source: step '{t.from}' "
               ++ "referenced by a transition does not exist")
             category := .danglingTransition }])
    ++ (if (stepIdSet wf).contains t.to then []
        else [{ stepId := some t.from
                detail := (s!"dangling transition target: step '{t.to}' "
                  ++ s!"referenced by transition from '{t.from}' does not exist")
                category := .danglingTransition }])

/-- The loop of `validate_no_duplicate_outcomes`, from what has been seen so far. -/
def duplicateOutcomes (seen : List ((String × String) × String)) :
    List TransitionDef → List GraphValidationError
  | [] => []
  | t :: rest =>
    let condition := effectiveCondition t.condition
    match seen.lookup (t.from, condition) with
    | some previous =>
      (if previous = t.to then []
       else [{ stepId := some t.from
               detail := (s!"duplicate post-PR transition branch for {t.from} "
                 ++ s!"outcome {condition}: {previous} and {t.to}")
               category := .duplicateOutcome }])
      ++ duplicateOutcomes seen rest
    | none => duplicateOutcomes (Assoc.insert (t.from, condition) t.to seen) rest

/-- `validate_no_duplicate_outcomes`: two branches for one outcome may not differ. -/
def validateNoDuplicateOutcomes : List GraphValidationError :=
  duplicateOutcomes [] wf.transitions

def computeReachableSteps (start : String) : List String :=
  Walk.reachable (wf.transitions.map fun t => (t.from, t.to)) start

/-- `validate_all_steps_reachable`: a step without any edges is not asked to be. -/
def validateAllStepsReachable : List GraphValidationError :=
  match wf.steps.head? with
  | none => []
  | some entry =>
    let reachable := computeReachableSteps wf entry.stepId
    wf.steps.flatMap fun step =>
      let hasIncoming := wf.transitions.any fun t => t.to == step.stepId
      let hasOutgoing := wf.transitions.any fun t => t.from == step.stepId
      if reachable.contains step.stepId || (!hasIncoming && !hasOutgoing) then []
      else [{ stepId := some step.stepId
              detail := (s!"unreachable required step: '{step.stepId}' "
                ++ s!"cannot be reached from entry step '{entry.stepId}'")
              category := .unreachableStep }]

def isPostPrGraph : Bool :=
  (wf.steps.any fun step => step.stepId == postPrEntry)
    || wf.transitions.any fun t => t.from == postPrEntry || t.to == postPrEntry

/-- What is wrong with a route of the post-PR portion. -/
def postPrRouteErrors (t : TransitionDef) : List GraphValidationError :=
  (if t.to = prePrCleanupTerminal then
     [{ stepId := some t.from
        detail := s!"post-PR route {t.from} -> abandon_and_log is forbidden"
        category := .unsafePostPrRoute }]
   else [])
  ++ (if t.condition = some "abandon" then
        [{ stepId := some t.from
           detail := s!"post-PR route {t.from} uses abandon outcome"
           category := .unsafePostPrRoute }]
      else [])
  ++ (if (t.condition = some "fatal" ∨ t.condition = some "retryable")
          ∧ t.to ≠ postPrFailureTerminal ∧ t.from ≠ "watch_pr_checks" then
        [{ stepId := some t.from
           detail := (s!"post-PR non-success route {t.from} "
             ++ s!"--{effectiveCondition t.condition}--> {t.to} "
             ++ "must target post_pr_failure_terminal")
           category := .unsafePostPrRoute }]
      else [])

def validatePostPrRoutes : List GraphValidationError :=
  if isPostPrGraph wf then
    let reachable := computeReachableSteps wf postPrEntry
    (wf.transitions.filter fun t => reachable.contains t.from).flatMap postPrRouteErrors
  else []

def validateRequiredCollectorsPresentAndReachable : List GraphValidationError :=
  if isPostPrGraph wf then
    let reachable := computeReachableSteps wf postPrEntry
    requiredCollectors.flatMap fun collector =>
      if !(stepIdSet wf).contains collector then
        [{ stepId := some collector
           detail := s!"required collector step '{collector}' is missing from the post-PR graph"
           category := .missingRequiredCollector }]
      else if !reachable.contains collector then
        [{ stepId := some collector
           detail := (s!"required collector step '{collector}' "
             ++ s!"is unreachable from post-PR entry '{postPrEntry}'")
           category := .missingRequiredCollector }]
      else []
  else []

/-- `is_terminal_step`: declared, or by the type that has always been terminal. -/
def isTerminalStep (step : StepDef) : Bool :=
  step.terminal == some true || step.stepType == postPrFailureTerminal

/-- The index of every step id: of a repeated one, the last. -/
def indexOf : List (String × Nat) :=
  (wf.steps.zipIdx.map fun e => (e.1.stepId, e.2)).foldl (fun m e => Assoc.insert e.1 e.2 m) []

def validateLoopBackLimits : List GraphValidationError :=
  wf.transitions.flatMap fun t =>
    match (indexOf wf).lookup t.from, (indexOf wf).lookup t.to with
    | some fromIdx, some toIdx =>
      if toIdx ≤ fromIdx ∧ t.maxIterations = none then
        [{ stepId := some t.from
           detail := (s!"loop-back transition {t.from} "
             ++ s!"--{effectiveCondition t.condition}--> {t.to} "
             ++ "must declare an explicit max_iterations")
           category := .missingLoopLimit }]
      else []
    | _, _ => []

def validateTerminalSteps : List GraphValidationError :=
  (wf.steps.filter isTerminalStep).flatMap fun step =>
    (wf.transitions.filter fun t => t.from == step.stepId).map fun t =>
      { stepId := some step.stepId
        detail := (s!"terminal step '{step.stepId}' "
          ++ s!"must not declare an outgoing transition to '{t.to}'")
        category := .terminalHasOutgoing }

def isFailureCondition (condition : Option String) : Bool :=
  condition == some "fatal" || condition == some "retryable" || condition == some "fixable"

/-- What is wrong with a step of the cleanup type. -/
def failureCleanupErrors (step : StepDef) : List GraphValidationError :=
  let incoming := wf.transitions.filter fun t => t.to == step.stepId
  (if step.terminal = some true then []
   else [{ stepId := some step.stepId
           detail := s!"failure_cleanup step '{step.stepId}' must declare terminal = true"
           category := .invalidFailureCleanup }])
  ++ (if (wf.steps.head?).map StepDef.stepId = some step.stepId then
        [{ stepId := some step.stepId
           detail := s!"failure_cleanup step '{step.stepId}' must not be the initial step"
           category := .invalidFailureCleanup }]
      else [])
  ++ (if incoming.isEmpty then
        [{ stepId := some step.stepId
           detail := (s!"failure_cleanup step '{step.stepId}' "
             ++ "requires at least one incoming failure transition")
           category := .invalidFailureCleanup }]
      else [])
  ++ incoming.flatMap fun t =>
      if isFailureCondition t.condition then []
      else [{ stepId := some step.stepId
              detail := (s!"failure_cleanup step '{step.stepId}' "
                ++ s!"requires an explicit failure outcome transition from '{t.from}'")
              category := .invalidFailureCleanup }]

def validateFailureCleanupSteps : List GraphValidationError :=
  (wf.steps.filter fun step => step.stepType == "failure_cleanup").flatMap
    (failureCleanupErrors wf)

/-- `validate_pr_remediation_caps`: the cap must be there, and positive. -/
def validatePrRemediationCaps : List GraphValidationError :=
  (wf.steps.filter fun step => step.stepType == postPrIterationGuard).flatMap fun step =>
    let cap := (step.parameters.bind (Json.get? remediationCapParam)).bind Json.asU64?
    if cap.any (0 < ·) then []
    else [{ stepId := some step.stepId
            detail := (s!"post_pr_iteration_guard step '{step.stepId}' "
              ++ s!"must declare a positive {remediationCapParam}")
            category := .missingRemediationCap }]

/-- `validate_workflow_graph`: nothing is wrong, or everything that is. -/
def validateWorkflowGraph : Except (List GraphValidationError) Unit :=
  let errors := validateTransitionsReferenceValidSteps wf
    ++ validateNoDuplicateOutcomes wf
    ++ validateAllStepsReachable wf
    ++ validatePostPrRoutes wf
    ++ validateRequiredCollectorsPresentAndReachable wf
    ++ validateLoopBackLimits wf
    ++ validateTerminalSteps wf
    ++ validateFailureCleanupSteps wf
    ++ validatePrRemediationCaps wf
  if errors.isEmpty then .ok () else .error errors

end

end Luther
