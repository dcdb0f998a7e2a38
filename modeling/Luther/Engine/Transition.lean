/-
Where a run goes from a step.

The transitions are looked through in their order, and the first one from the step
whose condition is the outcome is taken; a transition without a condition is for
success.
-/
import Luther.Workflow.Schema

namespace Luther

/-- Outcome of executing a single workflow step. -/
inductive StepOutcome where
  | success
  | retryable
  | fatal
  | fixable
  | abandon
  | wait
  deriving DecidableEq

namespace StepOutcome

def asConditionStr : StepOutcome → String
  | success => "success"
  | retryable => "retryable"
  | fatal => "fatal"
  | fixable => "fixable"
  | abandon => "abandon"
  | wait => "wait"

/-- The text `{:?}` prints. -/
def debugText : StepOutcome → String
  | success => "Success"
  | retryable => "Retryable"
  | fatal => "Fatal"
  | fixable => "Fixable"
  | abandon => "Abandon"
  | wait => "Wait"

end StepOutcome

/-- The transition applies to a step that ended with the outcome. -/
def TransitionDef.appliesTo (step : String) (outcome : StepOutcome) (t : TransitionDef) : Bool :=
  t.from == step &&
    match t.condition with
    | some cond => cond == outcome.asConditionStr
    | none => outcome == .success

/-- `resolve_transition_schema`: the step that comes next. -/
def resolveTransitionSchema (step : String) (outcome : StepOutcome)
    (transitions : List TransitionDef) : Option String :=
  (transitions.find? (TransitionDef.appliesTo step outcome)).map TransitionDef.to

end Luther
