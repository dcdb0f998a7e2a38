/-
The part of a workflow definition that the engine's own decisions read.

What a step does is in its parameters and its type, and belongs to the step's
executor.  Where a run goes from a step, whether the step ends the run and how the
step is recovered are declared here.
-/
import Luther.Lib.Json

namespace Luther

/-- Recovery policy declared on a canonical step definition. -/
inductive StepRecoveryPolicy where
  /-- Safe to re-run from scratch. -/
  | pureReenter
  /-- Re-running yields identical effects. -/
  | idempotent
  /-- Reconcile observed state, then re-enter. -/
  | reconcileThenReenter
  /-- Resume in place after exact verification. -/
  | continueWorkspace
  /-- Undo the prior partial effect, then retry. -/
  | compensateThenRetry
  /-- Fail closed. -/
  | nonRecoverable

/-- Definition of a step within a workflow. -/
structure StepDef where
  stepId : String
  stepType : String
  parameters : Option Json := none
  /-- Whether the step is marked as ending the run. -/
  terminal : Option Bool := none
  recoveryPolicy : Option StepRecoveryPolicy := none

/-- Definition of a transition between steps. -/
structure TransitionDef where
  «from» : String
  «to» : String
  condition : Option String := none
  maxIterations : Option UInt32 := none
  deriving DecidableEq

structure WorkflowType where
  workflowTypeId : String
  steps : List StepDef
  transitions : List TransitionDef := []

end Luther
