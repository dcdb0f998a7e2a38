/-
The plan of a remediation.

It is made of what is known of the pull request: the failures of its checks, what has become of
the feedback on it, and the last local verification.  Each finding goes to one list of the plan.
What has to be fixed needs a remediation; what only a person can judge stops the workflow.
-/
import Luther.Feedback.MarkerActions
import Luther.Remediation.PostPrTests
import Luther.Remediation.ResultValidation

namespace Luther

/-! ### The disposition of a finding -/

/-- How far a finding is right. -/
inductive FindingCorrectness where
  | blocker
  | high
  | medium
  | low
  | invalid
  deriving DecidableEq

def FindingCorrectness.fromStrLossy (value : String) : Option FindingCorrectness :=
  if value = "blocker" then some .blocker
  else if value = "high" then some .high
  else if value = "medium" then some .medium
  else if value = "low" then some .low
  else if value = "invalid" then some .invalid
  else none

/-- Where a finding is to be dealt with. -/
inductive FindingDeliveryScope where
  | requiredAcceptanceCriterion
  | regressionFromCurrentPatch
  | smallAdjacentFix
  | followUpIssue
  | userDecision

def FindingDeliveryScope.fromStrLossy (value : String) : Option FindingDeliveryScope :=
  if value = "required_acceptance_criterion" then some .requiredAcceptanceCriterion
  else if value = "regression_from_current_patch" then some .regressionFromCurrentPatch
  else if value = "small_adjacent_fix" then some .smallAdjacentFix
  else if value = "follow_up_issue" then some .followUpIssue
  else if value = "user_decision" then some .userDecision
  else none

/-- What is done about a finding. -/
inductive DispositionAction where
  | remediateNow
  | deferToFollowUp
  | blockForUserDecision
  | ignore

def dispositionAction (correctness : FindingCorrectness) (deliveryScope : FindingDeliveryScope) :
    DispositionAction :=
  if correctness = .invalid then .ignore
  else
    match deliveryScope with
    | .followUpIssue => .deferToFollowUp
    | .userDecision => .blockForUserDecision
    | .requiredAcceptanceCriterion | .regressionFromCurrentPatch => .remediateNow
    | .smallAdjacentFix => if correctness = .low then .deferToFollowUp else .remediateNow

def projectLegacyDecision (legacyDecision : String) : FindingCorrectness × FindingDeliveryScope :=
  if legacyDecision = "valid" then (.high, .requiredAcceptanceCriterion)
  else if legacyDecision = "invalid" then (.invalid, .followUpIssue)
  else if legacyDecision = "out_of_scope" then (.low, .followUpIssue)
  else (.medium, .userDecision)

def dispositionFromAcceptedResult (result : Json) : FindingCorrectness × FindingDeliveryScope :=
  let projected := projectLegacyDecision (stringField result "decision" "")
  (((result.text? "correctness").bind FindingCorrectness.fromStrLossy).getD projected.1,
    ((result.text? "delivery_scope").bind FindingDeliveryScope.fromStrLossy).getD projected.2)

/-! ### The items of a plan -/

def valueHasSummaryMarkerKey (value : Json) : Bool :=
  (value.text? "stable_marker_key").any isSummaryMarkerKey

/-- A field, or `null`. -/
def fieldOrNull (value : Json) (field : String) : Json := (value.get? field).getD .null

/-- `string_field` of the routing: an empty text is none. -/
def nonEmptyField (value : Json) (field default : String) : String :=
  ((value.text? field).filter fun text => text != "").getD default

def stableSourceId (value : Json) (fallback : String) : String :=
  ((((value.get? "item_id").or (value.get? "failure_id")).or (value.get? "check_id")).bind
    Json.asStr?).getD fallback

section

variable (binding : PrFollowupBinding)

def feedbackPlanItem (evaluations result : Json) : Json :=
  .obj (
    [("source_type", .str "coderabbit_feedback"),
     ("source_id", .str (nonEmptyField result "item_id" "unknown-feedback-item")),
     ("stable_marker_key", fieldOrNull result "stable_marker_key"),
     ("reason", .str (nonEmptyField result "reason" "no_reason_provided")),
     ("recommended_action",
      .str (nonEmptyField result "recommended_action" "human_review_required")),
     ("response_text", fieldOrNull result "response_text"),
     ("thread_id", fieldOrNull result "thread_id"),
     ("input_head_sha", .str binding.headSha),
     ("source_artifact_sequence", artifactSequenceOf evaluations),
     ("decision", fieldOrNull result "decision"),
     ("body_hash", fieldOrNull result "body_hash"),
     ("evidence", result)] ++
    ((result.text? "correctness").map fun text => ("correctness", Json.str text)).toList ++
    ((result.text? "delivery_scope").map fun text => ("delivery_scope", Json.str text)).toList)

def ciMustFixItem (ciFailures : Json) (index : Nat) (failure : Json) : Json :=
  .obj
    [("source_type", .str "ci_failure"),
     ("source_id", .str ((((failure.get? "failure_id").or (failure.get? "check_id")).bind
      Json.asStr?).getD s!"ci_failure_{index}")),
     ("stable_marker_key", .null),
     ("reason", ((failure.get? "check_name").or (failure.get? "conclusion")).getD
      (.str "ci_failure")),
     ("recommended_action", .str "fix_ci_failure"),
     ("input_head_sha", .str binding.headSha),
     ("source_artifact_sequence", artifactSequenceOf ciFailures),
     ("evidence", failure)]

def postPrTestMustFixItem (postPrTestResult command : Json) : Json :=
  .obj
    [("source_type", .str "post_pr_test_failure"),
     ("source_id", .str ("post-pr-test-" ++ stringField command "command_id" "unknown-command")),
     ("stable_marker_key", .null),
     ("body_hash", .null),
     ("reason", .str (stringField command "failure_classification"
      "post_pr_test_command_failed")),
     ("recommended_action", .str "fix_post_pr_local_verification_failure"),
     ("input_head_sha", .str binding.headSha),
     ("source_artifact_sequence", artifactSequenceOf postPrTestResult),
     ("evidence", command)]

/-- `append_post_pr_test_failures`. -/
def postPrTestFailures (postPrTestResult : Json) : List Json :=
  if postPrTestResult.text? "test_state" = some "failed" then
    ((arrayField postPrTestResult "commands").filter fun command =>
      command.text? "status" == some "failed" || command.text? "status" == some "error").map
      (postPrTestMustFixItem binding postPrTestResult)
  else []

def judgmentItem (sourceType sourceId reason : String)
    (source evidence : Json) (more : List (String × Json)) : Json :=
  .obj (
    [("source_type", .str sourceType),
     ("source_id", .str sourceId)] ++ more ++
    [("reason", .str reason),
     ("recommended_action", .str "human_review_required"),
     ("input_head_sha", .str binding.headSha),
     ("source_artifact_sequence", artifactSequenceOf source),
     ("evidence", evidence)])

/-- `append_pending_ci_judgment`. -/
def pendingCiJudgment (ciFailures : Json) : List Json :=
  (arrayField ciFailures "pending_or_unknown").map fun entry =>
    judgmentItem binding "ci_pending_or_unknown" (stableSourceId entry "pending_or_unknown")
      "pending_or_unknown_check_state" ciFailures entry []

/-- `append_evaluation_blockers`. -/
def evaluationBlockers (evaluations : Json) (field reason : String) : List Json :=
  (arrayField evaluations field).map fun item =>
    judgmentItem binding "coderabbit_feedback" (stableSourceId item field) reason evaluations item
      [("stable_marker_key", fieldOrNull item "stable_marker_key")]

/-- What a state has to be, or a person has to judge. -/
def stateBlocker (source : Json) (field wanted sourceType sourceId reason : String) : List Json :=
  if source.text? field = some wanted then []
  else [judgmentItem binding sourceType sourceId reason source (fieldOrNull source field) []]

/-! ### The lists of a plan -/

/-- The lists that `route_accepted_result` puts a result into. -/
structure PlanLists where
  mustFix : List Json := []
  markInvalid : List Json := []
  needsUserJudgment : List Json := []
  deferredFollowups : List Json := []

def routeAcceptedResult (evaluations : Json) (lists : PlanLists) (result : Json) : PlanLists :=
  let item := feedbackPlanItem binding evaluations result
  let hasExplicitAxes :=
    (result.text? "correctness").isSome || (result.text? "delivery_scope").isSome
  let legacyDecision := result.text? "decision"
  let isSummary := valueHasSummaryMarkerKey result
  if !hasExplicitAxes && (legacyDecision == some "invalid" || legacyDecision == some "out_of_scope")
      && !isSummary then
    { lists with markInvalid := lists.markInvalid ++ [item] }
  else
    let (correctness, deliveryScope) := dispositionFromAcceptedResult result
    match dispositionAction correctness deliveryScope with
    | .remediateNow => { lists with mustFix := lists.mustFix ++ [item] }
    | .deferToFollowUp =>
      if correctness = .invalid ∧ !isSummary then
        { lists with markInvalid := lists.markInvalid ++ [item] }
      else { lists with deferredFollowups := lists.deferredFollowups ++ [item] }
    | .blockForUserDecision => { lists with needsUserJudgment := lists.needsUserJudgment ++ [item] }
    | .ignore => lists

/-- The documents that a plan is made of. -/
structure PlanInputs where
  ciFailures : Json
  coderabbitFeedback : Json
  evaluations : Json
  postPrTestResult : Option Json

def planLists (inputs : PlanInputs) : PlanLists :=
  let before : PlanLists :=
    { mustFix :=
        (arrayField inputs.ciFailures "failures").mapIdx
          (ciMustFixItem binding inputs.ciFailures) ++
        (inputs.postPrTestResult.map (postPrTestFailures binding)).getD []
      needsUserJudgment :=
        pendingCiJudgment binding inputs.ciFailures ++
        stateBlocker binding inputs.coderabbitFeedback "readiness_state" "ready"
          "coderabbit_feedback_readiness" "coderabbit-feedback"
          "coderabbit_feedback_not_ready_or_fatal" ++
        stateBlocker binding inputs.evaluations "evaluation_state" "complete"
          "feedback_evaluation_state" "feedback-evaluations"
          "feedback_evaluation_not_complete" ++
        evaluationBlockers binding inputs.evaluations "unevaluated_items"
          "feedback_item_unevaluated" ++
        evaluationBlockers binding inputs.evaluations "budget_exhausted_items"
          "feedback_evaluation_budget_exhausted" }
  (arrayField inputs.evaluations "accepted_results").foldl
    (routeAcceptedResult binding inputs.evaluations) before

end

/-! ### The plan -/

/-- What a plan asks for. -/
inductive PlanState where
  | clean
  | needsRemediation
  | blockedNeedsUserJudgment
  | fatal
  deriving DecidableEq

def PlanState.asStr : PlanState → String
  | clean => "clean"
  | needsRemediation => "needs_remediation"
  | blockedNeedsUserJudgment => "blocked_needs_user_judgment"
  | fatal => "fatal"

/-- A plan. -/
structure RemediationPlanArtifact where
  planState : PlanState
  mustFix : List Json := []
  markInvalid : List Json := []
  needsUserJudgment : List Json := []
  pendingOrUnknown : List Json := []
  deferredFollowups : List Json := []
  sourceArtifacts : List Json
  builtAt : Timestamp

def RemediationPlanArtifact.toJson (plan : RemediationPlanArtifact) : Json :=
  .obj (
    [("plan_state", .str plan.planState.asStr),
     ("must_fix", .arr plan.mustFix),
     ("mark_invalid", .arr plan.markInvalid),
     ("needs_user_judgment", .arr plan.needsUserJudgment),
     ("pending_or_unknown", .arr plan.pendingOrUnknown)] ++
    (if plan.deferredFollowups.isEmpty then []
      else [("deferred_followups", .arr plan.deferredFollowups)]) ++
    [("source_artifacts", .arr plan.sourceArtifacts),
     ("built_at", .str plan.builtAt.toRfc3339)])

def remediationPlanSourceArtifacts (pr : Json) (inputs : PlanInputs) : List Json :=
  [sourceArtifact pr "pr", sourceArtifact inputs.ciFailures ciFailuresFamily,
    sourceArtifact inputs.coderabbitFeedback "coderabbit-feedback",
    sourceArtifact inputs.evaluations "feedback-evaluations"] ++
  (inputs.postPrTestResult.map fun result => sourceArtifact result testFamily).toList

structure PlanStep where
  binding : PrFollowupBinding
  params : Json
  stepId : String := "build_remediation_plan"
  identified : stepId ≠ ""

/-- What an execution of it meets with. -/
structure PlanRun where
  order : ListingOrder
  builtAt : Timestamp
  writtenAt : Timestamp
  publication : Publication := .published

section

variable (validate : FamilyInvariants)

def readPlanInputs (binding : PrFollowupBinding)
    (store : ArtifactStore) : Except String PlanInputs := do
  let ciFailures ← readCurrentJson validate binding ciFailuresFamily store
  let coderabbitFeedback ←
    readCurrentJson validate binding "coderabbit-feedback" store
  let evaluations ← readCurrentJson validate binding "feedback-evaluations" store
  let postPrTestResult ←
    readOptionalCurrentJsonForHead validate binding testFamily store
  .ok ⟨ciFailures, coderabbitFeedback, evaluations, postPrTestResult⟩

def planOfInputs (binding : PrFollowupBinding) (pr : Json) (inputs : PlanInputs)
    (builtAt : Timestamp) : RemediationPlanArtifact :=
  let lists := planLists binding inputs
  { planState :=
      if !lists.needsUserJudgment.isEmpty then .blockedNeedsUserJudgment
      else if !lists.mustFix.isEmpty then .needsRemediation
      else .clean
    mustFix := lists.mustFix
    markInvalid := lists.markInvalid
    needsUserJudgment := lists.needsUserJudgment
    pendingOrUnknown := arrayField inputs.ciFailures "pending_or_unknown"
    deferredFollowups := lists.deferredFollowups
    sourceArtifacts := remediationPlanSourceArtifacts pr inputs
    builtAt := builtAt }

/-- What `build_remediation_plan` writes: the plan, or one that is fatal, where the pull request or
an input cannot be read; with what it says of a failure. -/
def buildPlan (step : PlanStep) (run : PlanRun)
    (store : ArtifactStore) : RemediationPlanArtifact × Option ArtifactFailure :=
  match readCurrentJson validate step.binding "pr" store with
  | .error error =>
    ({ planState := .fatal
       sourceArtifacts := [.obj [("artifact_family", .str "pr"), ("error", .str error)]]
       builtAt := run.builtAt },
      some ⟨"fatal", "missing_or_unbindable_pr", .obj [("error", .str error)]⟩)
  | .ok pr =>
    match readPlanInputs validate step.binding store with
    | .error error =>
      ({ planState := .fatal
         sourceArtifacts := [sourceArtifact pr "pr", .obj [("error", .str error)]]
         builtAt := run.builtAt },
        some ⟨"fatal", "missing_or_unbindable_plan_input", .obj [("error", .str error)]⟩)
    | .ok inputs =>
      let plan := planOfInputs step.binding pr inputs run.builtAt
      (plan,
        if plan.planState = .blockedNeedsUserJudgment then
          some ⟨plan.planState.asStr, "needs_user_judgment_required",
            .obj [("needs_user_judgment_count", .num plan.needsUserJudgment.length),
              ("pending_or_unknown_count", .num plan.pendingOrUnknown.length)]⟩
        else none)

def planRequest (step : PlanStep) (run : PlanRun) (plan : RemediationPlanArtifact)
    (failure : Option ArtifactFailure) : JsonArtifactWriteRequest where
  binding := step.binding
  artifactFamily := planFamily
  producerStepId := step.stepId
  stepOrderIndex := UInt64.ofNat (u64Param step.params "step_order_index" 7)
  writtenAt := run.writtenAt
  producedAt := run.writtenAt
  payload := plan.toJson
  failure := failure

/-- `build_remediation_plan`.  The marker actions of a clean plan are written by a call of their
own. -/
def buildRemediationPlan (step : PlanStep) (run : PlanRun) : Effect ArtifactStore StepOutcome :=
  Effect.of fun store =>
    let (plan, failure) := buildPlan validate step run store
    let (written, store) := writeJsonArtifactLocked validate run.order
      (planRequest step run plan failure) run.publication store
    (written.map fun _ =>
      match plan.planState with
      | .clean => .success
      | .needsRemediation => .fixable
      | .blockedNeedsUserJudgment | .fatal => .fatal, store)

end

end Luther
