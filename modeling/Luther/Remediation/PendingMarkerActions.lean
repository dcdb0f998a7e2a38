/-
The pending marker actions that a remediation step records.

Each step that disposes of feedback adds its actions to those that an earlier artifact has left.  An
action is known by its idempotency key.  One that says that the feedback has been fixed takes the
place of what classified the same feedback before.
-/
import Luther.Remediation.RemediationPlan
import Mathlib.Data.String.Basic

namespace Luther

/-! ### Artifacts of earlier versions -/

/-- `normalize_legacy_pending_marker_artifact`, of one action. -/
def normalizeLegacyAction (action : Json) : Json :=
  match action with
  | .obj entries =>
    if (entries.lookup "remediation_output_head").isSome then action
    else
      match entries.lookup "remediation_output_head_sha" with
      | some (.str head) =>
        if trim head ≠ "" then
          .obj (Assoc.insert "remediation_output_head" (.str head) entries)
        else action
      | none | some .null =>
        .obj (Assoc.insert "remediation_output_head" (.str noRemediationOutputHead) entries)
      | some _ => action
  | _ => action

def normalizeLegacyPendingMarkerArtifact (artifact : Json) : Json :=
  match artifact with
  | .obj entries =>
    match entries.lookup "pending_actions" with
    | some (.arr actions) =>
      .obj (Assoc.insert "pending_actions" (.arr (actions.map normalizeLegacyAction)) entries)
    | _ => artifact
  | _ => artifact

/-! ### New actions -/

def pendingMarkerActionKind (item : Json) (decision : String) : String :=
  if (item.get? "marker_action").bind Json.asStr? = some "comment_fixed" then "comment_fixed"
  else if decision = "out_of_scope" then "comment_out_of_scope"
  else "comment_invalid"

def pendingMarkerIdempotencyKey (binding : PrFollowupBinding)
    (outputHead stableMarkerKey actionKind : String) : String :=
  s!"{binding.runId}:{binding.repositoryOwner}:{binding.repositoryName}:{binding.prNumber}:"
    ++ s!"{binding.headSha}:{outputHead}:" ++ stableMarkerKey ++ ":" ++ actionKind

/-- `pending_marker_action`, with `pending_marker_action_value`. -/
def pendingMarkerAction (binding : PrFollowupBinding) (item : Json)
    (remediationOutputHeadSha : Option String) : Json :=
  let sourceId := stringField item "source_id" "unknown-feedback-item"
  let stableMarkerKey := stringField item "stable_marker_key" sourceId
  let decision := stringField item "decision" "invalid"
  let actionKind := pendingMarkerActionKind item decision
  let bodyHash := stringField item "body_hash" "no-body-hash"
  let outputHead := remediationOutputHeadSha.getD noRemediationOutputHead
  let outputHeadSha := (remediationOutputHeadSha.map Json.str).getD .null
  .obj [
    ("action_id",
      .str s!"{actionKind}:{stableMarkerKey}:{bodyHash}:{binding.headSha}:{outputHead}"),
    ("action_kind", .str actionKind),
    ("item_id", .str sourceId),
    ("original_feedback_identity", .obj [
      ("item_id", .str sourceId),
      ("stable_marker_key", .str stableMarkerKey),
      ("body_hash", .str bodyHash),
      ("source_head_sha", .str binding.headSha),
      ("thread_id", fieldOrNull item "thread_id"),
      ("comment_database_id", fieldOrNull item "comment_database_id")]),
    ("thread_id", fieldOrNull item "thread_id"),
    ("comment_database_id", fieldOrNull item "comment_database_id"),
    ("stable_marker_key", .str stableMarkerKey),
    ("source_head_sha", .str binding.headSha),
    ("remediation_input_head_sha",
      (item.get? "remediation_input_head_sha").getD (.str binding.headSha)),
    ("remediation_output_head_sha", outputHeadSha),
    ("remediation_output_head", .str outputHead),
    ("body_hash", .str bodyHash),
    ("idempotency_key",
      .str (pendingMarkerIdempotencyKey binding outputHead stableMarkerKey actionKind)),
    ("comment_body_template_id", .str actionKind),
    ("comment_body_artifact_path", .null),
    ("resolution_required", .bool (actionKind == "comment_fixed")),
    ("status", .str "pending"),
    ("reason", .str (stringField item "reason" decision)),
    ("response_text", fieldOrNull item "response_text"),
    ("remediation_result_status", fieldOrNull item "remediation_result_status"),
    ("remediation_result_evidence", fieldOrNull item "remediation_result_evidence"),
    ("evidence", (item.get? "evidence").getD item),
    ("source_artifact_sequence", fieldOrNull item "source_artifact_sequence"),
    ("remediation_result_artifact_sequence",
      fieldOrNull item "remediation_result_artifact_sequence"),
    ("remediation_result_write_sequence", fieldOrNull item "remediation_result_write_sequence"),
    ("remediation_result_producer_step_id",
      fieldOrNull item "remediation_result_producer_step_id"),
    ("plan_artifact_sequence", fieldOrNull item "plan_artifact_sequence"),
    ("remediation_attempt_index", fieldOrNull item "remediation_attempt_index")]

/-! ### The set of actions -/

def pendingActionIdempotencyKey (action : Json) : Option String :=
  (action.get? "idempotency_key").bind Json.asStr?

/-- The action says that its feedback has been fixed. -/
def isCommentFixed (action : Json) : Bool :=
  (action.get? "action_kind").bind Json.asStr? == some "comment_fixed"

/-- The fields that tell which feedback an action is about. -/
def originalFeedbackFields : List String :=
  ["item_id", "stable_marker_key", "body_hash", "source_head_sha"]

def sameOriginalFeedbackIdentity (left right : Json) : Bool :=
  originalFeedbackFields.all fun field => left.get? field == right.get? field

/-- Actions, and the keys they have. -/
structure PendingActionSet where
  actions : List Json
  seen : List String

namespace PendingActionSet

def fromPrior (prior : Option Json) : PendingActionSet :=
  let actions := ((prior.map fun artifact => arrayField artifact "pending_actions").getD []).filter
    fun action => !valueHasSummaryMarkerKey action
  ⟨actions, actions.filterMap pendingActionIdempotencyKey⟩

def removeSupersededClassifications (fixed : Json) (set : PendingActionSet) : PendingActionSet :=
  let retain prior := isCommentFixed prior || !sameOriginalFeedbackIdentity prior fixed
  let supersededKeys :=
    (set.actions.filter fun prior => !retain prior).filterMap pendingActionIdempotencyKey
  ⟨set.actions.filter retain, set.seen.filter (· ∉ supersededKeys)⟩

/-- The body of the loop of `extend`. -/
def extendWith (action : Json) (set : PendingActionSet) : PendingActionSet :=
  match pendingActionIdempotencyKey action with
  | none => set
  | some key =>
    let set := if isCommentFixed action then set.removeSupersededClassifications action else set
    if key ∈ set.seen then set else ⟨set.actions ++ [action], key :: set.seen⟩

def extend (binding : PrFollowupBinding) (items : List Json)
    (remediationOutputHeadSha : Option String) (set : PendingActionSet) : PendingActionSet :=
  (items.filter fun item => !valueHasSummaryMarkerKey item).foldl
    (fun set item => set.extendWith (pendingMarkerAction binding item remediationOutputHeadSha)) set

def intoSortedActions (set : PendingActionSet) : List Json :=
  set.actions.insertionSort fun left right =>
    (pendingActionIdempotencyKey left).getD "" ≤ (pendingActionIdempotencyKey right).getD ""

end PendingActionSet

/-! ### The artifact -/

def priorArtifactSequence (prior : Option Json) : Option Nat :=
  prior.bind fun artifact => (artifact.get? "artifact_sequence").bind Json.asU64?

def pendingMarkerPolicy (remediationOutputHeadSha : Option String) : Json :=
  .obj [
    ("invalid", .str "comment_invalid"),
    ("out_of_scope", .str "comment_out_of_scope"),
    ("fixed", .str "comment_fixed"),
    ("changed", .str "comment_fixed"),
    ("remediation_output_head_sha", (remediationOutputHeadSha.map Json.str).getD .null)]

/-- The actions that are recorded, when the artifact before them is `prior`. -/
def mergePendingMarkerActions (binding : PrFollowupBinding) (prior : Option Json)
    (items : List Json) (remediationOutputHeadSha : Option String) : List Json :=
  ((PendingActionSet.fromPrior (prior.map normalizeLegacyPendingMarkerArtifact)).extend binding
    items remediationOutputHeadSha).intoSortedActions

/-- The payload that `write_pending_marker_actions` writes. -/
def pendingMarkerActionsArtifact (binding : PrFollowupBinding) (prior : Option Json)
    (items : List Json) (remediationOutputHeadSha : Option String) (nowRfc3339 : String) : Json :=
  .obj [
    ("pending_actions",
      .arr (mergePendingMarkerActions binding prior items remediationOutputHeadSha)),
    ("carry_forward_from_artifact_sequence",
      ((priorArtifactSequence prior).map fun n => Json.num n).getD .null),
    ("marker_policy", pendingMarkerPolicy remediationOutputHeadSha),
    ("updated_at", .str nowRfc3339)]

end Luther
