/-
What is asked about one item of review feedback, and which answers are accepted.

An evaluator is asked about one item at a time and answers with a text.  The text has to hold
one JSON object about that very item, with a decision, the two axes of the classification, and
texts that can be posted.  A decision that asks for the judgment of a maintainer is lowered
where the feedback itself says that it is optional.
-/
import Luther.Remediation.ResultValidation

namespace Luther

/-- An item of feedback, as the evaluation reads it. -/
structure FeedbackItem where
  itemId : String
  stableMarkerKey : String
  bodyHash : String
  headSha : String
  authorLogin : String := ""
  authorKind : Option String := none
  body : String
  path : Option String := none
  url : Option String := none
  deriving DecidableEq

/-- What the evaluator is asked about an item. -/
structure FeedbackEvaluationRequest where
  itemId : String
  stableMarkerKey : String
  bodyHash : String
  headSha : String
  repositoryOwner : String
  repositoryName : String
  prNumber : UInt64
  authorLogin : String
  authorKind : Option String
  body : String
  path : Option String
  url : Option String
  allowedDecisions : List String

/-- What the evaluator says of it. -/
structure FeedbackEvaluationResponse where
  itemId : String
  stableMarkerKey : String
  bodyHash : String
  headSha : String
  decision : String
  reason : String
  recommendedAction : Option String
  responseText : String
  correctness : Option String
  deliveryScope : Option String

/-- Why an answer is not accepted. -/
structure RejectReason where
  reason : String
  parsedDecision : Option String := none
  observedHeadSha : Option String := none

def reject (reason : String) (value : Json) : RejectReason :=
  ⟨reason, value.text? "decision", value.text? "head_sha"⟩

def allowedDecisions : List String := ["valid", "invalid", "out_of_scope", "needs_user_judgment"]

def buildRequest (binding : PrFollowupBinding) (item : FeedbackItem) :
    FeedbackEvaluationRequest where
  itemId := item.itemId
  stableMarkerKey := item.stableMarkerKey
  bodyHash := item.bodyHash
  headSha := item.headSha
  repositoryOwner := binding.repositoryOwner
  repositoryName := binding.repositoryName
  prNumber := binding.prNumber
  authorLogin := item.authorLogin
  authorKind := item.authorKind
  body := item.body
  path := item.path
  url := item.url
  allowedDecisions := allowedDecisions

/-! ### The object in an answer -/

/-- `serde_json`, as far as it is used to read an answer. -/
structure JsonReader where
  /-- `from_str`. -/
  fromStr : String → Except String Json
  /-- The first value of a stream, where it can be read, and how far the stream is then. -/
  next : List Char → Option Json × Nat

def maxEmbeddedJsonCandidates : Nat := 1024

/-- Whether an object is what an evaluator is asked for. -/
def isFeedbackShaped (value : Json) : Bool :=
  (value.get? "item_id").isSome && (value.get? "decision").isSome

/-- The loop of `parse_embedded_json_object`: the candidates that are left, the text behind the
last one, and the first object that was found. -/
def parseEmbeddedFrom (reader : JsonReader) : Nat → List Char → Option Json → Option Json
  | 0, _, firstObject => firstObject
  | candidates + 1, text, firstObject =>
    match text.dropWhile (· ≠ '\x7b') with
    | [] => firstObject
    | opened =>
      let (parsed, offset) := reader.next opened
      let behind := opened.drop (max offset 1)
      match parsed with
      | some (.obj entries) =>
        if isFeedbackShaped (.obj entries) then some (.obj entries)
        else parseEmbeddedFrom reader candidates behind (firstObject.or (some (.obj entries)))
      | _ => parseEmbeddedFrom reader candidates behind firstObject

def parseFeedbackEvaluatorJson (reader : JsonReader) (raw : String) : Except String Json :=
  match reader.fromStr raw with
  | .ok value => .ok value
  | .error original =>
    match parseEmbeddedFrom reader maxEmbeddedJsonCandidates raw.toList none with
    | some value => .ok value
    | none => .error original

def isForbiddenResponseField (field : String) (fieldValue : Json) : Bool :=
  let lower := toAsciiLowercase field
  let isAllowedIdentity :=
    ["item_id", "stable_marker_key", "body_hash", "head_sha"].contains field
  let isExtraIdentity := !isAllowedIdentity &&
    ["item", "stable_marker", "body_hash", "head_sha", "marker_key"].any (containsText lower)
  let isBatchField :=
    ["items", "item_ids", "feedback_items", "feedback_item_ids", "batch", "batches", "results",
      "evaluations"].contains lower
  isBatchField || isExtraIdentity || (match fieldValue with | .arr _ => true | _ => false)

def rejectBatchResponseFields (value : Json) : Except RejectReason Unit :=
  match value with
  | .arr _ => .error (reject "response_array_or_batch" value)
  | .obj entries =>
    if entries.any fun entry => isForbiddenResponseField entry.1 entry.2 then
      .error (reject "batch_or_extra_item_ids" value)
    else .ok ()
  | _ => .error (reject "response_not_object" value)

def requiredValueString (value : Json) (field : String) : Except RejectReason String :=
  match (value.text? field).filter (· ≠ "") with
  | some text => .ok text
  | none => .error (reject s!"missing_{field}" value)

def feedbackResponseFromValue (value : Json) : Except RejectReason FeedbackEvaluationResponse := do
  let itemId ← requiredValueString value "item_id"
  let stableMarkerKey ← requiredValueString value "stable_marker_key"
  let bodyHash ← requiredValueString value "body_hash"
  let headSha ← requiredValueString value "head_sha"
  let decision ← requiredValueString value "decision"
  .ok
    { itemId := itemId
      stableMarkerKey := stableMarkerKey
      bodyHash := bodyHash
      headSha := headSha
      decision := decision
      reason := stringField value "reason" ""
      recommendedAction := value.text? "recommended_action"
      responseText := stringField value "response_text" ""
      correctness := value.text? "correctness"
      deliveryScope := value.text? "delivery_scope" }

/-! ### Optional feedback -/

def downrankReason : String :=
  "This is a low-confidence optional nitpick/speculative suggestion, not a concrete product or "
    ++ "scope decision requiring maintainer judgment."

def downrankAction : String :=
  "Do not block PR follow-up on this item; leave it for optional future design documentation if "
    ++ "maintainers want to expand the scope."

def downrankResponse : String :=
  "This item is not being treated as needs-user-judgment because it is framed as an "
    ++ "optional/speculative nitpick rather than a concrete blocker. It can be revisited as "
    ++ "optional design documentation outside this PR follow-up, but it should not block automated "
    ++ "remediation."

def trustedLowPriorityAuthor (authorLogin : String) (authorKind : Option String) : Bool :=
  ["coderabbitai", "coderabbitai[bot]", "coderabbit[bot]"].contains authorLogin
    && authorKind == some "Bot"

def trustedInlineMarkerAuthor (authorLogin : String) (authorKind : Option String) : Bool :=
  ["github-actions", "github-actions[bot]"].contains authorLogin && authorKind == some "Bot"

def lowPriorityFeedback (lower : String) : Bool :=
  containsText lower "nitpick" || containsText lower "trivial"

def optionalIntentFeedback (lower : String) : Bool :=
  ["if cross-repo", "if this function is intended", "if it is only used internally",
    "if the intent", "if the current behavior", "if they are used directly", "unless overridden",
    "intended for external consumption"].any (containsText lower)
    || (containsText lower "current behavior" && containsText lower "intentional")

def speculativeFeedback (lower : String) : Bool :=
  ["should consider", "consider whether", "consider adding a", "otherwise document",
    "could potentially", "if this becomes", "future hardening", "optional future"].any
      (containsText lower)
    || ((containsText lower " if " || startsWith lower "if " || containsText lower "\nif ")
      && (containsText lower "could" || containsText lower "clarify"
        || containsText lower "confirm"))

def conditionalDesignFeedback (lower authorLogin : String) (authorKind : Option String) : Bool :=
  trustedInlineMarkerAuthor authorLogin authorKind
    && containsText lower "<!-- luther-ocr-inline -->"
    && speculativeFeedback lower && optionalIntentFeedback lower

def isLowConfidenceOptionalFeedback (body authorLogin : String) (authorKind : Option String) :
    Bool :=
  let lower := toAsciiLowercase body
  (trustedLowPriorityAuthor authorLogin authorKind && lowPriorityFeedback lower
      && speculativeFeedback lower)
    || conditionalDesignFeedback lower authorLogin authorKind

def applyLowConfidenceAcceptedPolicy (item : FeedbackItem) (accepted : Json) : Json :=
  if accepted.text? "decision" ≠ some "needs_user_judgment"
      ∨ isLowConfidenceOptionalFeedback item.body item.authorLogin item.authorKind = false then
    accepted
  else
    match accepted with
    | .obj entries =>
      .obj ([("decision", Json.str "out_of_scope"),
        ("reason", .str downrankReason),
        ("recommended_action", .str downrankAction),
        ("response_text", .str downrankResponse),
        ("correctness", .str "low"),
        ("delivery_scope", .str "follow_up_issue")].foldl
          (fun object field => Assoc.insert field.1 field.2 object) entries)
    | _ => accepted

def applyLowConfidenceNeedsJudgmentPolicy (request : FeedbackEvaluationRequest)
    (response : FeedbackEvaluationResponse) : FeedbackEvaluationResponse :=
  if response.decision ≠ "needs_user_judgment"
      ∨ isLowConfidenceOptionalFeedback request.body request.authorLogin request.authorKind
        = false then
    response
  else
    { response with
      decision := "out_of_scope"
      reason := downrankReason
      recommendedAction := some downrankAction
      responseText := downrankResponse
      correctness := some "low"
      deliveryScope := some "follow_up_issue" }

/-! ### The check of an answer -/

def legalCorrectnessValues : List String := ["blocker", "high", "medium", "low", "invalid"]

def legalDeliveryScopeValues : List String :=
  ["required_acceptance_criterion", "regression_from_current_patch", "small_adjacent_fix",
    "follow_up_issue", "user_decision"]

/-- The check of one axis of `validate_two_axis_fields`. -/
def validateAxis (axis : String) (legalValues : List String) (text : Option String)
    (value : Json) : Except RejectReason Unit :=
  let text := text.getD ""
  if text = "" then .error (reject ("missing_" ++ axis) value)
  else if text ∉ legalValues then .error (reject ("invalid_" ++ axis) value)
  else .ok ()

def validateTwoAxisFields (response : FeedbackEvaluationResponse) (value : Json) :
    Except RejectReason Unit := do
  validateAxis "correctness" legalCorrectnessValues response.correctness value
  validateAxis "delivery_scope" legalDeliveryScopeValues response.deliveryScope value

/-- The checks of `validate_response`, on the response that was read. -/
def checkResponse (request : FeedbackEvaluationRequest) (response : FeedbackEvaluationResponse)
    (value : Json) : Except RejectReason Unit := do
  if response.itemId ≠ request.itemId then .error (reject "wrong_item_id" value)
  if response.stableMarkerKey ≠ request.stableMarkerKey then
    .error (reject "wrong_stable_marker_key" value)
  if response.bodyHash ≠ request.bodyHash then .error (reject "wrong_body_hash" value)
  if response.headSha ≠ request.headSha then .error (reject "wrong_head_sha" value)
  if response.decision ∉ allowedDecisions then .error (reject "unknown_decision" value)
  validateTwoAxisFields response value
  if response.decision ≠ "valid" ∧ trim response.reason = "" then
    .error (reject "missing_required_reason" value)
  if trim (response.recommendedAction.getD "") = "" then
    .error (reject "missing_recommended_action" value)
  if trim response.responseText = "" then .error (reject "missing_response_text" value)

def validateResponse (reader : JsonReader) (raw : String) (request : FeedbackEvaluationRequest) :
    Except RejectReason FeedbackEvaluationResponse := do
  let value ← (parseFeedbackEvaluatorJson reader raw).mapError fun error =>
    (⟨"malformed_json: " ++ error, none, none⟩ : RejectReason)
  rejectBatchResponseFields value
  let read ← feedbackResponseFromValue value
  let response := applyLowConfidenceNeedsJudgmentPolicy request read
  checkResponse request response value
  .ok response

end Luther
