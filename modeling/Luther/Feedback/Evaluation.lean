/-
The evaluation of the review feedback on a head.

Every item of the feedback gets one accepted evaluation.  One that was accepted earlier, for the
same marker key, body and head, is found in the state and reused; else a summary is decided
without asking, and for any other item the evaluator is asked up to three times.  The state is
written only when every item has its evaluation.
-/
import Luther.Feedback.EvaluationResponse
import Luther.Remediation.RetryPolicy

namespace Luther

/-! ### The items of the feedback -/

def feedbackHead (value : Json) : Except String String :=
  match (value.text? "commit_sha").or (value.text? "head_sha") with
  | some headSha => .ok headSha
  | none => .error "feedback evaluator: feedback item missing commit_sha/head_sha"

/-- One item of `feedback_items`. -/
def feedbackItem (value : Json) : Except String FeedbackItem := do
  let itemId ← requireString "item_id" value
  let stableMarkerKey ← requireString "stable_marker_key" value
  let bodyHash ← requireString "body_hash" value
  let headSha ← feedbackHead value
  let body ← requireString "body" value
  .ok
    { itemId := itemId
      stableMarkerKey := stableMarkerKey
      bodyHash := bodyHash
      headSha := headSha
      authorLogin := stringField value "author_login" ""
      authorKind := value.text? "author_kind"
      body := body
      path := value.text? "path"
      url := value.text? "url" }

def feedbackItems (feedback : Json) : Except String (List FeedbackItem) :=
  match feedback.get? "items" with
  | some (.arr items) => items.mapM feedbackItem
  | _ => .error "feedback evaluator: coderabbit-feedback missing items array"

def FeedbackItem.le (left right : FeedbackItem) : Prop :=
  left.stableMarkerKey < right.stableMarkerKey ∨
    left.stableMarkerKey = right.stableMarkerKey ∧
      (left.bodyHash < right.bodyHash ∨
        left.bodyHash = right.bodyHash ∧ left.itemId ≤ right.itemId)

instance : DecidableRel FeedbackItem.le := fun _ _ =>
  inferInstanceAs (Decidable (_ ∨ _ ∧ (_ ∨ _ ∧ _)))

section

variable (item : FeedbackItem)

/-- What a refusal or a failure says about the item. -/
def FeedbackItem.identityFields : List (String × Json) :=
  [("item_id", .str item.itemId),
   ("stable_marker_key", .str item.stableMarkerKey),
   ("body_hash", .str item.bodyHash),
   ("head_sha", .str item.headSha)]

def unevaluatedItem (reason : String) : Json :=
  .obj (item.identityFields ++ [("reason", .str reason)])

/-! ### Accepted evaluations -/

def isCoderabbitSummaryItem : Bool :=
  let key := toAsciiLowercase item.stableMarkerKey
  let body := toAsciiLowercase item.body
  startsWith key "summary:"
    || containsText body "summary by coderabbit"
    || containsText body "summarize by coderabbit"
    || (containsText body "walkthrough" && containsText body "coderabbit")
    || containsText body "coderabbit finished reviewing this pull request"
    || containsText body "rate limited by coderabbit"
    || containsText body "review limit reached"
    || (containsText body "coderabbit" && containsText body "run out of usage credits")

def deterministicReason : String :=
  "CodeRabbit summary/walkthrough comments are informational and do not identify a specific "
    ++ "actionable feedback item."

def deterministicAction : String :=
  "No code changes or review-thread response are required for the summary comment."

def deterministicResponse : String :=
  "This is an informational CodeRabbit summary/walkthrough comment rather than an actionable "
    ++ "review item, so no code change is required."

def deterministicFeedbackEvaluation (acceptedAt : Timestamp) : Option Json :=
  if isCoderabbitSummaryItem item then
    some (.obj (item.identityFields ++
      [("decision", .str "invalid"),
       ("correctness", .str "invalid"),
       ("delivery_scope", .str "user_decision"),
       ("reason", .str deterministicReason),
       ("recommended_action", .str deterministicAction),
       ("response_text", .str deterministicResponse),
       ("accepted_at", .str acceptedAt.toRfc3339),
       ("attempt_count", .num 0),
       ("source", .str "deterministic"),
       ("reuse_state", .str "not_reused")]))
  else none

/-- `accepted_result`, of a response that is new. -/
def acceptedResult (response : FeedbackEvaluationResponse) (acceptedAt : Timestamp)
    (attemptCount : Nat) : Json :=
  .obj (
    [("item_id", .str response.itemId),
     ("stable_marker_key", .str response.stableMarkerKey),
     ("body_hash", .str response.bodyHash),
     ("head_sha", .str response.headSha),
     ("decision", .str response.decision),
     ("reason", .str response.reason),
     ("recommended_action", .str (response.recommendedAction.getD "")),
     ("response_text", .str response.responseText),
     ("accepted_at", .str acceptedAt.toRfc3339),
     ("attempt_count", .num attemptCount),
     ("source", .str "new"),
     ("reuse_state", .str "not_reused")] ++
    (response.correctness.map fun text => ("correctness", Json.str text)).toList ++
    (response.deliveryScope.map fun text => ("delivery_scope", Json.str text)).toList)

/-- `object.insert`, where the value is an object. -/
def insertField (field : String) (fieldValue value : Json) : Json :=
  match value with
  | .obj entries => .obj (Assoc.insert field fieldValue entries)
  | _ => value

/-- The evaluation as it is kept, with the pull request that it was made for. -/
def acceptedWithBinding (binding : PrFollowupBinding) (accepted : Json) : Json :=
  insertField "pr_number" (.num binding.prNumber.toNat)
    (insertField "repository_name" (.str binding.repositoryName)
      (insertField "repository_owner" (.str binding.repositoryOwner) accepted))

/-- Whether a value is about the marker key, the body and the head of an item. -/
def FeedbackItem.isAboutBy (value : Json) : Bool :=
  value.text? "stable_marker_key" == some item.stableMarkerKey
    && value.text? "body_hash" == some item.bodyHash
    && value.text? "head_sha" == some item.headSha

end

section

variable (binding : PrFollowupBinding)

def stateEntry (item : FeedbackItem) (accepted : Json) (timestamp : Timestamp) : Json :=
  .obj (item.identityFields ++
    [("first_seen_at", .str timestamp.toRfc3339),
     ("last_seen_at", .str timestamp.toRfc3339),
     ("evaluation_status", .str "accepted"),
     ("accepted_evaluation", acceptedWithBinding binding accepted),
     ("remediation_status", .str "pending"),
     ("marker_status", .str "pending"),
     ("resolution_status", .str "pending"),
     ("superseded", .bool false),
     ("stale", .bool false),
     ("reuse_eligible", .bool true)])

def upsertStateEntry (item : FeedbackItem) (accepted : Json)
    (timestamp : Timestamp) (entries : List Json) : List Json :=
  entries.filter (fun entry => !item.isAboutBy entry) ++
    [stateEntry binding item accepted timestamp]

/-! ### Reuse -/

def validateReusableAccepted (item : FeedbackItem) (value : Json) : Except String Unit := do
  let decision ← requireString "decision" value
  if decision ∉ allowedDecisions then
    .error "feedback evaluator: unknown reusable decision"
  let itemId ← requireString "item_id" value
  let stableMarkerKey ← requireString "stable_marker_key" value
  let bodyHash ← requireString "body_hash" value
  let headSha ← requireString "head_sha" value
  if itemId ≠ item.itemId ∨ stableMarkerKey ≠ item.stableMarkerKey ∨ bodyHash ≠ item.bodyHash
      ∨ headSha ≠ item.headSha then
    .error "feedback evaluator: reusable evaluation identity mismatch"
  let repositoryOwner ← requireString "repository_owner" value
  let repositoryName ← requireString "repository_name" value
  let prNumber ← requireU64 "pr_number" value
  if repositoryOwner ≠ binding.repositoryOwner ∨ repositoryName ≠ binding.repositoryName
      ∨ prNumber ≠ binding.prNumber.toNat then
    .error "feedback evaluator: reusable evaluation binding mismatch"
  if decision ≠ "valid" ∧ trim (stringField value "reason" "") = "" then
    .error "feedback evaluator: missing reusable reason"
  if trim (stringField value "recommended_action" "") = "" then
    .error "feedback evaluator: missing reusable recommended_action"
  if trim (stringField value "response_text" "") = "" then
    .error "feedback evaluator: missing reusable response_text"

/-- What the kept evaluations have for an item. -/
inductive ReuseLookup where
  | reuse (value : Json)
  | noMatch
  | fatal (reason : String)

/-- What `reusable_evaluation` makes of the entry that was found. -/
def reusableEntry (item : FeedbackItem) (entry : Json) : ReuseLookup :=
  if (entry.get? "reuse_eligible").bind Json.asBool? ≠ some true then .noMatch
  else
    match entry.get? "accepted_evaluation" with
    | none => .fatal "missing_accepted_evaluation"
    | some accepted =>
      if (validateReusableAccepted binding item accepted).isOk = false then
        .fatal "malformed_or_unbindable_accepted_evaluation"
      else .reuse (applyLowConfidenceAcceptedPolicy item accepted)

def reusableEvaluation (item : FeedbackItem) (stateEntries : List Json) : ReuseLookup :=
  match stateEntries.filter item.isAboutBy with
  | [] => .noMatch
  | [entry] => reusableEntry binding item entry
  | _ => .fatal "duplicate_accepted_evaluation_state"

end

/-! ### One pass over the items -/

/-- What a pass over the items has come to. -/
structure EvaluationOutcomeSets where
  acceptedResults : List Json := []
  rejectedAttempts : List Json := []
  unevaluatedItems : List Json := []
  budgetExhaustedItems : List Json := []
  fatalReuseErrors : List Json := []
  reusedResultsCount : Nat := 0

/-- A pass: the entries of the next state, what has become of the items so far, what the
evaluator was asked, and how often the clock was read. -/
structure EvaluationPass where
  entries : List Json
  sets : EvaluationOutcomeSets := {}
  requests : List FeedbackEvaluationRequest := []
  readings : Nat := 0

/-- What a pass meets with. -/
structure EvaluationWorld where
  reader : JsonReader
  /-- What the evaluator answers, after the requests before. -/
  evaluate : List FeedbackEvaluationRequest → FeedbackEvaluationRequest → Except String String
  /-- Where the text of an answer is written to, or why it is not.  These files lie beside the
  store, and no step reads them. -/
  writeRaw : FeedbackItem → Nat → String → Except String String
  clock : Nat → Timestamp

def maxAttemptsPerItem : Nat := 3

section Pass

variable (binding : PrFollowupBinding) (world : EvaluationWorld)

section

variable (item : FeedbackItem)

/-- What is recorded of an attempt that is not accepted. -/
def rejectedAttempt (attempt : Nat) (rawPath reason : String)
    (details : List (String × Json)) : Json :=
  .obj (
    [("attempt_number", .num attempt),
     ("item_id", .str item.itemId),
     ("stable_marker_key", .str item.stableMarkerKey),
     ("body_hash", .str item.bodyHash),
     ("raw_response_artifact_path", .str rawPath),
     ("reject_reason", .str reason)] ++ details)

/-- A pass with one more attempt that is not accepted. -/
def EvaluationPass.rejectAttempt (attempt : Json) (pass : EvaluationPass) : EvaluationPass :=
  { pass with
    sets := { pass.sets with rejectedAttempts := pass.sets.rejectedAttempts ++ [attempt] } }

/-- A pass with one more evaluation in its state. -/
def EvaluationPass.upsert (accepted : Json) (timestamp : Timestamp)
    (readings : Nat) (pass : EvaluationPass) : EvaluationPass :=
  { pass with
    entries := upsertStateEntry binding item accepted timestamp pass.entries
    readings := readings }

/-- `run_attempt`: the evaluation, where one is accepted. -/
def runAttempt (attempt : Nat) (pass : EvaluationPass) :
    Except String (Option Json × EvaluationPass) := do
  let request := buildRequest binding item
  let answer := world.evaluate pass.requests request
  let pass := { pass with requests := pass.requests ++ [request] }
  match answer with
  | .error error =>
    let rawPath ← world.writeRaw item attempt ("feedback evaluator command error: " ++ error)
    .ok (none, pass.rejectAttempt (rejectedAttempt item attempt rawPath "command_error"
      [("command_error", .str error), ("parsed_decision", .null),
        ("observed_head_sha", .null)]))
  | .ok raw =>
    let rawPath ← world.writeRaw item attempt raw
    match validateResponse world.reader raw request with
    | .ok response =>
      let accepted := acceptedResult response (world.clock pass.readings) attempt
      .ok (some accepted, pass.upsert binding item accepted (world.clock (pass.readings + 1))
        (pass.readings + 2))
    | .error rejected =>
      .ok (none, pass.rejectAttempt (rejectedAttempt item attempt rawPath rejected.reason
        [("parsed_decision", rejected.parsedDecision.elim .null .str),
          ("observed_head_sha", rejected.observedHeadSha.elim .null .str)]))

/-- The loop of `evaluate_fresh_item`. -/
def runAttempts (item : FeedbackItem) :
    List Nat → EvaluationPass → Except String (Option Json × EvaluationPass)
  | [], pass => .ok (none, pass)
  | attempt :: rest, pass => do
    let (accepted, pass) ← runAttempt binding world item attempt pass
    match accepted with
    | some accepted => .ok (some accepted, pass)
    | none => runAttempts item rest pass

/-- `evaluate_fresh_item`, up to the evaluation. -/
def freshEvaluation (pass : EvaluationPass) : Except String (Option Json × EvaluationPass) :=
  match deterministicFeedbackEvaluation item (world.clock pass.readings) with
  | some accepted =>
    .ok (some accepted, pass.upsert binding item accepted (world.clock (pass.readings + 1))
      (pass.readings + 2))
  | none =>
    runAttempts binding world item (List.range' 1 maxAttemptsPerItem)
      { pass with readings := pass.readings + 1 }

def EvaluationPass.accept (accepted : Json) (pass : EvaluationPass) : EvaluationPass :=
  { pass with
    sets := { pass.sets with acceptedResults := pass.sets.acceptedResults ++ [accepted] } }

def evaluateFreshItem (pass : EvaluationPass) : Except String EvaluationPass := do
  let (accepted, pass) ← freshEvaluation binding world item pass
  match accepted with
  | some accepted => .ok (pass.accept accepted)
  | none =>
    .ok
      { pass with
        sets := { pass.sets with
          budgetExhaustedItems := pass.sets.budgetExhaustedItems ++
            [.obj (item.identityFields ++ [("attempts", .num maxAttemptsPerItem)])] } }

end

/-- An evaluation that is reused, as it is accepted. -/
def reusedResult (value : Json) : Json :=
  insertField "reuse_state" (.str "reused_from_state") (insertField "source" (.str "reused") value)

def processItem (stateEntries : List Json) (item : FeedbackItem) (pass : EvaluationPass) :
    Except String EvaluationPass :=
  match reusableEvaluation binding item stateEntries with
  | .reuse value =>
    .ok
      { pass with
        sets := { pass.sets with
          acceptedResults := pass.sets.acceptedResults ++ [reusedResult value]
          reusedResultsCount := pass.sets.reusedResultsCount + 1 } }
  | .fatal reason =>
    .ok
      { pass with
        sets := { pass.sets with
          fatalReuseErrors := pass.sets.fatalReuseErrors ++ [unevaluatedItem item reason]
          unevaluatedItems := pass.sets.unevaluatedItems ++
            [unevaluatedItem item "fatal_prior_state"] } }
  | .noMatch => evaluateFreshItem binding world item pass

def processItems (stateEntries : List Json) :
    List FeedbackItem → EvaluationPass → Except String EvaluationPass
  | [], pass => .ok pass
  | item :: rest, pass => do
    let pass ← processItem binding world stateEntries item pass
    processItems stateEntries rest pass

end Pass

/-! ### What a pass has come to -/

/-- What `exactly_one_accepted_per_item` counts an evaluation under. -/
def acceptedKey (value : Json) : String × String × String :=
  (stringField value "item_id" "", stringField value "body_hash" "",
    stringField value "head_sha" "")

def FeedbackItem.acceptedKey (item : FeedbackItem) : String × String × String :=
  (item.itemId, item.bodyHash, item.headSha)

def exactlyOneAcceptedPerItem (items : List FeedbackItem) (accepted : List Json) : Bool :=
  let keys := accepted.map Luther.acceptedKey
  items.all (fun item => keys.count item.acceptedKey == 1)
    && keys.dedup.length == items.length

/-- `complete`, of `finalize`. -/
def EvaluationOutcomeSets.complete (items : List FeedbackItem) (sets : EvaluationOutcomeSets) :
    Bool :=
  sets.fatalReuseErrors.isEmpty && sets.budgetExhaustedItems.isEmpty
    && sets.unevaluatedItems.isEmpty && exactlyOneAcceptedPerItem items sets.acceptedResults

/-- `derive_evaluation_state`, as its text. -/
def deriveEvaluationState (complete hasBudgetExhausted hasFatalReuse : Bool) : String :=
  if complete then "complete"
  else if hasBudgetExhausted then "budget_exhausted"
  else if hasFatalReuse then "fatal"
  else "incomplete"

/-! ### The artifacts -/

def feedbackFamily : String := "coderabbit-feedback"

def feedbackStateFamily : String := "coderabbit-feedback-state"

def evaluationsFamily : String := "feedback-evaluations"

/-- `source_artifact` of the evaluator. -/
def evaluatorSourceArtifact (value : Json) (family : String) : Json :=
  .obj
    [("artifact_family", .str family),
     ("artifact_sequence", (value.get? "artifact_sequence").getD .null),
     ("write_sequence", (value.get? "write_sequence").getD .null),
     ("producer_step_id", (value.get? "producer_step_id").getD .null)]

def feedbackEvaluationArtifact (evaluationState : String) (itemsSeen : Nat)
    (sets : EvaluationOutcomeSets) (sourceArtifacts : List Json) : Json :=
  .obj
    [("evaluation_state", .str evaluationState),
     ("items_seen", .num itemsSeen),
     ("accepted_results", .arr sets.acceptedResults),
     ("rejected_attempts", .arr sets.rejectedAttempts),
     ("unevaluated_items", .arr sets.unevaluatedItems),
     ("budget_exhausted_items", .arr sets.budgetExhaustedItems),
     ("max_attempts_per_item", .num maxAttemptsPerItem),
     ("reused_results_count", .num sets.reusedResultsCount),
     ("source_artifacts", .arr sourceArtifacts)]

/-- The payload of `write_state_artifact`. -/
def statePayload (entries : List Json) : Json :=
  .obj
    [("state_entries", .arr entries),
     ("state_index_hash", .str (fnv64Text (Json.arr entries).render)),
     ("superseded_entries", .arr [])]

structure FeedbackEvaluationStep where
  binding : PrFollowupBinding
  params : Json
  stepId : String := "evaluate_coderabbit_feedback"
  identified : stepId ≠ ""
  /-- The parameters are read from a file of a workflow. -/
  shallow : params.depth < 126

/-- One execution of it, with what it meets with. -/
structure FeedbackEvaluationRun where
  step : FeedbackEvaluationStep
  world : EvaluationWorld
  order : ListingOrder
  writtenAt : Timestamp
  publishState : Publication := .published
  publishEvaluations : Publication := .published

section Execution

variable (validate : FamilyInvariants) (run : FeedbackEvaluationRun)

def evaluationRequest (family : String) (payload : Json) (failure : Option ArtifactFailure) :
    JsonArtifactWriteRequest where
  binding := run.step.binding
  artifactFamily := family
  producerStepId := run.step.stepId
  stepOrderIndex := UInt64.ofNat (u64Param run.step.params "step_order_index" 6)
  writtenAt := run.writtenAt
  producedAt := run.writtenAt
  payload := payload
  failure := failure

def writeEvaluationStepArtifact (family : String) (payload : Json)
    (failure : Option ArtifactFailure) (publication : Publication) :
    Effect ArtifactStore Unit :=
  Effect.of fun store =>
    let (written, store) := writeJsonArtifactLocked validate run.order
      (evaluationRequest run family payload failure) publication store
    (written.map fun _ => (), store)

def writeEvaluationArtifact (payload : Json) (failure : Option ArtifactFailure) :
    Effect ArtifactStore Unit :=
  writeEvaluationStepArtifact validate run evaluationsFamily payload failure
    run.publishEvaluations

/-- The entries that `read_or_initialize_state` finds. -/
def readStateEntries (store : ArtifactStore) : Except String (List Json) :=
  match store.currentFile run.step.binding feedbackStateFamily with
  | some _ => do
    let state ← readCurrentJson validate run.step.binding feedbackStateFamily store
    .ok (arrayField state "state_entries")
  | none => .ok (arrayField run.step.params "state_entries")

/-- The items of the feedback in the order of their evaluation, and the pass over them. -/
def evaluationPass (feedback : Json) (store : ArtifactStore) :
    Except String (List FeedbackItem × EvaluationPass) := do
  let items ← feedbackItems feedback
  let items := items.insertionSort FeedbackItem.le
  let stateEntries ← readStateEntries validate run store
  let pass ← processItems run.step.binding run.world stateEntries items { entries := stateEntries }
  .ok (items, pass)

/-- `finalize`. -/
def finalizeEvaluation (feedback : Json) (items : List FeedbackItem) (pass : EvaluationPass) :
    Effect ArtifactStore StepOutcome := do
  let sets := pass.sets
  let complete := sets.complete items
  let evaluationState := deriveEvaluationState complete (!sets.budgetExhaustedItems.isEmpty)
    (!sets.fatalReuseErrors.isEmpty)
  let payload := feedbackEvaluationArtifact evaluationState items.length sets
    [evaluatorSourceArtifact feedback feedbackFamily]
  if complete then
    writeEvaluationStepArtifact validate run feedbackStateFamily
      (statePayload pass.entries) none run.publishState
    writeEvaluationArtifact validate run payload none
    pure .success
  else
    writeEvaluationArtifact validate run payload (some
      { semanticState := evaluationState
        reason :=
          if evaluationState = "budget_exhausted" then "evaluation_budget_exhausted"
          else "evaluation_incomplete_or_fatal"
        details := .obj
          [("fatal_reuse_errors", .arr sets.fatalReuseErrors),
           ("items_seen", .num items.length)] })
    pure .fatal

def evaluateCoderabbitFeedback : Effect ArtifactStore StepOutcome := do
  let store ← Effect.state
  match readCurrentJson validate run.step.binding feedbackFamily store with
  | .error error =>
    writeEvaluationArtifact validate run
      (feedbackEvaluationArtifact "fatal" 0 {}
        [.obj [("artifact_family", .str feedbackFamily), ("error", .str error)]])
      (some ⟨"fatal", "missing_or_unbindable_feedback", .obj [("error", .str error)]⟩)
    pure .fatal
  | .ok feedback =>
    if feedback.text? "readiness_state" ≠ some "ready" then
      writeEvaluationArtifact validate run
        (feedbackEvaluationArtifact "fatal" 0 {}
          [evaluatorSourceArtifact feedback feedbackFamily])
        (some ⟨"fatal", "feedback_not_ready",
          .obj [("readiness_state", (feedback.get? "readiness_state").getD .null)]⟩)
      pure .fatal
    else
      match evaluationPass validate run feedback store with
      | .error error => throw error
      | .ok (items, pass) => finalizeEvaluation validate run feedback items pass

end Execution

end Luther
