/-
What the validation of a result asks of it.

A result answers for the items of a plan.  The validation matches the two by a key that is made
of the type and the id of an item, asks evidence of every answer that says the item is done, and
wants one answer for each key.  A result that is about another plan, or another head, is stale.
-/
import Luther.Lib.Text
import Luther.Remediation.PostPrVerification

def Json.text? (key : String) (value : Json) : Option String := (value.get? key).bind Json.asStr?

namespace Luther

/-! ### The scope of a result -/

/-- The launch that a result is to be for. -/
structure RemediationRetryScope where
  runId : String
  repositoryOwner : String
  repositoryName : String
  prNumber : Nat
  inputHeadSha : String
  outputHeadSha : Option String
  planArtifactSequence : Nat
  remediationAttemptIndex : Nat
  maxRemediationAttempts : Nat
  validationRetryIndex : Nat
  maxValidationRetries : Nat
  staleArtifactRetryIndex : Nat
  maxStaleArtifactRetries : Nat
  scopeKind : String
  deriving DecidableEq

/-- A result that is for another launch. -/
structure StaleScopeClassification where
  expectedScope : RemediationRetryScope
  observedScope : Json
  errors : List String
  staleArtifactRetryIndex : Nat
  maxStaleArtifactRetries : Nat
  deriving DecidableEq

def scopeMismatch (field expected : String) (value : Option String) : String :=
  let got := value.getD "<missing>"
  s!"retry_scope.{field} mismatch: expected {expected}, got {got}"

def compareScopeString (observed : Json) (field expected : String) : List String :=
  let value := observed.text? field
  if value = some expected then [] else [scopeMismatch field expected value]

def compareScopeU64 (observed : Json) (field : String) (expected : Nat) : List String :=
  let value := observed.u64? field
  if value = some expected then [] else [scopeMismatch field (toString expected) (value.map toString)]

/-- A field of the scope, or of the result where the scope does not have it. -/
def scopeOrResult (result observed : Json) (field : String) : Option Json :=
  (observed.get? field).or (result.get? field)

def compareScopeStringIfPresent (result observed : Json) (field expected : String) :
    List String :=
  let value := (scopeOrResult result observed field).bind Json.asStr?
  if value.isSome ∧ value ≠ some expected then [scopeMismatch field expected value] else []

def compareScopeU64IfPresent (result observed : Json) (field : String) (expected : Nat) :
    List String :=
  let value := (scopeOrResult result observed field).bind Json.asU64?
  if value.isSome ∧ value ≠ some expected then
    [scopeMismatch field (toString expected) (value.map toString)]
  else []

def observedRetryScope (result : Json) : Json :=
  match result.get? "retry_scope" with
  | some (.obj entries) => .obj entries
  | _ => .obj []

def staleScopeErrors (result observed : Json) (expected : RemediationRetryScope) : List String :=
  compareScopeString observed "run_id" expected.runId ++
  compareScopeString observed "repository_owner" expected.repositoryOwner ++
  compareScopeString observed "repository_name" expected.repositoryName ++
  compareScopeU64 observed "pr_number" expected.prNumber ++
  compareScopeString observed "input_head_sha" expected.inputHeadSha ++
  compareScopeU64 observed "plan_artifact_sequence" expected.planArtifactSequence ++
  (expected.outputHeadSha.map
    (compareScopeStringIfPresent result observed "output_head_sha")).getD [] ++
  compareScopeU64IfPresent result observed "remediation_attempt_index"
    expected.remediationAttemptIndex ++
  compareScopeU64IfPresent result observed "max_remediation_attempts"
    expected.maxRemediationAttempts ++
  compareScopeU64IfPresent result observed "validation_retry_index"
    expected.validationRetryIndex ++
  compareScopeU64IfPresent result observed "max_validation_retries"
    expected.maxValidationRetries ++
  compareScopeStringIfPresent result observed "scope_kind" expected.scopeKind

/-- `checked_add(u64::from(advance))`. -/
def checkedAdvance (counter : Nat) (advance : Bool) (overflow : String) : Except String Nat :=
  let next := counter + if advance then 1 else 0
  if next < 2 ^ 64 then .ok next else .error overflow

def isStaleScopeValidationResult (result : Json) : Bool :=
  let state := result.text? "validation_state"
  state == some "stale_artifact" || state == some "stale_artifact_cap_exhausted"

def classifyStaleRemediationScope (result : Json) (expected : RemediationRetryScope)
    (advanceValidation : Bool) : Except String (Option StaleScopeClassification) :=
  if isStaleScopeValidationResult result then .ok none
  else
    let observed := observedRetryScope result
    match staleScopeErrors result observed expected with
    | [] => .ok none
    | errors => do
      let index ← checkedAdvance expected.staleArtifactRetryIndex advanceValidation
        "stale artifact retry counter overflowed"
      .ok (some
        { expectedScope := expected
          observedScope := observed
          errors := errors
          staleArtifactRetryIndex := index
          maxStaleArtifactRetries := expected.maxStaleArtifactRetries })

/-! ### The items of a result -/

/-- `REMEDIATION_RESULT_UNSUCCESSFUL_STATUSES`. -/
def unsuccessfulStatuses : List String := ["not_fixed", "skipped", "failed"]

/-- `REMEDIATION_RESULT_VALID_STATUSES`. -/
def validStatuses : List String := successStatuses ++ unsuccessfulStatuses

def itemKey (item : Json) : String :=
  stringField item "source_type" "" ++ ":" ++ stringField item "source_id" ""

def isNamed (item : Json) : Bool :=
  stringField item "source_type" "" != "" && stringField item "source_id" "" != ""

/-- `plan_items_by_key`: an item without a type or an id is passed over, and a later item takes
the place of an earlier one. -/
def planItemsByKey (plan : Json) : List (String × Json) :=
  ((arrayField plan "must_fix").filter isNamed).foldl
    (fun items item => Assoc.insert (itemKey item) item items) []

/-- What an item of the plan says of one of its fields, and its answer does not. -/
def carriedFieldErrors (planItem item : Json) (key field : String) : List String :=
  let expected := planItem.text? field
  if expected.isSome ∧ item.text? field ≠ expected then
    [s!"result item {key} {field} does not match current plan item"]
  else []

def validateResultBinding (binding : PrFollowupBinding) (planItem item : Json) (key : String) :
    List String :=
  let inputHead := ((item.get? "input_head_sha").or (item.get? "head_sha")).bind Json.asStr?
  (if inputHead = some binding.headSha then []
    else [s!"result item {key} is not tied to current input head"]) ++
  (if planItem.text? "input_head_sha" = some binding.headSha then []
    else [s!"plan item {key} is not tied to current input head"]) ++
  (if item.text? "source_type" = planItem.text? "source_type"
      ∧ item.text? "source_id" = planItem.text? "source_id" then []
    else [s!"result item {key} identity does not match current plan item"]) ++
  carriedFieldErrors planItem item key "stable_marker_key" ++
  carriedFieldErrors planItem item key "body_hash"

def validateItemIdentity (binding : PrFollowupBinding) (planItem : Option Json) (item : Json)
    (key : String) : List String :=
  (match planItem with
    | none => [s!"result item {key} does not match current plan item"]
    | some planItem => validateResultBinding binding planItem item key) ++
  (if (trim (stringField item "response_text" "")).isEmpty then
    [s!"result item {key} missing response_text"] else [])

def evidenceOf (item : Json) : Json := (item.get? "evidence").getD .null

def validateFixedEvidence (outputHeadSha : String) (item : Json) (key : String) : List String :=
  if (evidenceOf item).text? "current_head_sha" = some outputHeadSha then []
  else [s!"fixed evidence for {key} is not tied to current head"]

def isPassedCommand (command : Json) : Bool :=
  command.text? "status" == some "passed" && !(arrayField command "argv").isEmpty

def isNotFoundLookup (lookup : Json) : Bool :=
  (lookup.text? "endpoint").isSome && lookup.text? "normalized_status" == some "not_found"

section

variable (binding : PrFollowupBinding)

def validateDeterministicEvidence (planItem : Option Json)
    (item : Json) (status key : String) : List String :=
  match planItem with
  | none => []
  | some planItem =>
    let evidence := evidenceOf item
    (if planItem.text? "input_head_sha" = some binding.headSha then []
      else [s!"plan item {key} is not tied to current input head"]) ++
    (if evidence.text? "current_head_sha" = some binding.headSha then []
      else [s!"{status} evidence for {key} is not tied to current input head"]) ++
    (if status = "already_satisfied" then
      if (arrayField evidence "commands").any isPassedCommand then []
      else [s!"already_satisfied result {key} lacks deterministic passed command evidence"]
    else if status = "not_reproduced" then
      if evidence.text? "kind" = some "api_lookup"
          ∧ (arrayField evidence "api_lookups").any isNotFoundLookup then []
      else [s!"not_reproduced result {key} lacks deterministic api lookup evidence"]
    else [])

def validateSuccessEvidence (planItem : Option Json) (item : Json)
    (status key outputHeadSha : String) : List String :=
  if status = "already_satisfied" ∨ status = "not_reproduced" then
    validateDeterministicEvidence binding planItem item status key
  else if status = "fixed" ∨ status = "changed" then validateFixedEvidence outputHeadSha item key
  else []

/-- `validate_result_item`: what is wrong with an item. -/
def resultItemErrors (planItems : List (String × Json))
    (outputHeadSha : String) (item : Json) : List String :=
  let status := stringField item "status" ""
  let key := itemKey item
  let planItem := planItems.lookup key
  validateItemIdentity binding planItem item key ++
  (if validStatuses.contains status then
    if unsuccessfulStatuses.contains status then []
    else validateSuccessEvidence binding planItem item status key outputHeadSha
  else [s!"unknown remediation status for {key}: {status}"])

def validateCompleteResultCoverage (planItems : List (String × Json)) (results : List Json) :
    List String :=
  ((planItems.map Prod.fst).insertionSort (· ≤ ·)).flatMap fun key =>
    match results.countP fun item => itemKey item == key with
    | 0 => [s!"missing remediation result for current plan item {key}"]
    | 1 => []
    | count => [s!"duplicate remediation results for current plan item {key}: {count}"]

/-! ### The result -/

def identityErrors (result : Json) (field expected : String) : List String :=
  let observed := stringField result field "<missing>"
  if observed = expected then []
  else [s!"{field} mismatch: expected {expected}, got {observed}"]

def topLevelRemediationErrors (plan result : Json)
    (inputHeadSha : String) (results : List Json) : List String :=
  identityErrors result "run_id" binding.runId ++
  identityErrors result "repository_owner" binding.repositoryOwner ++
  identityErrors result "repository_name" binding.repositoryName ++
  (if result.u64? "pr_number" = some binding.prNumber.toNat then []
    else
      let observed := ((result.get? "pr_number").map Json.render).getD "<missing>"
      [s!"pr_number mismatch: expected {binding.prNumber}, got {observed}"]) ++
  (if inputHeadSha = binding.headSha then []
    else [s!"input_head_sha mismatch: expected {binding.headSha}, got {inputHeadSha}"]) ++
  (if result.get? "plan_artifact_sequence" = plan.get? "artifact_sequence" then []
    else ["plan_artifact_sequence mismatch"]) ++
  (if results.isEmpty then ["missing remediation results"] else []) ++
  (result.text? "engine_validated_replay_error").toList

/-- `SemanticRemediationValidation`, with the counters of the scope. -/
structure SemanticRemediationValidation where
  errors : List String
  unsuccessfulStatuses : List String
  successfulCount : Nat
  resultCount : Nat
  noChangeAfterRemediation : Bool
  validationRetryIndex : Nat
  maxValidationRetries : Nat
  remediationAttemptIndex : Nat
  maxRemediationAttempts : Nat

def retryCounterErrors (scope : RemediationRetryScope) : List String :=
  let exceeds (counterName : String) (counter : Nat) (maximumName : String) (maximum : Nat) :
      List String :=
    if maximum < counter then [s!"{counterName} {counter} exceeds {maximumName} {maximum}"] else []
  exceeds "remediation_attempt_index" scope.remediationAttemptIndex "max_remediation_attempts"
    scope.maxRemediationAttempts ++
  exceeds "validation_retry_index" scope.validationRetryIndex "max_validation_retries"
    scope.maxValidationRetries ++
  exceeds "stale_artifact_retry_index" scope.staleArtifactRetryIndex "max_stale_artifact_retries"
    scope.maxStaleArtifactRetries

/-- `semantic_remediation_validation`, and what `evaluate_remediation_result` puts into it. -/
def semanticRemediationValidation (plan result : Json)
    (scope : RemediationRetryScope) : SemanticRemediationValidation :=
  let inputHeadSha := stringField result "input_head_sha" ""
  let outputHeadSha := stringField result "output_head_sha" ""
  let results := arrayField result "results"
  let planItems := planItemsByKey plan
  let statuses := results.map fun item => stringField item "status" ""
  { errors := topLevelRemediationErrors binding plan result inputHeadSha results ++
      results.flatMap (resultItemErrors binding planItems outputHeadSha) ++
      validateCompleteResultCoverage planItems results ++ retryCounterErrors scope
    unsuccessfulStatuses := statuses.filter unsuccessfulStatuses.contains
    successfulCount := statuses.countP successStatuses.contains
    resultCount := results.length
    noChangeAfterRemediation := outputHeadSha == inputHeadSha
    validationRetryIndex := scope.validationRetryIndex
    maxValidationRetries := scope.maxValidationRetries
    remediationAttemptIndex := scope.remediationAttemptIndex
    maxRemediationAttempts := scope.maxRemediationAttempts }

end

/-! ### The verdict -/

/-- `ValidationState`, as an evaluation gives it. -/
inductive ValidationState where
  | valid
  | fixableMalformed
  | malformedCapExhausted
  | validButUnsuccessful
  | unsuccessfulRemediationCapExhausted
  | staleArtifact
  | staleArtifactCapExhausted
  deriving DecidableEq

/-- The verdict on a result. -/
structure RemediationResultValidation where
  outcome : StepOutcome
  state : ValidationState
  failureReason : String
  errors : List String
  unsuccessfulStatuses : List String
  noChangeAfterRemediation : Bool
  validationRetryIndex : Nat
  maxValidationRetries : Nat
  remediationAttemptIndex : Nat
  maxRemediationAttempts : Nat
  staleScope : Option StaleScopeClassification
  deriving DecidableEq

def staleScopeValidation (staleScope : StaleScopeClassification)
    (expectedScope : RemediationRetryScope) : RemediationResultValidation :=
  let exhausted :=
    decide (staleScope.maxStaleArtifactRetries ≤ staleScope.staleArtifactRetryIndex)
  { outcome := if exhausted then .fatal else .fixable
    state := if exhausted then .staleArtifactCapExhausted else .staleArtifact
    failureReason := "stale_remediation_result_scope"
    errors := staleScope.errors
    unsuccessfulStatuses := []
    noChangeAfterRemediation := false
    validationRetryIndex := expectedScope.validationRetryIndex
    maxValidationRetries := expectedScope.maxValidationRetries
    remediationAttemptIndex := expectedScope.remediationAttemptIndex
    maxRemediationAttempts := expectedScope.maxRemediationAttempts
    staleScope := some staleScope }

def SemanticRemediationValidation.verdict (outcome : StepOutcome) (state : ValidationState)
    (failureReason : String) (semantic : SemanticRemediationValidation) :
    RemediationResultValidation where
  outcome := outcome
  state := state
  failureReason := failureReason
  errors := semantic.errors
  unsuccessfulStatuses := semantic.unsuccessfulStatuses
  noChangeAfterRemediation := semantic.noChangeAfterRemediation
  validationRetryIndex := semantic.validationRetryIndex
  maxValidationRetries := semantic.maxValidationRetries
  remediationAttemptIndex := semantic.remediationAttemptIndex
  maxRemediationAttempts := semantic.maxRemediationAttempts
  staleScope := none

def malformedRemediationValidation (semantic : SemanticRemediationValidation)
    (advanceValidation : Bool) : Except String RemediationResultValidation := do
  let index ← checkedAdvance semantic.validationRetryIndex advanceValidation
    "validation retry counter overflowed"
  let exhausted := decide (semantic.maxValidationRetries ≤ index)
  .ok ({ semantic with validationRetryIndex := index }.verdict
    (if exhausted then .fatal else .fixable)
    (if exhausted then .malformedCapExhausted else .fixableMalformed)
    "remediation_result_validation_failed")

def unsuccessfulRemediationValidation (semantic : SemanticRemediationValidation)
    (engineRetryStatePresent : Bool) : Except String RemediationResultValidation := do
  let index ← checkedAdvance semantic.remediationAttemptIndex (!engineRetryStatePresent)
    "remediation attempt counter overflowed"
  let exhausted := decide (semantic.maxRemediationAttempts ≤ index)
  .ok ({ semantic with remediationAttemptIndex := index }.verdict
    (if exhausted then .fatal else .fixable)
    (if exhausted then .unsuccessfulRemediationCapExhausted else .validButUnsuccessful)
    "remediation_unsuccessful")

def evaluateRemediationResult (binding : PrFollowupBinding) (plan result : Json)
    (expectedScope : RemediationRetryScope) (engineRetryStatePresent advanceValidation : Bool) :
    Except String RemediationResultValidation := do
  let countersValid := (retryCounterErrors expectedScope).isEmpty
  let stale ←
    (if countersValid then classifyStaleRemediationScope result expectedScope advanceValidation
    else .ok none)
  match stale with
  | some staleScope => .ok (staleScopeValidation staleScope expectedScope)
  | none =>
    let semantic := semanticRemediationValidation binding plan result expectedScope
    if !semantic.errors.isEmpty then
      malformedRemediationValidation semantic (advanceValidation && countersValid)
    else if !semantic.unsuccessfulStatuses.isEmpty
        || semantic.successfulCount != semantic.resultCount then
      unsuccessfulRemediationValidation semantic engineRetryStatePresent
    else .ok (semantic.verdict .success .valid "")

end Luther
