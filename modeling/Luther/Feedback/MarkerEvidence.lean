/-
The evidence that a fixed action is asked for before it is posted.

An action that says that feedback was fixed was made from the result of a remediation, and tells
which.  Before it is posted the result is looked up again: in the canonical file where the pull
request is still at the head that the action is about, and in the history where it has moved on.
One of its items has to say with success what the action says.
-/
import Luther.Feedback.MarkerActions
import Luther.Remediation.ResultValidation

namespace Luther

def remediationResultFamily : String := "pr-remediation-result"

/-! ### What an action carries -/

/-- The evidence that an action names. -/
structure FixedActionEvidenceRef where
  resultSequence : ArtifactSequenceMetadata
  planArtifactSequence : Nat
  remediationAttemptIndex : Nat
  sourceHeadSha : String
  outputHeadSha : String

def requiredActionU64 (value : Json) (field : String) : Except String Nat :=
  match value.u64? field with
  | some n => .ok n
  | none => .error s!"missing {field}"

def requiredActionText (value : Json) (field : String) : Except String String :=
  match (value.text? field).filter (· ≠ "") with
  | some text => .ok text
  | none => .error s!"missing or empty {field}"

/-- The two heads of an action are told twice, and have to agree. -/
def actionOutputHead (value : Json) (sourceHeadSha : String) : Except String String :=
  let outputHead := value.text? "remediation_output_head"
  let outputHeadSha := value.text? "remediation_output_head_sha"
  if outputHead.isSome ∧ outputHeadSha.isSome ∧ outputHead ≠ outputHeadSha then
    .error "inconsistent remediation output head fields"
  else if (value.text? "remediation_input_head_sha").any (· ≠ sourceHeadSha) then
    .error "inconsistent remediation input head fields"
  else
    let head := (outputHead.or outputHeadSha).getD ""
    if head = "" ∨ head = noRemediationOutputHead then
      .error ("comment_fixed cross-head action must carry a non-empty "
        ++ s!"remediation_output_head, got {head.quote}")
    else .ok head

def FixedActionEvidenceRef.fromActionValue (value : Json) : Except String FixedActionEvidenceRef := do
  let artifactSequence ← requiredActionU64 value "remediation_result_artifact_sequence"
  let writeSequence ← requiredActionU64 value "remediation_result_write_sequence"
  let producerStepId ← requiredActionText value "remediation_result_producer_step_id"
  if artifactSequence = 0 ∨ writeSequence = 0 then
    .error "zero remediation_result sequence value"
  let planArtifactSequence ← requiredActionU64 value "plan_artifact_sequence"
  if planArtifactSequence = 0 then
    .error "zero plan_artifact_sequence"
  let remediationAttemptIndex ← requiredActionU64 value "remediation_attempt_index"
  let sourceHeadSha ← requiredActionText value "source_head_sha"
  let outputHeadSha ← actionOutputHead value sourceHeadSha
  .ok
    { resultSequence := ⟨artifactSequence, writeSequence, producerStepId⟩
      planArtifactSequence := planArtifactSequence
      remediationAttemptIndex := remediationAttemptIndex
      sourceHeadSha := sourceHeadSha
      outputHeadSha := outputHeadSha }

/-- A field that is there, and not `null`. -/
def isPresent (value : Json) (field : String) : Bool := (value.get? field).any (· ≠ .null)

/-- The numbers of the result that an action was made from. -/
def evidenceTupleFields : List String :=
  ["remediation_result_artifact_sequence", "remediation_result_write_sequence",
    "remediation_result_producer_step_id"]

def carriedEvidenceRef (action : PendingMarkerAction) :
    Except String (Option FixedActionEvidenceRef) :=
  if action.bodyHash = "" then .error "fixed marker action carries empty body_hash"
  else if !isPresent action.value "remediation_result_evidence" then .ok none
  else
    let present := evidenceTupleFields.countP (isPresent action.value)
    if present = 0 then .ok none
    else if present ≠ evidenceTupleFields.length then
      .error "fixed marker action carries a partial remediation-result evidence tuple"
    else (FixedActionEvidenceRef.fromActionValue action.value).map some

/-! ### What a result says -/

/-- The heads that a result is for. -/
structure ValidatorResultHeads where
  input : String
  output : Option String

section

variable (binding : PrFollowupBinding)

def validatorResultHeads (action : PendingMarkerAction)
    (result : Json) : Option ValidatorResultHeads :=
  if result.text? "validation_state" ≠ some "valid"
      ∨ isPresent action.value "remediation_result_evidence" = false then none
  else
    let input := (result.text? "input_head_sha").getD binding.headSha
    let output := result.text? "output_head_sha"
    if input ≠ action.sourceHeadSha
        ∨ (action.remediationOutputHead ≠ noRemediationOutputHead
          ∧ output ≠ some action.remediationOutputHead) then none
    else some ⟨input, output⟩

def retryIndexWithinBound (scope : Json) (indexField maxField : String) : Bool :=
  (scope.u64? indexField).any fun index =>
    (scope.u64? maxField).any fun maximum => decide (0 < maximum) && decide (index < maximum)

def requiredScopeNumbers : List String :=
  ["remediation_attempt_index", "max_remediation_attempts", "validation_retry_index",
    "max_validation_retries", "stale_artifact_retry_index", "max_stale_artifact_retries"]

def retryScopeMatchesFixedAction (result : Json) (planSequence : Nat)
    (inputHead outputHead : Option String) (evidenceRef : Option FixedActionEvidenceRef) : Bool :=
  match result.get? "retry_scope" with
  | some (.obj entries) =>
    let scope : Json := .obj entries
    scope.text? "scope_kind" == some "remediation_result_validation"
      && scope.text? "run_id" == some binding.runId
      && scope.text? "repository_owner" == some binding.repositoryOwner
      && scope.text? "repository_name" == some binding.repositoryName
      && scope.u64? "pr_number" == some binding.prNumber.toNat
      && scope.text? "input_head_sha" == inputHead
      && scope.text? "output_head_sha" == outputHead
      && scope.u64? "plan_artifact_sequence" == some planSequence
      && requiredScopeNumbers.all (fun field => (scope.u64? field).isSome)
      && retryIndexWithinBound scope "remediation_attempt_index" "max_remediation_attempts"
      && retryIndexWithinBound scope "validation_retry_index" "max_validation_retries"
      && retryIndexWithinBound scope "stale_artifact_retry_index" "max_stale_artifact_retries"
      && evidenceRef.all fun reference =>
        scope.u64? "remediation_attempt_index" == some reference.remediationAttemptIndex
  | _ => false

def validatorProvenanceMatches (result : Json)
    (heads : ValidatorResultHeads) (evidenceRef : Option FixedActionEvidenceRef) : Bool :=
  match evidenceRef with
  | none => ((result.get? "retry_scope").bind (Json.text? "run_id")) == some binding.runId
  | some reference =>
    match result.u64? "plan_artifact_sequence", result.text? "producer_step_id" with
    | some planSequence, some resultProducer =>
      resultProducer != ""
        && result.u64? "artifact_sequence" == some reference.resultSequence.artifactSequence
        && result.u64? "write_sequence" == some reference.resultSequence.writeSequence
        && resultProducer == reference.resultSequence.producerStepId
        && planSequence == reference.planArtifactSequence
        && retryScopeMatchesFixedAction binding result planSequence (some heads.input)
          heads.output (some reference)
    | _, _ => false

section

variable (action : PendingMarkerAction)

def validatorItemEvidenceMatches (item : Json) (exactEvidence : Bool) : Bool :=
  if exactEvidence then
    item.get? "evidence" == action.value.get? "remediation_result_evidence"
  else isPresent item "evidence"

def validatorResultItemMatches (item : Json)
    (heads : ValidatorResultHeads) (exactEvidence : Bool) : Bool :=
  item.text? "source_type" == some "coderabbit_feedback"
    && item.text? "source_id" == some action.itemId
    && (item.text? "status").any successStatuses.contains
    && item.text? "input_head_sha" == some heads.input
    && (!exactEvidence || item.text? "output_head_sha" == heads.output)
    && item.text? "body_hash" == some action.bodyHash
    && item.text? "stable_marker_key" == some action.stableMarkerKey
    && validatorItemEvidenceMatches action item exactEvidence

def markerActionHasValidatorSuccess
    (result : Json) (evidenceRef : Option FixedActionEvidenceRef) : Bool :=
  match validatorResultHeads binding action result with
  | none => false
  | some heads =>
    validatorProvenanceMatches binding result heads evidenceRef
      && (arrayField result "results").any fun item =>
        validatorResultItemMatches action item heads evidenceRef.isSome

end

end

/-! ### The gate -/

def validatedHistoryLedgerRequired : String :=
  "cross-head evidence lookup requires a validated history ledger"

/-- The query of an action that is about another head. -/
def markerEvidenceQuery (action : PendingMarkerAction)
    (evidenceRef : Option FixedActionEvidenceRef) : HistoryEvidenceQuery :=
  match evidenceRef with
  | some reference =>
    ⟨remediationResultFamily, reference.sourceHeadSha, some reference.outputHeadSha,
      some reference.resultSequence⟩
  | none => ⟨remediationResultFamily, action.sourceHeadSha, some action.remediationOutputHead, none⟩

def readMarkerActionEvidence (validate : FamilyInvariants)
    (order : ListingOrder) (binding : PrFollowupBinding) (action : PendingMarkerAction)
    (evidenceRef : Option FixedActionEvidenceRef) (historyLedger : Option ValidatedHistoryLedger)
    (store : ArtifactStore) : Except String (Option Json) :=
  if action.sourceHeadSha = binding.headSha then
    readOptionalCurrentJsonForHead validate binding remediationResultFamily store
  else
    match historyLedger with
    | none => .error validatedHistoryLedgerRequired
    | some ledger =>
      readHistoryEvidence validate order binding ledger
        (markerEvidenceQuery action evidenceRef) store

/-- `validate_marker_action_evidence`: no outcome is a pass. -/
def validateMarkerActionEvidence (validate : FamilyInvariants)
    (order : ListingOrder) (binding : PrFollowupBinding) (action : PendingMarkerAction)
    (historyLedger : Option ValidatedHistoryLedger) (store : ArtifactStore) :
    Except String (Option MarkerActionOutcome) :=
  if action.actionKind ≠ .commentFixed then .ok none
  else do
    let evidenceRef ← (carriedEvidenceRef action).mapError fun error =>
      (s!"invalid evidence for action {action.actionId} ({action.stableMarkerKey}, "
        ++ s!"item {action.itemId}): {error}")
    let result ← readMarkerActionEvidence validate order binding action
      evidenceRef historyLedger store
    if result.any fun payload =>
        markerActionHasValidatorSuccess binding action payload evidenceRef then .ok none
    else .ok (some (missingValidatorEvidenceOutcome binding action))

end Luther
