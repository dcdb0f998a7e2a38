/-
Which fixed actions can be proved when they are posted.

The gate that accepts a result and the gate that is asked for the evidence of an action read the
same document, and each has its own idea of what may be missing from it.  What the second wants
and the first does not is collected here, and shown to be all.  Whatever is written later to the
history makes no difference; a later result in the canonical file does, for as long as the pull
request stays at the head of the earlier one.
-/
import Luther.Proofs.RemediationScope
import Luther.Proofs.ResultSoundness

namespace Luther

/-! ### The document of a result -/

/-- A document of the history is the one that a write has put there. -/
structure PublishedAs (request : JsonArtifactWriteRequest) (record : ArtifactWriteRecord)
    (file : ContainedFile) : Prop where
  family : file.family = request.artifactFamily
  binding : bindingFromValue file.content = .ok request.binding
  artifact : file.content.u64? "artifact_sequence" = some record.sequence.artifactSequence
  write : file.content.u64? "write_sequence" = some record.sequence.writeSequence
  producer : file.content.text? "producer_step_id" = some record.sequence.producerStepId
  artifactBounds :
    0 < record.sequence.artifactSequence ∧ record.sequence.artifactSequence < 2 ^ 64
  writeBounds : 0 < record.sequence.writeSequence ∧ record.sequence.writeSequence < 2 ^ 64
  producerNonempty : record.sequence.producerStepId ≠ ""
  payload : ∀ field, field ∉ storeFieldNames →
    file.content.get? field = request.payload.get? field

section Published

variable {validate : FamilyInvariants} {pr : PrFollowupBinding}
  {store : ArtifactStore}

/-- **A write that is answered with a record has put its document into the history, and in
place.** -/
theorem Ledger.write_published (h : Ledger validate pr store)
    {call : WriteCall} (hrequest : WellFormed pr call.request) {record : ArtifactWriteRecord}
    (hrecord : (artifactMachine validate).answer store call = .ok record) :
    ∃ file ∈ ((artifactMachine validate).next store call).history,
      PublishedAs call.request record file ∧
        ((artifactMachine validate).next store call).document call.request.binding
          call.request.artifactFamily = some file.content := by
  have hlength : store.history.length ≤ maxArtifactScanFiles := by
    by_contra hlong
    obtain ⟨error, hrefused⟩ := recoverSequenceState_of_long validate
      (Nat.lt_of_not_le hlong) call.order call.request.binding (some call.request.artifactFamily)
    unfold StateMachine.answer artifactMachine writeJsonArtifactLocked at hrecord
    simp only [hrefused] at hrecord
    cases hrecord
  have hstep := h.write_eq hlength call.order hrequest call.publication
  unfold StateMachine.answer artifactMachine at hrecord
  unfold StateMachine.next artifactMachine
  simp only at hrecord ⊢
  rw [hstep] at hrecord ⊢
  cases hvalue : envelope store.root call.request (nextNumbers store call.request).1
      (nextNumbers store call.request).2 with
  | error error =>
    rw [hvalue] at hrecord
    simp [bind, Except.bind] at hrecord
  | ok value =>
    cases hinvariants : validate call.request.artifactFamily value with
    | error error =>
      rw [hvalue] at hrecord
      simp [bind, Except.bind, hinvariants] at hrecord
    | ok _ =>
      rw [hvalue] at hrecord
      cases hpublication : call.publication with
      | failed error | crashed => simp [bind, Except.bind, hinvariants, hpublication] at hrecord
      | published =>
        simp only [bind, Except.bind, hinvariants, hpublication] at hrecord ⊢
        obtain rfl := Except.ok.inj hrecord
        obtain ⟨hartifactLe, hwriteLe, -⟩ := h.largest_le
        have hwriteLe' := hwriteLe call.request.artifactFamily
        unfold maxArtifactScanFiles at hlength
        obtain ⟨hartifact, hwrite, hproducer, -⟩ := sequence_of_injectStoreFields hvalue
        obtain ⟨hfamily, -⟩ := h.numbers_of_envelope hlength hrequest hvalue
        refine ⟨_, List.mem_append_right _ (List.mem_singleton_self _), ?_,
          document_replaceCurrent_self hrequest hvalue⟩
        have hnumbers : (writeRecord store call.request).sequence =
          (nextNumbers store call.request).1 := rfl
        exact {
          family := hfamily
          binding := bindingFromValue_of_injectStoreFields hvalue hrequest.binding
          artifact := by
            show (value.get? "artifact_sequence").bind Json.asU64? = _
            rw [hartifact, Option.bind_some, Json.asU64?_natCast]
            · rfl
            · simp only [nextNumbers]
              omega
          write := by
            show (value.get? "write_sequence").bind Json.asU64? = _
            rw [hwrite, Option.bind_some, Json.asU64?_natCast]
            · rfl
            · simp only [nextNumbers]
              omega
          producer := by
            show (value.get? "producer_step_id").bind Json.asStr? = _
            rw [hproducer]
            rfl
          artifactBounds := by
            rw [hnumbers]
            simp only [nextNumbers]
            omega
          writeBounds := by
            rw [hnumbers]
            simp only [nextNumbers]
            omega
          producerNonempty := hrequest.producer
          payload := fun field hfield => get?_payload hvalue hfield }

end Published

/-! ### The document of a success -/

section

variable (prepared : PreparedRemediationValidation)

def PreparedRemediationValidation.scope : RemediationRetryScope :=
  remediationRetryScope prepared.binding prepared.plan prepared.result prepared.params

def PreparedRemediationValidation.outputHead : String :=
  stringField prepared.result "output_head_sha" prepared.binding.headSha

def publishedAttempt (recorded : Option RetryState) : Nat :=
  match recorded with
  | some state => state.counters.remediationAttemptIndex.toNat
  | none => (retryScopeU64 prepared.result "remediation_attempt_index").getD 0

end

/-- The payload of a result that was accepted. -/
structure SuccessPayload (prepared : PreparedRemediationValidation) (recorded : Option RetryState)
    (payload : RemediationResultValidationArtifact) : Prop where
  accepted : Accepted prepared.binding prepared.plan prepared.result prepared.scope
  ownScope : isStaleScopeValidationResult prepared.result = true ∨
    staleScopeErrors prepared.result (observedRetryScope prepared.result) prepared.scope = []
  inputHead : payload.inputHeadSha = prepared.binding.headSha
  outputHead : payload.outputHeadSha = prepared.outputHead
  results : payload.results = arrayField prepared.result "results"
  state : payload.validationState = .valid
  retryScope : payload.retryScope = publishedScope recorded (observedRetryScope prepared.result)
  plan : payload.planArtifactSequence.asU64? = prepared.plan.u64? "artifact_sequence"
  attempt : payload.remediationAttemptIndex = publishedAttempt prepared recorded

section Success

variable {prepared : PreparedRemediationValidation} {recorded : Option RetryState}
  {validation : RemediationResultValidation} {validatedAt : String}

theorem inputHead_of_accepted {binding : PrFollowupBinding} {plan result : Json}
    {scope : RemediationRetryScope} (h : Accepted binding plan result scope) :
    stringField result "input_head_sha" binding.headSha = binding.headSha := by
  have hhead := h.topLevel.1
  unfold stringField at hhead ⊢
  cases htext : (result.get? "input_head_sha").bind Json.asStr? with
  | none => rfl
  | some head =>
    rw [htext] at hhead
    exact hhead

/-- **What is published of a result that was accepted.** -/
theorem successPayload (h : prepared.validation = .ok validation)
    (hsuccess : validation.outcome = .success) :
    SuccessPayload prepared recorded (prepared.payload validation recorded validatedAt) := by
  have haccepted := accepted_of_success h hsuccess
  obtain ⟨hverdict, hown⟩ := success_verdict h hsuccess
  have hstale : validation.staleScope = none := by
    rw [hverdict]
    rfl
  have hscope : remediationRetryScopePayload prepared.result validation =
      observedRetryScope prepared.result := by
    unfold remediationRetryScopePayload
    rw [hstale]
    split
    · rename_i heq
      cases heq
    · rfl
  have hplan : (fieldOrNull prepared.result "plan_artifact_sequence").asU64? =
      prepared.plan.u64? "artifact_sequence" := by
    unfold fieldOrNull Json.u64?
    rw [haccepted.topLevel.2]
    cases prepared.plan.get? "artifact_sequence" with
    | none => rfl
    | some value => rfl
  have hattempt : validation.remediationAttemptIndex = publishedAttempt prepared none := by
    rw [hverdict]
    rfl
  have hstate : validation.state = .valid := by
    rw [hverdict]
    rfl
  cases recorded with
  | none =>
    exact ⟨haccepted, hown, inputHead_of_accepted haccepted, rfl, rfl, hstate, hscope, hplan,
      hattempt⟩
  | some state =>
    refine ⟨haccepted, hown, inputHead_of_accepted haccepted, rfl, rfl, hstate, ?_, hplan, rfl⟩
    show projectedRetryScope state (some (remediationRetryScopePayload prepared.result
      validation)) = _
    rw [hscope]
    rfl

/-- A payload that says the same, whenever it was validated. -/
def SameResult (published payload : Json) : Prop :=
  ∀ field, field ≠ "validated_at" → published.get? field = payload.get? field

/-- What the document of a successful validation says. -/
structure SuccessDocument (prepared : PreparedRemediationValidation)
    (recorded : Option RetryState) (document : Json) : Prop where
  state : document.text? "validation_state" = some "valid"
  inputHead : document.text? "input_head_sha" = some prepared.binding.headSha
  outputHead : document.text? "output_head_sha" = some prepared.outputHead
  results : arrayField document "results" = arrayField prepared.result "results"
  retryScope : document.get? "retry_scope" =
    some (publishedScope recorded (observedRetryScope prepared.result))
  plan : document.u64? "plan_artifact_sequence" = prepared.plan.u64? "artifact_sequence"

theorem SuccessPayload.document {payload : RemediationResultValidationArtifact}
    (h : SuccessPayload prepared recorded payload) {request : JsonArtifactWriteRequest}
    {record : ArtifactWriteRecord} {file : ContainedFile} (hfile : PublishedAs request record file)
    (hsame : SameResult request.payload payload.toJson) :
    SuccessDocument prepared recorded file.content := by
  have hget : ∀ field, field ∉ storeFieldNames → field ≠ "validated_at" →
      file.content.get? field = payload.toJson.get? field :=
    fun field hstore hfield => (hfile.payload field hstore).trans (hsame field hfield)
  constructor
  case state =>
    rw [text?_congr (hget "validation_state" (by decide) (by decide))]
    show some payload.validationState.text = _
    rw [h.state]
    rfl
  case inputHead =>
    rw [text?_congr (hget "input_head_sha" (by decide) (by decide))]
    exact congrArg some h.inputHead
  case outputHead =>
    rw [text?_congr (hget "output_head_sha" (by decide) (by decide))]
    exact congrArg some h.outputHead
  case results =>
    unfold arrayField
    rw [hget "results" (by decide) (by decide)]
    exact h.results
  case retryScope =>
    rw [hget "retry_scope" (by decide) (by decide)]
    exact congrArg some h.retryScope
  case plan =>
    rw [u64?_congr (hget "plan_artifact_sequence" (by decide) (by decide))]
    exact h.plan

end Success

/-! ### The answer -/

/-- **What an answer that was accepted has to have besides, for its action to be provable.** -/
structure ProvableAnswer (prepared : PreparedRemediationValidation)
    (recorded : Option RetryState) (planItem answer : Json) : Prop where
  planNumbered : ∃ n, prepared.plan.u64? "artifact_sequence" = some n ∧ 0 < n
  /-- It does not pass itself off as stale, or it does for no reason. -/
  ownScope : isStaleScopeValidationResult prepared.result = false ∨
    staleScopeErrors prepared.result (observedRetryScope prepared.result) prepared.scope = []
  scopeKind : (observedRetryScope prepared.result).text? "scope_kind" =
    some "remediation_result_validation"
  scopeOutput : (observedRetryScope prepared.result).text? "output_head_sha" =
    some prepared.outputHead
  attemptsLeft : AttemptsLeft recorded (observedRetryScope prepared.result)
  inputHead : answer.get? "input_head_sha" ≠ none
  outputHead : answer.text? "output_head_sha" = some prepared.outputHead
  /-- The plan knows the marker, or the answer has the one that the action gets. -/
  marker : planItem.text? "stable_marker_key" = none →
    answer.text? "stable_marker_key" = answer.text? "source_id"

/-- The action was derived from an answer of the result. -/
structure DerivedAction (prepared : PreparedRemediationValidation) (recorded : Option RetryState)
    (payload : RemediationResultValidationArtifact) (record : ArtifactWriteRecord)
    (planItem answer : Json) (action : PendingMarkerAction) : Prop where
  success : SuccessPayload prepared recorded payload
  given : answer ∈ arrayField prepared.result "results"
  fixed : isFixedFeedback answer = true
  planned : (planItemsByKey prepared.plan).lookup (itemKey answer) = some planItem
  parsed : pendingMarkerActionFromValue (pendingMarkerAction prepared.binding
    (fixedFeedbackItem planItem answer payload record.sequence) (some payload.outputHeadSha)) =
      .ok action

section Answer

variable {prepared : PreparedRemediationValidation} {recorded : Option RetryState}
  {payload : RemediationResultValidationArtifact} {record : ArtifactWriteRecord}
  {planItem answer : Json} {action : PendingMarkerAction}

variable {field text : String} {value : Json}

theorem text?_of_stringField (h : stringField value field "" = text) (hne : text ≠ "") :
    value.text? field = some text := by
  unfold stringField at h
  unfold Json.text?
  cases hread : (value.get? field).bind Json.asStr? with
  | none =>
    rw [hread] at h
    exact absurd h.symm hne
  | some found =>
    rw [hread] at h
    exact congrArg some h

theorem stringField_eq_text (h : value.text? field = some text) (default : String) :
    stringField value field default = text := by
  unfold Json.text? at h
  unfold stringField
  rw [h]
  rfl

namespace DerivedAction

theorem satisfies (h : DerivedAction prepared recorded payload record planItem answer action) :
    Satisfies prepared.binding (stringField prepared.result "output_head_sha" "") planItem
      answer := by
  obtain ⟨found, hfound, hsatisfies⟩ := h.success.accepted.satisfies h.given
  rw [h.planned] at hfound
  exact Option.some.inj hfound ▸ hsatisfies

section

variable (h : DerivedAction prepared recorded payload record planItem answer action)

include h

theorem read :
    ActionRead (pendingMarkerAction prepared.binding
      (fixedFeedbackItem planItem answer payload record.sequence) (some payload.outputHeadSha))
      action :=
  pendingMarkerActionFromValue_read h.parsed

theorem fields :
    FixedAction prepared.binding planItem answer payload record.sequence action.value :=
  h.read.kept ▸ fixedAction_derived prepared.binding planItem answer payload record.sequence

end

theorem sourceId (h : DerivedAction prepared recorded payload record planItem answer action) :
    planItem.text? "source_id" = some action.itemId ∧
      answer.text? "source_id" = some action.itemId := by
  have hnamed := (planItemsByKey_lookup h.planned).2.1
  unfold isNamed at hnamed
  simp only [Bool.and_eq_true, bne_iff_ne] at hnamed
  have hid : planItem.text? "source_id" = _ := text?_of_stringField rfl hnamed.2
  have hitem := h.read.itemId
  rw [h.read.kept.symm, h.fields.itemId, stringField_eq_text hid] at hitem
  rw [h.satisfies.sourceId, hid, Option.some.inj hitem]
  exact ⟨rfl, rfl⟩

theorem commentFixed (h : DerivedAction prepared recorded payload record planItem answer action) :
    action.actionKind = .commentFixed := by
  obtain ⟨kind, hkind, hparse⟩ := h.read.kind
  rw [h.read.kept.symm, h.fields.kind] at hkind
  obtain rfl := Option.some.inj hkind
  exact (Option.some.inj hparse).symm

theorem sourceHead (h : DerivedAction prepared recorded payload record planItem answer action) :
    action.sourceHeadSha = prepared.binding.headSha := by
  have hhead := h.read.sourceHeadSha
  rw [h.read.kept.symm, h.fields.sourceHead] at hhead
  exact (Option.some.inj hhead).symm

theorem outputHead (h : DerivedAction prepared recorded payload record planItem answer action) :
    action.remediationOutputHead = prepared.outputHead := by
  have hhead := h.read.remediationOutputHead
  rw [h.read.kept.symm, h.fields.outputHead, h.success.outputHead] at hhead
  exact (Option.some.inj hhead).symm

theorem evidence (h : DerivedAction prepared recorded payload record planItem answer action) :
    ∃ evidence, answer.get? "evidence" = some evidence ∧ evidence ≠ .null ∧
      action.value.get? "remediation_result_evidence" = some evidence := by
  have hnonempty := h.satisfies.evidenceIsNonEmpty
  have hkept := h.fields.evidence
  cases hevidence : answer.get? "evidence" with
  | none =>
    rw [hevidence] at hnonempty
    cases hnonempty
  | some evidence =>
    rw [hevidence] at hnonempty hkept
    refine ⟨evidence, rfl, ?_, hkept⟩
    rintro rfl
    cases hnonempty

theorem bodyHash (h : DerivedAction prepared recorded payload record planItem answer action) :
    answer.text? "body_hash" = some action.bodyHash := by
  have hbody := h.read.bodyHash
  rw [h.read.kept.symm, h.fields.bodyHash] at hbody
  cases hplan : planItem.text? "body_hash" with
  | some hash =>
    rw [stringField_eq_text hplan] at hbody
    rw [h.satisfies.bodyHash hash hplan, hbody]
  | none =>
    -- a body without a hash does not pass the parser
    exfalso
    have hdefault : stringField planItem "body_hash" "no-body-hash" = "no-body-hash" := by
      show (planItem.text? "body_hash").getD _ = _
      rw [hplan]
      rfl
    have hformat := (pendingMarkerActionFromValue_wellFormed h.parsed).bodyHash
    rw [← Option.some.inj hbody, hdefault] at hformat
    revert hformat
    decide

section

variable (h : DerivedAction prepared recorded payload record planItem answer action)

include h

theorem marker_iff :
    answer.text? "stable_marker_key" = some action.stableMarkerKey ↔
      (planItem.text? "stable_marker_key" = none →
        answer.text? "stable_marker_key" = answer.text? "source_id") := by
  have hmarker := h.read.stableMarkerKey
  rw [h.read.kept.symm, h.fields.marker] at hmarker
  have hmarker := Option.some.inj hmarker
  cases hplan : planItem.text? "stable_marker_key" with
  | some marker =>
    rw [stringField_eq_text hplan] at hmarker
    rw [h.satisfies.marker marker hplan, hmarker]
    simp
  | none =>
    have hdefault : action.stableMarkerKey = action.itemId := by
      rw [← hmarker, stringField_eq_text h.sourceId.1]
      show (planItem.text? "stable_marker_key").getD _ = _
      rw [hplan]
      rfl
    rw [hdefault, h.sourceId.2]
    simp

theorem inputHead_iff :
    answer.text? "input_head_sha" = some prepared.binding.headSha ↔
      answer.get? "input_head_sha" ≠ none := by
  have hhead := h.satisfies.head
  unfold Json.text?
  cases hinput : answer.get? "input_head_sha" with
  | none => simp
  | some value =>
    rw [hinput, Option.some_or] at hhead
    simp [hhead]

theorem bodyHash_ne : action.bodyHash ≠ "" := by
  intro hempty
  have hformat := (pendingMarkerActionFromValue_wellFormed h.parsed).bodyHash
  rw [hempty] at hformat
  revert hformat
  decide

theorem sourceHead_ne : prepared.binding.headSha ≠ "" := by
  intro hempty
  have hhead := (pendingMarkerActionFromValue_wellFormed h.parsed).sourceHeadSha
  rw [h.sourceHead, hempty] at hhead
  exact hhead (by decide)

theorem outputHead_ne :
    prepared.outputHead ≠ "" ∧ prepared.outputHead ≠ noRemediationOutputHead := by
  refine ⟨fun hempty => ?_, fun hnone => ?_⟩
  · have hhead := (pendingMarkerActionFromValue_wellFormed h.parsed).remediationOutputHead
    rw [h.outputHead, hempty] at hhead
    exact hhead (by decide)
  · have hrouting := h.read.routing
    rw [h.commentFixed] at hrouting
    exact outputHead_of_routing hrouting (h.outputHead.trans hnone)

theorem evidence_present : isPresent action.value "remediation_result_evidence" = true := by
  obtain ⟨evidence, -, hne, hkept⟩ := h.evidence
  unfold isPresent
  rw [hkept]
  simpa using hne

theorem attempt_lt : payload.remediationAttemptIndex < 2 ^ 64 := by
  rw [h.success.attempt]
  unfold publishedAttempt
  cases recorded with
  | some state => exact state.counters.remediationAttemptIndex.toNat_lt
  | none =>
    show (retryScopeU64 prepared.result "remediation_attempt_index").getD 0 < 2 ^ 64
    rw [retryScopeU64_eq]
    unfold Json.u64?
    cases hscope : ((observedRetryScope prepared.result).get? "remediation_attempt_index").bind
        Json.asU64? with
    | some n =>
      obtain ⟨value, -, hvalue⟩ := Option.bind_eq_some_iff.mp hscope
      exact asU64?_lt hvalue
    | none =>
      rw [Option.none_or]
      cases hresult : (prepared.result.get? "remediation_attempt_index").bind Json.asU64? with
      | some n =>
        obtain ⟨value, -, hvalue⟩ := Option.bind_eq_some_iff.mp hresult
        exact asU64?_lt hvalue
      | none => exact Nat.two_pow_pos 64

end

end DerivedAction

def carriedReference (prepared : PreparedRemediationValidation)
    (payload : RemediationResultValidationArtifact) (record : ArtifactWriteRecord)
    (planSequence : Nat) : FixedActionEvidenceRef where
  resultSequence := record.sequence
  planArtifactSequence := planSequence
  remediationAttemptIndex := payload.remediationAttemptIndex
  sourceHeadSha := prepared.binding.headSha
  outputHeadSha := prepared.outputHead

theorem requiredActionU64_ok {n : Nat} (h : value.u64? field = some n) :
    requiredActionU64 value field = .ok n := by
  unfold requiredActionU64
  rw [h]

theorem requiredActionText_ok (h : value.text? field = some text) (hne : text ≠ "") :
    requiredActionText value field = .ok text := by
  unfold requiredActionText
  rw [h, Option.filter_some, if_pos (by simpa using hne)]

namespace DerivedAction

variable {request : JsonArtifactWriteRequest} {file : ContainedFile}

section

variable (h : DerivedAction prepared recorded payload record planItem answer action)

include h

theorem actionOutputHead_eq :
    actionOutputHead action.value prepared.binding.headSha = .ok prepared.outputHead := by
  have hfields := h.fields
  obtain ⟨hempty, hnone⟩ := h.outputHead_ne
  unfold actionOutputHead
  rw [hfields.outputHead, hfields.outputHeadSha, hfields.inputHeadSha, h.success.inputHead,
    h.success.outputHead]
  simp [hempty, hnone]

theorem planSequence_eq :
    action.value.u64? "plan_artifact_sequence" = prepared.plan.u64? "artifact_sequence" := by
  show (action.value.get? "plan_artifact_sequence").bind Json.asU64? = _
  rw [h.fields.plan, Option.bind_some, h.success.plan]

theorem carried_eq :
    carriedEvidenceRef action = (FixedActionEvidenceRef.fromActionValue action.value).map some := by
  have hpresent : ∀ field ∈ evidenceTupleFields, isPresent action.value field = true := by
    intro field hfield
    simp only [evidenceTupleFields, List.mem_cons, List.not_mem_nil, or_false] at hfield
    unfold isPresent
    rcases hfield with rfl | rfl | rfl
    · rw [h.fields.artifact]
      rfl
    · rw [h.fields.write]
      rfl
    · rw [h.fields.producer]
      rfl
  have hcount : evidenceTupleFields.countP (isPresent action.value) =
      evidenceTupleFields.length := List.countP_eq_length.mpr hpresent
  unfold carriedEvidenceRef
  dsimp only
  rw [if_neg h.bodyHash_ne, h.evidence_present, hcount, if_neg (by decide), if_neg (by decide),
    if_neg (not_not.mpr rfl)]

theorem planNumbered_of_carried {reference : Option FixedActionEvidenceRef}
    (hcarried : carriedEvidenceRef action = .ok reference) :
    ∃ n, prepared.plan.u64? "artifact_sequence" = some n ∧ 0 < n := by
  rw [h.carried_eq] at hcarried
  cases hread : FixedActionEvidenceRef.fromActionValue action.value with
  | error error =>
    rw [hread] at hcarried
    cases hcarried
  | ok read =>
    unfold FixedActionEvidenceRef.fromActionValue at hread
    obtain ⟨artifact, -, hread⟩ := Sql.bind_ok.mp hread
    obtain ⟨write, -, hread⟩ := Sql.bind_ok.mp hread
    obtain ⟨producer, -, hread⟩ := Sql.bind_ok.mp hread
    obtain ⟨-, hread⟩ := Sql.refused_ok.mp hread
    obtain ⟨plan, hplan, hread⟩ := Sql.bind_ok.mp hread
    obtain ⟨hpos, -⟩ := Sql.refused_ok.mp hread
    refine ⟨plan, ?_, Nat.pos_of_ne_zero hpos⟩
    rw [← h.planSequence_eq]
    unfold requiredActionU64 at hplan
    split at hplan
    · rename_i n hn
      rw [hn, Except.ok.inj hplan]
    · cases hplan

/-- **With one, it carries the reference to the document.** -/
theorem carriedReference_eq (hfile : PublishedAs request record file) {n : Nat}
    (hn : prepared.plan.u64? "artifact_sequence" = some n) (hpos : 0 < n) :
    carriedEvidenceRef action = .ok (some (carriedReference prepared payload record n)) := by
  have hfields := h.fields
  have hartifact : action.value.u64? "remediation_result_artifact_sequence" =
      some record.sequence.artifactSequence := by
    show (action.value.get? _).bind Json.asU64? = _
    rw [hfields.artifact, Option.bind_some, Json.asU64?_natCast hfile.artifactBounds.2]
  have hwrite : action.value.u64? "remediation_result_write_sequence" =
      some record.sequence.writeSequence := by
    show (action.value.get? _).bind Json.asU64? = _
    rw [hfields.write, Option.bind_some, Json.asU64?_natCast hfile.writeBounds.2]
  have hproducer : action.value.text? "remediation_result_producer_step_id" =
      some record.sequence.producerStepId := by
    show (action.value.get? _).bind Json.asStr? = _
    rw [hfields.producer]
    rfl
  have hattempt : action.value.u64? "remediation_attempt_index" =
      some payload.remediationAttemptIndex := by
    show (action.value.get? _).bind Json.asU64? = _
    rw [hfields.attempt, Option.bind_some, Json.asU64?_natCast h.attempt_lt]
  have hplan : action.value.u64? "plan_artifact_sequence" = some n := h.planSequence_eq.trans hn
  have hartifactPos := hfile.artifactBounds.1
  have hwritePos := hfile.writeBounds.1
  rw [h.carried_eq]
  unfold FixedActionEvidenceRef.fromActionValue
  rw [requiredActionU64_ok hartifact, requiredActionU64_ok hwrite,
    requiredActionText_ok hproducer hfile.producerNonempty, requiredActionU64_ok hplan,
    requiredActionU64_ok hattempt, requiredActionText_ok hfields.sourceHead h.sourceHead_ne]
  simp only [bind, Except.bind, h.actionOutputHead_eq]
  rw [if_neg (by omega), if_neg (by omega)]
  rfl

/-! ### The item that proves an action -/

theorem eq_of_matches {item : Json} (hitem : item ∈ arrayField prepared.result "results")
    {heads : ValidatorResultHeads} {exactEvidence : Bool}
    (hmatches : validatorResultItemMatches action item heads exactEvidence) :
    item = answer := by
  unfold validatorResultItemMatches at hmatches
  simp only [Bool.and_eq_true, beq_iff_eq] at hmatches
  obtain ⟨⟨⟨⟨⟨⟨⟨htype, hid⟩, -⟩, -⟩, -⟩, -⟩, -⟩, -⟩ := hmatches
  have hfixed := h.fixed
  unfold isFixedFeedback at hfixed
  simp only [Bool.and_eq_true, beq_iff_eq] at hfixed
  have hkey : itemKey item = itemKey answer := by
    unfold itemKey
    rw [hfixed.1, stringField_eq_text htype, stringField_eq_text hid,
      stringField_eq_text h.sourceId.2]
  obtain ⟨hmust, hnamed, hplanKey⟩ := planItemsByKey_lookup h.planned
  have hcount := h.success.accepted.counted hmust hnamed
  rw [hplanKey] at hcount
  exact eq_of_countP_one hcount hitem (by simp [hkey]) h.given (by simp)

/-- **An answer proves its action where it has both heads, and the marker.** -/
theorem matches_answer_iff :
    validatorResultItemMatches action answer ⟨prepared.binding.headSha, some prepared.outputHead⟩
        true = true ↔
      answer.get? "input_head_sha" ≠ none ∧
        answer.text? "output_head_sha" = some prepared.outputHead ∧
        (planItem.text? "stable_marker_key" = none →
          answer.text? "stable_marker_key" = answer.text? "source_id") := by
  have hfixed := h.fixed
  unfold isFixedFeedback at hfixed
  simp only [Bool.and_eq_true, beq_iff_eq] at hfixed
  have htype : answer.text? "source_type" = some "coderabbit_feedback" :=
    text?_of_stringField hfixed.1 (by decide)
  have hstatus : (answer.text? "status").any successStatuses.contains = true := by
    have hmem : stringField answer "status" "" ∈ successStatuses :=
      List.contains_iff_mem.mp hfixed.2
    have hne : stringField answer "status" "" ≠ "" := by
      intro hempty
      rw [hempty] at hmem
      revert hmem
      decide
    rw [text?_of_stringField rfl hne]
    exact hfixed.2
  obtain ⟨evidence, hevidence, -, hkept⟩ := h.evidence
  have hsame : validatorItemEvidenceMatches action answer true = true := by
    show (answer.get? "evidence" == action.value.get? "remediation_result_evidence") = true
    rw [hevidence, hkept]
    exact beq_self_eq_true _
  unfold validatorResultItemMatches
  simp only [hsame, hstatus, htype, h.bodyHash, beq_iff_eq.mpr h.sourceId.2, beq_self_eq_true,
    Bool.true_and, Bool.and_true, Bool.not_true, Bool.false_or, Bool.and_eq_true, beq_iff_eq,
    h.marker_iff, h.inputHead_iff, and_assoc]

theorem validatorResultHeads_eq {document : Json}
    (hdocument : SuccessDocument prepared recorded document) (current : PrFollowupBinding) :
    validatorResultHeads current action document =
      some ⟨prepared.binding.headSha, some prepared.outputHead⟩ := by
  unfold validatorResultHeads
  rw [hdocument.state, h.evidence_present, hdocument.inputHead, hdocument.outputHead,
    h.sourceHead, h.outputHead]
  simp

/-- The attempt of the published scope is that of the payload, where the scope has one below its
maximum. -/
theorem attempt_published (hleft : AttemptsLeft recorded (observedRetryScope prepared.result)) :
    (publishedScope recorded (observedRetryScope prepared.result)).u64?
      "remediation_attempt_index" = some payload.remediationAttemptIndex := by
  rw [h.success.attempt]
  cases recorded with
  | none =>
    obtain ⟨i, m, hi, -, -⟩ := CountersBelow.attempts hleft
    show (observedRetryScope prepared.result).u64? "remediation_attempt_index" =
      some ((retryScopeU64 prepared.result "remediation_attempt_index").getD 0)
    rw [retryScopeU64_eq, hi]
    rfl
  | some state =>
    obtain ⟨entries, hentries⟩ := observedRetryScope_obj prepared.result
    rw [hentries]
    exact u64?_insertRetryCounters (.head _)

/-- **The document of a result proves an action where the answer is provable.** -/
theorem hasValidatorSuccess_iff (hfile : PublishedAs request record file)
    (hdocument : SuccessDocument prepared recorded file.content) {current : PrFollowupBinding}
    (hcurrent : current.runId = prepared.binding.runId ∧
      current.repositoryOwner = prepared.binding.repositoryOwner ∧
      current.repositoryName = prepared.binding.repositoryName ∧
      current.prNumber = prepared.binding.prNumber) {n : Nat}
    (hn : prepared.plan.u64? "artifact_sequence" = some n) (hpos : 0 < n) :
    markerActionHasValidatorSuccess current action file.content
        (some (carriedReference prepared payload record n)) = true ↔
      ProvableAnswer prepared recorded planItem answer := by
  have hitems : ((arrayField prepared.result "results").any fun item =>
      validatorResultItemMatches action item
        ⟨prepared.binding.headSha, some prepared.outputHead⟩ true) = true ↔
      validatorResultItemMatches action answer
        ⟨prepared.binding.headSha, some prepared.outputHead⟩ true = true := by
    rw [List.any_eq_true]
    constructor
    · rintro ⟨item, hitem, hmatches⟩
      exact h.eq_of_matches hitem hmatches ▸ hmatches
    · intro hmatches
      exact ⟨answer, h.given, hmatches⟩
  have hgetD : (prepared.plan.u64? "artifact_sequence").getD 0 = n := by
    rw [hn]
    rfl
  unfold markerActionHasValidatorSuccess
  rw [h.validatorResultHeads_eq hdocument current, hdocument.results]
  simp only [validatorProvenanceMatches, hdocument.plan, hn, hfile.producer, hfile.artifact,
    hfile.write, carriedReference, beq_self_eq_true, Bool.and_true,
    bne_iff_ne, Bool.and_eq_true, ne_eq, hfile.producerNonempty, not_false_eq_true, true_and,
    Option.isSome_some, hitems, h.matches_answer_iff]
  rw [retryScopeMatchesFixedAction_iff hdocument.retryScope hcurrent]
  constructor
  · rintro ⟨⟨hnames, hkind, houtput, hleft, -⟩, hinput, hanswerOutput, hmarker⟩
    exact {
      planNumbered := ⟨n, hn, hpos⟩
      ownScope := Or.inr (own_of_scopeNames (hgetD ▸ hnames) hkind houtput)
      scopeKind := hkind
      scopeOutput := houtput
      attemptsLeft := hleft
      inputHead := hinput
      outputHead := hanswerOutput
      marker := hmarker }
  · intro hprovable
    have hown : staleScopeErrors prepared.result (observedRetryScope prepared.result)
        prepared.scope = [] := by
      rcases hprovable.ownScope with hfresh | hown
      · exact h.success.ownScope.resolve_left (by rw [hfresh]; exact Bool.false_ne_true)
      · exact hown
    have hnames := scopeNames_of_own hown
    rw [hgetD] at hnames
    exact ⟨⟨hnames, hprovable.scopeKind, hprovable.scopeOutput, hprovable.attemptsLeft,
      h.attempt_published hprovable.attemptsLeft⟩, hprovable.inputHead, hprovable.outputHead,
      hprovable.marker⟩

end

end DerivedAction

end Answer

/-! ### The gate -/

section Gate

variable {validate : FamilyInvariants} {pr current : PrFollowupBinding}
  {store : ArtifactStore}

theorem plainFamily_remediationResult : PlainFamily remediationResultFamily := by decide

theorem sameRun {left right : PrFollowupBinding} (hleft : validateSequenceBinding pr left)
    (hright : validateSequenceBinding pr right) :
    left.runId = right.runId ∧ left.repositoryOwner = right.repositoryOwner ∧
      left.repositoryName = right.repositoryName ∧ left.prNumber = right.prNumber := by
  simp only [validateSequenceBinding, Bool.and_eq_true, beq_iff_eq] at hleft hright
  grind

variable {historyLedger : Option ValidatedHistoryLedger} {reference : Option FixedActionEvidenceRef}

variable {action : PendingMarkerAction}

theorem Ledger.readMarkerActionEvidence_mem (h : Ledger validate pr store)
    (hcurrent : validateSequenceBinding pr current) {order : ListingOrder}
    {value : Json}
    (hread : readMarkerActionEvidence validate order current action reference
      historyLedger store = .ok (some value)) :
    ∃ file ∈ store.history, file.family = remediationResultFamily ∧ file.content = value := by
  unfold readMarkerActionEvidence at hread
  by_cases hhead : action.sourceHeadSha = current.headSha
  · rw [if_pos hhead, h.readOptionalCurrentJsonForHead_document plainFamily_remediationResult
      hcurrent] at hread
    exact h.document_mem plainFamily_remediationResult (Except.ok.inj hread)
  · rw [if_neg hhead] at hread
    cases historyLedger with
    | none => cases hread
    | some ledger =>
      have hfamily : (markerEvidenceQuery action reference).artifactFamily =
          remediationResultFamily := by
        unfold markerEvidenceQuery
        cases reference <;> rfl
      obtain ⟨file, hfile, hfileFamily, hcontent⟩ := h.readHistoryEvidence_mem
        (by rw [hfamily]; exact plainFamily_remediationResult) hcurrent hread
      exact ⟨file, hfile, hfileFamily.trans hfamily, hcontent⟩

theorem validateMarkerActionEvidence_iff {order : ListingOrder}
    (hkind : action.actionKind = .commentFixed) :
    validateMarkerActionEvidence validate order current action historyLedger
        store = .ok none ↔
      ∃ reference, carriedEvidenceRef action = .ok reference ∧
        ∃ value, readMarkerActionEvidence validate order current action reference
          historyLedger store = .ok (some value) ∧
          markerActionHasValidatorSuccess current action value reference = true := by
  unfold validateMarkerActionEvidence
  rw [if_neg (not_not.mpr hkind)]
  constructor
  · intro hpass
    obtain ⟨reference, hreference, hpass⟩ := Sql.bind_ok.mp hpass
    obtain ⟨result, hresult, hpass⟩ := Sql.bind_ok.mp hpass
    refine ⟨reference, Sql.mapError_ok.mp hreference, ?_⟩
    cases result with
    | none => cases hpass
    | some value =>
      refine ⟨value, hresult, ?_⟩
      by_contra hfails
      rw [Option.any_some, if_neg hfails] at hpass
      cases hpass
  · rintro ⟨reference, hreference, value, hread, hsuccess⟩
    rw [hreference]
    show (readMarkerActionEvidence validate order current action reference
      historyLedger store >>= _) = _
    rw [hread]
    show (if _ then _ else _) = _
    rw [Option.any_some, if_pos hsuccess]

theorem item_of_success {document : Json}
    (h : markerActionHasValidatorSuccess current action document reference) :
    document.text? "validation_state" = some "valid" ∧
      ∃ item ∈ arrayField document "results", item.text? "source_id" = some action.itemId ∧
        stringField item "status" "" ∈ successStatuses ∧
        item.text? "stable_marker_key" = some action.stableMarkerKey ∧
        item.text? "body_hash" = some action.bodyHash ∧
        item.text? "input_head_sha" = some action.sourceHeadSha := by
  unfold markerActionHasValidatorSuccess at h
  cases hheads : validatorResultHeads current action document with
  | none =>
    rw [hheads] at h
    cases h
  | some heads =>
    rw [hheads] at h
    have hany := (Bool.and_eq_true_iff.mp h).2
    unfold validatorResultHeads at hheads
    split at hheads
    · cases hheads
    · rename_i hvalid
      dsimp only at hheads
      split at hheads
      · cases hheads
      · rename_i hsource
        obtain rfl := Option.some.inj hheads
        rw [not_or, not_not] at hvalid hsource
        obtain ⟨item, hitem, hmatches⟩ := List.any_eq_true.mp hany
        unfold validatorResultItemMatches at hmatches
        simp only [Bool.and_eq_true, beq_iff_eq] at hmatches
        obtain ⟨⟨⟨⟨⟨⟨⟨-, hid⟩, hstatus⟩, hhead⟩, -⟩, hbody⟩, hmarker⟩, -⟩ := hmatches
        refine ⟨hvalid.1, item, hitem, hid, ?_, hmarker, hbody, by rw [hhead, hsource.1]⟩
        cases htext : item.text? "status" with
        | none =>
          rw [htext] at hstatus
          cases hstatus
        | some status =>
          rw [htext] at hstatus
          rw [stringField_eq_text htext]
          exact List.contains_iff_mem.mp hstatus

end Gate

end Luther
