/-
A retry state is read back from the document it was written to.

The document is the state with the store's fields written into it.  None of these has the name
of a field of a state, so each field of the state is read as it was written; and a field that
was left out, because it had nothing to say, is read as saying nothing.
-/
import Luther.Proofs.ArtifactReading
import Luther.Remediation.RetryHistory

namespace Luther

/-! ### Reading one field -/

section Fields

variable {α : Type} {field : String} {read : Json → Option α} {value v : Json} {a : α}

theorem required_of_get? (hget : value.get? field = some v) (hread : read v = some a) :
    value.required field read = .ok a := by
  unfold Json.required
  rw [hget]
  simp only [hread]

theorem defaulted_of_get? {default : α} (hget : value.get? field = some v)
    (hread : read v = some a) : value.defaulted field default read = .ok a := by
  unfold Json.defaulted
  rw [hget]
  simp only [hread]

theorem defaulted_of_none {default : α} (hget : value.get? field = none) :
    value.defaulted field default read = .ok default := by
  unfold Json.defaulted
  rw [hget]

theorem optional_of_none (hget : value.get? field = none) :
    value.optional field read = .ok none := by
  unfold Json.optional
  rw [hget]

theorem optional_of_null (hget : value.get? field = some .null) :
    value.optional field read = .ok none := by
  unfold Json.optional
  rw [hget]

theorem optional_of_some (hget : value.get? field = some v) (hread : read v = some a)
    (hnull : v ≠ .null) : value.optional field read = .ok (some a) := by
  unfold Json.optional
  rw [hget]
  split
  · rename_i heq
    simp at heq
  · rename_i heq
    exact absurd (Option.some.inj heq) hnull
  · rename_i heq
    rw [← Option.some.inj heq, hread]

theorem optional_of_get? {o : Option α} {encode : α → Json}
    (hget : value.get? field = o.map encode) (hread : ∀ a, read (encode a) = some a)
    (hnull : ∀ a, encode a ≠ .null) : value.optional field read = .ok o := by
  cases o with
  | none => exact optional_of_none hget
  | some a => exact optional_of_some hget (hread a) (hnull a)

theorem flag_of_get? {b : Bool}
    (hget : value.get? field = if b then some (.bool true) else none) :
    value.defaulted field false Json.asBool? = .ok b := by
  cases b with
  | false => exact defaulted_of_none (by simpa using hget)
  | true => exact defaulted_of_get? (by simpa using hget) rfl

end Fields

/-! ### The parts of a state -/

theorem RetryScopeKey.fromJson_toJson (scope : RetryScopeKey) :
    fromJson scope.toJson = .ok scope := by
  have hrun : scope.toJson.required "run_id" Json.asStr? = .ok scope.runId :=
    required_of_get? (v := .str scope.runId) rfl rfl
  have howner : scope.toJson.required "repository_owner" Json.asStr? =
      .ok scope.repositoryOwner :=
    required_of_get? (v := .str scope.repositoryOwner) rfl rfl
  have hname : scope.toJson.required "repository_name" Json.asStr? = .ok scope.repositoryName :=
    required_of_get? (v := .str scope.repositoryName) rfl rfl
  have hnumber : scope.toJson.required "pr_number" Json.asUInt64? = .ok scope.prNumber :=
    required_of_get? (v := .ofU64 scope.prNumber) rfl (Json.asUInt64?_ofU64 _)
  have hhead : scope.toJson.required "input_head_sha" Json.asStr? = .ok scope.inputHeadSha :=
    required_of_get? (v := .str scope.inputHeadSha) rfl rfl
  have hplan : scope.toJson.required "remediation_plan_sequence" Json.asUInt64? =
      .ok scope.remediationPlanSequence :=
    required_of_get? (v := .ofU64 scope.remediationPlanSequence) rfl (Json.asUInt64?_ofU64 _)
  unfold RetryScopeKey.fromJson
  rw [hrun, howner, hname, hnumber, hhead, hplan]
  rfl

theorem RetryBudget.fromJson_toJson (budget : RetryBudget) :
    fromJson budget.toJson = .ok budget := by
  have hremediation : budget.toJson.required "max_remediation_attempts" Json.asUInt64? =
      .ok budget.maxRemediationAttempts :=
    required_of_get? (v := .ofU64 budget.maxRemediationAttempts) rfl (Json.asUInt64?_ofU64 _)
  have hvalidation : budget.toJson.required "max_validation_retries" Json.asUInt64? =
      .ok budget.maxValidationRetries :=
    required_of_get? (v := .ofU64 budget.maxValidationRetries) rfl (Json.asUInt64?_ofU64 _)
  have hstale : budget.toJson.required "max_stale_artifact_retries" Json.asUInt64? =
      .ok budget.maxStaleArtifactRetries :=
    required_of_get? (v := .ofU64 budget.maxStaleArtifactRetries) rfl (Json.asUInt64?_ofU64 _)
  unfold RetryBudget.fromJson
  rw [hremediation, hvalidation, hstale]
  rfl

theorem RetryCounters.fromJson_toJson (counters : RetryCounters) :
    fromJson counters.toJson = .ok counters := by
  have hremediation : counters.toJson.required "remediation_attempt_index" Json.asUInt64? =
      .ok counters.remediationAttemptIndex :=
    required_of_get? (v := .ofU64 counters.remediationAttemptIndex) rfl (Json.asUInt64?_ofU64 _)
  have hvalidation : counters.toJson.required "validation_retry_index" Json.asUInt64? =
      .ok counters.validationRetryIndex :=
    required_of_get? (v := .ofU64 counters.validationRetryIndex) rfl (Json.asUInt64?_ofU64 _)
  have hstale : counters.toJson.required "stale_artifact_retry_index" Json.asUInt64? =
      .ok counters.staleArtifactRetryIndex :=
    required_of_get? (v := .ofU64 counters.staleArtifactRetryIndex) rfl (Json.asUInt64?_ofU64 _)
  unfold RetryCounters.fromJson
  rw [hremediation, hvalidation, hstale]
  rfl

theorem LaunchPhase.fromJson?_text (phase : LaunchPhase) :
    fromJson? (.str phase.text) = some phase := by
  cases phase <;> rfl

theorem RetryExhaustionReason.fromJson?_text (reason : RetryExhaustionReason) :
    fromJson? (.str reason.text) = some reason := by
  cases reason <;> rfl

/-! ### The fields of a state -/

theorem lookup_singleton (field key : String) (v : Json) :
    [(key, v)].lookup field = if field = key then some v else none := by
  by_cases hfield : field = key
  · simp [hfield]
  · have hne : (field == key) = false := beq_eq_false_iff_ne.mpr hfield
    rw [List.lookup_cons, hne, if_neg hfield]
    rfl

theorem lookup_flag (field key : String) (b : Bool) (v : Json) :
    (if b then [(key, v)] else []).lookup field =
      if field = key ∧ b = true then some v else none := by
  cases b
  · simp
  · simp [lookup_singleton]

theorem lookup_optional {α : Type} (field key : String) (o : Option α) (encode : α → Json) :
    (o.toList.map fun a => (key, encode a)).lookup field =
      if field = key then o.map encode else none := by
  cases o
  · simp
  · simp [lookup_singleton]

/-- The fields of a state, as they are read one by one. -/
structure ReadsAs (value : Json) (state : RetryState) : Prop where
  scope : value.get? "scope" = some state.scope.toJson
  budget : value.get? "budget" = some state.budget.toJson
  counters : value.get? "counters" = some state.counters.toJson
  transitionId : value.get? "transition_id" = some (.str state.transitionId)
  launchTransitionId :
    value.get? "launch_transition_id" = some (.str state.launchTransitionId)
  transitionType : value.get? "transition_type" = some (.str state.transitionType)
  launchPhase : value.get? "launch_phase" = some (.str state.launchPhase.text)
  launchOrdinal : value.get? "launch_ordinal" = some (.ofU64 state.launchOrdinal)
  remediationStepOrderIndex :
    value.get? "remediation_step_order_index" = some (.ofU64 state.remediationStepOrderIndex)
  predecessorArtifactSequence : value.get? "predecessor_artifact_sequence" =
    some (state.predecessorArtifactSequence.elim .null .ofU64)
  historyChainReset : value.get? "history_chain_reset" =
    if state.historyChainReset then some (.bool true) else none
  validationSourceId : value.get? "validation_source_id" = state.validationSourceId.map .str
  launchResultPromoted : value.get? "launch_result_promoted" =
    if state.launchResultPromoted then some (.bool true) else none
  ownerToken : value.get? "owner_token" = some (.str state.ownerToken)
  leaseExpiry : value.get? "lease_expiry" = state.leaseExpiry.map .str
  invocationTimeoutSeconds :
    value.get? "invocation_timeout_seconds" = some (.ofU64 state.invocationTimeoutSeconds)
  exhaustionReason :
    value.get? "exhaustion_reason" = state.exhaustionReason.map fun r => .str r.text

theorem readsAs_toJson (state : RetryState) : ReadsAs state.toJson state := by
  constructor
  all_goals
    simp [RetryState.toJson, RetryState.fields, Json.get?, List.lookup_append, lookup_flag,
      lookup_optional, List.lookup_cons]

variable {value : Json}

theorem sequence_of_get? {field : String} {o : Option UInt64}
    (hget : value.get? field = some (o.elim .null .ofU64)) :
    value.optional field Json.asUInt64? = .ok o := by
  cases o with
  | none => exact optional_of_null hget
  | some n => exact optional_of_some hget (Json.asUInt64?_ofU64 n) (by simp [Json.ofU64])

variable {state : RetryState}

/-- **A document that has the fields of a state is read as it.** -/
theorem fromJson_of_readsAs (h : ReadsAs value state) :
    RetryState.fromJson value = .ok state := by
  have hscope : value.required "scope" (fun v => (RetryScopeKey.fromJson v).toOption) =
      .ok state.scope :=
    required_of_get? h.scope (by rw [RetryScopeKey.fromJson_toJson]; rfl)
  have hbudget : value.required "budget" (fun v => (RetryBudget.fromJson v).toOption) =
      .ok state.budget :=
    required_of_get? h.budget (by rw [RetryBudget.fromJson_toJson]; rfl)
  have hcounters : value.required "counters" (fun v => (RetryCounters.fromJson v).toOption) =
      .ok state.counters :=
    required_of_get? h.counters (by rw [RetryCounters.fromJson_toJson]; rfl)
  have htransition : value.required "transition_id" Json.asStr? = .ok state.transitionId :=
    required_of_get? h.transitionId rfl
  have hlaunch : value.defaulted "launch_transition_id" "" Json.asStr? =
      .ok state.launchTransitionId :=
    defaulted_of_get? h.launchTransitionId rfl
  have htype : value.required "transition_type" Json.asStr? = .ok state.transitionType :=
    required_of_get? h.transitionType rfl
  have hphase : value.required "launch_phase" LaunchPhase.fromJson? = .ok state.launchPhase :=
    required_of_get? h.launchPhase (LaunchPhase.fromJson?_text _)
  have hordinal : value.required "launch_ordinal" Json.asUInt64? = .ok state.launchOrdinal :=
    required_of_get? h.launchOrdinal (Json.asUInt64?_ofU64 _)
  have hstep : value.defaulted "remediation_step_order_index" 0 Json.asUInt64? =
      .ok state.remediationStepOrderIndex :=
    defaulted_of_get? h.remediationStepOrderIndex (Json.asUInt64?_ofU64 _)
  have hpredecessor : value.optional "predecessor_artifact_sequence" Json.asUInt64? =
      .ok state.predecessorArtifactSequence :=
    sequence_of_get? h.predecessorArtifactSequence
  have hreset : value.defaulted "history_chain_reset" false Json.asBool? =
      .ok state.historyChainReset :=
    flag_of_get? h.historyChainReset
  have hsource : value.optional "validation_source_id" Json.asStr? =
      .ok state.validationSourceId :=
    optional_of_get? h.validationSourceId (fun _ => rfl) (by simp)
  have hpromoted : value.defaulted "launch_result_promoted" false Json.asBool? =
      .ok state.launchResultPromoted :=
    flag_of_get? h.launchResultPromoted
  have htoken : value.defaulted "owner_token" "" Json.asStr? = .ok state.ownerToken :=
    defaulted_of_get? h.ownerToken rfl
  have hlease : value.optional "lease_expiry" Json.asStr? = .ok state.leaseExpiry :=
    optional_of_get? h.leaseExpiry (fun _ => rfl) (by simp)
  have htimeout : value.defaulted "invocation_timeout_seconds" 0 Json.asUInt64? =
      .ok state.invocationTimeoutSeconds :=
    defaulted_of_get? h.invocationTimeoutSeconds (Json.asUInt64?_ofU64 _)
  have hreason : value.optional "exhaustion_reason" RetryExhaustionReason.fromJson? =
      .ok state.exhaustionReason :=
    optional_of_get? h.exhaustionReason RetryExhaustionReason.fromJson?_text (by simp)
  unfold RetryState.fromJson
  simp only [hscope, hbudget, hcounters, htransition, hlaunch, htype, hphase, hordinal, hstep,
    hpredecessor, hreset, hsource, hpromoted, htoken, hlease, htimeout, hreason, bind,
    Except.bind]

/-! ### The state inside a document -/

def retryStateFields : List String :=
  ["scope", "budget", "counters", "transition_id", "launch_transition_id", "transition_type",
    "launch_phase", "launch_ordinal", "remediation_step_order_index",
    "predecessor_artifact_sequence", "history_chain_reset", "validation_source_id",
    "launch_result_promoted", "owner_token", "lease_expiry", "invocation_timeout_seconds",
    "exhaustion_reason"]

theorem ReadsAs.congr {value value' : Json} (h : ReadsAs value' state)
    (hget : ∀ field ∈ retryStateFields, value.get? field = value'.get? field) :
    ReadsAs value state := by
  unfold retryStateFields at hget
  constructor
  case scope => rw [hget _ (by simp)]; exact h.scope
  case budget => rw [hget _ (by simp)]; exact h.budget
  case counters => rw [hget _ (by simp)]; exact h.counters
  case transitionId => rw [hget _ (by simp)]; exact h.transitionId
  case launchTransitionId => rw [hget _ (by simp)]; exact h.launchTransitionId
  case transitionType => rw [hget _ (by simp)]; exact h.transitionType
  case launchPhase => rw [hget _ (by simp)]; exact h.launchPhase
  case launchOrdinal => rw [hget _ (by simp)]; exact h.launchOrdinal
  case remediationStepOrderIndex => rw [hget _ (by simp)]; exact h.remediationStepOrderIndex
  case predecessorArtifactSequence =>
    rw [hget _ (by simp)]; exact h.predecessorArtifactSequence
  case historyChainReset => rw [hget _ (by simp)]; exact h.historyChainReset
  case validationSourceId => rw [hget _ (by simp)]; exact h.validationSourceId
  case launchResultPromoted => rw [hget _ (by simp)]; exact h.launchResultPromoted
  case ownerToken => rw [hget _ (by simp)]; exact h.ownerToken
  case leaseExpiry => rw [hget _ (by simp)]; exact h.leaseExpiry
  case invocationTimeoutSeconds => rw [hget _ (by simp)]; exact h.invocationTimeoutSeconds
  case exhaustionReason => rw [hget _ (by simp)]; exact h.exhaustionReason

variable {context : StoreFieldContext} {entry : String × Json} {key : String}

theorem notMem_storeFields (h : context.failure = none)
    {field : String} (hfield : field ∈ retryStateFields) :
    field ∉ (storeFields context).map Prod.fst := by
  have hnames : (storeFields context).map Prod.fst =
      ["schema_version", "run_id", "repository_owner", "repository_name", "pr_number", "head_ref",
        "head_sha", "base_ref", "base_sha", "artifact_sequence", "write_sequence",
        "producer_step_id", "step_order_index", "history_metadata"] := by
    simp [storeFields, bindingFields, failureFields, h]
  rw [hnames]
  revert field
  decide

/-- **The document of a state is read as the state.** -/
theorem readsAs_of_injectStoreFields (h : injectStoreFields context state.toJson = .ok value)
    (hfailure : context.failure = none) : ReadsAs value state :=
  (readsAs_toJson state).congr fun _ hfield =>
    get?_of_notMem_storeFields h (notMem_storeFields hfailure hfield)

theorem depth_flag (b : Bool) :
    Json.depthEntries (if b then [(key, Json.bool true)] else []) = 0 := by
  cases b <;> rfl

theorem depth_optional {α : Type} (o : Option α) (encode : α → String) :
    Json.depthEntries (o.toList.map fun a => (key, Json.str (encode a))) = 0 := by
  cases o <;> rfl

theorem depth_toJson (state : RetryState) : state.toJson.depth ≤ 2 := by
  unfold RetryState.toJson RetryState.fields
  cases state.predecessorArtifactSequence <;>
    simp [Json.depth, Json.depthEntries, Json.depthEntries_append, depth_flag, depth_optional,
      RetryScopeKey.toJson, RetryBudget.toJson, RetryCounters.toJson, Json.ofU64]

theorem persistRequest_wellFormed {pr binding : PrFollowupBinding} {writer : RetryWriter}
    (hbinding : validateSequenceBinding pr binding) (hproducer : writer.producerStepId ≠ "")
    (state : RetryState) : WellFormed pr (persistRequest binding writer state) where
  binding := hbinding
  producer := hproducer
  unnamed := by
    simp [persistRequest, RetryState.toJson, RetryState.fields, Json.get?, List.lookup_append,
      lookup_flag, lookup_optional, List.lookup_cons]
  successful := fun _ => by
    simp [persistRequest, RetryState.toJson, RetryState.fields, Json.get?, List.lookup_append,
      lookup_flag, lookup_optional, List.lookup_cons]
  shallow := Nat.lt_of_le_of_lt (depth_toJson state) (by decide)
  details := by simp [persistRequest]

/-! ### Names and places of files -/

/-- **The number of a document is read from the name of its file.** -/
theorem historyFilenameArtifactSequence_historyPath (root : String) (binding : PrFollowupBinding)
    (family : String) {sequence : ArtifactSequenceMetadata}
    (h : sequence.artifactSequence < 2 ^ 64) :
    historyFilenameArtifactSequence (historyPath root binding family sequence) =
      sequence.artifactSequence := by
  obtain ⟨rest, hrest⟩ := historyStem_split sequence none
  have hstem : (historyPath root binding family sequence).fileStem.toList =
      sequence.artifactSequence.repr.toList ++ '-' :: rest := hrest
  have htake : (historyPath root binding family sequence).fileStem.toList.takeWhile (· ≠ '-') =
      sequence.artifactSequence.repr.toList := by
    rw [hstem, List.takeWhile_append_of_pos ?_]
    · simp
    · intro c hc
      have hdigit := isDigit_of_mem_repr hc
      simp only [decide_eq_true_eq]
      rintro rfl
      simp at hdigit
  unfold historyFilenameArtifactSequence
  rw [htake, parseU64_repr h]
  rfl

end Luther
