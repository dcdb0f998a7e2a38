/-
What an action that is made from a fixed item says.

The item of the plan is kept, and what the answer and the published document say is written over
it.  So the action has the id, the body and the marker of the item of the plan, and the evidence
of its answer; and the numbers it names are those of the document.
-/
import Luther.Proofs.HistoryEvidence
import Luther.Proofs.ResultGates
import Luther.Remediation.FixedFeedback

namespace Luther

open Sql

/-! ### The verdict -/

section Verdict

variable {binding : PrFollowupBinding} {plan result : Json} {scope : RemediationRetryScope}
  {enginePresent advance : Bool} {validation : RemediationResultValidation}

theorem classifyStaleRemediationScope_none
    (h : classifyStaleRemediationScope result scope advance = .ok none) :
    isStaleScopeValidationResult result = true ∨
      staleScopeErrors result (observedRetryScope result) scope = [] := by
  by_cases hstale : isStaleScopeValidationResult result = true
  · exact Or.inl hstale
  · refine Or.inr ?_
    unfold classifyStaleRemediationScope at h
    rw [if_neg hstale] at h
    dsimp only at h
    split at h
    · assumption
    · obtain ⟨index, -, h⟩ := bind_ok.mp h
      cases h

/-- **What a success says, apart from the items.** -/
theorem success_verdict
    (h : evaluateRemediationResult binding plan result scope enginePresent advance =
      .ok validation) (hsuccess : validation.outcome = .success) :
    validation =
        (semanticRemediationValidation binding plan result scope).verdict .success .valid "" ∧
      (isStaleScopeValidationResult result = true ∨
        staleScopeErrors result (observedRetryScope result) scope = []) := by
  have haccepted := accepted_of_success h hsuccess
  have hcounters : retryCounterErrors scope = [] := by
    have herrors := haccepted.errors
    unfold semanticRemediationValidation at herrors
    exact (List.append_eq_nil_iff.mp herrors).2
  obtain ⟨stale, hstale, hrest⟩ := bind_ok.mp h
  rw [hcounters, if_pos (by rfl)] at hstale
  cases stale with
  | some stale =>
    obtain rfl := Except.ok.inj hrest
    exact absurd hsuccess (staleScopeValidation_outcome stale)
  | none =>
    refine ⟨?_, classifyStaleRemediationScope_none hstale⟩
    dsimp only at hrest
    split at hrest
    · exact absurd hsuccess (malformedRemediationValidation_outcome hrest)
    · split at hrest
      · exact absurd hsuccess (unsuccessfulRemediationValidation_outcome hrest)
      · exact (Except.ok.inj hrest).symm

theorem Accepted.topLevel (h : Accepted binding plan result scope) :
    stringField result "input_head_sha" "" = binding.headSha ∧
      result.get? "plan_artifact_sequence" = plan.get? "artifact_sequence" := by
  have herrors := h.errors
  unfold semanticRemediationValidation topLevelRemediationErrors at herrors
  simp only [List.append_eq_nil_iff] at herrors
  exact ⟨of_not_complained herrors.1.1.1.1.1.1.2, of_not_complained herrors.1.1.1.1.1.2⟩

end Verdict

/-! ### The item of an action -/

section Item

variable {planItem answer : Json} {payload : RemediationResultValidationArtifact}
  {resultSequence : ArtifactSequenceMetadata}

/-- The fields that are written over an item of the plan. -/
def fixedFeedbackFieldNames : List String :=
  ["thread_id", "comment_database_id", "decision", "marker_action", "remediation_result_status",
    "remediation_input_head_sha", "remediation_output_head_sha", "response_text",
    "remediation_result_evidence", "remediation_result_artifact_sequence",
    "remediation_result_write_sequence", "remediation_result_producer_step_id",
    "plan_artifact_sequence", "remediation_attempt_index"]

theorem carriedField_sublist (value : Json) (field : String) :
    ((carriedField value field).map Prod.fst).Sublist [field] := by
  unfold carriedField
  cases value.get? field with
  | none => exact List.nil_sublist _
  | some found => exact List.Sublist.refl _

theorem fixedFeedbackFields_sublist (answer : Json)
    (payload : RemediationResultValidationArtifact) (resultSequence : ArtifactSequenceMetadata) :
    ((fixedFeedbackFields answer payload resultSequence).map Prod.fst).Sublist
      fixedFeedbackFieldNames := by
  unfold fixedFeedbackFields
  simp only [List.map_append]
  exact ((((carriedField_sublist answer "thread_id").append
    (carriedField_sublist answer "comment_database_id")).append (List.Sublist.refl _)).append
    (carriedField_sublist answer "response_text")).append (List.Sublist.refl _)

theorem get?_fixedFeedbackItem {field : String} (hfield : field ∉ fixedFeedbackFieldNames) :
    (fixedFeedbackItem planItem answer payload resultSequence).get? field =
      planItem.get? field := by
  have hkeys : field ∉ (fixedFeedbackFields answer payload resultSequence).map Prod.fst :=
    fun hmem => hfield ((fixedFeedbackFields_sublist answer payload resultSequence).subset hmem)
  show List.lookup field (List.foldl _ _ _) = _
  rw [Assoc.lookup_insertMany_ne hkeys]
  cases planItem with
  | obj entries => rfl
  | null | bool _ | num _ | str _ | arr _ => rfl

variable {value : Json}

theorem get?_fixedFeedbackItem_written {field : String}
    (hfield : (field, value) ∈ fixedFeedbackFields answer payload resultSequence) :
    (fixedFeedbackItem planItem answer payload resultSequence).get? field = some value := by
  have hnodup : ((fixedFeedbackFields answer payload resultSequence).map Prod.fst).Nodup :=
    (fixedFeedbackFields_sublist answer payload resultSequence).nodup (by decide)
  exact Assoc.lookup_insertMany_mem hnodup hfield _

theorem lookup_of_filter {entries : List (String × Json)} {key key' : String}
    (h : (entries.filter fun entry => entry.1 != key').lookup key = some value) :
    entries.lookup key = some value := by
  induction entries with
  | nil => exact h
  | cons entry rest ih =>
    obtain ⟨found, v⟩ := entry
    by_cases hfound : found = key'
    · rw [List.filter_cons_of_neg (by simp [hfound])] at h
      by_cases hkey : key = found
      · -- the key was filtered out, so that nothing can be found under it
        exfalso
        have hne := (List.mem_filter.mp (Assoc.mem_of_lookup h)).2
        simp [hkey, hfound] at hne
      · rw [List.lookup_cons, beq_eq_false_iff_ne.mpr hkey]
        exact ih h
    · rw [List.filter_cons_of_pos (by simp [hfound]), List.lookup_cons] at h
      rw [List.lookup_cons]
      split at h
      · exact h
      · exact ih h

theorem mem_fixedFeedbackMarkerItemsFrom {results : List Json} {planItems : List (String × Json)}
    {item : Json}
    (h : item ∈ fixedFeedbackMarkerItemsFrom payload resultSequence results planItems) :
    ∃ answer ∈ results, isFixedFeedback answer = true ∧
      ∃ planItem, planItems.lookup (itemKey answer) = some planItem ∧
        item = fixedFeedbackItem planItem answer payload resultSequence := by
  induction results generalizing planItems with
  | nil => cases h
  | cons result rest ih =>
    have hlater : item ∈ fixedFeedbackMarkerItemsFrom payload resultSequence rest planItems →
        ∃ answer ∈ result :: rest, isFixedFeedback answer = true ∧
          ∃ planItem, planItems.lookup (itemKey answer) = some planItem ∧
            item = fixedFeedbackItem planItem answer payload resultSequence := by
      intro hrest
      obtain ⟨answer, hanswer, hfixed, hplan⟩ := ih hrest
      exact ⟨answer, List.mem_cons_of_mem _ hanswer, hfixed, hplan⟩
    unfold fixedFeedbackMarkerItemsFrom at h
    by_cases hfixed : isFixedFeedback result = true
    · rw [if_pos hfixed] at h
      cases hplan : planItems.lookup (itemKey result) with
      | none =>
        rw [hplan] at h
        exact hlater h
      | some planItem =>
        rw [hplan] at h
        rcases List.mem_cons.mp h with heq | hrest
        · exact ⟨result, List.mem_cons_self .., hfixed, planItem, hplan, heq⟩
        · obtain ⟨answer, hanswer, hfixed', planItem', hplan', hitem⟩ := ih hrest
          exact ⟨answer, List.mem_cons_of_mem _ hanswer, hfixed', planItem',
            lookup_of_filter hplan', hitem⟩
    · rw [if_neg hfixed] at h
      exact hlater h

theorem mem_fixedFeedbackActions {binding : PrFollowupBinding} {plan : Json}
    (h : value ∈ fixedFeedbackActions binding plan payload resultSequence) :
    ∃ answer ∈ payload.results, isFixedFeedback answer = true ∧
      ∃ planItem, (planItemsByKey plan).lookup (itemKey answer) = some planItem ∧
        value = pendingMarkerAction binding
          (fixedFeedbackItem planItem answer payload resultSequence)
          (some payload.outputHeadSha) := by
  obtain ⟨item, hitem, rfl⟩ := List.mem_map.mp h
  obtain ⟨answer, hanswer, hfixed, planItem, hplan, rfl⟩ :=
    mem_fixedFeedbackMarkerItemsFrom (List.mem_filter.mp hitem).1
  exact ⟨answer, hanswer, hfixed, planItem, hplan, rfl⟩

end Item

/-! ### The fields of an action -/

/-- The action has the fields of its value. -/
structure ActionRead (value : Json) (action : PendingMarkerAction) : Prop where
  kept : action.value = value
  kind : ∃ kind, value.text? "action_kind" = some kind ∧
    MarkerActionKind.parse kind = some action.actionKind
  itemId : value.text? "item_id" = some action.itemId
  stableMarkerKey : value.text? "stable_marker_key" = some action.stableMarkerKey
  bodyHash : value.text? "body_hash" = some action.bodyHash
  sourceHeadSha : value.text? "source_head_sha" = some action.sourceHeadSha
  remediationOutputHead :
    value.text? "remediation_output_head" = some action.remediationOutputHead
  routing : validateOutputRouting value action.itemId action.actionKind
    action.remediationOutputHead = .ok ()

variable {value : Json}

theorem requiredPendingActionString_text {field text : String}
    (h : requiredPendingActionString value field = .ok text) : value.text? field = some text := by
  unfold requiredPendingActionString at h
  split at h
  · rename_i found hfound
    obtain rfl : found = text := Except.ok.inj h
    exact (Option.filter_eq_some_iff.mp hfound).1
  · cases h

theorem validateActionKind_parse {kind actionId : String} {parsed : MarkerActionKind}
    (h : validateActionKind kind actionId = .ok parsed) :
    MarkerActionKind.parse kind = some parsed := by
  unfold validateActionKind at h
  split at h
  · rename_i found hfound
    obtain rfl : found = parsed := Except.ok.inj h
    exact hfound
  · cases h

/-- **The fields of an action are those of its value.** -/
theorem pendingMarkerActionFromValue_read {action : PendingMarkerAction}
    (h : pendingMarkerActionFromValue value = .ok action) : ActionRead value action := by
  unfold pendingMarkerActionFromValue at h
  obtain ⟨⟨⟩, -, h⟩ := bind_ok.mp h
  obtain ⟨actionId, -, h⟩ := bind_ok.mp h
  obtain ⟨kindText, hkindText, h⟩ := bind_ok.mp h
  obtain ⟨actionKind, hkind, h⟩ := bind_ok.mp h
  obtain ⟨itemId, hitem, h⟩ := bind_ok.mp h
  obtain ⟨bodyHash, hbody, h⟩ := bind_ok.mp h
  obtain ⟨⟨⟩, -, h⟩ := bind_ok.mp h
  obtain ⟨statusText, -, h⟩ := bind_ok.mp h
  obtain ⟨status, -, h⟩ := bind_ok.mp h
  obtain ⟨resolutionRequired, -, h⟩ := bind_ok.mp h
  obtain ⟨⟨⟩, -, h⟩ := bind_ok.mp h
  obtain ⟨stableMarkerKey, hkey, h⟩ := bind_ok.mp h
  obtain ⟨sourceHeadSha, hsource, h⟩ := bind_ok.mp h
  obtain ⟨remediationOutputHead, houtput, h⟩ := bind_ok.mp h
  obtain ⟨⟨⟩, -, h⟩ := bind_ok.mp h
  obtain ⟨⟨⟩, hrouting, h⟩ := bind_ok.mp h
  obtain rfl := Except.ok.inj h
  exact {
    kept := rfl
    kind := ⟨kindText, requiredPendingActionString_text hkindText, validateActionKind_parse hkind⟩
    itemId := requiredPendingActionString_text hitem
    stableMarkerKey := requiredPendingActionString_text hkey
    bodyHash := requiredPendingActionString_text hbody
    sourceHeadSha := requiredPendingActionString_text hsource
    remediationOutputHead := requiredPendingActionString_text houtput
    routing := hrouting }

theorem outputHead_of_routing {itemId head : String}
    (h : validateOutputRouting value itemId .commentFixed head = .ok ()) :
    head ≠ noRemediationOutputHead := by
  intro hnone
  unfold validateOutputRouting at h
  have hvalid := requirePendingAction_ok h
  rw [if_pos hnone] at hvalid
  simp at hvalid

/-! ### What a fixed action says -/

/-- The fields of an action that says that an item of the plan was fixed. -/
structure FixedAction (binding : PrFollowupBinding) (planItem answer : Json)
    (payload : RemediationResultValidationArtifact) (resultSequence : ArtifactSequenceMetadata)
    (value : Json) : Prop where
  kind : value.text? "action_kind" = some "comment_fixed"
  itemId : value.text? "item_id" = some (stringField planItem "source_id" "unknown-feedback-item")
  marker : value.text? "stable_marker_key" = some (stringField planItem "stable_marker_key"
    (stringField planItem "source_id" "unknown-feedback-item"))
  bodyHash : value.text? "body_hash" = some (stringField planItem "body_hash" "no-body-hash")
  sourceHead : value.text? "source_head_sha" = some binding.headSha
  outputHead : value.text? "remediation_output_head" = some payload.outputHeadSha
  outputHeadSha : value.text? "remediation_output_head_sha" = some payload.outputHeadSha
  inputHeadSha : value.text? "remediation_input_head_sha" = some payload.inputHeadSha
  evidence : value.get? "remediation_result_evidence" = some ((answer.get? "evidence").getD answer)
  artifact : value.get? "remediation_result_artifact_sequence" =
    some (.num resultSequence.artifactSequence)
  write : value.get? "remediation_result_write_sequence" =
    some (.num resultSequence.writeSequence)
  producer : value.get? "remediation_result_producer_step_id" =
    some (.str resultSequence.producerStepId)
  plan : value.get? "plan_artifact_sequence" = some payload.planArtifactSequence
  attempt : value.get? "remediation_attempt_index" = some (.num payload.remediationAttemptIndex)

section FixedAction

variable {binding : PrFollowupBinding} {planItem answer : Json}
  {payload : RemediationResultValidationArtifact} {resultSequence : ArtifactSequenceMetadata}

theorem stringField_of_get? {left right : Json} {field : String}
    (h : left.get? field = right.get? field) (default : String) :
    stringField left field default = stringField right field default := by
  unfold stringField
  rw [h]

theorem fieldOrNull_of_get? {value found : Json} {field : String}
    (h : value.get? field = some found) : fieldOrNull value field = found := by
  unfold fieldOrNull
  rw [h]
  rfl

/-- **What is derived of an item that was fixed says so.** -/
theorem fixedAction_derived (binding : PrFollowupBinding) (planItem answer : Json)
    (payload : RemediationResultValidationArtifact) (resultSequence : ArtifactSequenceMetadata) :
    FixedAction binding planItem answer payload resultSequence
      (pendingMarkerAction binding (fixedFeedbackItem planItem answer payload resultSequence)
        (some payload.outputHeadSha)) := by
  generalize hitem : fixedFeedbackItem planItem answer payload resultSequence = item
  have hkept : ∀ field : String, field ∉ fixedFeedbackFieldNames →
      item.get? field = planItem.get? field :=
    fun _ hfield => hitem ▸ get?_fixedFeedbackItem hfield
  have hwritten : ∀ (field : String) (value : Json),
      (field, value) ∈ fixedFeedbackFields answer payload resultSequence →
        item.get? field = some value :=
    fun _ _ hfield => hitem ▸ get?_fixedFeedbackItem_written hfield
  have hsource := stringField_of_get? (hkept "source_id" (by decide))
    "unknown-feedback-item"
  have hkind : pendingMarkerActionKind item (stringField item "decision" "invalid") =
      "comment_fixed" := by
    unfold pendingMarkerActionKind
    rw [hwritten "marker_action" (.str "comment_fixed") (by simp [fixedFeedbackFields])]
    rfl
  refine {
    kind := congrArg some hkind
    itemId := congrArg some hsource
    marker := ?_
    bodyHash := congrArg some (stringField_of_get? (hkept _ (by decide)) _)
    sourceHead := rfl
    outputHead := rfl
    outputHeadSha := rfl
    inputHeadSha := ?_
    evidence := congrArg some (fieldOrNull_of_get? (hwritten _ _ (by simp [fixedFeedbackFields])))
    artifact := congrArg some (fieldOrNull_of_get? (hwritten _ _ (by simp [fixedFeedbackFields])))
    write := congrArg some (fieldOrNull_of_get? (hwritten _ _ (by simp [fixedFeedbackFields])))
    producer := congrArg some (fieldOrNull_of_get? (hwritten _ _ (by simp [fixedFeedbackFields])))
    plan := congrArg some (fieldOrNull_of_get? (hwritten _ _ (by simp [fixedFeedbackFields])))
    attempt := congrArg some (fieldOrNull_of_get? (hwritten _ _ (by simp [fixedFeedbackFields]))) }
  · show some (stringField item "stable_marker_key"
      (stringField item "source_id" "unknown-feedback-item")) = _
    rw [hsource, stringField_of_get? (hkept _ (by decide))]
  · show ((item.get? "remediation_input_head_sha").getD (.str binding.headSha)).asStr? = _
    rw [hwritten _ (.str payload.inputHeadSha) (by simp [fixedFeedbackFields])]
    rfl

end FixedAction

end Luther
