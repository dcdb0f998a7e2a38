/-
Two gates that judge the same result.

The validation of a result and the push after it both ask whether every item of the plan is
answered with success and with evidence.  The validation goes by the keys of the items, which it
makes for those with a type and an id only; the push compares the types and the ids themselves.
So they agree on a result that is accepted exactly where every item has a key, and one that it
shares with no other.
-/
import Luther.Remediation.ResultValidation
import Luther.Lib.Sql

namespace Luther

/-! ### Acceptance -/

/-- What a result that is accepted has: no complaint, and success all over. -/
structure Accepted (binding : PrFollowupBinding) (plan result : Json)
    (scope : RemediationRetryScope) : Prop where
  errors : (semanticRemediationValidation binding plan result scope).errors = []
  unsuccessful : (semanticRemediationValidation binding plan result scope).unsuccessfulStatuses = []

section Evaluation

variable {binding : PrFollowupBinding} {plan result : Json} {scope : RemediationRetryScope}
  {enginePresent advance : Bool} {validation : RemediationResultValidation}

theorem staleScopeValidation_outcome (stale : StaleScopeClassification) :
    (staleScopeValidation stale scope).outcome ≠ .success := by
  unfold staleScopeValidation
  dsimp only
  split <;> simp

variable {semantic : SemanticRemediationValidation} {field key : String}
  {left right planItem : Json}

theorem malformedRemediationValidation_outcome
    (h : malformedRemediationValidation semantic advance = .ok validation) :
    validation.outcome ≠ .success := by
  obtain ⟨index, -, hverdict⟩ := Sql.bind_ok.mp h
  obtain rfl := Except.ok.inj hverdict
  unfold SemanticRemediationValidation.verdict
  dsimp only
  split <;> simp

theorem unsuccessfulRemediationValidation_outcome
    (h : unsuccessfulRemediationValidation semantic enginePresent = .ok validation) :
    validation.outcome ≠ .success := by
  obtain ⟨index, -, hverdict⟩ := Sql.bind_ok.mp h
  obtain rfl := Except.ok.inj hverdict
  unfold SemanticRemediationValidation.verdict
  dsimp only
  split <;> simp

/-- **A success is an acceptance.** -/
theorem accepted_of_success
    (h : evaluateRemediationResult binding plan result scope enginePresent advance =
      .ok validation) (hsuccess : validation.outcome = .success) :
    Accepted binding plan result scope := by
  obtain ⟨stale, -, hrest⟩ := Sql.bind_ok.mp h
  cases stale with
  | some stale =>
    obtain rfl := Except.ok.inj hrest
    exact absurd hsuccess (staleScopeValidation_outcome stale)
  | none =>
    dsimp only at hrest
    split at hrest
    · exact absurd hsuccess (malformedRemediationValidation_outcome hrest)
    · rename_i herrors
      split at hrest
      · exact absurd hsuccess (unsuccessfulRemediationValidation_outcome hrest)
      · rename_i hsuccessful
        simp only [Bool.or_eq_true, Bool.not_eq_true', not_or, bne_iff_ne, ne_eq, not_not,
          List.isEmpty_eq_false_iff] at herrors hsuccessful
        exact ⟨herrors, hsuccessful.1⟩

/-! ### What an accepted result has -/

/-- The evidence of the kind that the status of an answer asks for. -/
def EvidenceFits (binding : PrFollowupBinding) (outputHeadSha : String) (item : Json) : Prop :=
  match stringField item "status" "" with
  | "already_satisfied" =>
    (evidenceOf item).text? "current_head_sha" = some binding.headSha
      ∧ (arrayField (evidenceOf item) "commands").any isPassedCommand = true
  | "not_reproduced" =>
    (evidenceOf item).text? "current_head_sha" = some binding.headSha
      ∧ (evidenceOf item).text? "kind" = some "api_lookup"
      ∧ (arrayField (evidenceOf item) "api_lookups").any isNotFoundLookup = true
  | _ => (evidenceOf item).text? "current_head_sha" = some outputHeadSha

/-- An item of a result says with evidence that an item of the plan is done, and means that very
item: its type and id, the marker and the body it has, and the head it is about. -/
structure Satisfies (binding : PrFollowupBinding) (outputHeadSha : String) (planItem item : Json) :
    Prop where
  status : stringField item "status" "" ∈ successStatuses
  sourceType : item.text? "source_type" = planItem.text? "source_type"
  sourceId : item.text? "source_id" = planItem.text? "source_id"
  marker : ∀ marker, planItem.text? "stable_marker_key" = some marker →
    item.text? "stable_marker_key" = some marker
  bodyHash : ∀ hash, planItem.text? "body_hash" = some hash → item.text? "body_hash" = some hash
  head : ((item.get? "input_head_sha").or (item.get? "head_sha")).bind Json.asStr?
    = some binding.headSha
  planHead : planItem.text? "input_head_sha" = some binding.headSha
  evidence : EvidenceFits binding outputHeadSha item

/-- The answer to an item of the plan, as the validation has found it. -/
structure Answered (plan item : Json) : Prop where
  status : stringField item "status" "" ∈ successStatuses
  evidence : ((item.get? "evidence").map evidenceIsNonEmpty).getD false = true
  /-- It has the type and the id of the item that its key stands for. -/
  named : ∃ planItem, (planItemsByKey plan).lookup (itemKey item) = some planItem ∧
    item.text? "source_type" = planItem.text? "source_type" ∧
    item.text? "source_id" = planItem.text? "source_id"

theorem evidenceIsNonEmpty_of_text {value : Json} {text : String}
    (h : value.text? field = some text) : evidenceIsNonEmpty value = true := by
  unfold Json.text? Json.get? at h
  cases value with
  | obj entries =>
    cases entries with
    | nil => simp at h
    | cons entry rest => rfl
  | null | bool | num | str | arr => simp at h

theorem evidence_of_text {item : Json} {text : String}
    (h : (evidenceOf item).text? field = some text) :
    ((item.get? "evidence").map evidenceIsNonEmpty).getD false = true := by
  unfold evidenceOf at h
  cases hvalue : item.get? "evidence" with
  | none =>
    rw [hvalue] at h
    simp [Json.text?, Json.get?] at h
  | some value =>
    rw [hvalue] at h
    exact evidenceIsNonEmpty_of_text h

theorem stringField_congr (h : left.text? field = right.text? field) :
    stringField left field "" = stringField right field "" :=
  congrArg (fun text : Option String => text.getD "") h

theorem of_not_complained {c : Prop} [Decidable c] {error : String}
    (h : (if c then [] else [error]) = ([] : List String)) : c := by
  by_contra hc
  rw [if_neg hc] at h
  exact List.cons_ne_nil _ _ h

theorem Accepted.item (h : Accepted binding plan result scope) {item : Json}
    (hitem : item ∈ arrayField result "results") :
    resultItemErrors binding (planItemsByKey plan) (stringField result "output_head_sha" "") item =
      [] := by
  have herrors := h.errors
  unfold semanticRemediationValidation at herrors
  simp only [List.append_eq_nil_iff] at herrors
  exact List.flatMap_eq_nil_iff.mp herrors.1.1.2 item hitem

theorem carried_of_not_complained {item : Json}
    (h : carriedFieldErrors planItem item key field = []) (text : String)
    (htext : planItem.text? field = some text) : item.text? field = some text := by
  by_contra hne
  unfold carriedFieldErrors at h
  dsimp only at h
  rw [htext, if_pos ⟨rfl, hne⟩] at h
  exact List.cons_ne_nil _ _ h

theorem Accepted.status (h : Accepted binding plan result scope) {item : Json}
    (hitem : item ∈ arrayField result "results") :
    stringField item "status" "" ∈ successStatuses := by
  have herrors := h.item hitem
  have hunsuccessful := h.unsuccessful
  unfold semanticRemediationValidation at hunsuccessful
  have hnotFailed : unsuccessfulStatuses.contains (stringField item "status" "") = false := by
    have hnone := List.filter_eq_nil_iff.mp hunsuccessful (stringField item "status" "")
      (List.mem_map_of_mem hitem)
    simpa using hnone
  unfold resultItemErrors at herrors
  dsimp only at herrors
  rw [hnotFailed, List.append_eq_nil_iff] at herrors
  by_contra hnot
  have hinvalid : validStatuses.contains (stringField item "status" "") = false := by
    rw [Bool.eq_false_iff]
    intro hvalid
    rcases List.mem_append.mp (List.contains_iff_mem.mp hvalid) with hin | hin
    · exact hnot hin
    · exact absurd (List.contains_iff_mem.mpr hin) (by simpa using hnotFailed)
  rw [hinvalid] at herrors
  exact List.cons_ne_nil _ _ herrors.2

theorem evidenceFits_of_not_complained {item : Json} {outputHeadSha : String}
    (hstatus : stringField item "status" "" ∈ successStatuses)
    (h : validateSuccessEvidence binding (some planItem) item (stringField item "status" "") key
      outputHeadSha = []) : EvidenceFits binding outputHeadSha item := by
  unfold EvidenceFits
  simp only [successStatuses, List.mem_cons, List.not_mem_nil, or_false] at hstatus
  unfold validateSuccessEvidence validateDeterministicEvidence validateFixedEvidence at h
  rcases hstatus with heq | heq | heq | heq
  · rw [heq] at h ⊢
    show (evidenceOf item).text? "current_head_sha" = some outputHeadSha
    exact of_not_complained h
  · rw [heq] at h ⊢
    show (evidenceOf item).text? "current_head_sha" = some outputHeadSha
    exact of_not_complained h
  · rw [heq] at h ⊢
    simp only [true_or, if_true, List.append_eq_nil_iff] at h
    exact ⟨of_not_complained h.1.2, of_not_complained h.2⟩
  · rw [heq] at h ⊢
    simp only [or_true, if_true, List.append_eq_nil_iff] at h
    exact ⟨of_not_complained h.1.2, of_not_complained h.2⟩

section

variable (h : Accepted binding plan result scope)

include h

/-- **Every item of an accepted result satisfies the item of the plan that its key stands
for.** -/
theorem Accepted.satisfies {item : Json} (hitem : item ∈ arrayField result "results") :
    ∃ planItem, (planItemsByKey plan).lookup (itemKey item) = some planItem
      ∧ Satisfies binding (stringField result "output_head_sha" "") planItem item := by
  have hsuccess := h.status hitem
  have herrors := h.item hitem
  unfold resultItemErrors validateItemIdentity at herrors
  dsimp only at herrors
  rw [List.append_eq_nil_iff, List.append_eq_nil_iff] at herrors
  obtain ⟨⟨hidentity, -⟩, hstatus⟩ := herrors
  have hvalid : validStatuses.contains (stringField item "status" "") = true :=
    List.contains_iff_mem.mpr (List.mem_append_left _ hsuccess)
  have hnotFailed : ¬ unsuccessfulStatuses.contains (stringField item "status" "") = true := by
    simp only [successStatuses, List.mem_cons, List.not_mem_nil, or_false] at hsuccess
    rcases hsuccess with heq | heq | heq | heq <;> rw [heq] <;> decide
  rw [if_pos hvalid, if_neg hnotFailed] at hstatus
  cases hplan : (planItemsByKey plan).lookup (itemKey item) with
  | none =>
    rw [hplan] at hidentity
    exact absurd hidentity (List.cons_ne_nil _ _)
  | some planItem =>
    rw [hplan] at hidentity hstatus
    simp only [validateResultBinding, List.append_eq_nil_iff] at hidentity
    obtain ⟨⟨⟨⟨hhead, hplanHead⟩, hsame⟩, hmarker⟩, hbody⟩ := hidentity
    have hboth := of_not_complained hsame
    exact ⟨planItem, rfl,
      { status := hsuccess
        sourceType := hboth.1
        sourceId := hboth.2
        marker := carried_of_not_complained hmarker
        bodyHash := carried_of_not_complained hbody
        head := of_not_complained hhead
        planHead := of_not_complained hplanHead
        evidence := evidenceFits_of_not_complained hsuccess hstatus }⟩

omit h in
theorem Satisfies.evidenceIsNonEmpty {item : Json} {outputHeadSha : String}
    (h : Satisfies binding outputHeadSha planItem item) :
    ((item.get? "evidence").map evidenceIsNonEmpty).getD false = true := by
  have hevidence := h.evidence
  unfold EvidenceFits at hevidence
  split at hevidence
  · exact evidence_of_text hevidence.1
  · exact evidence_of_text hevidence.1
  · exact evidence_of_text hevidence

/-- **Every item of an accepted result answers an item of the plan.** -/
theorem Accepted.answered {item : Json}
    (hitem : item ∈ arrayField result "results") : Answered plan item := by
  obtain ⟨planItem, hplan, hsatisfies⟩ := h.satisfies hitem
  exact ⟨hsatisfies.status, hsatisfies.evidenceIsNonEmpty, planItem, hplan, hsatisfies.sourceType,
    hsatisfies.sourceId⟩

omit h in
theorem planItemsByKey_lookup (h : (planItemsByKey plan).lookup key = some planItem) :
    planItem ∈ arrayField plan "must_fix" ∧ isNamed planItem = true ∧ itemKey planItem = key := by
  rcases Assoc.lookup_index h with ⟨hmem, hkey⟩ | hnone
  · exact ⟨(List.mem_filter.mp hmem).1, (List.mem_filter.mp hmem).2, hkey⟩
  · simp at hnone

/-- **Every key of the plan has one answer.** -/
theorem Accepted.counted
    (hitem : planItem ∈ arrayField plan "must_fix") (hnamed : isNamed planItem) :
    ((arrayField result "results").countP fun item => itemKey item == itemKey planItem) = 1 := by
  have herrors := h.errors
  unfold semanticRemediationValidation at herrors
  simp only [List.append_eq_nil_iff] at herrors
  have hcoverage := List.flatMap_eq_nil_iff.mp herrors.1.2
  have hfound : ((planItemsByKey plan).lookup (itemKey planItem)).isSome = true :=
    Assoc.isSome_lookup_index (Or.inl ⟨planItem, List.mem_filter.mpr ⟨hitem, hnamed⟩, rfl⟩)
  obtain ⟨found, hlookup⟩ := Option.isSome_iff_exists.mp hfound
  have hkey : itemKey planItem ∈ ((planItemsByKey plan).map Prod.fst).insertionSort (· ≤ ·) := by
    rw [List.mem_insertionSort]
    exact List.mem_map_of_mem (Assoc.mem_of_lookup hlookup)
  have hcount := hcoverage _ hkey
  split at hcount
  · exact absurd hcount (List.cons_ne_nil _ _)
  · assumption
  · exact absurd hcount (List.cons_ne_nil _ _)

theorem Accepted.covered
    (hitem : planItem ∈ arrayField plan "must_fix") (hnamed : isNamed planItem) :
    ∃ item ∈ arrayField result "results", itemKey item = itemKey planItem := by
  have hpos : 0 < (arrayField result "results").countP fun item =>
      itemKey item == itemKey planItem := by
    rw [h.counted hitem hnamed]
    exact Nat.one_pos
  obtain ⟨item, hmem, hkey⟩ := List.countP_pos_iff.mp hpos
  exact ⟨item, hmem, by simpa using hkey⟩

end

/-! ### The gates -/

/-- Two items with the same type and the same id. -/
def sameItem (left right : Json) : Prop :=
  stringField left "source_type" "" = stringField right "source_type" "" ∧
    stringField left "source_id" "" = stringField right "source_id" ""

/-- Every item of the plan has a type and an id, and no other item has its key. -/
def ItemsIdentified (plan : Json) : Prop :=
  ∀ item ∈ arrayField plan "must_fix", isNamed item = true ∧
    ∀ other ∈ arrayField plan "must_fix", itemKey other = itemKey item → sameItem other item

theorem entryCovers_iff {item entry : Json} :
    entryCovers item entry = true ↔ sameItem entry item ∧
      stringField entry "status" "" ∈ successStatuses ∧
      ((entry.get? "evidence").map evidenceIsNonEmpty).getD false = true := by
  unfold entryCovers sameItem
  simp only [Bool.and_eq_true, beq_iff_eq, List.contains_iff_mem, and_assoc]

theorem itemKey_congr (h : sameItem left right) :
    itemKey left = itemKey right := by
  unfold itemKey
  rw [h.1, h.2]

theorem isNamed_congr (h : sameItem left right) :
    isNamed left = isNamed right := by
  unfold isNamed
  rw [h.1, h.2]

/-- **The gates agree on an accepted result exactly where the items of the plan are
identified.** -/
theorem Accepted.acceptable_iff (h : Accepted binding plan result scope) :
    mustFixSuccessEvidenceIsAcceptable plan result = true ↔ ItemsIdentified plan := by
  unfold mustFixSuccessEvidenceIsAcceptable
  simp only [List.all_eq_true, List.any_eq_true, entryCovers_iff]
  constructor
  · intro hcovered item hitem
    obtain ⟨entry, hentry, hsame, -⟩ := hcovered item hitem
    obtain ⟨planItem, hlookup, htype, hid⟩ := (h.answered hentry).named
    have hplanSame : sameItem entry planItem := ⟨stringField_congr htype, stringField_congr hid⟩
    obtain ⟨-, hnamed, -⟩ := planItemsByKey_lookup hlookup
    refine ⟨?_, fun other hother hkey => ?_⟩
    · rw [← isNamed_congr hsame, isNamed_congr hplanSame, hnamed]
    · obtain ⟨entry', hentry', hsame', -⟩ := hcovered other hother
      obtain ⟨planItem', hlookup', htype', hid'⟩ := (h.answered hentry').named
      have hplanSame' : sameItem entry' planItem' :=
        ⟨stringField_congr htype', stringField_congr hid'⟩
      -- Both answers have the one key, so the plan has the one item for them.
      have hkeys : itemKey entry' = itemKey entry := by
        rw [itemKey_congr hsame', hkey, itemKey_congr hsame]
      rw [hkeys, hlookup, Option.some.injEq] at hlookup'
      subst hlookup'
      exact ⟨hsame'.1.symm.trans (hplanSame'.1.trans (hplanSame.1.symm.trans hsame.1)),
        hsame'.2.symm.trans (hplanSame'.2.trans (hplanSame.2.symm.trans hsame.2))⟩
  · intro hidentified item hitem
    obtain ⟨hnamed, hunique⟩ := hidentified item hitem
    obtain ⟨entry, hentry, hkey⟩ := h.covered hitem hnamed
    have hanswered := h.answered hentry
    obtain ⟨planItem, hlookup, htype, hid⟩ := hanswered.named
    obtain ⟨hmem, -, hplanKey⟩ := planItemsByKey_lookup hlookup
    have hsame := hunique planItem hmem (hplanKey.trans hkey)
    refine ⟨entry, hentry, ⟨?_, ?_⟩, hanswered.status, hanswered.evidence⟩
    · exact (stringField_congr htype).trans hsame.1
    · exact (stringField_congr hid).trans hsame.2

end Evaluation

end Luther
