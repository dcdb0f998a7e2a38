/-
What the status shows of a decision, and what a timeout freezes.

Two readers of the files of the gate take less of them into account than the gate does.  The
status shows a resolution without asking which patch it is for, so an approval stays on display
after the patch has changed.  And the snapshot of a timeout is read by nobody who lets a patch
pass: neither is a request written for what was frozen, nor does the barrier hold it back.
-/
import Luther.Proofs.ScopeGate

namespace Luther

/-! ### The status -/

/-- The state on display says no more than the gate would do. -/
structure AgreesWithGate (state : ScopeDecisionState) (outcome : ScopeGateOutcome) : Prop where
  approved : state = .approvedExpandedScope → outcome.allowsMutation = true
  declined : state = .frozen → ∃ decision, outcome = .denied decision
  pending : outcome = .pendingResolution ∨ outcome = .overBudgetNeedsRequest →
    state = .pendingResolution

section Status

variable {measurementDigest : MeasurementDigest} {charter : CanonicalTaskCharter}
  {status : ScopeStatus} {measurement : PatchMeasurement} {evaluation : ScopeEvaluation}
  {artifacts : ScopeArtifacts}

theorem buildDecisionProjection_state (request : Option ScopeExpansionRequest)
    (resolution : Option ScopeExpansionResolution) :
    (buildDecisionProjection
        { status with measurement := some measurement, evaluation := some evaluation }
        request resolution).state =
      if evaluation.Exceeds then overBudgetState request.isSome resolution else .withinBudget := by
  have hwithin : (evaluation.withinBudget && evaluation.violations.isEmpty) = true ↔
      ¬ evaluation.Exceeds := by
    unfold ScopeEvaluation.Exceeds
    simp [List.isEmpty_iff]
  unfold buildDecisionProjection
  by_cases hexceeds : evaluation.Exceeds
  · have hno : (evaluation.withinBudget && evaluation.violations.isEmpty) = false := by
      by_contra hyes
      exact hwithin.mp (by simpa using hyes) hexceeds
    simp [hno, hexceeds]
  · have hyes := hwithin.mpr hexceeds
    simp [hyes, hexceeds]

/-- **The status agrees with the gate where the resolution that is stored is for this patch.**

That is: where the patch exceeds the charter, there is a request and there is a resolution, both
are for this measurement, and the request was made under this charter. -/
theorem status_agrees_with_gate (measurementDigest : MeasurementDigest)
    (charter : CanonicalTaskCharter) (status : ScopeStatus) (measurement : PatchMeasurement)
    (evaluation : ScopeEvaluation) (artifacts : ScopeArtifacts) :
    AgreesWithGate
        (buildDecisionProjection
          { status with measurement := some measurement, evaluation := some evaluation }
          (readExpansionRequest artifacts) artifacts.resolution).state
        (checkScopeGate measurementDigest charter measurement evaluation artifacts) ↔
      (evaluation.Exceeds → ∀ request resolution, readExpansionRequest artifacts = some request →
        artifacts.resolution = some resolution →
          request.charterDigest = charter.digest ∧
          resolution.measurementDigest = measurementDigest measurement ∧
          request.measurementDigest = measurementDigest measurement) := by
  rw [buildDecisionProjection_state]
  by_cases hexceeds : evaluation.Exceeds
  · rw [if_pos hexceeds]
    by_cases hanswers : ∃ resolution,
        Answers (measurementDigest measurement) charter resolution artifacts
    · obtain ⟨resolution, hanswer⟩ := hanswers
      obtain ⟨request, hread, hdigest, hcharter⟩ := hanswer.request
      rw [checkScopeGate_of_answers hexceeds hanswer, hread, hanswer.stored]
      constructor
      · rintro - - request' resolution' hread' hstored'
        obtain rfl := Option.some.inj hread'
        obtain rfl := Option.some.inj hstored'
        exact ⟨hcharter, hanswer.answered, hdigest⟩
      · intro _
        have hstate : overBudgetState (some request).isSome (some resolution) =
            if resolution.decision.authorizesExpansion then .approvedExpandedScope
            else .frozen := rfl
        rw [hstate]
        cases hdecision : resolution.decision.authorizesExpansion with
        | true =>
          exact ⟨fun _ => rfl, fun hfrozen => ScopeDecisionState.noConfusion hfrozen,
            by rintro (h | h) <;> cases h⟩
        | false =>
          exact ⟨fun happroved => ScopeDecisionState.noConfusion happroved,
            fun _ => ⟨resolution.decision, rfl⟩, by rintro (h | h) <;> cases h⟩
    · have hgate := checkScopeGate_of_not_answers hexceeds hanswers
      constructor
      · intro hagrees _ request resolution hread hstored
        have hpending := hagrees.pending hgate.symm
        rw [hread, hstored] at hpending
        unfold overBudgetState at hpending
        simp only [Option.isSome_some] at hpending
        split at hpending <;> cases hpending
      · intro hcond
        have hstate : overBudgetState (readExpansionRequest artifacts).isSome
            artifacts.resolution = .pendingResolution := by
          cases hread : readExpansionRequest artifacts with
          | none => rfl
          | some request =>
            cases hstored : artifacts.resolution with
            | none => rfl
            | some resolution =>
              obtain ⟨hcharter, hanswered, hdigest⟩ :=
                hcond hexceeds request resolution hread hstored
              exact absurd ⟨resolution, hstored, hanswered, request, hread, hdigest, hcharter⟩
                hanswers
        rw [hstate]
        exact ⟨by simp, by simp, fun _ => rfl⟩
  · rw [if_neg hexceeds]
    have hallows : (checkScopeGate measurementDigest charter measurement evaluation
        artifacts).allowsMutation = true := checkScopeGate_of_within hexceeds
    refine ⟨fun _ h => absurd h hexceeds, fun _ => ⟨by simp, by simp, ?_⟩⟩
    rintro (hpending | hneeds)
    · rw [hpending] at hallows
      cases hallows
    · rw [hneeds] at hallows
      cases hallows

end Status

/-- **An approval stays on display when the patch has changed.**  The gate does not honour it. -/
theorem status_agrees_with_gate_stale :
    ∃ status : ScopeStatus, ∃ artifacts : ScopeArtifacts,
      (buildDecisionProjection
          { status with
            measurement := some (docsPatch "second" 2)
            evaluation := some (evaluate (docsPatch "second" 2) oneFileCharter) }
          (readExpansionRequest artifacts) artifacts.resolution).state = .approvedExpandedScope ∧
        checkScopeGate (·.contentDigest) oneFileCharter (docsPatch "second" 2)
          (evaluate (docsPatch "second" 2) oneFileCharter) artifacts = .overBudgetNeedsRequest := by
  refine ⟨⟨"charter", "run", "charter digest", "base", 0, none, none, none⟩,
    (scopeMachine (·.contentDigest) "run").run charteredRun
      [.barrier 1 (.ok (docsPatch "first" 2)),
        .resolve 2 ⟨"run", "first", .approveExpandedScope, "wanted", 2⟩], ?_, ?_⟩
  · decide +kernel
  · decide +kernel

/-! ### The freeze -/

/-- A decision over what was frozen is possible: its request is read, and a resolution for it
ends the wait. -/
structure Releasable (digest : String) (artifacts : ScopeArtifacts) : Prop where
  request : (readExpansionRequest artifacts).map (·.measurementDigest) = some digest
  ready : ∀ resolution : ScopeExpansionResolution, resolution.measurementDigest = digest →
    ∀ now record, (record.waitCondition.get? "artifact_root").bind Json.asStr? ≠ none →
      (pollScopeDecision now record (writeExpansionResolution resolution artifacts)
        ).classification = .readyToResume

theorem RequestLedger.releasable_iff {artifacts : ScopeArtifacts} (h : RequestLedger artifacts)
    (digest : String) : Releasable digest artifacts ↔ RequestCounts digest artifacts := by
  rw [← h.read_iff digest]
  constructor
  · intro hreleasable
    exact Option.map_eq_some_iff.mp hreleasable.request
  · rintro ⟨request, hread, hdigest⟩
    refine ⟨by rw [hread, ← hdigest]; rfl, ?_⟩
    intro resolution hresolution now record hroot
    exact pollScopeDecision_of_same hread (hresolution.trans hdigest.symm) now hroot

theorem ScopeRun.frozen {start artifacts : ScopeArtifacts} (h : ScopeRun start artifacts)
    (runId : String) (now : Timestamp) (charter : CanonicalTaskCharter)
    (measurement : PatchMeasurement) (kind : TimeoutKind) (compile : Bool)
    (evidence : ProcessEvidence) :
    ScopeRun start
      (handleTimeoutRecovery runId now charter measurement kind compile evidence artifacts).2 :=
  ⟨h.charter, h.ledger.names, h.ledger.nodup, h.ledger.charter⟩

end Luther
