/-
What an execution of the local verification leaves behind.

It leaves the documents of the other families, and of its own it leaves the one that was there,
or puts one in its place: one that is fatal and lists no command, or one that says how every
configured command has ended, for the plan and the result that were current.
-/
import Luther.Remediation.PostPrTests
import Luther.Remediation.ResultValidation
import Luther.Proofs.PushStep

namespace Luther

open Effect

/-! ### Heads -/

section Heads

variable {validate : FamilyInvariants} {pr binding : PrFollowupBinding}
  {store : ArtifactStore}

theorem validateSequenceBinding_symm (h : validateSequenceBinding pr binding) :
    validateSequenceBinding binding pr = true := by
  simp only [validateSequenceBinding, Bool.and_eq_true, beq_iff_eq, bne_iff_ne] at *
  grind

theorem Ledger.rebind (h : Ledger validate pr store)
    (hbinding : validateSequenceBinding pr binding) :
    Ledger validate binding store where
  snapshots := fun file hfile => by
    have hchecked := h.snapshots file hfile
    obtain ⟨actual, hactual, hpr⟩ := hchecked.binding
    have hcanonical : canonicalPath store.root binding file.family =
        canonicalPath store.root pr file.family := by
      unfold canonicalPath
      rw [bindingRoot_eq hbinding]
    have hhistory : ∀ sequence, historyPath store.root binding file.family sequence =
        historyPath store.root pr file.family sequence := by
      intro sequence
      unfold historyPath historyRootForFamily
      rw [bindingRoot_eq hbinding]
    exact
      { shallow := hchecked.shallow
        family := hchecked.family
        binding := ⟨actual, hactual, validateSequenceBinding_trans hbinding hpr⟩
        metadata := hchecked.metadata
        invariants := hchecked.invariants
        artifact := hchecked.artifact
        write := hchecked.write
        filename := hchecked.filename
        embedded := hchecked.embedded
        canonical := hcanonical ▸ hchecked.canonical
        place := by simpa only [hhistory] using hchecked.place }
  numbered := h.numbered
  current := fun file hfile => by
    obtain ⟨snapshot, hmem, hcontent, hpath⟩ := h.current file hfile
    refine ⟨snapshot, hmem, hcontent, hpath.trans ?_⟩
    unfold canonicalPath
    rw [bindingRoot_eq hbinding]
  currentPaths := h.currentPaths

/-- **A document of the family of a write is the one that was there, or the one that was
written, and about the head of the write.** -/
theorem Ledger.write_heads (h : Ledger validate pr store) (order : ListingOrder)
    {request : JsonArtifactWriteRequest} (hrequest : WellFormed pr request)
    (publication : Publication) {other : PrFollowupBinding}
    (hother : validateSequenceBinding pr other) {value : Json}
    (hvalue : (writeJsonArtifactLocked validate order request publication
      store).2.document other request.artifactFamily = some value) :
    store.document other request.artifactFamily = some value ∨
      other = request.binding ∧ envelope store.root request (nextNumbers store request).1
        (nextNumbers store request).2 = .ok value := by
  obtain ⟨-, hroot, hwritten⟩ := h.write_current order hrequest publication
  rcases hwritten with ⟨-, hcurrent⟩ | ⟨record, written, -, hwritten, hcurrent⟩
  · exact Or.inl ((document_congr hroot hcurrent _ _).symm.trans hvalue)
  · right
    generalize hreplaced : store.replaceCurrent
      ⟨canonicalPath store.root request.binding request.artifactFamily, written⟩ = replaced
        at hcurrent
    have hsame : replaced.root = store.root := by
      rw [← hreplaced]
      rfl
    have hpath : canonicalPath store.root request.binding request.artifactFamily =
        canonicalPath store.root other request.artifactFamily := by
      unfold canonicalPath
      rw [bindingRoot_eq hrequest.binding, bindingRoot_eq hother]
    rw [document_congr (hroot.trans hsame.symm) hcurrent, ← hreplaced, hpath] at hvalue
    unfold ArtifactStore.document at hvalue
    rw [currentFile_replaceCurrent_self, Option.map_some, Option.filter_some,
      bindingFromValue_of_injectStoreFields hwritten hrequest.binding] at hvalue
    have hbinding : request.binding = other := by
      by_contra hne
      simp [Except.toOption, hne] at hvalue
    refine ⟨hbinding.symm, ?_⟩
    rw [hbinding] at hvalue
    simp only [Except.toOption, BEq.rfl, if_true, Option.some.injEq] at hvalue
    rw [← hvalue]
    exact hwritten

end Heads

/-! ### The commands -/

theorem runPostPrTestCommand_status (command : PostPrTestCommandConfig)
    (execution : TestExecution) :
    (runPostPrTestCommand command execution).status ∈ ["passed", "failed", "fatal"] := by
  unfold runPostPrTestCommand runManifestPostPrTestProcess runPostPrTestProcess
    postPrTestSpawnError processStatus ManifestCommandResult.status
  split
  · cases execution.manifest with
    | failed error => simp
    | skipped => simp
    | completed result => dsimp only; split_ifs <;> simp
  · cases execution.process with
    | lost error => simp
    | ended timedOut exitCode => dsimp only; split_ifs <;> simp

theorem foldl_recordPostPrTestCommandResult (results : List PostPrTestCommandResult)
    (summary : PostPrTestCommandSummary) :
    let after := results.foldl recordPostPrTestCommandResult summary
    after.commandResults = summary.commandResults ++ results.map commandResultJson ∧
      (after.infrastructureErrors = [] ↔ summary.infrastructureErrors = [] ∧
        ∀ result ∈ results, result.status ≠ "fatal") ∧
      (after.anyFailed = true ↔ summary.anyFailed = true ∨
        ∃ result ∈ results, result.status ≠ "fatal" ∧ result.status ≠ "passed") := by
  induction results generalizing summary with
  | nil => simp
  | cons result rest ih =>
    obtain ⟨hresults, herrors, hfailed⟩ := ih (recordPostPrTestCommandResult summary result)
    refine ⟨?_, ?_, ?_⟩
    · rw [List.foldl_cons, hresults]
      simp [recordPostPrTestCommandResult]
    · rw [List.foldl_cons, herrors]
      by_cases hfatal : result.status = "fatal"
      · simp [recordPostPrTestCommandResult, hfatal]
      · simp [recordPostPrTestCommandResult, hfatal]
    · rw [List.foldl_cons, hfailed]
      simp [recordPostPrTestCommandResult, or_assoc]

/-! ### The artifact -/

/-- A test result that says how the commands of an execution have ended, for the plan and the
result that it has found. -/
structure Verification (step : PostPrTestStep) (run : PostPrTestRun) (store : ArtifactStore)
    (plan result : Json) (commands : List PostPrTestCommandConfig) (testResult : Json) : Prop where
  configured : step.commands = .ok commands
  foundPlan : store.document step.binding planFamily = some plan
  foundResult : store.document step.binding resultFamily = some result
  planSequence : testResult.get? "plan_artifact_sequence" = plan.get? "artifact_sequence"
  resultSequence : testResult.get? "remediation_result_artifact_sequence" =
    result.get? "artifact_sequence"
  reports : arrayField testResult "commands" = (commandResults run commands).map commandResultJson
  /-- Every command could be run. -/
  ran : ∀ report ∈ commandResults run commands, report.status = "passed" ∨ report.status = "failed"
  passed : testResult.text? "test_state" = some "passed" →
    ∀ report ∈ commandResults run commands, report.status = "passed"
  failed : testResult.text? "test_state" = some "failed" →
    ∃ report ∈ commandResults run commands, report.status = "failed"

/-- What an execution has come to. -/
structure TestEnd (validate : FamilyInvariants) (pr : PrFollowupBinding)
    (step : PostPrTestStep) (run : PostPrTestRun) (before after : ArtifactStore) : Prop where
  ledger : Ledger validate pr after
  history : before.history ⊆ after.history
  kept : ∀ other family, PlainFamily family → family ≠ testFamily →
    after.document other family = before.document other family
  written : ∀ other, validateSequenceBinding pr other = true →
    ∀ testResult, after.document other testFamily = some testResult →
      before.document other testFamily = some testResult ∨
        other = step.binding ∧ (testResult.text? "test_state" = some "fatal" ∨
          ∃ plan result commands, Verification step run before plan result commands testResult)

theorem depth_commandResultJson (result : PostPrTestCommandResult) :
    (commandResultJson result).depth ≤ 2 := by
  simp [commandResultJson, Json.depth, Json.depthEntries, depth_jsonOfTexts, depth_jsonOfText,
    depth_jsonOfInt]

section Execution

variable {validate : FamilyInvariants} {pr : PrFollowupBinding}
  {step : PostPrTestStep} {run : PostPrTestRun} {store : ArtifactStore} {payload : PostPrTestPayload}
  {planSequence resultSequence : Json} {payloadError : Option String}
  {failure : Option ArtifactFailure}

theorem postPrTestRequest_wellFormed
    (hbinding : validateSequenceBinding pr step.binding)
    (hplan : planSequence.depth = 0) (hresult : resultSequence.depth = 0)
    (hcommands : Shallow payload.commands)
    (hdetails : ∀ f ∈ failure, f.details.depth ≤ 2) :
    WellFormed pr (postPrTestRequest step run
      (postPrTestPayload step.binding run planSequence resultSequence payload payloadError)
      failure) where
  binding := hbinding
  producer := step.identified
  unnamed := by
    unfold postPrTestRequest postPrTestPayload
    cases payloadError <;> rfl
  successful := fun _ => by
    unfold postPrTestRequest postPrTestPayload
    cases payloadError <;> rfl
  shallow := by
    have htexts := Nat.le_trans (depth_jsonOfTexts payload.errors) (by decide : 1 ≤ 126)
    have hdepth := Nat.le_trans (Json.depthList_le hcommands) (by decide : 2 ≤ 125)
    unfold postPrTestRequest postPrTestPayload
    refine Nat.lt_succ_of_le ?_
    cases payloadError <;> simp only [Option.map_none, Option.map_some, Option.toList_none,
      Option.toList_some, List.cons_append, List.nil_append, Json.depth, Json.depthEntries,
      Nat.max_le, Nat.reduceLeDiff, Nat.zero_le, htexts, hdepth, hplan, hresult, and_self]
  details := fun f hf => Nat.lt_of_le_of_lt (hdetails f hf) (by decide)

theorem get?_postPrTest {root : String} {sequence : ArtifactSequenceMetadata}
    {numbered : Option (Nat × ArtifactFailure)} {testResult : Json}
    (h : envelope root (postPrTestRequest step run
      (postPrTestPayload step.binding run planSequence resultSequence payload payloadError)
      failure) sequence numbered = .ok testResult) :
    testResult.text? "test_state" = some payload.testState ∧
      arrayField testResult "commands" = payload.commands ∧
      testResult.get? "plan_artifact_sequence" = some planSequence ∧
      testResult.get? "remediation_result_artifact_sequence" = some resultSequence := by
  have hstate : testResult.get? "test_state" = some (.str payload.testState) := by
    rw [get?_payload h (by decide)]
    rfl
  have hcommands : testResult.get? "commands" = some (.arr payload.commands) := by
    rw [get?_payload h (by decide)]
    rfl
  refine ⟨?_, ?_, ?_, ?_⟩
  · unfold Json.text?
    rw [hstate]
    rfl
  · unfold arrayField
    rw [hcommands]
  · rw [get?_payload h (by decide)]
    rfl
  · rw [get?_payload h (by decide)]
    rfl

section

variable (h : Ledger validate pr store)

include h

/-- **An artifact is written, or is not.** -/
theorem writePostPrTestResult_meets (hbinding : validateSequenceBinding pr step.binding)
    (hplan : planSequence.depth = 0) (hresult : resultSequence.depth = 0)
    (hcommands : Shallow payload.commands)
    (hdetails : ∀ f ∈ failure, f.details.depth ≤ 2) (outcome : StepOutcome)
    (hwritten : ∀ testResult : Json, testResult.text? "test_state" = some payload.testState →
      arrayField testResult "commands" = payload.commands →
      testResult.get? "plan_artifact_sequence" = some planSequence →
      testResult.get? "remediation_result_artifact_sequence" = some resultSequence →
      testResult.text? "test_state" = some "fatal" ∨
        ∃ plan result commands, Verification step run store plan result commands testResult) :
    (writePostPrTestResult validate step run
      (postPrTestPayload step.binding run planSequence resultSequence payload payloadError)
      failure outcome).Meets store fun _ after =>
        TestEnd validate pr step run store after := by
  generalize hrequest : postPrTestRequest step run (postPrTestPayload step.binding run planSequence
    resultSequence payload payloadError) failure = request
  have hwellFormed : WellFormed pr request :=
    hrequest ▸ postPrTestRequest_wellFormed hbinding hplan hresult hcommands hdetails
  have hfamily : request.artifactFamily = testFamily := hrequest ▸ rfl
  obtain ⟨hledger, hdocuments⟩ := h.write_document run.order hwellFormed run.publication
  unfold writePostPrTestResult Meets
  rw [ends_of, hrequest]
  refine ⟨hledger, (grew_write validate store
    ⟨run.order, request, run.publication⟩).history.subset, ?_, ?_⟩
  · intro other family hplain hne
    rcases hdocuments with ⟨-, hsame⟩ | ⟨record, value, -, -, -, hother⟩
    · exact hsame other family
    · exact hother other family hplain (hfamily ▸ Ne.symm hne)
  · intro other hother testResult htest
    have hread : (writeJsonArtifactLocked validate run.order request
        run.publication store).2.document other request.artifactFamily = some testResult := by
      rw [hfamily]
      exact htest
    have hheads := h.write_heads run.order hwellFormed run.publication hother hread
    rw [hfamily] at hheads
    refine hheads.imp_right fun ⟨hhead, hvalue⟩ => ?_
    rw [← hrequest] at hvalue hhead
    obtain ⟨hstate, hlisted, hplanSequence, hresultSequence⟩ := get?_postPrTest hvalue
    exact ⟨hhead, hwritten testResult hstate hlisted hplanSequence hresultSequence⟩

theorem testEnd_refl : TestEnd validate pr step run store store where
  ledger := h
  history := List.Subset.refl _
  kept := fun _ _ _ _ => rfl
  written := fun _ _ _ htest => Or.inl htest

theorem writePostPrTestFatal_meets
    (hbinding : validateSequenceBinding pr step.binding) (plan result : Json)
    (maxRetries : Nat) (reason : String) (errors : List String) :
    (writePostPrTestFatal validate step run plan result maxRetries reason
      errors).Meets store fun _ after => TestEnd validate pr step run store after := by
  have hdetails : ∀ f ∈ some (⟨"fatal", reason, .obj [("errors", jsonOfTexts errors)]⟩ :
      ArtifactFailure), f.details.depth ≤ 2 := by
    intro f hf
    obtain rfl := Option.some.inj hf
    refine Nat.succ_le_succ (Json.depthEntries_le fun entry hentry => ?_)
    rw [List.mem_singleton.mp hentry]
    exact depth_jsonOfTexts _
  unfold writePostPrTestFatal
  dsimp only
  split
  all_goals
    exact writePostPrTestResult_meets h hbinding rfl rfl (by simp [Shallow]) hdetails _
      fun _ hstate _ _ _ => Or.inl hstate

omit h in
theorem get?_of_requireArtifactSequence {value : Json} {family : String} {n : Nat}
    (h : requireArtifactSequence value family = .ok n) :
    value.get? "artifact_sequence" = some (.num n) := by
  unfold requireArtifactSequence Json.u64? at h
  cases hvalue : (value.get? "artifact_sequence").bind Json.asU64? with
  | none => simp [hvalue] at h
  | some m =>
    simp only [hvalue, Except.ok.injEq] at h
    obtain ⟨v, hv, hnum⟩ := Option.bind_eq_some_iff.mp hvalue
    rw [hv, num_of_asU64? hnum, h]

/-- **Every execution ends so.** -/
theorem runPostPrTests_meets (hbinding : validateSequenceBinding pr step.binding) :
    (runPostPrTests validate step run).Meets store fun _ after =>
      TestEnd validate pr step run store after := by
  unfold runPostPrTests
  refine meets_state ?_
  cases hplan : readCurrentJson validate step.binding planFamily store with
  | error error => exact meets_throw (testEnd_refl h)
  | ok plan =>
  cases hresult : readCurrentJson validate step.binding resultFamily store with
  | error error => exact meets_throw (testEnd_refl h)
  | ok result =>
  dsimp only
  cases hretries : u64RequiredParam step.params "max_verification_retries" 2 with
  | error error => exact writePostPrTestFatal_meets h hbinding _ _ _ _ _
  | ok maxRetries =>
  cases hcommands : step.commands with
  | error error => exact writePostPrTestFatal_meets h hbinding _ _ _ _ _
  | ok commands =>
  obtain ⟨hlisted, hinfrastructure, hanyFailed⟩ :=
    foldl_recordPostPrTestCommandResult (commandResults run commands) {}
  refine meets_ite (fun _ => writePostPrTestFatal_meets h hbinding _ _ _ _ _) fun hclean => ?_
  cases hsequences : verificationSourceArtifactSequences plan result with
  | error error => exact meets_throw (testEnd_refl h)
  | ok sequences =>
  obtain ⟨planSequence, resultSequence⟩ := sequences
  dsimp only
  cases hindex : currentVerificationRetryIndex validate step.binding planSequence
      resultSequence store with
  | error error => exact meets_throw (testEnd_refl h)
  | ok retryIndex =>
  obtain ⟨planNumber, hplanNumber, hrest⟩ := Sql.bind_ok.mp hsequences
  obtain ⟨resultNumber, hresultNumber, hrest⟩ := Sql.bind_ok.mp hrest
  obtain ⟨rfl, rfl⟩ := Prod.mk.inj (Except.ok.inj hrest)
  have hran : ∀ report ∈ commandResults run commands,
      report.status = "passed" ∨ report.status = "failed" := by
    intro report hreport
    have hnone : (runPostPrTestCommands run commands).infrastructureErrors = [] := by
      simpa using hclean
    have hnotFatal : report.status ≠ "fatal" := (hinfrastructure.mp hnone).2 report hreport
    obtain ⟨place, hplace, rfl⟩ := List.mem_mapIdx.mp hreport
    have hstatus := runPostPrTestCommand_status commands[place] (run.execution place)
    simp only [List.mem_cons, List.not_mem_nil, or_false] at hstatus
    tauto
  have hfailed : (runPostPrTestCommands run commands).anyFailed = true ↔
      ∃ report ∈ commandResults run commands, report.status = "failed" := by
    refine hanyFailed.trans ?_
    simp only [Bool.false_eq_true, false_or]
    constructor
    · rintro ⟨report, hreport, -, hnot⟩
      exact ⟨report, hreport, (hran report hreport).resolve_left hnot⟩
    · rintro ⟨report, hreport, hstatus⟩
      exact ⟨report, hreport, by simp [hstatus], by simp [hstatus]⟩
  refine writePostPrTestResult_meets h hbinding rfl rfl ?_ ?_ _
    fun testResult hstate hreports hplanSequence hresultSequence =>
      Or.inr ⟨plan, result, commands, ?_⟩
  · intro command hcommand
    dsimp only at hcommand
    unfold runPostPrTestCommands at hcommand
    rw [hlisted, List.nil_append] at hcommand
    obtain ⟨report, -, rfl⟩ := List.mem_map.mp hcommand
    exact depth_commandResultJson report
  · intro f hf
    split at hf
    · obtain rfl := Option.some.inj hf
      simp [Json.depth, Json.depthEntries]
    · simp at hf
  · have hledger := h.rebind hbinding
    have hself := validateSequenceBinding_trans hbinding hbinding
    exact
      { configured := hcommands
        foundPlan := (hledger.readCurrentJson_iff planFamily_plain hself).mp hplan
        foundResult := (hledger.readCurrentJson_iff resultFamily_plain hself).mp hresult
        planSequence := hplanSequence.trans (get?_of_requireArtifactSequence hplanNumber).symm
        resultSequence :=
          hresultSequence.trans (get?_of_requireArtifactSequence hresultNumber).symm
        reports := by
          rw [hreports]
          exact hlisted
        ran := hran
        passed := fun hpassed report hreport => by
          rw [hstate] at hpassed
          by_contra hnot
          have htrue := hfailed.mpr ⟨report, hreport, (hran report hreport).resolve_left hnot⟩
          simp [htrue] at hpassed
        failed := fun hpassed => by
          rw [hstate] at hpassed
          refine hfailed.mp ?_
          by_contra hnot
          simp [hnot] at hpassed }

end

end Execution

end Luther
