/-
Nothing is pushed that was not verified.

The plan, the result and the test result are tied together by numbers.  A number is given to one
document of a pull request only, so a test result with the numbers of the current plan and of
the current result was made for these two, whatever was written in between.  The execution that
made it is found by going back in the run.

What the verification has found comes back as work: the next plan has an item for every command
that has failed.
-/
import Luther.Remediation.RemediationPlan
import Luther.Proofs.ResultGates
import Luther.Proofs.TestedResult
import Luther.Proofs.PushTruth

namespace Luther

open Effect

/-! ### The machine -/

/-- What happens between a plan and a push. -/
inductive GateCall where
  | build (step : PlanStep) (run : PlanRun)
  /-- The result validation writes what it has made of the result of an agent. -/
  | validate (call : WriteCall)
  | test (step : PostPrTestStep) (run : PostPrTestRun)
  | push (step : PushStep) (run : PushRun)
  /-- Another producer writes an artifact of its own. -/
  | write (call : WriteCall)

/-- The steps on the artifacts of one pull request, each for the head that it finds. -/
def gateMachine (validate : FamilyInvariants) :
    StateMachine PushWorld GateCall (Option (Except String StepOutcome)) where
  start world := world.store.history = [] ∧ world.store.current = []
  step world call :=
    match call with
    | .build step run =>
      let (answer, store) := (buildRemediationPlan validate step run).ends
        world.store
      (some answer, { world with store := store })
    | .test step run =>
      let (answer, store) := (runPostPrTests validate step run).ends world.store
      (some answer, { world with store := store })
    | .push step run =>
      let (answer, after) := (pushRemediationChanges validate step run).ends
        { world with commands := [] }
      (some answer, after)
    | .validate call | .write call =>
      (none, { world with
        store := (writeJsonArtifactLocked validate call.order call.request
          call.publication world.store).2 })

/-- What may be called: steps of the pull request, whose documents can be read again; and writes
that keep to their families. -/
def GateCall.Permitted (validate : FamilyInvariants) (pr : PrFollowupBinding)
    (world : PushWorld) : GateCall → Prop
  | .build step run => validateSequenceBinding pr step.binding = true ∧
      (buildPlan validate step run world.store).1.toJson.depth < 128
  | .validate call => WellFormed pr call.request ∧ call.request.artifactFamily = resultFamily
  | .test step _ => validateSequenceBinding pr step.binding = true
  | .push step _ => validateSequenceBinding pr step.binding = true
  | .write call => WellFormed pr call.request ∧
      call.request.artifactFamily ∉ [planFamily, resultFamily, testFamily, pushFamily]

/-! ### One call -/

section Call

variable {validate : FamilyInvariants} {pr : PrFollowupBinding}
  {world : PushWorld}

variable {store : ArtifactStore}

theorem planRequest_wellFormed {step : PlanStep} {run : PlanRun}
    (hbinding : validateSequenceBinding pr step.binding)
    (hshallow : (buildPlan validate step run store).1.toJson.depth < 128) :
    WellFormed pr (planRequest step run (buildPlan validate step run store).1
      (buildPlan validate step run store).2) where
  binding := hbinding
  producer := step.identified
  unnamed := by
    unfold planRequest RemediationPlanArtifact.toJson
    split <;> rfl
  successful := fun _ => by
    unfold planRequest RemediationPlanArtifact.toJson
    split <;> rfl
  shallow := hshallow
  details := by
    intro failure hfailure
    unfold planRequest buildPlan at hfailure
    dsimp only at hfailure
    repeat' split at hfailure
    case isFalse => simp at hfailure
    all_goals
      obtain rfl := Option.some.inj hfailure
      simp [Json.depth, Json.depthEntries]

/-- What a call does to the documents: it leaves the test results, or makes one. -/
structure GateStep (validate : FamilyInvariants) (pr : PrFollowupBinding)
    (before : ArtifactStore) (call : GateCall) (after : ArtifactStore) : Prop where
  ledger : Ledger validate pr after
  history : before.history ⊆ after.history
  tested : ∀ other, validateSequenceBinding pr other = true →
    ∀ testResult, after.document other testFamily = some testResult →
      before.document other testFamily = some testResult ∨
        testResult.text? "test_state" = some "fatal" ∨
        ∃ step run plan result commands, call = .test step run ∧ step.binding = other ∧
          Verification step run before plan result commands testResult

theorem gateStep_write (h : Ledger validate pr store) (order : ListingOrder)
    {request : JsonArtifactWriteRequest} (hrequest : WellFormed pr request)
    (publication : Publication) (hfamily : request.artifactFamily ≠ testFamily) (call : GateCall) :
    GateStep validate pr store call
      (writeJsonArtifactLocked validate order request publication store).2 where
  ledger := (h.write_document order hrequest publication).1
  history := (grew_write validate store
    ⟨order, request, publication⟩).history.subset
  tested := fun other _ testResult htest => by
    left
    rcases (h.write_document order hrequest publication).2 with
      ⟨-, hsame⟩ | ⟨record, value, -, -, -, hother⟩
    · exact (hsame other testFamily).symm.trans htest
    · exact (hother other testFamily testFamily_plain hfamily).symm.trans htest

theorem pushReady_of_loaded {step : PushStep} {setup : PushRunSetup}
    (h : Ledger validate pr store)
    (hbinding : validateSequenceBinding pr step.binding)
    (hloaded : loadPushRunSetup validate step store = .ok setup) :
    PushReady validate step setup store where
  binding := validateSequenceBinding_trans hbinding hbinding
  ledger := h.rebind hbinding
  loaded := hloaded

theorem gateStep_push (h : Ledger validate pr world.store) (step : PushStep)
    (run : PushRun) (hbinding : validateSequenceBinding pr step.binding) :
    GateStep validate pr world.store (.push step run)
      ((gateMachine validate).next world (.push step run)).store := by
  show GateStep validate pr world.store (.push step run)
    ((pushRemediationChanges validate step run).ends
      { world with commands := [] }).2.store
  cases hloaded : loadPushRunSetup validate step world.store with
  | ok setup =>
    have hready : PushReady validate step setup
        ({ world with commands := [] } : PushWorld).store :=
      pushReady_of_loaded h hbinding hloaded
    have hend : PushEnd validate step setup { world with commands := [] } run _ _ :=
      pushRemediationChanges_meets hready
    refine ⟨hend.ready.ledger.rebind (validateSequenceBinding_symm hbinding), hend.history,
      fun other _ testResult htest => Or.inl ?_⟩
    exact (hend.kept other testFamily testFamily_plain (by decide)).symm.trans htest
  | error error =>
    have hunchanged : ((pushRemediationChanges validate step run).ends
        { world with commands := [] }).2.store = world.store := by
      unfold pushRemediationChanges
      cases run.barrier with
      | blocked => rfl
      | denied => rfl
      | allow =>
        rw [ends_bind, ends_state]
        simp only [hloaded]
        rfl
    rw [hunchanged]
    exact ⟨h, List.Subset.refl _, fun _ _ _ htest => Or.inl htest⟩

/-- **What every call does to the documents.** -/
theorem gateStep (h : Ledger validate pr world.store) {call : GateCall}
    (hcall : call.Permitted validate pr world) :
    GateStep validate pr world.store call
      ((gateMachine validate).next world call).store := by
  cases call with
  | build step run =>
    exact gateStep_write h run.order (planRequest_wellFormed hcall.1 hcall.2) run.publication
      (by decide : planFamily ≠ testFamily) _
  | validate call =>
    refine gateStep_write h call.order hcall.1 call.publication ?_ _
    rw [hcall.2]
    decide
  | test step run =>
    have hend : TestEnd validate pr step run world.store _ :=
      runPostPrTests_meets h hcall
    refine ⟨hend.ledger, hend.history, fun other hother testResult htest => ?_⟩
    rcases hend.written other hother testResult htest with hold | ⟨rfl, hfatal | hverified⟩
    · exact Or.inl hold
    · exact Or.inr (Or.inl hfatal)
    · obtain ⟨plan, result, commands, hverification⟩ := hverified
      exact Or.inr (Or.inr ⟨step, run, plan, result, commands, rfl, rfl, hverification⟩)
  | push step run => exact gateStep_push h step run hcall
  | write call =>
    refine gateStep_write h call.order hcall.1 call.publication ?_ _
    have hfamily := hcall.2
    simp only [List.mem_cons, List.not_mem_nil, or_false, not_or] at hfamily
    exact hfamily.2.2.1

end Call

/-! ### Runs -/

section Runs

variable {validate : FamilyInvariants} {pr : PrFollowupBinding}
  {start world : PushWorld} {past calls : List GateCall}

/-- The execution of a run that a test result comes from. -/
structure Origin (validate : FamilyInvariants) (start : PushWorld)
    (past : List GateCall) (world : PushWorld) (testResult : Json) (earlier later : List GateCall)
    (step : PostPrTestStep) (run : PostPrTestRun) (plan result : Json)
    (commands : List PostPrTestCommandConfig) : Prop where
  place : past = earlier ++ .test step run :: later
  verification : Verification step run
    ((gateMachine validate).run start earlier).store plan result commands testResult
  written : ((gateMachine validate).run start
    (earlier ++ [.test step run])).store.document step.binding testFamily = some testResult
  /-- The plan and the result are in the history since. -/
  keptPlan : ∃ file ∈ world.store.history, file.content = plan
  keptResult : ∃ file ∈ world.store.history, file.content = result

/-- What holds of a run, and of the calls before. -/
structure GateHistory (validate : FamilyInvariants) (pr : PrFollowupBinding)
    (start : PushWorld) (past : List GateCall) (world : PushWorld) : Prop where
  reached : (gateMachine validate).run start past = world
  ledger : Ledger validate pr world.store
  tested : ∀ other, validateSequenceBinding pr other = true →
    ∀ testResult, world.store.document other testFamily = some testResult →
      testResult.text? "test_state" = some "fatal" ∨
        ∃ earlier later step run plan result commands, step.binding = other ∧
          Origin validate start past world testResult earlier later step run plan
            result commands

variable {binding : PrFollowupBinding} {testResult : Json}

theorem Ledger.found (h : Ledger validate pr world.store)
    (hbinding : validateSequenceBinding pr binding) {family : String}
    (hplain : PlainFamily family) {value : Json}
    (hvalue : world.store.document binding family = some value) :
    ∃ file ∈ world.store.history, file.content = value := by
  obtain ⟨snapshot, hmem, -, hcontent⟩ := (h.rebind hbinding).document_mem hplain hvalue
  exact ⟨snapshot, hmem, hcontent⟩

/-- **A call adds to the history of a run.** -/
theorem GateHistory.step (h : GateHistory validate pr start past world)
    {call : GateCall} (hcall : call.Permitted validate pr world) :
    GateHistory validate pr start (past ++ [call])
      ((gateMachine validate).next world call) := by
  have hstep := gateStep h.ledger hcall
  have hreached : (gateMachine validate).run start (past ++ [call]) =
      (gateMachine validate).next world call := by
    rw [StateMachine.run_append, h.reached]
    rfl
  refine ⟨hreached, hstep.ledger, fun other hother testResult htest => ?_⟩
  rcases hstep.tested other hother testResult htest with hold | hfatal | hmade
  · refine (h.tested other hother testResult hold).imp_right ?_
    rintro ⟨earlier, later, step, run, plan, result, commands, hbinding, horigin⟩
    obtain ⟨planFile, hplanFile, hplan⟩ := horigin.keptPlan
    obtain ⟨resultFile, hresultFile, hresult⟩ := horigin.keptResult
    refine ⟨earlier, later ++ [call], step, run, plan, result, commands, hbinding, ?_,
      horigin.verification, horigin.written, ⟨planFile, hstep.history hplanFile, hplan⟩,
      ⟨resultFile, hstep.history hresultFile, hresult⟩⟩
    rw [horigin.place, List.append_assoc, List.cons_append]
  · exact Or.inl hfatal
  · obtain ⟨step, run, plan, result, commands, rfl, rfl, hverification⟩ := hmade
    obtain ⟨planFile, hplanFile, hplan⟩ :=
      h.ledger.found hother planFamily_plain hverification.foundPlan
    obtain ⟨resultFile, hresultFile, hresult⟩ :=
      h.ledger.found hother resultFamily_plain hverification.foundResult
    refine Or.inr ⟨past, [], step, run, plan, result, commands, rfl, rfl, ?_, ?_,
      ⟨planFile, hstep.history hplanFile, hplan⟩, ⟨resultFile, hstep.history hresultFile, hresult⟩⟩
    · rw [h.reached]
      exact hverification
    · rw [hreached]
      exact htest

/-- **Every run has a history.** -/
theorem gateHistory (hstart : (gateMachine validate).start start)
    (hcalls : (gateMachine validate).Along
      (fun world call => call.Permitted validate pr world) start calls) :
    GateHistory validate pr start calls
      ((gateMachine validate).run start calls) := by
  have hempty : GateHistory validate pr start [] start := by
    refine ⟨rfl, ledger_of_empty hstart.1 hstart.2, fun other _ testResult htest => ?_⟩
    unfold ArtifactStore.document ArtifactStore.currentFile at htest
    rw [hstart.2] at htest
    simp at htest
  have hrun := hcalls.history (P := GateHistory validate pr start)
    (fun past world call hcall h => h.step hcall) hempty
  simpa using hrun

/-! ### Behind a push -/

variable {step : PushStep}

theorem gatesPass_of_changes {run : PushRun}
    (h : ∃ command ∈ ((gateMachine validate).next world (.push step run)).commands,
      command.changes = true) :
    ∃ setup, loadPushRunSetup validate step world.store = .ok setup ∧
      pushGatesPass validate step setup world.store = true := by
  have hmeets : (pushRemediationChanges validate step run).Meets
      { world with commands := [] } fun _ after => after.commands = [] ∨
        ∃ setup, loadPushRunSetup validate step world.store = .ok setup ∧
          pushGatesPass validate step setup world.store = true := by
    unfold pushRemediationChanges
    cases run.barrier with
    | blocked => exact Or.inl rfl
    | denied => exact Or.inl rfl
    | allow =>
      refine meets_state ?_
      cases hloaded : loadPushRunSetup validate step world.store with
      | error error => exact meets_throw (Or.inl rfl)
      | ok setup =>
        refine meets_state ?_
        dsimp only
        cases htest : readCurrentJson validate step.binding testFamily
            world.store with
        | error error => exact Or.inl rfl
        | ok testResult =>
          dsimp only
          cases herrors : validatePushLocalVerificationResult step.binding setup.plan
              setup.result testResult with
          | cons error rest => exact Or.inl rfl
          | nil =>
            refine meets_ite (fun hevidence => Or.inr ⟨setup, rfl, ?_⟩)
              fun _ => Or.inl rfl
            unfold pushGatesPass
            rw [htest]
            simp only [herrors, hevidence, List.isEmpty_nil, Bool.and_self]
  obtain ⟨command, hcommand, -⟩ := h
  rcases hmeets with hnone | hgates
  · have hcommands : ((gateMachine validate).next world
        (.push step run)).commands = [] := hnone
    rw [hcommands] at hcommand
    simp at hcommand
  · exact hgates

theorem gates_of_pass {setup : PushRunSetup} {store : ArtifactStore}
    (h : pushGatesPass validate step setup store) :
    ∃ testResult,
      readCurrentJson validate step.binding testFamily store = .ok testResult ∧
      testResult.text? "test_state" = some "passed" ∧
      testResult.get? "plan_artifact_sequence" = setup.plan.get? "artifact_sequence" ∧
      testResult.get? "remediation_result_artifact_sequence" =
        setup.result.get? "artifact_sequence" ∧
      arrayField testResult "commands" ≠ [] ∧
      mustFixSuccessEvidenceIsAcceptable setup.plan setup.result = true := by
  unfold pushGatesPass at h
  cases htest : readCurrentJson validate step.binding testFamily store with
  | error error => simp [htest] at h
  | ok testResult =>
    rw [htest, Bool.and_eq_true, List.isEmpty_iff] at h
    obtain ⟨herrors, hevidence⟩ := h
    unfold validatePushLocalVerificationResult validatePostPrTestResultBinding
      validatePostPrTestResultSequences at herrors
    simp only [List.append_eq_nil_iff] at herrors
    obtain ⟨⟨⟨⟨hstate, -⟩, hplan, hresult⟩, -⟩, hcommands⟩ := herrors
    refine ⟨testResult, rfl, of_not_complained hstate, of_not_complained hplan,
      of_not_complained hresult, fun hnone => ?_, hevidence⟩
    rw [hnone] at hcommands
    exact List.cons_ne_nil _ _ hcommands

theorem Ledger.content_eq (h : Ledger validate pr world.store) {left right : Json}
    (hleft : ∃ file ∈ world.store.history, file.content = left)
    (hright : ∃ file ∈ world.store.history, file.content = right)
    (hnumber : left.get? "artifact_sequence" = right.get? "artifact_sequence") : left = right := by
  obtain ⟨leftFile, hleftMem, rfl⟩ := hleft
  obtain ⟨rightFile, hrightMem, rfl⟩ := hright
  have hnumbers : leftFile.artifactSequence = rightFile.artifactSequence := by
    unfold ContainedFile.artifactSequence
    rw [hnumber]
  rw [h.eq_of_artifactSequence hleftMem hrightMem hnumbers]

/-- What stands behind a push: an execution of the local verification that has found the plan and
the result that are current, and has put the current test result in place, after every configured
command had passed; and a result that has an answer for every item of the plan. -/
structure Backed (validate : FamilyInvariants) (start : PushWorld)
    (calls : List GateCall) (binding : PrFollowupBinding) (store : ArtifactStore) : Prop where
  tested : ∃ earlier step run later commands, calls = earlier ++ .test step run :: later ∧
    step.binding = binding ∧ step.commands = .ok commands ∧ commands ≠ [] ∧
    (∀ report ∈ commandResults run commands, report.status = "passed") ∧
    (∀ family ∈ [planFamily, resultFamily],
      ((gateMachine validate).run start earlier).store.document binding family =
        store.document binding family) ∧
    ((gateMachine validate).run start
      (earlier ++ [.test step run])).store.document binding testFamily =
        store.document binding testFamily
  answered : ∃ plan result, store.document binding planFamily = some plan ∧
    store.document binding resultFamily = some result ∧
    ∀ item ∈ arrayField plan "must_fix", ∃ entry ∈ arrayField result "results",
      entryCovers item entry = true

/-- **A push that changes something is backed.** -/
theorem GateHistory.backed (h : GateHistory validate pr start past world)
    (hbinding : validateSequenceBinding pr step.binding) {run : PushRun}
    (hchanges : ∃ command ∈
      ((gateMachine validate).next world (.push step run)).commands,
      command.changes = true) :
    Backed validate start past step.binding world.store := by
  obtain ⟨setup, hloaded, hgates⟩ := gatesPass_of_changes hchanges
  have hready := pushReady_of_loaded h.ledger hbinding hloaded
  obtain ⟨hplan, hresult⟩ := hready.documents
  obtain ⟨testResult, htest, hstate, hplanSequence, hresultSequence, hcommands, hevidence⟩ :=
    gates_of_pass hgates
  have hdocument :=
    (hready.ledger.readCurrentJson_iff testFamily_plain hready.binding).mp htest
  refine ⟨?_, setup.plan, setup.result, hplan, hresult, ?_⟩
  · rcases h.tested step.binding hbinding testResult hdocument with hfatal | horigin
    · rw [hstate] at hfatal
      simp at hfatal
    · obtain ⟨earlier, later, testStep, testRun, plan, result, commands, hhead, horigin⟩ := horigin
      have hverification := horigin.verification
      obtain rfl : plan = setup.plan := by
        refine h.ledger.content_eq horigin.keptPlan (h.ledger.found hbinding planFamily_plain hplan) ?_
        exact hverification.planSequence.symm.trans hplanSequence
      obtain rfl : result = setup.result := by
        refine h.ledger.content_eq horigin.keptResult
          (h.ledger.found hbinding resultFamily_plain hresult) ?_
        exact hverification.resultSequence.symm.trans hresultSequence
      refine ⟨earlier, testStep, testRun, later, commands, horigin.place, hhead,
        hverification.configured, ?_, hverification.passed hstate, ?_, ?_⟩
      · rintro rfl
        exact hcommands hverification.reports
      · intro family hfamily
        simp only [List.mem_cons, List.not_mem_nil, or_false] at hfamily
        rcases hfamily with rfl | rfl
        · rw [hplan, ← hhead]
          exact hverification.foundPlan
        · rw [hresult, ← hhead]
          exact hverification.foundResult
      · rw [hdocument, ← hhead]
        exact horigin.written
  · intro item hitem
    unfold mustFixSuccessEvidenceIsAcceptable at hevidence
    exact List.any_eq_true.mp (List.all_eq_true.mp hevidence item hitem)

/-! ### What has failed is planned -/

theorem mustFix_routeAcceptedResult (binding : PrFollowupBinding) (evaluations : Json)
    (lists : PlanLists) (result : Json) :
    lists.mustFix ⊆ (routeAcceptedResult binding evaluations lists result).mustFix := by
  unfold routeAcceptedResult
  dsimp only
  split
  · exact List.Subset.refl _
  · split
    · exact List.subset_append_left _ _
    · split <;> exact List.Subset.refl _
    · exact List.Subset.refl _
    · exact List.Subset.refl _

theorem mustFix_foldl (binding : PrFollowupBinding) (evaluations : Json) (results : List Json)
    (lists : PlanLists) :
    lists.mustFix ⊆ (results.foldl (routeAcceptedResult binding evaluations) lists).mustFix := by
  induction results generalizing lists with
  | nil => exact List.Subset.refl _
  | cons result rest ih =>
    exact List.Subset.trans (mustFix_routeAcceptedResult binding evaluations lists result) (ih _)

theorem postPrTestFailures_subset {inputs : PlanInputs}
    (h : inputs.postPrTestResult = some testResult) :
    postPrTestFailures binding testResult ⊆ (planLists binding inputs).mustFix := by
  refine List.Subset.trans ?_ (mustFix_foldl binding inputs.evaluations _ _)
  dsimp only
  rw [h, Option.map_some, Option.getD_some]
  exact List.subset_append_right _ _

theorem Ledger.buildPlan_failures (h : Ledger validate pr world.store)
    {step : PlanStep} (hbinding : validateSequenceBinding pr step.binding) (run : PlanRun)
    (htest : world.store.document step.binding testFamily = some testResult) :
    let plan := (buildPlan validate step run world.store).1
    plan.planState = .fatal ∨
      (postPrTestFailures step.binding testResult ⊆ plan.mustFix ∧
        (plan.planState = .clean → plan.mustFix = [])) := by
  intro plan
  show plan.planState = .fatal ∨ _
  generalize hplan : plan = built
  unfold plan buildPlan at hplan
  cases hpr : readCurrentJson validate step.binding "pr" world.store with
  | error error =>
    rw [hpr] at hplan
    exact Or.inl (hplan ▸ rfl)
  | ok pull =>
    cases hinputs : readPlanInputs validate step.binding world.store with
    | error error =>
      rw [hpr, hinputs] at hplan
      exact Or.inl (hplan ▸ rfl)
    | ok inputs =>
      rw [hpr, hinputs] at hplan
      dsimp only at hplan
      subst hplan
      obtain ⟨ciFailures, -, hrest⟩ := Sql.bind_ok.mp hinputs
      obtain ⟨feedback, -, hrest⟩ := Sql.bind_ok.mp hrest
      obtain ⟨evaluations, -, hrest⟩ := Sql.bind_ok.mp hrest
      obtain ⟨read, hread, hrest⟩ := Sql.bind_ok.mp hrest
      rw [h.readOptionalCurrentJsonForHead_document testFamily_plain hbinding, htest,
        Except.ok.injEq] at hread
      obtain rfl := Except.ok.inj hrest
      refine Or.inr ⟨postPrTestFailures_subset hread.symm, fun hclean => ?_⟩
      unfold planOfInputs at hclean ⊢
      dsimp only at hclean ⊢
      split at hclean
      · simp at hclean
      · split at hclean
        · simp at hclean
        · rename_i hnone
          simpa using hnone

/-- **After a verification that has failed, a plan is not clean, and has an item for every command
that has not passed.** -/
theorem GateHistory.planned (h : GateHistory validate pr start past world)
    {step : PlanStep} (hbinding : validateSequenceBinding pr step.binding) (run : PlanRun)
    (htest : world.store.document step.binding testFamily = some testResult)
    (hfailed : testResult.text? "test_state" = some "failed") :
    let plan := (buildPlan validate step run world.store).1
    plan.planState ≠ .clean ∧ (plan.planState = .fatal ∨
      ∃ earlier testStep testRun later commands, past = earlier ++ .test testStep testRun :: later ∧
        testStep.binding = step.binding ∧ testStep.commands = .ok commands ∧
        ((gateMachine validate).run start
          (earlier ++ [.test testStep testRun])).store.document step.binding testFamily =
            some testResult ∧
        ∀ report ∈ commandResults testRun commands, report.status ≠ "passed" →
          postPrTestMustFixItem step.binding testResult (commandResultJson report) ∈
            plan.mustFix) := by
  intro plan
  rcases h.tested step.binding hbinding testResult htest with hfatal | horigin
  · rw [hfailed] at hfatal
    simp at hfatal
  · obtain ⟨earlier, later, testStep, testRun, found, result, commands, hhead, horigin⟩ := horigin
    have hverification := horigin.verification
    have hlisted : ∀ report ∈ commandResults testRun commands, report.status ≠ "passed" →
        postPrTestMustFixItem step.binding testResult (commandResultJson report) ∈
          postPrTestFailures step.binding testResult := by
      intro report hreport hnot
      unfold postPrTestFailures
      rw [if_pos hfailed, hverification.reports]
      refine List.mem_map_of_mem (List.mem_filter.mpr ⟨List.mem_map_of_mem hreport, ?_⟩)
      have hstatus : (commandResultJson report).text? "status" = some report.status := rfl
      rw [hstatus, (hverification.ran report hreport).resolve_left hnot]
      rfl
    rcases h.ledger.buildPlan_failures hbinding run htest with hfatal | ⟨hsubset, hclean⟩
    · exact ⟨by rw [show plan.planState = _ from hfatal]; simp, Or.inl hfatal⟩
    · refine ⟨fun hstate => ?_, Or.inr ⟨earlier, testStep, testRun, later, commands, horigin.place,
        hhead, hverification.configured, hhead ▸ horigin.written, fun report hreport hnot =>
          hsubset (hlisted report hreport hnot)⟩⟩
      obtain ⟨report, hreport, hstatus⟩ := hverification.failed hfailed
      have hmem := hsubset (hlisted report hreport (by simp [hstatus]))
      rw [hclean hstate] at hmem
      simp at hmem

/-- **The gates of a push hold.**  What changes the repository is backed by a verification of the
current result of the current plan; what a verification has found is planned; and the validation
of a result agrees with the push on every result that it accepts, exactly where the items of the
plan are identified. -/
theorem push_verified (hstart : (gateMachine validate).start start)
    (hcalls : (gateMachine validate).Along
      (fun world call => call.Permitted validate pr world) start calls) :
    let machine := gateMachine validate
    let world := machine.run start calls
    (∀ step run, validateSequenceBinding pr step.binding = true →
      (∃ command ∈ (machine.next world (.push step run)).commands, command.changes = true) →
      Backed validate start calls step.binding world.store) ∧
    (∀ binding plan result scope enginePresent advance validation,
      evaluateRemediationResult binding plan result scope enginePresent advance =
          .ok validation →
        validation.outcome = .success →
        (mustFixSuccessEvidenceIsAcceptable plan result = true ↔ ItemsIdentified plan)) ∧
    ∀ (step : PlanStep) run testResult, validateSequenceBinding pr step.binding = true →
      world.store.document step.binding testFamily = some testResult →
      testResult.text? "test_state" = some "failed" →
      let plan := (buildPlan validate step run world.store).1
      plan.planState ≠ .clean ∧ (plan.planState = .fatal ∨
        ∃ earlier testStep testRun later commands,
          calls = earlier ++ .test testStep testRun :: later ∧
          testStep.binding = step.binding ∧ testStep.commands = .ok commands ∧
          (machine.run start (earlier ++ [.test testStep testRun])).store.document step.binding
            testFamily = some testResult ∧
          ∀ report ∈ commandResults testRun commands, report.status ≠ "passed" →
            postPrTestMustFixItem step.binding testResult (commandResultJson report) ∈
              plan.mustFix) := by
  have hhistory := gateHistory hstart hcalls
  refine ⟨fun step run hbinding hchanges => hhistory.backed hbinding hchanges, ?_, ?_⟩
  · intro binding plan result scope enginePresent advance validation hevaluated hsuccess
    exact (accepted_of_success hevaluated hsuccess).acceptable_iff
  · intro step run testResult hbinding htest hfailed
    exact hhistory.planned hbinding run htest hfailed

end Runs

/-! ### A push that is backed, and a result that the gates disagree on -/

/-- A worktree with one changed path, and no artifact yet. -/
def emptyPushWorld : PushWorld where
  store := { root := "" }
  repository := { localHead := 0, remoteHead := 0, changedPaths := ["src/lib.rs"] }

def examplePlanStep : PlanStep where
  binding := shortBinding
  params := .obj []
  identified := by decide

def exampleTestStep : PostPrTestStep where
  binding := shortBinding
  params := .obj []
  identified := by decide
  commands := .ok [⟨"test", ["cargo", "test"], "w", false⟩]

def exampleBuild : PlanRun where
  order := ⟨id, fun files => List.Perm.refl files⟩
  builtAt := 0
  writtenAt := 0

/-- An execution of the tests in which every command passes. -/
def exampleTest : PostPrTestRun where
  order := ⟨id, fun files => List.Perm.refl files⟩
  execution _ :=
    { process := .ended false (some 0)
      manifest := .skipped
      stdoutLogPath := ""
      stderrLogPath := "" }
  verifiedAt := 0
  writtenAt := 0

/-- What is known of the pull request: one check has failed. -/
def exampleInputs : List GateCall :=
  [.write (shortCall "pr" []),
   .write (shortCall ciFailuresFamily
    [("failures", .arr [.obj [("failure_id", .str "build")]])]),
   .write (shortCall "coderabbit-feedback" [("readiness_state", .str "ready")]),
   .write (shortCall "feedback-evaluations" [("evaluation_state", .str "complete")])]

def exampleGates : List GateCall :=
  [.build examplePlanStep exampleBuild,
   .validate (shortCall resultFamily
    [("results", .arr [exampleItem
      [("status", .str "fixed"), ("evidence", .arr [.str "src/lib.rs"])]])]),
   .test exampleTestStep exampleTest]

theorem exampleGates_evaluated :
    let machine := gateMachine exampleInvariants
    let built := machine.run emptyPushWorld exampleInputs
    let verified := machine.run built exampleGates
    (buildPlan exampleInvariants examplePlanStep exampleBuild built.store).1.toJson.depth < 128 ∧
      (machine.next verified (.push exampleStep exampleRun)).commands.any (·.changes) = true := by
  decide +kernel

theorem shortBinding_valid : validateSequenceBinding shortBinding shortBinding = true := by decide

theorem shortCall_wellFormed {family : String} {payload : List (String × Json)}
    (hunnamed : payload.lookup "artifact_name" = none)
    (hsuccessful : payload.lookup "failure_sequence" = none)
    (hshallow : (Json.obj payload).depth < 128) :
    WellFormed shortBinding (shortCall family payload).request where
  binding := shortBinding_valid
  producer := by
    show "s" ≠ ""
    decide
  unnamed := by
    show (payload.lookup "artifact_name").bind Json.asStr? = none
    rw [hunnamed]
    rfl
  successful := fun _ => by
    show (payload.lookup "failure_sequence").bind Json.asU64? = none
    rw [hsuccessful]
    rfl
  shallow := hshallow
  details := by simp [shortCall, exampleCall]

theorem exampleGates_permitted :
    (gateMachine exampleInvariants).Along
      (fun world call => call.Permitted exampleInvariants shortBinding world) emptyPushWorld
      (exampleInputs ++ exampleGates) := by
  rw [StateMachine.along_append]
  refine ⟨⟨⟨?_, by decide⟩, ⟨?_, by decide⟩, ⟨?_, by decide⟩, ⟨?_, by decide⟩, trivial⟩,
    ⟨shortBinding_valid, exampleGates_evaluated.1⟩, ⟨?_, rfl⟩, shortBinding_valid, trivial⟩
  all_goals exact shortCall_wellFormed (by decide) (by decide) (by decide)

/-- The push of the example is backed. -/
theorem push_verified_example :
    Backed exampleInvariants emptyPushWorld (exampleInputs ++ exampleGates) shortBinding
      ((gateMachine exampleInvariants).run emptyPushWorld (exampleInputs ++ exampleGates)).store := by
  have hstart : (gateMachine exampleInvariants).start emptyPushWorld := ⟨rfl, rfl⟩
  refine (push_verified hstart exampleGates_permitted).1 exampleStep exampleRun shortBinding_valid ?_
  rw [StateMachine.run_append]
  exact List.any_eq_true.mp exampleGates_evaluated.2

def exampleResultScope : RemediationRetryScope where
  runId := "r"
  repositoryOwner := "o"
  repositoryName := "n"
  prNumber := 7
  inputHeadSha := "h"
  outputHeadSha := some "g"
  planArtifactSequence := 5
  remediationAttemptIndex := 0
  maxRemediationAttempts := 2
  validationRetryIndex := 0
  maxValidationRetries := 2
  staleArtifactRetryIndex := 0
  maxStaleArtifactRetries := 2
  scopeKind := "remediation_result_validation"

/-- A plan of two checks that have failed, one of which has an empty id. -/
def unnamedPlan : Json :=
  .obj
    [("artifact_sequence", .num 5),
     ("must_fix", .arr
      [ciMustFixItem shortBinding .null 0 (.obj [("failure_id", .str "build")]),
        ciMustFixItem shortBinding .null 1 (.obj [("failure_id", .str "")])])]

/-- An answer to each of the checks. -/
def namedResult (failures : List String) : Json :=
  .obj
    [("run_id", .str "r"),
     ("repository_owner", .str "o"),
     ("repository_name", .str "n"),
     ("pr_number", .num 7),
     ("input_head_sha", .str "h"),
     ("output_head_sha", .str "g"),
     ("plan_artifact_sequence", .num 5),
     ("retry_scope", .obj
      [("run_id", .str "r"),
       ("repository_owner", .str "o"),
       ("repository_name", .str "n"),
       ("pr_number", .num 7),
       ("input_head_sha", .str "h"),
       ("plan_artifact_sequence", .num 5)]),
     ("results", .arr (failures.map fun failureId => .obj
      [("source_type", .str "ci_failure"),
       ("source_id", .str failureId),
       ("status", .str "fixed"),
       ("response_text", .str "done"),
       ("input_head_sha", .str "h"),
       ("evidence", .obj [("current_head_sha", .str "g")])]))]

/-- An item with an empty id has no key, so the validation asks for no answer to it, and the push
finds that there is none. -/
theorem gates_disagree :
    (evaluateRemediationResult shortBinding unnamedPlan (namedResult ["build"])
        exampleResultScope true true).map (·.outcome) = .ok .success ∧
      mustFixSuccessEvidenceIsAcceptable unnamedPlan (namedResult ["build"]) = false := by
  decide +kernel

end Luther
