/-
Fixed actions over the life of a pull request.

A result is accepted and published, its actions are recorded, and more is written: plans, results,
whatever.  At any time after, and at any head, the actions are asked for their evidence.
-/
import Luther.Proofs.MarkerEvidence

namespace Luther

open StateMachine

/-- The canonical result, where it is about the head that is current, is still the one with the
number of a record. -/
def StillCurrent (store : ArtifactStore) (current : PrFollowupBinding)
    (record : ArtifactWriteRecord) : Prop :=
  (store.document current remediationResultFamily).bind (Json.u64? "artifact_sequence") =
    some record.sequence.artifactSequence

section Gate

variable {validate : FamilyInvariants} {pr current : PrFollowupBinding}
  {store : ArtifactStore} {prepared : PreparedRemediationValidation}
  {recorded : Option RetryState} {payload : RemediationResultValidationArtifact}
  {record : ArtifactWriteRecord} {planItem answer : Json} {action : PendingMarkerAction}
  {request : JsonArtifactWriteRequest} {file : ContainedFile}

theorem Ledger.eq_of_number (h : Ledger validate pr store)
    (hpublished : PublishedAs request record file) (hfile : file ∈ store.history)
    {other : ContainedFile} (hother : other ∈ store.history)
    (hnumber : other.content.u64? "artifact_sequence" = some record.sequence.artifactSequence) :
    other = file := by
  refine h.eq_of_artifactSequence hother hfile ?_
  have hfileNumber := hpublished.artifact
  unfold Json.u64? at hnumber hfileNumber
  unfold ContainedFile.artifactSequence
  rw [hnumber, hfileNumber]

theorem Ledger.stillCurrent_iff (h : Ledger validate pr store)
    (hpublished : PublishedAs request record file) (hfile : file ∈ store.history) :
    StillCurrent store current record ↔
      store.document current remediationResultFamily = some file.content := by
  unfold StillCurrent
  constructor
  · intro hnumber
    obtain ⟨value, hvalue, hnumber⟩ := Option.bind_eq_some_iff.mp hnumber
    obtain ⟨other, hother, -, rfl⟩ := h.document_mem plainFamily_remediationResult hvalue
    rw [hvalue, h.eq_of_number hpublished hfile hother hnumber]
  · intro hdocument
    rw [hdocument]
    exact hpublished.artifact

theorem DerivedAction.query_matches
    (hpublished : PublishedAs request record file)
    (hdocument : SuccessDocument prepared recorded file.content) (n : Nat) :
    (markerEvidenceQuery action
      (some (carriedReference prepared payload record n))).matches file.content = true := by
  have hartifact : (file.content.get? "artifact_sequence").bind Json.asU64? = _ :=
    hpublished.artifact
  have hwrite : (file.content.get? "write_sequence").bind Json.asU64? = _ := hpublished.write
  have hproducer : (file.content.get? "producer_step_id").bind Json.asStr? = _ :=
    hpublished.producer
  have hinput : (file.content.get? "input_head_sha").bind Json.asStr? = _ := hdocument.inputHead
  have houtput : (file.content.get? "output_head_sha").bind Json.asStr? = _ := hdocument.outputHead
  unfold HistoryEvidenceQuery.matches HistoryEvidenceQuery.sequenceMatches
  simp only [markerEvidenceQuery, carriedReference, Option.all_some, hartifact, hwrite, hproducer,
    hinput, houtput, Option.getD_some, beq_self_eq_true, Bool.and_self]

/-- **When the gate lets a derived action pass.** -/
theorem DerivedAction.gate_iff
    (h : DerivedAction prepared recorded payload record planItem answer action)
    (hledger : Ledger validate pr store)
    (hpublished : PublishedAs request record file) (hfile : file ∈ store.history)
    (hfamily : file.family = remediationResultFamily)
    (hdocument : SuccessDocument prepared recorded file.content)
    (hprepared : validateSequenceBinding pr prepared.binding)
    (hcurrent : validateSequenceBinding pr current)
    (hlength : store.history.length ≤ maxArtifactScanFiles) (order : ListingOrder) :
    validateMarkerActionEvidence validate order current action (some ⟨current⟩)
        store = .ok none ↔
      ProvableAnswer prepared recorded planItem answer ∧
        (current.headSha = prepared.binding.headSha → StillCurrent store current record) := by
  have hrun := sameRun hcurrent hprepared
  rw [validateMarkerActionEvidence_iff h.commentFixed]
  constructor
  · rintro ⟨reference, hcarried, value, hread, hsuccess⟩
    obtain ⟨n, hn, hpos⟩ := h.planNumbered_of_carried hcarried
    rw [h.carriedReference_eq hpublished hn hpos] at hcarried
    obtain rfl := Except.ok.inj hcarried
    obtain ⟨other, hother, -, rfl⟩ := hledger.readMarkerActionEvidence_mem hcurrent hread
    have hnumber : other.content.u64? "artifact_sequence" =
        some record.sequence.artifactSequence := by
      unfold markerActionHasValidatorSuccess at hsuccess
      split at hsuccess
      · cases hsuccess
      · have hprovenance := (Bool.and_eq_true_iff.mp hsuccess).1
        unfold validatorProvenanceMatches at hprovenance
        dsimp only at hprovenance
        split at hprovenance
        · simp only [Bool.and_eq_true, beq_iff_eq] at hprovenance
          exact hprovenance.1.1.1.1.2
        · cases hprovenance
    obtain rfl := hledger.eq_of_number hpublished hfile hother hnumber
    refine ⟨(h.hasValidatorSuccess_iff hpublished hdocument hrun hn hpos).mp hsuccess, ?_⟩
    intro hhead
    unfold readMarkerActionEvidence at hread
    rw [if_pos (h.sourceHead.trans hhead.symm), hledger.readOptionalCurrentJsonForHead_document
      plainFamily_remediationResult hcurrent] at hread
    exact (hledger.stillCurrent_iff hpublished hfile).mpr (Except.ok.inj hread)
  · rintro ⟨hprovable, hstill⟩
    obtain ⟨n, hn, hpos⟩ := hprovable.planNumbered
    refine ⟨_, h.carriedReference_eq hpublished hn hpos, file.content, ?_,
      (h.hasValidatorSuccess_iff hpublished hdocument hrun hn hpos).mpr hprovable⟩
    unfold readMarkerActionEvidence
    by_cases hhead : action.sourceHeadSha = current.headSha
    · rw [if_pos hhead, hledger.readOptionalCurrentJsonForHead_document
        plainFamily_remediationResult hcurrent,
        (hledger.stillCurrent_iff hpublished hfile).mp (hstill (hhead.symm.trans h.sourceHead))]
    · rw [if_neg hhead]
      exact hledger.readHistoryEvidence_eq hlength plainFamily_remediationResult hcurrent order rfl
        hfile hfamily (DerivedAction.query_matches hpublished hdocument n)

end Gate

/-! ### Runs -/

section Runs

variable {validate : FamilyInvariants} {pr : PrFollowupBinding}
  {store : ArtifactStore}

theorem Ledger.run_document {family : String} (hplain : PlainFamily family)
    (h : Ledger validate pr store) {calls : List WriteCall}
    (hcalls : (artifactMachine validate).Along
      (fun _ call => WellFormed pr call.request) store calls)
    (hothers : ∀ call ∈ calls, call.request.artifactFamily ≠ family) (other : PrFollowupBinding) :
    ((artifactMachine validate).run store calls).document other family =
      store.document other family := by
  induction calls generalizing store with
  | nil => rfl
  | cons call rest ih =>
    obtain ⟨hrequest, hrest⟩ := hcalls
    rw [run_cons, ih (h.next hrequest) hrest fun later hlater =>
      hothers later (List.mem_cons_of_mem _ hlater)]
    rcases (h.write_document call.order hrequest call.publication).2 with
      ⟨-, hkept⟩ | ⟨-, -, -, -, -, hkept⟩
    · exact hkept other family
    · exact hkept other family hplain (hothers call (List.mem_cons_self ..))

/-- **A fixed action that was derived of a result that was accepted and published passes its
gate, in whatever state of the store and at whatever head of the pull request, exactly where its
answer is provable and the canonical result, if the pull request is still at the head of the
result, is still that result.  It is as long as no other result is published.  And the gate never
lets a fixed action pass that does not say what a successful item of a validated result of the run
says.** -/
theorem fixed_action_provable_iff (validate : FamilyInvariants)
    {pr : PrFollowupBinding} (empty : ArtifactStore) (before later : List WriteCall)
    (write : WriteCall) (hstart : (artifactMachine validate).start empty)
    (hcalls : (artifactMachine validate).Along
      (fun _ call => WellFormed pr call.request) empty (before ++ write :: later)) :
    let m := artifactMachine validate
    let final := m.run empty (before ++ write :: later)
    (∀ (prepared : PreparedRemediationValidation) (validation : RemediationResultValidation)
        (recorded : Option RetryState) (validatedAt : String) (record : ArtifactWriteRecord),
      let payload := prepared.payload validation recorded validatedAt
      prepared.validation = .ok validation → validation.outcome = .success →
      write.request.artifactFamily = remediationResultFamily →
      write.request.binding = prepared.binding → SameResult write.request.payload payload.toJson →
      m.answer (m.run empty before) write = .ok record →
      (∀ value ∈ fixedFeedbackActions prepared.binding prepared.plan payload record.sequence,
        ∃ answer ∈ payload.results, ∃ planItem,
          (planItemsByKey prepared.plan).lookup (itemKey answer) = some planItem ∧
          value = pendingMarkerAction prepared.binding
            (fixedFeedbackItem planItem answer payload record.sequence)
            (some payload.outputHeadSha) ∧
          ∀ action, pendingMarkerActionFromValue value = .ok action →
          ∀ order current ledger, validateSequenceBinding pr current = true →
            (validateHistoryLedger validate order current final).1 = .ok ledger →
            (validateMarkerActionEvidence validate order current action
                (some ledger) final = .ok none ↔
              ProvableAnswer prepared recorded planItem answer ∧
                (current.headSha = prepared.binding.headSha →
                  StillCurrent final current record))) ∧
      ((∀ call ∈ later, call.request.artifactFamily ≠ remediationResultFamily) →
        StillCurrent final prepared.binding record)) ∧
    ∀ order current action historyLedger, validateSequenceBinding pr current = true →
      action.actionKind = .commentFixed →
      validateMarkerActionEvidence validate order current action historyLedger
        final = .ok none →
      ∃ file ∈ final.history, file.family = remediationResultFamily ∧
        (∃ binding, bindingFromValue file.content = .ok binding ∧ binding.runId = current.runId) ∧
        file.content.text? "validation_state" = some "valid" ∧
        ∃ item ∈ arrayField file.content "results", item.text? "source_id" = some action.itemId ∧
          stringField item "status" "" ∈ successStatuses ∧
          item.text? "stable_marker_key" = some action.stableMarkerKey ∧
          item.text? "body_hash" = some action.bodyHash ∧
          item.text? "input_head_sha" = some action.sourceHeadSha := by
  intro m final
  have hkept : ∀ store call, WellFormed pr call.request →
      Ledger validate pr store →
        Ledger validate pr (m.next store call) :=
    fun _ _ hrequest h => h.next hrequest
  obtain ⟨hbefore, hwrite, hlater⟩ := along_append.mp hcalls
  have hempty : Ledger validate pr empty := ledger_of_empty hstart.1 hstart.2
  have hledger : Ledger validate pr final := hcalls.invariant hkept hempty
  have hstored : Ledger validate pr (m.run empty before) :=
    hbefore.invariant hkept hempty
  have hnext := hstored.next hwrite
  have hfinal : final = m.run (m.next (m.run empty before) write) later := by
    show m.run empty (before ++ write :: later) = _
    rw [run_append, run_cons]
  refine ⟨?_, ?_⟩
  · intro prepared validation recorded validatedAt record payload hvalidation hsuccess hfamily
      hbinding hsame hrecord
    have hpayload : SuccessPayload prepared recorded payload := successPayload hvalidation hsuccess
    obtain ⟨file, hfile, hpublished, hplace⟩ := hstored.write_published hwrite hrecord
    have hgrew : Grew (m.next (m.run empty before) write) final :=
      hfinal ▸ run_rel (grew_write validate) _ later
    have hfileFinal : file ∈ final.history := hgrew.history.subset hfile
    have hprepared : validateSequenceBinding pr prepared.binding = true :=
      hbinding ▸ hwrite.binding
    refine ⟨?_, ?_⟩
    · intro value hvalue
      obtain ⟨answer, hanswer, hfixed, planItem, hplan, hderived⟩ :=
        mem_fixedFeedbackActions hvalue
      refine ⟨answer, hanswer, planItem, hplan, hderived, ?_⟩
      intro action hparsed order current ledger hcurrent hvalidated
      obtain ⟨rfl, hlength⟩ := validateHistoryLedger_ok hvalidated
      have haction : DerivedAction prepared recorded payload record planItem answer action :=
        ⟨hpayload, hpayload.results ▸ hanswer, hfixed, hplan, hderived ▸ hparsed⟩
      exact haction.gate_iff hledger hpublished hfileFinal (hpublished.family.trans hfamily)
        (hpayload.document hpublished hsame) hprepared hcurrent hlength order
    · intro hothers
      rw [hledger.stillCurrent_iff hpublished hfileFinal, hfinal,
        hnext.run_document plainFamily_remediationResult hlater hothers, ← hbinding, ← hfamily]
      exact hplace
  · intro order current action historyLedger hcurrent hkind hpass
    obtain ⟨reference, -, value, hread, hproved⟩ :=
      (validateMarkerActionEvidence_iff hkind).mp hpass
    obtain ⟨file, hfile, hfamily, rfl⟩ := hledger.readMarkerActionEvidence_mem hcurrent hread
    obtain ⟨binding, hbinding, hpr⟩ := (hledger.snapshots file hfile).binding
    obtain ⟨hvalid, hitem⟩ := item_of_success hproved
    exact ⟨file, hfile, hfamily, ⟨binding, hbinding, (sameRun hpr hcurrent).1⟩, hvalid, hitem⟩

end Runs

/-! ### Two attempts, and the last of them -/

section

variable (attempt : UInt64)

/-- A launch of two, with the number of the attempt. -/
def launchedState : RetryState where
  scope := ⟨"run-1", "owner", "repo", 7, "abc", 1⟩
  budget := ⟨2, 2, 2⟩
  counters := ⟨attempt, 0, 0⟩
  transitionId := "t"
  launchTransitionId := "t"
  transitionType := "launch_completed"
  launchPhase := .completed
  launchOrdinal := attempt
  remediationStepOrderIndex := 9
  predecessorArtifactSequence := none
  historyChainReset := false
  validationSourceId := none
  launchResultPromoted := true
  ownerToken := "o"
  leaseExpiry := none
  invocationTimeoutSeconds := 60
  exhaustionReason := none

def threadToFix : Json :=
  .obj [("source_type", .str "coderabbit_feedback"), ("source_id", .str "c"),
    ("stable_marker_key", .str "comment:c"), ("body_hash", .str "hash-b"),
    ("input_head_sha", .str "abc")]

def threadFixed : Json :=
  .obj [("source_type", .str "coderabbit_feedback"), ("source_id", .str "c"),
    ("stable_marker_key", .str "comment:c"), ("body_hash", .str "hash-b"),
    ("input_head_sha", .str "abc"), ("output_head_sha", .str "def"), ("status", .str "fixed"),
    ("response_text", .str "done"), ("evidence", .obj [("current_head_sha", .str "def")])]

/-- The result of an attempt, with the retry state that is on record. -/
def attemptResult : PreparedRemediationValidation where
  binding := exampleBinding
  plan := .obj [("artifact_sequence", .num 1), ("must_fix", .arr [threadToFix])]
  result := projectRetryState (.obj [("run_id", .str "run-1"), ("repository_owner", .str "owner"),
    ("repository_name", .str "repo"), ("pr_number", .num 7), ("input_head_sha", .str "abc"),
    ("output_head_sha", .str "def"), ("plan_artifact_sequence", .num 1),
    ("results", .arr [threadFixed]),
    ("retry_scope", .obj [("run_id", .str "run-1"), ("repository_owner", .str "owner"),
      ("repository_name", .str "repo"), ("pr_number", .num 7), ("input_head_sha", .str "abc"),
      ("output_head_sha", .str "def"), ("plan_artifact_sequence", .num 1),
      ("scope_kind", .str "remediation_result_validation")])]) (launchedState attempt)
  params := .obj []
  validationSourceId := "v"
  retryState := some (launchedState attempt)
  advanceValidation := true

def attemptVerdict : RemediationResultValidation where
  outcome := .success
  state := .valid
  failureReason := ""
  errors := []
  unsuccessfulStatuses := []
  noChangeAfterRemediation := false
  validationRetryIndex := 0
  maxValidationRetries := 2
  remediationAttemptIndex := attempt.toNat
  maxRemediationAttempts := 2
  staleScope := none

def attemptPayload : RemediationResultValidationArtifact :=
  (attemptResult attempt).payload (attemptVerdict attempt) (some (launchedState attempt)) "now"

def resultWrite (binding : PrFollowupBinding) (payload : Json) : WriteCall :=
  exampleCall { exampleDocument remediationResultFamily [] with
    binding := binding
    payload := payload } .published

def pushedBinding : PrFollowupBinding := { exampleBinding with headSha := "def" }

def attemptAction : Json :=
  pendingMarkerAction exampleBinding
    (fixedFeedbackItem threadToFix threadFixed (attemptPayload attempt) ⟨1, 1, "step"⟩) (some "def")

/-- The store, after the result of an attempt and an empty result of the next head. -/
def attemptStore : ArtifactStore :=
  exampleStore [resultWrite exampleBinding (attemptPayload attempt).toJson,
    resultWrite pushedBinding (.obj [])]

/-- Whether the gate has something to say about the action after the push. -/
def attemptPass : Except String Bool := do
  let action ← pendingMarkerActionFromValue (attemptAction attempt)
  let ledger ← (validateHistoryLedger exampleInvariants ⟨id, fun files => List.Perm.refl files⟩
    pushedBinding (attemptStore attempt)).1
  let outcome ← validateMarkerActionEvidence exampleInvariants
    ⟨id, fun files => List.Perm.refl files⟩ pushedBinding action (some ledger)
    (attemptStore attempt)
  .ok outcome.isSome

end

/-- **The second of two attempts: it is validated and published, and nothing else; after the push
the gate has something to say about its action.** -/
theorem fixed_action_unprovable :
    (attemptResult 2).validation = .ok (attemptVerdict 2) ∧
    (attemptVerdict 2).outcome = .success ∧
    ((artifactMachine exampleInvariants).answer (exampleStore [])
      (resultWrite exampleBinding (attemptPayload 2).toJson)).toOption.map
        ArtifactWriteRecord.sequence = some ⟨1, 1, "step"⟩ ∧
    fixedFeedbackActions exampleBinding (attemptResult 2).plan (attemptPayload 2) ⟨1, 1, "step"⟩ =
      [attemptAction 2] ∧
    attemptPass 2 = .ok true := by
  decide +kernel

theorem resultWrite_wellFormed :
    WellFormed exampleBinding (resultWrite exampleBinding (attemptPayload 1).toJson).request ∧
    WellFormed exampleBinding (resultWrite pushedBinding (.obj [])).request := by
  have hfacts : (validateSequenceBinding exampleBinding exampleBinding = true ∧
      ((attemptPayload 1).toJson.get? "artifact_name").bind Json.asStr? = none ∧
      ((attemptPayload 1).toJson.get? "failure_sequence").bind Json.asU64? = none ∧
      (attemptPayload 1).toJson.depth < 128) ∧
      validateSequenceBinding exampleBinding pushedBinding = true := by
    decide +kernel
  obtain ⟨⟨hbinding, hunnamed, hsuccessful, hshallow⟩, hpushed⟩ := hfacts
  constructor
  · exact ⟨hbinding, by decide, hunnamed, fun _ => hsuccessful, hshallow, nofun⟩
  · exact ⟨hpushed, by decide, by decide, fun _ => by decide, by decide, nofun⟩

theorem attemptResult_facts :
    (attemptResult 1).validation = .ok (attemptVerdict 1) ∧
    fixedFeedbackActions exampleBinding (attemptResult 1).plan (attemptPayload 1) ⟨1, 1, "step"⟩ =
      [attemptAction 1] := by
  decide +kernel

theorem provableAnswer_first :
    ProvableAnswer (attemptResult 1) (some (launchedState 1)) threadToFix threadFixed where
  planNumbered := ⟨1, by decide +kernel, by decide⟩
  ownScope := .inl (by decide +kernel)
  scopeKind := by decide +kernel
  scopeOutput := by decide +kernel
  attemptsLeft := by
    show (1 : UInt64) < 2 ∧ (0 : UInt64) < 2 ∧ (0 : UInt64) < 2
    decide
  inputHead := by decide +kernel
  outputHead := by decide +kernel
  marker := by
    intro hnone
    cases hnone

theorem exists_ok {ε α : Type} {answer : Except ε α} (h : answer.toOption.isSome) :
    ∃ value, answer = .ok value := by
  cases answer with
  | error message => cases h
  | ok value => exact ⟨value, rfl⟩

/-- The first of two attempts, after the push and another result. -/
theorem fixed_action_provable_first :
    ∃ action ledger, pendingMarkerActionFromValue (attemptAction 1) = .ok action ∧
      (validateHistoryLedger exampleInvariants ⟨id, fun files => List.Perm.refl files⟩
        pushedBinding (attemptStore 1)).1 = .ok ledger ∧
      validateMarkerActionEvidence exampleInvariants ⟨id, fun files => List.Perm.refl files⟩
        pushedBinding action (some ledger) (attemptStore 1) = .ok none := by
  obtain ⟨action, haction⟩ : ∃ action,
      pendingMarkerActionFromValue (attemptAction 1) = .ok action :=
    exists_ok (by decide +kernel)
  obtain ⟨ledger, hledger⟩ : ∃ ledger,
      (validateHistoryLedger exampleInvariants ⟨id, fun files => List.Perm.refl files⟩
        pushedBinding (attemptStore 1)).1 = .ok ledger :=
    exists_ok (by decide +kernel)
  refine ⟨action, ledger, haction, hledger, ?_⟩
  obtain ⟨hresult, hpushed⟩ := resultWrite_wellFormed
  obtain ⟨hvalidation, hactions⟩ := attemptResult_facts
  have hrecord : ∃ record, (artifactMachine exampleInvariants).answer { root := "root" }
      (resultWrite exampleBinding (attemptPayload 1).toJson) = .ok record ∧
      record.sequence = ⟨1, 1, "step"⟩ := by
    have hfacts : ((artifactMachine exampleInvariants).answer { root := "root" }
        (resultWrite exampleBinding (attemptPayload 1).toJson)).toOption.map
          ArtifactWriteRecord.sequence = some ⟨1, 1, "step"⟩ := by
      decide +kernel
    cases hanswer : (artifactMachine exampleInvariants).answer { root := "root" }
        (resultWrite exampleBinding (attemptPayload 1).toJson) with
    | error message =>
      rw [hanswer] at hfacts
      cases hfacts
    | ok record =>
      rw [hanswer] at hfacts
      exact ⟨record, rfl, Option.some.inj hfacts⟩
  obtain ⟨record, hrecord, hsequence⟩ := hrecord
  have hgates := (fixed_action_provable_iff exampleInvariants
    { root := "root" } [] [resultWrite pushedBinding (.obj [])]
    (resultWrite exampleBinding (attemptPayload 1).toJson) ⟨rfl, rfl⟩
    ⟨hresult, hpushed, trivial⟩).1 (attemptResult 1) (attemptVerdict 1)
    (some (launchedState 1)) "now" record hvalidation rfl rfl rfl (fun _ _ => rfl) hrecord
  obtain ⟨answer, hanswer, planItem, hplan, -, hgate⟩ := hgates.1 (attemptAction 1) (by
    rw [hsequence]
    exact hactions ▸ List.mem_singleton_self _)
  obtain ⟨hbinding, hanswers, hitem⟩ : validateSequenceBinding exampleBinding pushedBinding = true ∧
      (attemptPayload 1).results = [threadFixed] ∧
      (planItemsByKey (attemptResult 1).plan).lookup (itemKey threadFixed) = some threadToFix := by
    decide +kernel
  obtain rfl := List.mem_singleton.mp (hanswers ▸ hanswer)
  obtain rfl := Option.some.inj (hitem.symm.trans hplan)
  refine (hgate action haction _ pushedBinding ledger hbinding hledger).mpr
    ⟨provableAnswer_first, ?_⟩
  intro hhead
  exact absurd hhead (by decide)

end Luther
