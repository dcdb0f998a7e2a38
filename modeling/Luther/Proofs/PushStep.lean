/-
What one execution of the push comes to.

An execution ends in one of three ways.  It leaves the record of the last one as it is; or it
stops at a gate or at the inspection, and its artifact is then about no head that it has seen;
or it decides, and the artifact is about the head that was there or the one that it has
committed, with the index that follows the record before.
-/
import Luther.Proofs.PushArtifact
import Mathlib.Data.List.Dedup

namespace Luther

open Effect

/-! ### The setup -/

section Setup

variable {validate : FamilyInvariants} {step : PushStep} {setup : PushRunSetup}
  {world : PushWorld} {store : ArtifactStore}

theorem planFamily_plain : PlainFamily planFamily := by decide +kernel

theorem resultFamily_plain : PlainFamily resultFamily := by decide +kernel

theorem testFamily_plain : PlainFamily testFamily := by decide +kernel

/-- A world in which the plan and the result can be read. -/
structure PushReady (validate : FamilyInvariants) (step : PushStep)
    (setup : PushRunSetup) (store : ArtifactStore) : Prop where
  binding : validateSequenceBinding step.binding step.binding = true
  ledger : Ledger validate step.binding store
  loaded : loadPushRunSetup validate step store = .ok setup

section

variable (h : PushReady validate step setup store)

include h

theorem PushReady.documents :
    store.document step.binding planFamily = some setup.plan ∧
      store.document step.binding resultFamily = some setup.result := by
  obtain ⟨plan, hplan, hrest⟩ := Sql.bind_ok.mp h.loaded
  obtain ⟨result, hresult, hrest⟩ := Sql.bind_ok.mp hrest
  obtain ⟨retries, -, hrest⟩ := Sql.bind_ok.mp hrest
  obtain ⟨timeout, -, hrest⟩ := Sql.bind_ok.mp hrest
  obtain rfl := Except.ok.inj hrest
  exact ⟨(h.ledger.readCurrentJson_iff planFamily_plain h.binding).mp hplan,
    (h.ledger.readCurrentJson_iff resultFamily_plain h.binding).mp hresult⟩

/-- **The setup is the same as long as the plan and the result are.** -/
theorem PushReady.congr {next : ArtifactStore} (hnext : Ledger validate step.binding next)
    (hplan : next.document step.binding planFamily = store.document step.binding planFamily)
    (hresult : next.document step.binding resultFamily =
      store.document step.binding resultFamily) :
    PushReady validate step setup next := by
  refine ⟨h.binding, hnext, ?_⟩
  obtain ⟨hplanRead, hresultRead⟩ := h.documents
  have hloaded := h.loaded
  unfold loadPushRunSetup at hloaded ⊢
  rw [(h.ledger.readCurrentJson_iff planFamily_plain h.binding).mpr hplanRead,
    (h.ledger.readCurrentJson_iff resultFamily_plain h.binding).mpr hresultRead] at hloaded
  rw [(hnext.readCurrentJson_iff planFamily_plain h.binding).mpr (hplan.trans hplanRead),
    (hnext.readCurrentJson_iff resultFamily_plain h.binding).mpr (hresult.trans hresultRead)]
  exact hloaded

theorem PushReady.sourced {family : String} (hplain : PlainFamily family) {value : Json}
    (hvalue : store.document step.binding family = some value) :
    Sourced value ∧ value.get? "artifact_sequence" = some (artifactSequenceOf value) := by
  obtain ⟨snapshot, hmem, -, rfl⟩ := h.ledger.document_mem hplain hvalue
  have hchecked := h.ledger.snapshots snapshot hmem
  refine ⟨hchecked.sourced, ?_⟩
  unfold artifactSequenceOf
  rw [get?_of_requireU64 hchecked.artifact]
  rfl

theorem PushReady.numbered : NumberedSetup setup where
  plan := (h.sourced planFamily_plain h.documents.1).2
  result := (h.sourced resultFamily_plain h.documents.2).2

theorem PushReady.sources {testResult : Json} (htest : Sourced testResult) :
    PushSources setup testResult where
  plan := (h.sourced planFamily_plain h.documents.1).1
  result := (h.sourced resultFamily_plain h.documents.2).1
  test := htest

theorem PushReady.write_other {call : WriteCall} (hrequest : WellFormed step.binding call.request)
    (hfamily : call.request.artifactFamily ∉ [planFamily, resultFamily, pushFamily]) :
    let next := (writeJsonArtifactLocked validate call.order call.request
      call.publication store).2
    PushReady validate step setup next ∧
      next.pushRecord step setup = store.pushRecord step setup := by
  intro next
  obtain ⟨hledger, hwritten⟩ := h.ledger.write_document call.order hrequest call.publication
  have hdocument : ∀ family, PlainFamily family → call.request.artifactFamily ≠ family →
      next.document step.binding family = store.document step.binding family := by
    intro family hplain hne
    rcases hwritten with ⟨-, hsame⟩ | ⟨record, value, -, -, -, hother⟩
    · exact hsame _ _
    · exact hother _ _ hplain hne
  simp only [List.mem_cons, List.not_mem_nil, or_false, not_or] at hfamily
  refine ⟨h.congr hledger (hdocument _ planFamily_plain hfamily.1)
    (hdocument _ resultFamily_plain hfamily.2.1), ?_⟩
  unfold ArtifactStore.pushRecord
  rw [hdocument _ pushFamily_plain hfamily.2.2]

end

end Setup

/-! ### The repository -/

section

variable (repository : Repository)

def Repository.includedPaths : List String :=
  (sortedPaths repository.changedPaths).filter fun path => !pushPathIsExcluded path

/-- What the commands of an execution may have made of the repository. -/
structure Moved (before after : Repository) : Prop where
  head : (after.localHead = before.localHead ∧ after.changedPaths = before.changedPaths) ∨
    (before.includedPaths ≠ [] ∧ after.localHead = before.localHead + 1 ∧
      after.includedPaths = [])
  remote : after.remoteHead = before.remoteHead ∨
    (after.remoteHead = after.localHead ∧ after.includedPaths = [])

theorem mem_sortedPaths {path : String} {paths : List String} :
    path ∈ sortedPaths paths ↔ path ∈ paths := by
  unfold sortedPaths
  rw [List.mem_dedup]
  exact (List.perm_insertionSort _ _).mem_iff

theorem mem_includedPaths {path : String} {repository : Repository} :
    path ∈ repository.includedPaths ↔
      path ∈ repository.changedPaths ∧ pushPathIsExcluded path = false := by
  unfold Repository.includedPaths
  rw [List.mem_filter, mem_sortedPaths, Bool.not_eq_true']

theorem includedPaths_after_commit (message : String) :
    (repository.after (.commit message repository.includedPaths)).includedPaths = [] := by
  refine List.eq_nil_iff_forall_not_mem.mpr fun path hpath => ?_
  obtain ⟨hchanged, hincluded⟩ := mem_includedPaths.mp hpath
  obtain ⟨hmem, hleft⟩ := List.mem_filter.mp hchanged
  have hincludedBefore : path ∈ repository.includedPaths := mem_includedPaths.mpr ⟨hmem, hincluded⟩
  simp [hincludedBefore] at hleft

theorem Moved.refl : Moved repository repository :=
  ⟨Or.inl ⟨rfl, rfl⟩, Or.inl rfl⟩

end

theorem Moved.local_le {before after : Repository} (h : Moved before after) :
    before.localHead ≤ after.localHead := by
  rcases h.head with ⟨hsame, -⟩ | ⟨-, hmore, -⟩
  · exact hsame.ge
  · omega

/-! ### Commands -/

def PushWorld.ran (command : GitCommand) (repository : Repository) (world : PushWorld) :
    PushWorld :=
  { world with repository := repository, commands := world.commands ++ [command] }

section Commands

variable {step : PushStep} {world : PushWorld} {command : GitCommand} {report : CommandReport}

/-- **A command does its work or not, and is reported to have passed only if it did.** -/
theorem pushRunnerCommand_meets
    {post : Except String PushRemediationCommandResult → PushWorld → Prop}
    (hpassed : report.fate = .passed → ∀ result, result.status = "passed" →
      result.boundedStdout = printedHead step world.repository report command →
      post (.ok result) (world.ran command (world.repository.after command)))
    (hfailed : ∀ repository,
      repository = world.repository ∨ repository = world.repository.after command →
      (∃ took fatal, report.fate = .failed took fatal) →
      ∀ result, result.status ≠ "passed" → post (.ok result) (world.ran command repository))
    (hgone : ∀ repository,
      repository = world.repository ∨ repository = world.repository.after command →
      (∃ took, report.fate = .gone took) →
      ∀ error, post (.error error) (world.ran command repository)) :
    (pushRunnerCommand step command report).Meets world post := by
  have hrepository : ∀ took : Bool,
      (if took then world.repository.after command else world.repository) = world.repository ∨
        (if took then world.repository.after command else world.repository) =
          world.repository.after command := by
    intro took
    cases took with
    | false => exact Or.inl rfl
    | true => exact Or.inr rfl
  unfold pushRunnerCommand Meets
  rw [ends_of]
  cases hfate : report.fate with
  | passed => exact hpassed hfate _ rfl rfl
  | failed took fatal =>
    refine hfailed _ (hrepository took) ⟨took, fatal, hfate⟩ _ ?_
    cases fatal <;> simp [CommandFate.status]
  | gone took => exact hgone _ (hrepository took) ⟨took, hfate⟩ _

theorem depth_command (result : PushRemediationCommandResult) :
    Shallow [pushCommandResultJson result] := by
  intro c hc
  rw [List.mem_singleton.mp hc]
  exact depth_pushCommandResultJson result

variable {head : String}
  {post : Except String (Except String String × List Json) → PushWorld → Prop}

/-- What is to hold however the reading of a head ends. -/
structure HeadRead (world : PushWorld) (report : CommandReport) (command : GitCommand)
    (head : String) (post : Except String (Except String String × List Json) → PushWorld → Prop) :
    Prop where
  passed : report.fate = .passed → ∀ observed, Shallow observed →
    post (.ok (.ok head, observed)) (world.ran command world.repository)
  failed : (∃ took fatal, report.fate = .failed took fatal) → ∀ reason observed,
    Shallow observed → post (.ok (.error reason, observed)) (world.ran command world.repository)
  gone : (∃ took, report.fate = .gone took) → ∀ error,
    post (.error error) (world.ran command world.repository)

theorem headSha_meets (hread : ∀ repository : Repository, repository.after command = repository)
    (hprinted : printedHead step world.repository report command = head) (hnamed : head ≠ "")
    (h : HeadRead world report command head post) (reason : String) :
    (headSha step command report reason).Meets world post := by
  have hsame : ∀ repository,
      repository = world.repository ∨ repository = world.repository.after command →
        repository = world.repository := by
    intro repository h
    rcases h with h | h
    · exact h
    · rw [h, hread]
  refine meets_bind (pushRunnerCommand_meets ?_ ?_ ?_)
  · intro hfate result hstatus hstdout
    rw [hread]
    refine meets_ite (fun _ => ?_) fun hnot => absurd ⟨hstatus, ?_⟩ hnot
    · rw [hstdout, hprinted]
      exact h.passed hfate _ (depth_command result)
    · rw [hstdout, hprinted]
      exact hnamed
  · intro repository hrepository hfate result hstatus
    rw [hsame repository hrepository]
    refine meets_ite (fun hpassed => absurd hpassed.1 hstatus) fun _ => ?_
    exact h.failed hfate _ _ (depth_command result)
  · intro repository hrepository hfate error
    rw [hsame repository hrepository]
    exact h.gone hfate error

theorem remoteHeadSha_meets (h : HeadRead world report (.remoteHead step.remoteName step.remoteRef)
      (step.names.name world.repository.remoteHead) post) :
    (remoteHeadSha step report).Meets world post :=
  headSha_meets (fun _ => rfl) (by rfl) (step.names.named _) h _

theorem localHeadSha_meets
    (h : HeadRead world report .localHead (step.names.name world.repository.localHead) post) :
    (localHeadSha step report).Meets world post :=
  headSha_meets (fun _ => rfl) (by rfl) (step.names.named _) h _

end Commands

/-! ### The end of an execution -/

/-- The states of an artifact that says that there was nothing to push. -/
def noChangeStates : List String := ["no_change", "no_change_excluded_only"]

section

variable (validate : FamilyInvariants)

def pushGatesPass (step : PushStep) (setup : PushRunSetup) (store : ArtifactStore) : Bool :=
  match readCurrentJson validate step.binding testFamily store with
  | .error _ => false
  | .ok testResult =>
    (validatePushLocalVerificationResult step.binding setup.plan setup.result
      testResult).isEmpty && mustFixSuccessEvidenceIsAcceptable setup.plan setup.result

/-- Whether one of the commands of an inspection is reported to have failed. -/
def PushRun.inspectionFails (run : PushRun) : Bool :=
  match run.localHead.fate with
  | .failed _ _ => true
  | .gone _ => false
  | .passed =>
    match run.remoteHead.fate with
    | .failed _ _ => true
    | .gone _ => false
    | .passed =>
      match run.status.fate with
      | .failed _ _ => true
      | .gone _ | .passed => false

def PushRun.inspectionPasses (run : PushRun) : Bool :=
  run.localHead.fate == .passed && run.remoteHead.fate == .passed && run.status.fate == .passed

/-- Whether an execution stops at a gate, or at the inspection. -/
def stopsEarly (step : PushStep)
    (setup : PushRunSetup) (world : PushWorld) (run : PushRun) : Bool :=
  run.barrier == .allow &&
    (!pushGatesPass validate step setup world.store || run.inspectionFails)

/-- Whether an execution comes to know the worktree. -/
def looksAtWorktree (step : PushStep)
    (setup : PushRunSetup) (world : PushWorld) (run : PushRun) : Bool :=
  run.barrier == .allow && pushGatesPass validate step setup world.store
    && run.inspectionPasses

/-- Whether an execution comes to know that nothing is to be included. -/
def reachesCleanWorktree (step : PushStep)
    (setup : PushRunSetup) (world : PushWorld) (run : PushRun) : Bool :=
  looksAtWorktree validate step setup world run
    && world.repository.includedPaths.isEmpty

end

/-- What an execution that has looked at the worktree comes to: a record of the `n`-th head. -/
structure Decided (validate : FamilyInvariants) (step : PushStep)
    (setup : PushRunSetup) (before : PushWorld) (run : PushRun) (after : PushWorld) (n : Nat)
    (record : PushRecord) (outcome : StepOutcome) : Prop where
  looked : looksAtWorktree validate step setup before run = true
  recorded : after.store.pushRecord step setup = some record
  head : record.head = step.names.name n
  inspected : record.inspected = true
  lower : before.repository.localHead ≤ n
  upper : n ≤ after.repository.localHead
  index : record.index = nextIndex (before.store.pushRecord step setup) record.head
  retryable : outcome = .retryable → record.index < setup.maxPushRetries
  success : outcome = .success → after.repository.remoteHead = after.repository.localHead ∧
    n = after.repository.localHead ∧
    after.commands.getLast? = some (.remoteHead step.remoteName step.remoteRef)
  unchanged : outcome = .fixable ∨ record.state ∈ noChangeStates →
    before.repository.remoteHead = before.repository.localHead ∧
      before.repository.includedPaths = []
  clean : before.repository.includedPaths = [] →
    before.repository.remoteHead = before.repository.localHead → outcome = .fixable

/-- The ways in which an execution ends. -/
inductive PushOutcome (validate : FamilyInvariants) (step : PushStep)
    (setup : PushRunSetup) (before : PushWorld) (run : PushRun) (after : PushWorld) :
    Except String StepOutcome → Prop
  /-- The artifact is the one of the execution before. -/
  | unrecorded (answer : Except String StepOutcome)
      (same : after.store.pushRecord step setup = before.store.pushRecord step setup)
      (barred : ∀ outcome, answer = .ok outcome → outcome = .wait ∨ outcome = .fatal) :
      PushOutcome validate step setup before run after answer
  /-- It has stopped before it has looked at the worktree. -/
  | stopped (head : String)
      (stops : stopsEarly validate step setup before run = true)
      (recorded : after.store.pushRecord step setup = some ⟨head, 0, false, "fatal"⟩) :
      PushOutcome validate step setup before run after (.ok .fatal)
  | decided (n : Nat) (record : PushRecord) (outcome : StepOutcome)
      (h : Decided validate step setup before run after n record outcome) :
      PushOutcome validate step setup before run after (.ok outcome)

/-- What an execution has come to. -/
structure PushEnd (validate : FamilyInvariants) (step : PushStep)
    (setup : PushRunSetup) (before : PushWorld) (run : PushRun)
    (answer : Except String StepOutcome) (after : PushWorld) : Prop where
  ready : PushReady validate step setup after.store
  history : before.store.history ⊆ after.store.history
  /-- No document is written but the push's own. -/
  kept : ∀ other family, PlainFamily family → family ≠ pushFamily →
    after.store.document other family = before.store.document other family
  moved : Moved before.repository after.repository
  outcome : PushOutcome validate step setup before run after answer

/-! ### Writing the artifact -/

section Writing

variable {validate : FamilyInvariants} {step : PushStep} {run : PushRun}
  {setup : PushRunSetup} {testResult : Json} {before world : PushWorld} {commands : List Json}
  {inspection : PushInspection} {n retryIndex : Nat}

/-- What the writers of an execution write with. -/
structure PushTools (validate : FamilyInvariants) (step : PushStep)
    (setup : PushRunSetup) (testResult : Json) (before : PushWorld) : Prop where
  ready : PushReady validate step setup before.store
  sources : PushSources setup testResult

/-- **An artifact is written, and is the record then; or the execution has no answer.** -/
theorem writePushResult_meets
    (htools : PushTools validate step setup testResult before)
    (hstore : world.store = before.store) (hmoved : Moved before.repository world.repository)
    {payload : PushPayload} {failure : Option ArtifactFailure} {outcome : StepOutcome}
    (hcommands : Shallow payload.commands)
    (hdetails : ∀ f ∈ failure, f.details.depth ≤ 2) (hsmall : payload.retryIndex < 2 ^ 64)
    (hend : ∀ after : PushWorld, after.repository = world.repository →
      after.commands = world.commands →
      after.store.pushRecord step setup = some payload.record →
      PushOutcome validate step setup before run after (.ok outcome)) :
    (writePushResult validate step run setup testResult payload failure
      outcome).Meets world (PushEnd validate step setup before run) := by
  have hready := htools.ready
  have hrequest : WellFormed step.binding
      (pushRequest step run setup testResult payload failure) :=
    pushRequest_wellFormed hready.binding htools.sources hcommands hdetails
  obtain ⟨hledger, hwritten⟩ :=
    hready.ledger.write_document run.order hrequest run.publication
  have hgrew : before.store.history ⊆ (writeJsonArtifactLocked validate run.order
      (pushRequest step run setup testResult payload failure) run.publication
      before.store).2.history :=
    (grew_write validate before.store
      ⟨run.order, pushRequest step run setup testResult payload failure,
        run.publication⟩).history.subset
  unfold writePushResult Meets
  rw [ends_of, hstore]
  generalize writeJsonArtifactLocked validate run.order
    (pushRequest step run setup testResult payload failure) run.publication before.store =
      result at hledger hwritten hgrew
  obtain ⟨written, store⟩ := result
  rcases hwritten with ⟨herror, hsame⟩ | ⟨record, value, hok, hvalue, hdocument, hother⟩
  · refine ⟨hready.congr hledger (hsame _ _) (hsame _ _), hgrew,
      fun other family _ _ => hsame other family, hmoved, .unrecorded _ ?_ ?_⟩
    · show store.pushRecord step setup = _
      unfold ArtifactStore.pushRecord
      rw [hsame]
    · intro outcome houtcome
      cases written with
      | error error => simp [Except.map] at houtcome
      | ok written => simp [Except.isOk, Except.toBool] at herror
  · have hrecord : store.pushRecord step setup = some payload.record :=
      (congrArg (·.bind (pushRecordOf step setup)) hdocument).trans
        (pushRecordOf_envelope hready.numbered hvalue hsmall)
    obtain rfl : written = .ok record := hok
    exact ⟨hready.congr hledger (hother _ _ planFamily_plain (by decide : pushFamily ≠ planFamily))
      (hother _ _ resultFamily_plain (by decide : pushFamily ≠ resultFamily)), hgrew,
      fun other family hplain hne => hother other family hplain (Ne.symm hne), hmoved,
      hend _ rfl rfl hrecord⟩

/-- An execution that pushes the `n`-th head, with its index. -/
structure Pushing (validate : FamilyInvariants) (step : PushStep)
    (setup : PushRunSetup) (before : PushWorld) (run : PushRun) (world : PushWorld)
    (n retryIndex : Nat) : Prop where
  looked : looksAtWorktree validate step setup before run = true
  store : world.store = before.store
  moved : Moved before.repository world.repository
  lower : before.repository.localHead ≤ n
  upper : n ≤ world.repository.localHead
  index : retryIndex = nextIndex (before.store.pushRecord step setup) (step.names.name n)
  small : retryIndex < 2 ^ 64
  busy : before.repository.includedPaths = [] →
    before.repository.remoteHead ≠ before.repository.localHead

theorem writeRetryablePushFailure_meets
    (htools : PushTools validate step setup testResult before)
    (h : Pushing validate step setup before run world n retryIndex)
    (hlocal : inspection.prePushLocalHeadSha = step.names.name n)
    (hremote : inspection.prePushRemoteHeadSha ≠ "unknown")
    (hcommands : Shallow commands) (reason : String) :
    (writeRetryablePushFailure validate step run setup testResult retryIndex reason
      commands inspection).Meets world (PushEnd validate step setup before run) := by
  unfold writeRetryablePushFailure
  refine writePushResult_meets htools h.store h.moved hcommands ?_ h.small
    fun after hrepository _ hrecorded => .decided n _ _
      { looked := h.looked
        recorded := hrecorded
        head := hlocal
        inspected := by simpa [PushPayload.record] using hremote
        lower := h.lower
        upper := hrepository ▸ h.upper
        index := h.index.trans (congrArg (nextIndex _) hlocal.symm)
        retryable := ?_
        success := ?_
        unchanged := ?_
        clean := fun hclean hsame => absurd hsame (h.busy hclean) }
  · intro f hf
    obtain rfl := Option.some.inj hf
    simp [retryDetails, Json.depth, Json.depthEntries]
  · by_cases hexhausted : setup.maxPushRetries ≤ retryIndex
    · simp [hexhausted]
    · exact fun _ => Nat.lt_of_not_le hexhausted
  · by_cases hexhausted : setup.maxPushRetries ≤ retryIndex <;> simp [hexhausted]
  · by_cases hexhausted : setup.maxPushRetries ≤ retryIndex <;>
      simp [hexhausted, PushPayload.record, noChangeStates]

theorem writeVerifiedPushResult_meets
    (htools : PushTools validate step setup testResult before)
    (h : Pushing validate step setup before run world n retryIndex)
    (hn : n = world.repository.localHead)
    (hremote : inspection.prePushRemoteHeadSha ≠ "unknown")
    (hcommands : Shallow commands)
    (hlast : world.commands.getLast? = some (.remoteHead step.remoteName step.remoteRef))
    {pushedState : String} (hstate : pushedState ∉ noChangeStates) (stagedPaths : List String)
    (commitMessage : Option String) :
    (writeVerifiedPushResult validate step run setup testResult pushedState
      retryIndex commands inspection stagedPaths commitMessage (step.names.name n)
      (step.names.name world.repository.remoteHead)).Meets world
        (PushEnd validate step setup before run) := by
  unfold writeVerifiedPushResult
  refine writePushResult_meets htools h.store h.moved hcommands ?_ h.small
    fun after hrepository hafter hrecorded => .decided n _ _
      { looked := h.looked
        recorded := hrecorded
        head := rfl
        inspected := by simpa [PushPayload.record] using hremote
        lower := h.lower
        upper := hrepository ▸ h.upper
        index := h.index
        retryable := ?_
        success := ?_
        unchanged := ?_
        clean := fun hclean hsame => absurd hsame (h.busy hclean) }
  · intro f hf
    by_cases hverified : step.names.name world.repository.remoteHead = step.names.name n
    · simp [hverified] at hf
    · simp only [beq_iff_eq, if_neg hverified, Option.mem_def, Option.some.injEq] at hf
      rw [← hf]
      simp [mismatchDetails, Json.depth, Json.depthEntries]
  · unfold pushOutcomeForVerification
    by_cases hverified : step.names.name world.repository.remoteHead = step.names.name n
    · simp [hverified]
    · by_cases hexhausted : setup.maxPushRetries ≤ retryIndex
      · simp [hverified, hexhausted]
      · exact fun _ => Nat.lt_of_not_le hexhausted
  · unfold pushOutcomeForVerification
    by_cases hverified : step.names.name world.repository.remoteHead = step.names.name n
    · intro _
      rw [hrepository, hafter, ← hn]
      exact ⟨step.names.injective hverified, rfl, hlast⟩
    · by_cases hexhausted : setup.maxPushRetries ≤ retryIndex <;> simp [hverified, hexhausted]
  · unfold pushOutcomeForVerification
    by_cases hverified : step.names.name world.repository.remoteHead = step.names.name n
    · rintro (hfixable | hunchanged)
      · simp [hverified] at hfixable
      · simp only [PushPayload.record, hverified, beq_self_eq_true, if_true] at hunchanged
        exact absurd hunchanged hstate
    · by_cases hexhausted : setup.maxPushRetries ≤ retryIndex <;>
        simp [hverified, hexhausted, PushPayload.record, noChangeStates]

theorem Pushing.ran
    (h : Pushing validate step setup before run world n retryIndex)
    (command : GitCommand)
    {repository : Repository} (hmoved : Moved before.repository repository)
    (hupper : n ≤ repository.localHead) :
    Pushing validate step setup before run (world.ran command repository) n
      retryIndex :=
  { h with moved := hmoved, upper := hupper }

theorem pushEnd_error (hready : PushReady validate step setup before.store)
    (hstore : world.store = before.store) (hmoved : Moved before.repository world.repository)
    (error : String) :
    PushEnd validate step setup before run (.error error) world where
  ready := hstore ▸ hready
  history := fun file hfile => hstore ▸ hfile
  kept := fun other family _ _ => by rw [hstore]
  moved := hmoved
  outcome := .unrecorded _ (by rw [hstore]) fun outcome houtcome => by simp at houtcome

theorem depth_append {left right : List Json} (hleft : Shallow left) (hright : Shallow right) :
    Shallow (left ++ right) := by
  intro c hc
  rcases List.mem_append.mp hc with hc | hc
  · exact hleft c hc
  · exact hright c hc

theorem depth_append_command {left : List Json} (hleft : Shallow left)
    (result : PushRemediationCommandResult) :
    Shallow (left ++ [pushCommandResultJson result]) :=
  depth_append hleft (depth_command result)

/-- **Pushing a head, and looking at the remote branch again.** -/
theorem pushHead_meets
    (htools : PushTools validate step setup testResult before)
    (h : Pushing validate step setup before run world n retryIndex)
    (hn : n = world.repository.localHead)
    (hclean : world.repository.includedPaths = [])
    (hremote : inspection.prePushRemoteHeadSha ≠ "unknown")
    (hcommands : Shallow commands) {pushedState : String}
    (hstate : pushedState ∉ noChangeStates) (stagedPaths : List String)
    (commitMessage : Option String) :
    (pushHead validate step run setup testResult pushedState retryIndex commands
      inspection stagedPaths commitMessage (step.names.name n)).Meets world
        (PushEnd validate step setup before run) := by
  have hpush : ∀ repository, repository = world.repository ∨
      repository = world.repository.after (.push step.remoteName step.remoteRef) →
      repository.localHead = world.repository.localHead ∧
        Moved before.repository repository := by
    rintro repository (rfl | rfl)
    · exact ⟨rfl, h.moved⟩
    · exact ⟨rfl, h.moved.head, Or.inr ⟨rfl, hclean⟩⟩
  have hretried : (inspection.withRetryHead (step.names.name n)).prePushLocalHeadSha =
      step.names.name n := rfl
  unfold pushHead
  refine meets_bind (pushRunnerCommand_meets ?_ ?_ ?_)
  · intro _ push hpassed _
    generalize hrepository : world.repository.after (.push step.remoteName step.remoteRef) =
      repository
    obtain ⟨hlocal, hmoved⟩ := hpush repository (Or.inr hrepository.symm)
    have hpushing := h.ran (.push step.remoteName step.remoteRef) hmoved (hlocal ▸ h.upper)
    have hobserved := depth_append_command hcommands push
    have hpushed : n = (world.ran (.push step.remoteName step.remoteRef)
        repository).repository.localHead := hn.trans hlocal.symm
    generalize world.ran (.push step.remoteName step.remoteRef) repository = pushed at *
    have hlooked := hpushing.ran (.remoteHead step.remoteName step.remoteRef) hpushing.moved
      hpushing.upper
    refine meets_ite (fun _ => meets_bind (remoteHeadSha_meets ⟨?_, ?_, ?_⟩)) fun hnot =>
      absurd hpassed hnot
    · intro _ observed hdepth
      refine writeVerifiedPushResult_meets htools hlooked hpushed hremote
        (depth_append hobserved hdepth) ?_ hstate stagedPaths commitMessage
      unfold PushWorld.ran
      simp
    · intro _ reason observed hdepth
      exact writeRetryablePushFailure_meets htools hlooked hretried hremote
        (depth_append hobserved hdepth) reason
    · intro _ error
      exact pushEnd_error htools.ready hlooked.store hlooked.moved error
  · intro repository hrepository _ push hnot
    obtain ⟨hlocal, hmoved⟩ := hpush repository hrepository
    refine meets_ite (fun hpassed => absurd hpassed hnot) fun _ => ?_
    exact writeRetryablePushFailure_meets htools (h.ran _ hmoved (hlocal ▸ h.upper)) hretried
      hremote (depth_append_command hcommands push) _
  · intro repository hrepository _ error
    obtain ⟨hlocal, hmoved⟩ := hpush repository hrepository
    have hran := h.ran (.push step.remoteName step.remoteRef) hmoved (hlocal ▸ h.upper)
    exact pushEnd_error htools.ready hran.store hran.moved error

/-- What an inspection has found is so. -/
structure Inspected (validate : FamilyInvariants) (step : PushStep)
    (setup : PushRunSetup) (before : PushWorld) (run : PushRun) (world : PushWorld)
    (inspection : PushInspection) : Prop where
  looked : looksAtWorktree validate step setup before run = true
  store : world.store = before.store
  repository : world.repository = before.repository
  localHead : inspection.prePushLocalHeadSha = step.names.name before.repository.localHead
  remoteHead : inspection.prePushRemoteHeadSha = step.names.name before.repository.remoteHead
  included : inspection.includedPaths = before.repository.includedPaths

theorem Inspected.known
    (h : Inspected validate step setup before run world inspection) :
    inspection.prePushRemoteHeadSha ≠ "unknown" := by
  rw [h.remoteHead]
  exact step.names.known _

theorem Inspected.pushing
    (h : Inspected validate step setup before run world inspection)
    (hindex : retryIndex = nextIndex (before.store.pushRecord step setup)
      inspection.prePushLocalHeadSha ∧ retryIndex < 2 ^ 64)
    (hbusy : before.repository.includedPaths = [] →
      before.repository.remoteHead ≠ before.repository.localHead) :
    Pushing validate step setup before run world before.repository.localHead
      retryIndex where
  looked := h.looked
  store := h.store
  moved := h.repository ▸ Moved.refl _
  lower := Nat.le_refl _
  upper := h.repository ▸ Nat.le_refl _
  index := h.localHead ▸ hindex.1
  small := hindex.2
  busy := hbusy

section

variable (htools : PushTools validate step setup testResult before)

include htools

section

variable (h : Inspected validate step setup before run world inspection)

include h

theorem handleNoIncludedPushPaths_meets
    (hindex : retryIndex = nextIndex (before.store.pushRecord step setup)
      inspection.prePushLocalHeadSha ∧ retryIndex < 2 ^ 64)
    (hclean : before.repository.includedPaths = [])
    (hcommands : Shallow commands) :
    (handleNoIncludedPushPaths validate step run setup testResult commands
      inspection retryIndex).Meets world
        (PushEnd validate step setup before run) := by
  unfold handleNoIncludedPushPaths
  refine meets_ite (fun hdiffer => ?_) fun hsame => ?_
  · rw [h.localHead, h.remoteHead] at hdiffer
    have hpushing : Pushing validate step setup before run world
        before.repository.localHead retryIndex :=
      h.pushing hindex fun _ hsame => hdiffer (by rw [hsame])
    rw [h.localHead]
    exact pushHead_meets htools hpushing (by rw [h.repository]) (by rw [h.repository, hclean])
      h.known hcommands (by decide) [] none
  · have hequal := not_not.mp hsame
    have hheads : before.repository.remoteHead = before.repository.localHead := by
      rw [h.localHead, h.remoteHead] at hequal
      exact step.names.injective hequal
    have hverified : (inspection.prePushRemoteHeadSha == inspection.prePushLocalHeadSha) = true :=
      beq_iff_eq.mpr hequal
    unfold writeNoChangePushResult
    simp only [hverified, if_true]
    exact writePushResult_meets htools h.store (h.repository ▸ Moved.refl _) hcommands
      (fun f hf => by simp at hf) hindex.2
      fun after hrepository _ hrecorded => .decided before.repository.localHead _ _
        { looked := h.looked
          recorded := hrecorded
          head := h.localHead
          inspected := by simpa [PushPayload.record] using h.known
          lower := Nat.le_refl _
          upper := by rw [hrepository, h.repository]
          index := hindex.1
          retryable := by simp
          success := by simp
          unchanged := fun _ => ⟨hheads, hclean⟩
          clean := fun _ _ => rfl }

omit h in
theorem pushCommitted_meets
    (h : Pushing validate step setup before run world before.repository.localHead
      retryIndex)
    (hlocal : inspection.prePushLocalHeadSha = step.names.name before.repository.localHead)
    (hremote : inspection.prePushRemoteHeadSha ≠ "unknown")
    (hcommitted : before.repository.localHead < world.repository.localHead)
    (hclean : world.repository.includedPaths = [])
    (hcommands : Shallow commands) (commitMessage : String) :
    (pushCommitted validate step run setup testResult commands inspection
      retryIndex commitMessage).Meets world
        (PushEnd validate step setup before run) := by
  have hran := h.ran .localHead h.moved h.upper
  unfold pushCommitted
  refine meets_bind (localHeadSha_meets ⟨?_, ?_, ?_⟩)
  · intro _ observed hdepth
    refine meets_state ?_
    cases hindex : currentPushRetryIndex validate step setup
        (step.names.name world.repository.localHead)
        (world.ran .localHead world.repository).store with
    | error error => exact pushEnd_error htools.ready hran.store hran.moved error
    | ok committedRetryIndex =>
      rw [hran.store] at hindex
      have hnext := htools.ready.ledger.currentPushRetryIndex_eq htools.ready.binding hindex
      have hpushing : Pushing validate step setup before run
          (world.ran .localHead world.repository) world.repository.localHead
          committedRetryIndex :=
        { hran with
          lower := Nat.le_of_lt hcommitted
          upper := Nat.le_refl _
          index := hnext.1
          small := hnext.2 }
      exact pushHead_meets htools hpushing rfl hclean hremote (depth_append hcommands hdepth)
        (by decide) _ _
  · intro _ reason observed hdepth
    exact writeRetryablePushFailure_meets htools hran hlocal hremote
      (depth_append hcommands hdepth) reason
  · intro _ error
    exact pushEnd_error htools.ready hran.store hran.moved error

section

variable (hindex : retryIndex = nextIndex (before.store.pushRecord step setup)
  inspection.prePushLocalHeadSha ∧ retryIndex < 2 ^ 64)

include hindex

theorem handleIncludedPushPaths_meets (hincluded : before.repository.includedPaths ≠ [])
    (hcommands : Shallow commands) :
    (handleIncludedPushPaths validate step run setup testResult commands
      inspection retryIndex).Meets world
        (PushEnd validate step setup before run) := by
  have hpushing : Pushing validate step setup before run world
      before.repository.localHead retryIndex :=
    h.pushing hindex fun hclean => absurd hclean hincluded
  have hcommit : ∀ repository message, repository = world.repository ∨
      repository = world.repository.after (.commit message inspection.includedPaths) →
      before.repository.localHead ≤ repository.localHead ∧
        Moved before.repository repository := by
    rw [h.repository, h.included]
    rintro repository message (rfl | rfl)
    · exact ⟨Nat.le_refl _, Moved.refl _⟩
    · exact ⟨Nat.le_succ _, Or.inr ⟨hincluded, rfl,
        includedPaths_after_commit before.repository message⟩, Or.inl rfl⟩
  have hstage : ∀ repository, repository = world.repository ∨
      repository = world.repository.after (.stage inspection.includedPaths) →
      repository = world.repository := by
    rintro repository (rfl | rfl) <;> rfl
  unfold handleIncludedPushPaths
  refine meets_bind (pushRunnerCommand_meets ?_ ?_ ?_)
  · intro _ stage hpassed _
    rw [hstage _ (Or.inr rfl)]
    have hstaged := hpushing.ran (.stage inspection.includedPaths) hpushing.moved hpushing.upper
    have hobserved := depth_append_command hcommands stage
    refine meets_ite (fun _ => meets_bind (pushRunnerCommand_meets ?_ ?_ ?_)) fun hnot =>
      absurd hpassed hnot
    · intro _ commit hpassed _
      refine meets_ite (fun _ => ?_) fun hnot => absurd hpassed hnot
      obtain ⟨hhead, hmoved⟩ := hcommit _ (pushCommitMessage step setup) (Or.inr rfl)
      refine pushCommitted_meets htools (hstaged.ran _ hmoved hhead) h.localHead h.known ?_ ?_
        (depth_append_command hobserved commit) _
      · show before.repository.localHead < world.repository.localHead + 1
        rw [h.repository]
        exact Nat.lt_succ_self _
      · show (world.repository.after (.commit (pushCommitMessage step setup)
          inspection.includedPaths)).includedPaths = []
        rw [h.repository, h.included]
        exact includedPaths_after_commit before.repository (pushCommitMessage step setup)
    · intro repository hrepository _ commit hnot
      obtain ⟨hhead, hmoved⟩ := hcommit repository (pushCommitMessage step setup) hrepository
      refine meets_ite (fun hpassed => absurd hpassed hnot) fun _ => ?_
      exact writeRetryablePushFailure_meets htools (hstaged.ran _ hmoved hhead) h.localHead h.known
        (depth_append_command hobserved commit) _
    · intro repository hrepository _ error
      obtain ⟨hhead, hmoved⟩ := hcommit repository (pushCommitMessage step setup) hrepository
      have hran := hstaged.ran (.commit (pushCommitMessage step setup) inspection.includedPaths)
        hmoved hhead
      exact pushEnd_error htools.ready hran.store hran.moved error
  · intro repository hrepository _ stage hnot
    rw [hstage repository hrepository]
    have hstaged := hpushing.ran (.stage inspection.includedPaths) hpushing.moved hpushing.upper
    refine meets_ite (fun hpassed => absurd hpassed hnot) fun _ => ?_
    exact writeRetryablePushFailure_meets htools hstaged h.localHead h.known
      (depth_append_command hcommands stage) _
  · intro repository hrepository _ error
    rw [hstage repository hrepository]
    have hstaged := hpushing.ran (.stage inspection.includedPaths) hpushing.moved hpushing.upper
    exact pushEnd_error htools.ready hstaged.store hstaged.moved error

theorem writeFatalAuthPreflightPushResult_meets (hincluded : before.repository.includedPaths ≠ [])
    (hcommands : Shallow commands) (report : WorkflowAuthPreflightReport) :
    (writeFatalAuthPreflightPushResult validate step run setup testResult
      retryIndex report commands inspection).Meets world
        (PushEnd validate step setup before run) := by
  unfold writeFatalAuthPreflightPushResult
  refine writePushResult_meets htools h.store (h.repository ▸ Moved.refl _) hcommands ?_ hindex.2
    fun after hrepository _ hrecorded => .decided before.repository.localHead _ _
      { looked := h.looked
        recorded := hrecorded
        head := h.localHead
        inspected := by simpa [PushPayload.record] using h.known
        lower := Nat.le_refl _
        upper := by rw [hrepository, h.repository]
        index := hindex.1
        retryable := by simp
        success := by simp
        unchanged := by simp [PushPayload.record, noChangeStates]
        clean := fun hclean => absurd hclean hincluded }
  intro f hf
  obtain rfl := Option.some.inj hf
  simp [Json.depth, Json.depthEntries]

end

/-- **What follows an inspection ends as an execution does.** -/
theorem pushInspected_meets (hcommands : Shallow commands) :
    (pushInspected validate step run setup testResult commands inspection).Meets
      world (PushEnd validate step setup before run) := by
  have hready := htools.ready
  have hmoved : Moved before.repository world.repository := h.repository ▸ Moved.refl _
  unfold pushInspected
  refine meets_state ?_
  cases hindex : currentPushRetryIndex validate step setup
      inspection.prePushLocalHeadSha world.store with
  | error error => exact pushEnd_error hready h.store hmoved error
  | ok retryIndex =>
    have hnext := hready.ledger.currentPushRetryIndex_eq hready.binding (h.store ▸ hindex)
    dsimp only
    cases step.workflowPaths with
    | error error => exact pushEnd_error hready h.store hmoved _
    | ok workflowPaths =>
      dsimp only
      unfold workflowAuthPreflightForPush
      have hredacted : Shallow (run.preflightCommands.map RedactedCommand.toJson) := by
        intro command hcommand
        obtain ⟨redacted, -, rfl⟩ := List.mem_map.mp hcommand
        exact depth_redactedCommand redacted
      have hpermitted : ∀ observed : List Json, Shallow observed →
          (if inspection.includedPaths.isEmpty then
            handleNoIncludedPushPaths validate step run setup testResult
              (commands ++ observed) inspection retryIndex
          else
            handleIncludedPushPaths validate step run setup testResult
              (commands ++ observed) inspection retryIndex).Meets world
            (PushEnd validate step setup before run) := by
        intro observed hobserved
        refine meets_ite (fun hempty => ?_) fun hfull => ?_
        · exact handleNoIncludedPushPaths_meets htools h hnext
            (h.included ▸ List.isEmpty_iff.mp hempty) (depth_append hcommands hobserved)
        · exact handleIncludedPushPaths_meets htools h hnext
            (h.included ▸ mt List.isEmpty_iff.mpr hfull) (depth_append hcommands hobserved)
      by_cases hdetected : inspection.includedPaths.any workflowPaths = true
      · rw [if_pos hdetected]
        have hincluded : before.repository.includedPaths ≠ [] := by
          rw [← h.included]
          intro hempty
          simp [hempty] at hdetected
        cases run.preflight with
        | permitted => exact hpermitted _ hredacted
        | refused report =>
          exact writeFatalAuthPreflightPushResult_meets htools h hnext hincluded
            (depth_append hcommands hredacted) report
        | failed error => exact pushEnd_error hready h.store hmoved error
      · rw [if_neg hdetected]
        exact hpermitted [] (by simp [Shallow])

end

/-! ### The gates and the inspection -/

omit htools in
theorem inspectPushWorktree_meets (hbarrier : run.barrier = .allow)
    (hgates : pushGatesPass validate step setup before.store)
    {post : Except String (Except String PushInspection × List Json) → PushWorld → Prop}
    (hpassed : ∀ (after : PushWorld) (inspection : PushInspection) (observed : List Json),
      Inspected validate step setup before run after inspection →
      Shallow observed →
      post (.ok (.ok inspection, observed)) after)
    (hfailed : run.inspectionFails = true → ∀ (after : PushWorld) (reason : String)
      (observed : List Json), after.store = before.store → after.repository = before.repository →
      Shallow observed → post (.ok (.error reason, observed)) after)
    (hgone : ∀ (after : PushWorld) (error : String), after.store = before.store →
      after.repository = before.repository → post (.error error) after) :
    (inspectPushWorktree step run).Meets before post := by
  unfold inspectPushWorktree
  refine meets_bind (localHeadSha_meets ⟨?_, ?_, ?_⟩)
  · intro hlocal localObserved hlocalDepth
    refine meets_bind (remoteHeadSha_meets ⟨?_, ?_, ?_⟩)
    · intro hremote remoteObserved hremoteDepth
      have hobserved := depth_append_command (depth_append hlocalDepth hremoteDepth)
      refine meets_bind (pushRunnerCommand_meets ?_ ?_ ?_)
      · intro hfate result hstatus _
        have hlooked : looksAtWorktree validate step setup before run = true := by
          unfold looksAtWorktree PushRun.inspectionPasses
          rw [hbarrier, hgates, hlocal, hremote, hfate]
          rfl
        refine meets_state (meets_ite (fun _ => ?_) fun hnot => absurd hstatus hnot)
        exact hpassed _ _ _ ⟨hlooked, rfl, rfl, rfl, rfl, rfl⟩ (hobserved result)
      · rintro repository (rfl | rfl) ⟨took, fatal, hfate⟩ result hnot
        all_goals
          refine meets_state (meets_ite (fun hpassed => absurd hpassed hnot) fun _ => ?_)
          refine hfailed ?_ _ _ _ rfl rfl (hobserved result)
          unfold PushRun.inspectionFails
          rw [hlocal, hremote, hfate]
      · rintro repository (rfl | rfl) _ error
        all_goals exact hgone _ error rfl rfl
    · rintro ⟨took, fatal, hfate⟩ reason observed hdepth
      refine hfailed ?_ _ _ _ rfl rfl hdepth
      unfold PushRun.inspectionFails
      rw [hlocal, hfate]
    · intro _ error
      exact hgone _ error rfl rfl
  · rintro ⟨took, fatal, hfate⟩ reason observed hdepth
    refine hfailed ?_ _ _ _ rfl rfl hdepth
    unfold PushRun.inspectionFails
    rw [hfate]
  · intro _ error
    exact hgone _ error rfl rfl

theorem writeStopped_meets
    (hstore : world.store = before.store) (hrepository : world.repository = before.repository)
    (hstops : stopsEarly validate step setup before run)
    {payload : PushPayload} {failure : Option ArtifactFailure}
    (hcommands : Shallow payload.commands)
    (hdetails : ∀ f ∈ failure, f.details.depth ≤ 2) {head : String}
    (hrecord : payload.record = ⟨head, 0, false, "fatal"⟩) :
    (writePushResult validate step run setup testResult payload failure
      .fatal).Meets world (PushEnd validate step setup before run) := by
  have hindex : payload.retryIndex = 0 := congrArg PushRecord.index hrecord
  refine writePushResult_meets htools hstore (hrepository ▸ Moved.refl _) hcommands hdetails
    (hindex ▸ by decide) fun after _ _ hrecorded => ?_
  exact .stopped head hstops (hrecord ▸ hrecorded)

/-- **What follows the gates ends as an execution does.** -/
theorem pushVerified_meets (hbarrier : run.barrier = .allow)
    (hgates : pushGatesPass validate step setup before.store) :
    (pushVerified validate step run setup testResult).Meets before
      (PushEnd validate step setup before run) := by
  unfold pushVerified
  refine meets_bind (inspectPushWorktree_meets hbarrier hgates ?_ ?_ ?_)
  · intro after inspection observed hinspected hdepth
    exact pushInspected_meets htools hinspected hdepth
  · intro hfails after reason observed hstore hrepository hdepth
    refine writeStopped_meets htools hstore hrepository ?_ hdepth ?_ rfl
    · unfold stopsEarly
      rw [hbarrier, hfails]
      simp
    · intro f hf
      obtain rfl := Option.some.inj hf
      simp [retryDetails, Json.depth, Json.depthEntries]
  · intro after error hstore hrepository
    exact pushEnd_error htools.ready hstore (hrepository ▸ Moved.refl _) error

end

end Writing

section Execution

variable {validate : FamilyInvariants} {step : PushStep} {run : PushRun}
  {setup : PushRunSetup} {before : PushWorld}

/-- **Behind the gates or not, an execution ends as an execution does.** -/
theorem pushGated_meets (hready : PushReady validate step setup before.store)
    (hbarrier : run.barrier = .allow) :
    (pushGated validate step run setup).Meets before
      (PushEnd validate step setup before run) := by
  have hstops : pushGatesPass validate step setup before.store = false →
      stopsEarly validate step setup before run = true := by
    intro hgates
    unfold stopsEarly
    rw [hbarrier, hgates]
    rfl
  unfold pushGated
  refine meets_state ?_
  cases htest : readCurrentJson validate step.binding testFamily before.store with
  | error error =>
    have hgates : pushGatesPass validate step setup before.store = false := by
      unfold pushGatesPass
      rw [htest]
    refine writeStopped_meets ⟨hready, hready.sources sourced_null⟩ rfl rfl (hstops hgates)
      (by simp [Shallow]) ?_ rfl
    intro f hf
    obtain rfl := Option.some.inj hf
    simp [Json.depth, Json.depthEntries]
  | ok testResult =>
    have hdocument :=
      (hready.ledger.readCurrentJson_iff testFamily_plain hready.binding).mp htest
    have htools : PushTools validate step setup testResult before :=
      ⟨hready, hready.sources (hready.sourced testFamily_plain hdocument).1⟩
    have hgates : pushGatesPass validate step setup before.store =
        ((validatePushLocalVerificationResult step.binding setup.plan setup.result
          testResult).isEmpty && mustFixSuccessEvidenceIsAcceptable setup.plan setup.result) := by
      unfold pushGatesPass
      rw [htest]
    dsimp only
    cases herrors : validatePushLocalVerificationResult step.binding setup.plan setup.result
        testResult with
    | nil =>
      rw [herrors, List.isEmpty_nil, Bool.true_and] at hgates
      refine meets_ite (fun hevidence =>
        pushVerified_meets htools hbarrier (hgates.trans hevidence)) fun hevidence => ?_
      refine writeStopped_meets htools rfl rfl (hstops ?_) (by simp [Shallow]) ?_ rfl
      · rw [hgates]
        simpa using hevidence
      · intro f hf
        obtain rfl := Option.some.inj hf
        simp [Json.depth, Json.depthEntries]
    | cons first rest =>
      rw [herrors, List.isEmpty_cons, Bool.false_and] at hgates
      refine writeStopped_meets htools rfl rfl (hstops hgates) (by simp [Shallow]) ?_ rfl
      intro f hf
      obtain rfl := Option.some.inj hf
      refine Nat.succ_le_succ (Json.depthEntries_le fun entry hentry => ?_)
      rw [List.mem_singleton.mp hentry]
      exact depth_jsonOfTexts _

/-- **Every execution ends in one of the three ways.** -/
theorem pushRemediationChanges_meets
    (hready : PushReady validate step setup before.store) :
    (pushRemediationChanges validate step run).Meets before
      (PushEnd validate step setup before run) := by
  unfold pushRemediationChanges
  cases hbarrier : run.barrier with
  | blocked =>
    exact ⟨hready, List.Subset.refl _, fun _ _ _ _ => rfl, Moved.refl _,
      .unrecorded _ rfl fun outcome h => Or.inl (Except.ok.inj h).symm⟩
  | denied =>
    exact ⟨hready, List.Subset.refl _, fun _ _ _ _ => rfl, Moved.refl _,
      .unrecorded _ rfl fun outcome h => Or.inr (Except.ok.inj h).symm⟩
  | allow =>
    refine meets_state ?_
    rw [hready.loaded]
    exact pushGated_meets hready hbarrier

end Execution

end Luther
