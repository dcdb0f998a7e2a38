/-
What the steps of a remediation add to the artifacts.

A write adds the document of its request, and copies into the history what stands in a
canonical file only.  A step adds no more than its writes do, so what it adds is of its own
family, and nothing that is known of a pull request becomes more by it.
-/
import Luther.Proofs.ArtifactReading
import Luther.Remediation.PrBinding

namespace Luther

open Effect Sql

variable {validate : FamilyInvariants}

/-! ### Files that are added -/

/-- The files of a store are those it had, copies of its canonical files, and documents of a
kind. -/
structure Adds (P : String → Json → Prop) (before after : ArtifactStore) : Prop where
  root : after.root = before.root
  history : ∀ file ∈ after.history, file ∈ before.history
    ∨ (∃ canonical ∈ before.current, canonical.content = file.content)
    ∨ P before.root file.content
  current : ∀ file ∈ after.current, file ∈ before.current ∨ P before.root file.content

variable {P Q : String → Json → Prop}

instance : Std.Refl (Adds P) :=
  ⟨fun _ => ⟨rfl, fun _ hfile => Or.inl hfile, fun _ hfile => Or.inl hfile⟩⟩

theorem Adds.trans {a b c : ArtifactStore} (hab : Adds P a b) (hbc : Adds P b c) : Adds P a c where
  root := hbc.root.trans hab.root
  history := by
    intro file hfile
    rcases hbc.history file hfile with hold | ⟨canonical, hcanonical, hcontent⟩ | hnew
    · exact hab.history file hold
    · rcases hab.current canonical hcanonical with hold | hnew
      · exact Or.inr (Or.inl ⟨canonical, hold, hcontent⟩)
      · exact Or.inr (Or.inr (hcontent ▸ hnew))
    · exact Or.inr (Or.inr (hab.root ▸ hnew))
  current := by
    intro file hfile
    rcases hbc.current file hfile with hold | hnew
    · exact hab.current file hold
    · exact Or.inr (hab.root ▸ hnew)

instance : IsTrans ArtifactStore (Adds P) := ⟨fun _ _ _ hab hbc => hab.trans hbc⟩

theorem Adds.mono {before after : ArtifactStore} (h : Adds P before after)
    (himp : ∀ value, P before.root value → Q before.root value) : Adds Q before after where
  root := h.root
  history := fun file hfile => (h.history file hfile).imp_right (Or.imp_right (himp _))
  current := fun file hfile => (h.current file hfile).imp_right (himp _)

def documentsOf (request : JsonArtifactWriteRequest) (root : String) (value : Json) : Prop :=
  ∃ sequence failure, envelope root request sequence failure = .ok value

variable {root : String} {value : Json} {store : ArtifactStore} {binding : PrFollowupBinding}
  {consumedFamily : Option String} {recovery : CurrentRecovery}

variable {request : JsonArtifactWriteRequest} {file : ContainedFile} {family : String}
  {recovery' : CurrentRecovery}

theorem documentsOf_family (h : documentsOf request root value) :
    artifactFamilyFromValue value = some request.artifactFamily := by
  obtain ⟨sequence, failure, henvelope⟩ := h
  unfold artifactFamilyFromValue
  rw [metadataString_of_injectStoreFields henvelope]
  rfl

theorem documentsOf_field (h : documentsOf request root value)
    {field : String} (hfield : field ∉ storeFieldNames) :
    value.get? field = request.payload.get? field := by
  obtain ⟨sequence, failure, henvelope⟩ := h
  exact get?_payload henvelope hfield

/-! ### One write -/

theorem adds_createHistory {next : ArtifactStore} (h : store.createHistory file = .ok next)
    (hfile : (∃ canonical ∈ store.current, canonical.content = file.content)
      ∨ P store.root file.content) : Adds P store next := by
  unfold ArtifactStore.createHistory at h
  split at h
  · simp at h
  · obtain rfl := Except.ok.inj h
    refine ⟨rfl, ?_, fun _ hold => Or.inl hold⟩
    intro added hadded
    rcases List.mem_append.mp hadded with hold | hnew
    · exact Or.inl hold
    · obtain rfl := List.mem_singleton.mp hnew
      exact Or.inr hfile

theorem adds_createBackfills {backfills : List ContainedFile}
    (h : ∀ backfill ∈ backfills, ∃ canonical ∈ store.current,
      canonical.content = backfill.content) :
    Adds P store (createBackfills backfills store).2 := by
  induction backfills generalizing store with
  | nil => exact Std.Refl.refl store
  | cons backfill rest ih =>
    unfold createBackfills
    cases hcreated : store.createHistory backfill with
    | error error => exact Std.Refl.refl store
    | ok created =>
      have hcurrent : created.current = store.current := by
        unfold ArtifactStore.createHistory at hcreated
        split at hcreated
        · simp at hcreated
        · exact (congrArg ArtifactStore.current (Except.ok.inj hcreated)).symm
      have hfirst : Adds P store created :=
        adds_createHistory hcreated (Or.inl (h backfill (by simp)))
      have hrest : Adds P created (createBackfills rest created).2 := by
        apply ih
        intro other hother
        rw [hcurrent]
        exact h other (by simp [hother])
      exact hfirst.trans hrest

theorem eq_of_fromText {content : Json} (h : Json.fromText content = .ok value) :
    value = content := by
  unfold Json.fromText at h
  split at h
  · exact (Except.ok.inj h).symm
  · simp at h

theorem prepareCanonicalHistoryBackfill_content {backfill : ContainedFile}
    (h : prepareCanonicalHistoryBackfill validate root binding family value
      = .ok backfill) : backfill.content = value := by
  unfold prepareCanonicalHistoryBackfill at h
  cases hpath : metadataString "history_path" value with
  | none => simp [hpath] at h
  | some text =>
    simp only [hpath] at h
    obtain ⟨-, h⟩ := refused_ok.mp h
    obtain ⟨_, -, h⟩ := bind_ok.mp h
    obtain ⟨_, -, h⟩ := bind_ok.mp h
    obtain rfl := Except.ok.inj h
    rfl

theorem reconcileCanonical_backfill {path : FilePath}
    {state state' : RecoveredSequenceState} {found : Option ContainedFile}
    (h : reconcileCanonical validate root binding family value path state
      = .ok (state', found)) : ∀ backfill ∈ found, backfill.content = value := by
  unfold reconcileCanonical at h
  obtain ⟨_, -, h⟩ := bind_ok.mp h
  obtain ⟨_, -, h⟩ := bind_ok.mp h
  simp only at h
  split at h
  · obtain rfl := (Prod.mk.inj (Except.ok.inj h)).2
    intro backfill hbackfill
    simp at hbackfill
  · obtain ⟨prepared, hprepared, h⟩ := bind_ok.mp h
    obtain ⟨_, -, h⟩ := bind_ok.mp h
    obtain rfl := (Prod.mk.inj (Except.ok.inj h)).2
    intro backfill hbackfill
    rw [← Option.some.inj hbackfill]
    exact prepareCanonicalHistoryBackfill_content hprepared
  · simp at h

theorem recoverCurrentFile_backfills
    (h : recoverCurrentFile validate root binding consumedFamily file recovery
      = .ok recovery') :
    ∀ backfill ∈ recovery'.backfills,
      backfill ∈ recovery.backfills ∨ backfill.content = file.content := by
  have hkept : recovery = recovery' → ∀ backfill ∈ recovery'.backfills,
      backfill ∈ recovery.backfills ∨ backfill.content = file.content := by
    intro hsame backfill hbackfill
    exact Or.inl (hsame ▸ hbackfill)
  unfold recoverCurrentFile at h
  cases hvalue : Json.fromText file.content with
  | error error =>
    simp only [hvalue] at h
    split at h
    · exact hkept (Except.ok.inj h)
    · simp at h
  | ok value =>
    obtain rfl := eq_of_fromText hvalue
    simp only [hvalue] at h
    split at h
    · exact hkept (Except.ok.inj h)
    split at h
    · exact hkept (Except.ok.inj h)
    split at h
    · exact hkept (Except.ok.inj h)
    · obtain ⟨actual, -, h⟩ := bind_ok.mp h
      obtain ⟨⟨state, found⟩, hreconciled, h⟩ := bind_ok.mp h
      obtain rfl := Except.ok.inj h
      intro backfill hbackfill
      rcases List.mem_append.mp hbackfill with hold | hnew
      · exact Or.inl hold
      · exact Or.inr (reconcileCanonical_backfill hreconciled backfill
          (Option.mem_toList.mp hnew))

theorem recoverCurrentFiles_backfills {files : List ContainedFile}
    (h : recoverCurrentFiles validate root binding consumedFamily files recovery
      = .ok recovery') :
    ∀ backfill ∈ recovery'.backfills,
      backfill ∈ recovery.backfills ∨ ∃ file ∈ files, file.content = backfill.content := by
  induction files generalizing recovery with
  | nil =>
    obtain rfl := Except.ok.inj h
    intro backfill hbackfill
    exact Or.inl hbackfill
  | cons file rest ih =>
    obtain ⟨middle, hmiddle, hrest⟩ := bind_ok.mp h
    intro backfill hbackfill
    rcases ih hrest backfill hbackfill with hold | ⟨other, hother, hcontent⟩
    · rcases recoverCurrentFile_backfills hmiddle backfill hold with hold | hcontent
      · exact Or.inl hold
      · exact Or.inr ⟨file, by simp, hcontent.symm⟩
    · exact Or.inr ⟨other, by simp [hother], hcontent⟩

theorem recoverSequences_backfills {order : ListingOrder}
    (h : recoverSequences validate order binding consumedFamily store
      = .ok recovery) :
    ∀ backfill ∈ recovery.backfills, ∃ file ∈ store.current, file.content = backfill.content := by
  unfold recoverSequences at h
  obtain ⟨⟨state, lastPath⟩, -, h⟩ := bind_ok.mp h
  obtain ⟨-, h⟩ := refused_ok.mp h
  have hfound : ∃ files : List ContainedFile, files.Perm store.current ∧
      recoverCurrentFiles validate store.root binding consumedFamily files
        { state := state, lastPath := lastPath } = .ok recovery := by
    refine ⟨store.current.insertionSort fun left right => left.path.text ≤ right.path.text,
      List.perm_insertionSort _ _, ?_⟩
    -- The numbers are checked before the canonical files are looked at, and behind it.
    simp only at h
    split at h
    all_goals
      obtain ⟨_, -, h⟩ := bind_ok.mp h
      obtain ⟨found, hfound, h⟩ := bind_ok.mp h
      refine hfound.trans (congrArg Except.ok ?_)
      split at h
      all_goals
        obtain ⟨_, -, h⟩ := bind_ok.mp h
        exact Except.ok.inj h
  obtain ⟨files, hperm, hrecovered⟩ := hfound
  intro backfill hbackfill
  rcases recoverCurrentFiles_backfills hrecovered backfill hbackfill with
    hnone | ⟨file, hfile, hcontent⟩
  · simp at hnone
  · exact ⟨file, hperm.mem_iff.mp hfile, hcontent⟩

theorem adds_recoverSequenceState (validate : FamilyInvariants)
    (order : ListingOrder) (binding : PrFollowupBinding) (consumedFamily : Option String) (store : ArtifactStore) :
    Adds P store (recoverSequenceState validate order binding consumedFamily
      store).2 := by
  unfold recoverSequenceState
  cases hrecovered : recoverSequences validate order binding consumedFamily
      store with
  | error error => exact Std.Refl.refl store
  | ok recovery =>
    have hadds : Adds P store (createBackfills
        (recovery.backfills.insertionSort fun a b => a.artifactSequence ≤ b.artifactSequence)
        store).2 := by
      apply adds_createBackfills
      intro backfill hbackfill
      exact recoverSequences_backfills hrecovered backfill
        ((List.mem_insertionSort _).mp hbackfill)
    simp only
    split <;> rename_i heq <;> rwa [heq] at hadds

theorem adds_publishArtifact (history canonical : FilePath) (publication : Publication)
    (hvalue : P store.root value) :
    Adds P store (publishArtifact history canonical value publication store).2 := by
  unfold publishArtifact
  cases publication with
  | failed error => exact Std.Refl.refl store
  | crashed =>
    cases hcreated : store.createHistory ⟨history, value⟩ with
    | error error => exact Std.Refl.refl store
    | ok created => exact adds_createHistory hcreated (Or.inr hvalue)
  | published =>
    cases hcreated : store.createHistory ⟨history, value⟩ with
    | error error => exact Std.Refl.refl store
    | ok created =>
      have hadds : Adds P store created := adds_createHistory hcreated (Or.inr hvalue)
      refine ⟨hadds.root, hadds.history, ?_⟩
      intro file hfile
      rcases List.mem_append.mp hfile with hold | hnew
      · exact hadds.current file (List.mem_of_mem_filter hold)
      · obtain rfl := List.mem_singleton.mp hnew
        exact Or.inr hvalue

/-- **A write adds the document of its request.** -/
theorem adds_write (order : ListingOrder) (request : JsonArtifactWriteRequest)
    (publication : Publication) (store : ArtifactStore) :
    Adds (documentsOf request) store
      (writeJsonArtifactLocked validate order request publication store).2 := by
  have hrecovery : Adds (documentsOf request) store _ :=
    adds_recoverSequenceState validate order request.binding
      (some request.artifactFamily) store
  unfold writeJsonArtifactLocked
  split
  · rename_i heq
    rwa [heq] at hrecovery
  · rename_i state recovered heq
    rw [heq] at hrecovery
    simp only
    split
    · exact hrecovery
    · rename_i sequence failureSequence value hprepared
      have hvalue : documentsOf request recovered.root value := by
        obtain ⟨⟨numbers, failure⟩, -, hprepared⟩ := bind_ok.mp hprepared
        obtain ⟨document, hdocument, hprepared⟩ := bind_ok.mp hprepared
        obtain ⟨_, -, hprepared⟩ := bind_ok.mp hprepared
        obtain ⟨rfl, -, rfl⟩ := Except.ok.inj hprepared
        exact ⟨_, _, hdocument⟩
      refine hrecovery.trans ?_
      have hpublished := adds_publishArtifact
        (historyPath recovered.root request.binding request.artifactFamily sequence)
        (canonicalPath recovered.root request.binding request.artifactFamily) publication hvalue
      split <;> rename_i hpublish <;> rwa [hpublish] at hpublished

/-! ### The steps -/

/-- The documents that a plan's step writes, as the store is. -/
def planDocuments (validate : FamilyInvariants) (step : PlanStep) (run : PlanRun)
    (store : ArtifactStore) : String → Json → Prop :=
  let plan := buildPlan validate step run store
  documentsOf (planRequest step run plan.1 plan.2)

theorem adds_buildRemediationPlan (step : PlanStep) (run : PlanRun) (store : ArtifactStore) :
    Adds (planDocuments validate step run store) store
      ((buildRemediationPlan validate step run).ends store).2 :=
  adds_write run.order _ run.publication store

/-- The documents that a local verification writes. -/
def testDocuments (step : PostPrTestStep) (run : PostPrTestRun) (root : String) (value : Json) :
    Prop :=
  ∃ payload failure, documentsOf (postPrTestRequest step run payload failure) root value

theorem keeps_writePostPrTestResult (step : PostPrTestStep) (run : PostPrTestRun)
    (payload : Json) (failure : Option ArtifactFailure) (outcome : StepOutcome) :
    (writePostPrTestResult validate step run payload failure outcome).Keeps
      (Adds (testDocuments step run)) := by
  refine keeps_of ?_
  intro store
  apply Adds.mono (adds_write run.order (postPrTestRequest step run payload failure)
    run.publication store)
  intro value hvalue
  exact ⟨payload, failure, hvalue⟩

theorem keeps_runPostPrTests (validate : FamilyInvariants)
    (step : PostPrTestStep) (run : PostPrTestRun) :
    (runPostPrTests validate step run).Keeps (Adds (testDocuments step run)) := by
  have hfatal : ∀ plan result maxRetries reason errors,
      (writePostPrTestFatal validate step run plan result maxRetries reason
        errors).Keeps (Adds (testDocuments step run)) := by
    intro plan result maxRetries reason errors
    exact keeps_writePostPrTestResult step run _ _ _
  unfold runPostPrTests
  refine keeps_bind keeps_state ?_
  intro store
  split
  · exact keeps_throw _
  · exact keeps_throw _
  · split
    · exact hfatal _ _ _ _ _
    · split
      · exact hfatal _ _ _ _ _
      · refine keeps_ite ?_ ?_
        · exact hfatal _ _ _ _ _
        · split
          · exact keeps_throw _
          · split
            · exact keeps_throw _
            · exact keeps_writePostPrTestResult step run _ _ _

/-! ### The push -/

def pushDocuments (_root : String) (value : Json) : Prop :=
  artifactFamilyFromValue value = some pushFamily

/-- A push adds its own documents, whatever becomes of the repository. -/
def PushAdds (before after : PushWorld) : Prop := Adds pushDocuments before.store after.store

instance : Std.Refl PushAdds := ⟨fun world => Std.Refl.refl (r := Adds pushDocuments) world.store⟩

instance : IsTrans PushWorld PushAdds :=
  ⟨fun _ _ _ first second => Adds.trans first second⟩

section Push

variable {step : PushStep} {run : PushRun} {setup : PushRunSetup} {testResult : Json}

theorem keeps_writePushResult (payload : PushPayload) (failure : Option ArtifactFailure)
    (outcome : StepOutcome) :
    (writePushResult validate step run setup testResult payload failure
      outcome).Keeps PushAdds := by
  refine keeps_of ?_
  intro world
  apply Adds.mono (adds_write run.order (pushRequest step run setup testResult payload failure)
    run.publication world.store)
  intro value hvalue
  exact documentsOf_family hvalue

theorem keeps_pushRunnerCommand (command : GitCommand) (report : CommandReport) :
    (pushRunnerCommand step command report).Keeps PushAdds := by
  refine keeps_of ?_
  intro world
  show Adds pushDocuments world.store _
  dsimp only
  split <;> exact Std.Refl.refl _

theorem keeps_headSha (command : GitCommand) (report : CommandReport) (reason : String) :
    (headSha step command report reason).Keeps PushAdds := by
  unfold headSha
  refine keeps_bind (keeps_pushRunnerCommand command report) ?_
  intro result
  exact keeps_ite (keeps_pure _) (keeps_pure _)

theorem keeps_inspectPushWorktree : (inspectPushWorktree step run).Keeps PushAdds := by
  unfold inspectPushWorktree
  refine keeps_bind (keeps_headSha _ _ _) ?_
  intro localHead
  split
  · exact keeps_pure _
  · refine keeps_bind (keeps_headSha _ _ _) ?_
    intro remoteHead
    split
    · exact keeps_pure _
    · refine keeps_bind (keeps_pushRunnerCommand _ _) ?_
      intro result
      refine keeps_bind keeps_state ?_
      intro world
      exact keeps_ite (keeps_pure _) (keeps_pure _)

theorem keeps_pushHead (pushedState : String) (retryIndex : Nat) (commands : List Json)
    (inspection : PushInspection) (stagedPaths : List String) (commitMessage : Option String)
    (pushedHead : String) :
    (pushHead validate step run setup testResult pushedState retryIndex commands
      inspection stagedPaths commitMessage pushedHead).Keeps PushAdds := by
  unfold pushHead
  refine keeps_bind (keeps_pushRunnerCommand _ _) ?_
  intro push
  refine keeps_ite ?_ ?_
  · refine keeps_bind (keeps_headSha _ _ _) ?_
    intro remoteHead
    split
    · exact keeps_writePushResult _ _ _
    · exact keeps_writePushResult _ _ _
  · exact keeps_writePushResult _ _ _

section

variable (commands : List Json)

section

variable (inspection : PushInspection)

theorem keeps_pushCommitted (retryIndex : Nat) (commitMessage : String) :
    (pushCommitted validate step run setup testResult commands inspection
      retryIndex commitMessage).Keeps PushAdds := by
  unfold pushCommitted
  refine keeps_bind (keeps_headSha _ _ _) ?_
  intro committedHead
  split
  · exact keeps_writePushResult _ _ _
  · refine keeps_bind keeps_state ?_
    intro world
    split
    · exact keeps_throw _
    · exact keeps_pushHead _ _ _ _ _ _ _

theorem keeps_handleIncludedPushPaths (retryIndex : Nat) :
    (handleIncludedPushPaths validate step run setup testResult commands
      inspection retryIndex).Keeps PushAdds := by
  unfold handleIncludedPushPaths
  refine keeps_bind (keeps_pushRunnerCommand _ _) ?_
  intro stage
  refine keeps_ite ?_ ?_
  · refine keeps_bind (keeps_pushRunnerCommand _ _) ?_
    intro commit
    refine keeps_ite ?_ ?_
    · exact keeps_pushCommitted _ _ _ _
    · exact keeps_writePushResult _ _ _
  · exact keeps_writePushResult _ _ _

theorem keeps_handleNoIncludedPushPaths (retryIndex : Nat) :
    (handleNoIncludedPushPaths validate step run setup testResult commands
      inspection retryIndex).Keeps PushAdds := by
  unfold handleNoIncludedPushPaths
  refine keeps_ite ?_ ?_
  · exact keeps_pushHead _ _ _ _ _ _ _
  · exact keeps_writePushResult _ _ _

theorem keeps_pushInspected :
    (pushInspected validate step run setup testResult commands
      inspection).Keeps PushAdds := by
  unfold pushInspected
  refine keeps_bind keeps_state ?_
  intro world
  split
  · exact keeps_throw _
  · split
    · exact keeps_throw _
    · split
      · exact keeps_throw _
      · exact keeps_writePushResult _ _ _
      · refine keeps_ite ?_ ?_
        · exact keeps_handleNoIncludedPushPaths _ _ _
        · exact keeps_handleIncludedPushPaths _ _ _

end

end

theorem keeps_pushGated :
    (pushGated validate step run setup).Keeps PushAdds := by
  unfold pushGated
  refine keeps_bind keeps_state ?_
  intro world
  split
  · exact keeps_writePushResult _ _ _
  · split
    · refine keeps_ite ?_ ?_
      · refine keeps_bind keeps_inspectPushWorktree ?_
        intro inspected
        split
        · exact keeps_writePushResult _ _ _
        · exact keeps_pushInspected _ _
      · exact keeps_writePushResult _ _ _
    · exact keeps_writePushResult _ _ _

/-- **A push writes artifacts of its own family only.** -/
theorem keeps_pushRemediationChanges (validate : FamilyInvariants)
    (step : PushStep) (run : PushRun) :
    (pushRemediationChanges validate step run).Keeps PushAdds := by
  unfold pushRemediationChanges
  split
  · exact keeps_pure _
  · exact keeps_pure _
  · refine keeps_bind keeps_state ?_
    intro world
    split
    · exact keeps_throw _
    · exact keeps_pushGated

end Push

end Luther
