/-
The artifact of a push, as the next push reads it.

Every execution writes one artifact, and what the next one takes from it is little: the head
and the index of the retry scope, where the scope is of the same plan and result.  `PushRecord`
is that, with whether the worktree had been looked at, and what came of it.
-/
import Luther.Remediation.PushStep
import Luther.Proofs.IterationGuard
import Luther.Lib.Sql

namespace Luther

/-! ### Depth -/

theorem Json.depthList_le {bound : Nat} {elements : List Json}
    (h : ∀ element ∈ elements, element.depth ≤ bound) : Json.depthList elements ≤ bound := by
  induction elements with
  | nil => exact Nat.zero_le _
  | cons element rest ih =>
    exact Nat.max_le.mpr ⟨h element (by simp), ih fun e he => h e (by simp [he])⟩

theorem Json.depthList_map_le {α : Type} {bound : Nat} {f : α → Json} {xs : List α}
    (h : ∀ x, (f x).depth ≤ bound) : Json.depthList (xs.map f) ≤ bound :=
  Json.depthList_le (List.forall_mem_map.mpr fun x _ => h x)

theorem depth_jsonOfTexts (texts : List String) : (jsonOfTexts texts).depth ≤ 1 :=
  Nat.succ_le_succ (Json.depthList_map_le fun _ => Nat.zero_le _)

theorem depth_jsonOfText (text : Option String) : (jsonOfText text).depth = 0 := by
  cases text <;> rfl

theorem depth_jsonOfInt (n : Option Int) : (jsonOfInt n).depth = 0 := by
  cases n <;> rfl

theorem depth_pushCommandResultJson (result : PushRemediationCommandResult) :
    (pushCommandResultJson result).depth ≤ 2 := by
  simp [pushCommandResultJson, Json.depth, Json.depthEntries, depth_jsonOfTexts, depth_jsonOfText,
    depth_jsonOfInt]

/-- Reports of commands, as deep as they are written. -/
abbrev Shallow (commands : List Json) : Prop := ∀ command ∈ commands, command.depth ≤ 2

theorem depth_redactedCommand (command : RedactedCommand) : command.toJson.depth ≤ 2 := by
  unfold RedactedCommand.toJson
  cases command.observed <;>
    simp [Json.depth, Json.depthEntries, depth_jsonOfTexts, depth_jsonOfText, depth_jsonOfInt]

theorem depth_authPreflightReport (report : WorkflowAuthPreflightReport) :
    report.toJson.depth ≤ 3 := by
  have htexts (texts : List String) : (jsonOfTexts texts).depth ≤ 2 :=
    Nat.le_succ_of_le (depth_jsonOfTexts texts)
  have hpaths := @Json.depthList_map_le String 1 (fun path =>
    .obj [("path", .str path), ("source", .str "push_remediation_included_paths")])
    report.detectedWorkflowPaths fun _ => by simp [Json.depth, Json.depthEntries]
  simp only [WorkflowAuthPreflightReport.toJson, Json.depth, Json.depthEntries, Nat.max_le,
    Nat.reduceLeDiff, Nat.zero_le, htexts, depth_jsonOfText, hpaths, and_self]

/-! ### The artifacts that a push is made of -/

/-- What an artifact says of another holds no container. -/
structure Sourced (value : Json) : Prop where
  artifact : (artifactSequenceOf value).depth = 0
  write : ((value.get? "write_sequence").getD .null).depth = 0
  producer : ((value.get? "producer_step_id").getD .null).depth = 0
  canonical : (((value.get? "history_metadata").bind
    (Json.get? "canonical_path")).getD .null).depth = 0

theorem sourced_null : Sourced .null where
  artifact := rfl
  write := rfl
  producer := rfl
  canonical := rfl

variable {value : Json}

theorem depth_sourceArtifact (h : Sourced value) (family : String) :
    (sourceArtifact value family).depth ≤ 1 := by
  simp [sourceArtifact, Json.depth, Json.depthEntries, h.artifact, h.write, h.producer, h.canonical]

theorem num_of_asU64? {n : Nat} (h : value.asU64? = some n) : value = .num n := by
  cases value with
  | num k =>
    unfold Json.asU64? at h
    dsimp only at h
    split at h
    · rename_i hk
      have hn : (n : Int) = k := by
        have hnat := Option.some.inj h
        omega
      rw [hn]
    · simp at h
  | null | bool | str | arr | obj => simp [Json.asU64?] at h

theorem get?_of_requireU64 {field : String} {n : Nat} (h : requireU64 field value = .ok n) :
    value.get? field = some (.num n) := by
  unfold requireU64 at h
  cases hread : (value.get? field).bind Json.asU64? with
  | none => simp [hread] at h
  | some m =>
    simp only [hread, Except.ok.injEq] at h
    subst h
    obtain ⟨v, hv, hnum⟩ := Option.bind_eq_some_iff.mp hread
    rw [hv, num_of_asU64? hnum]

theorem get?_of_requireString {field text : String} (h : requireString field value = .ok text) :
    value.get? field = some (.str text) := by
  unfold requireString at h
  cases hvalue : value.get? field with
  | none => simp [hvalue] at h
  | some v =>
    simp only [hvalue, Option.bind_some] at h
    cases v with
    | str s =>
      by_cases hs : s = ""
      · simp [Json.asStr?, hs] at h
      · simp only [Json.asStr?, if_neg hs, Except.ok.injEq] at h
        rw [h]
    | null | bool | num | arr | obj => simp [Json.asStr?] at h

section Snapshot

variable {validate : FamilyInvariants} {pr : PrFollowupBinding} {root : String}
  {file : ContainedFile}

theorem Snapshot.producer (h : Snapshot validate pr root file) :
    ∃ producer, requireString "producer_step_id" file.content = .ok producer := by
  have hmetadata := h.metadata
  cases hproducer : requireString "producer_step_id" file.content with
  | ok producer => exact ⟨producer, rfl⟩
  | error error =>
    unfold validateArtifactMetadata at hmetadata
    simp only [h.artifact, h.write, hproducer, bind, Except.bind] at hmetadata
    repeat' split at hmetadata
    all_goals simp at hmetadata

theorem Snapshot.sourced (h : Snapshot validate pr root file) :
    Sourced file.content := by
  obtain ⟨producer, hproducer⟩ := h.producer
  refine ⟨?_, ?_, ?_, ?_⟩
  · unfold artifactSequenceOf
    rw [get?_of_requireU64 h.artifact]
    rfl
  · rw [get?_of_requireU64 h.write]
    rfl
  · rw [get?_of_requireString hproducer]
    rfl
  · have hcanonical := h.embeddedPaths.2
    unfold metadataString at hcanonical
    obtain ⟨v, hv, hstr⟩ := Option.bind_eq_some_iff.mp hcanonical
    rw [hv]
    cases v with
    | arr | obj => simp [Json.asStr?] at hstr
    | null | bool | num | str => rfl

end Snapshot

/-! ### Requests -/

/-- What the writers of an execution have in hand. -/
structure PushSources (setup : PushRunSetup) (testResult : Json) : Prop where
  plan : Sourced setup.plan
  result : Sourced setup.result
  test : Sourced testResult

section Request

variable {step : PushStep} {run : PushRun} {setup : PushRunSetup} {testResult : Json}
  {payload : PushPayload} {failure : Option ArtifactFailure}

theorem depth_pushPayload (hsources : PushSources setup testResult)
    (hcommands : Shallow payload.commands) :
    (pushPayload step run setup testResult payload).depth ≤ 4 := by
  have htexts (texts : List String) : (jsonOfTexts texts).depth ≤ 3 :=
    Nat.le_trans (depth_jsonOfTexts texts) (by decide)
  have hsource {value : Json} (h : Sourced value) (family : String) :
      (sourceArtifact value family).depth ≤ 2 := Nat.le_succ_of_le (depth_sourceArtifact h family)
  refine Nat.succ_le_succ ?_
  rw [Json.depthEntries_append, Nat.max_le]
  refine ⟨?_, Json.depthEntries_le fun entry hentry => ?_⟩
  · simp only [Json.depth, Json.depthEntries, Json.depthList, Nat.max_le, Nat.reduceLeDiff,
      Nat.zero_le, Json.depthList_le hcommands, htexts, depth_jsonOfText, retryScopeOf,
      hsources.plan.artifact, hsources.result.artifact, hsource hsources.plan,
      hsource hsources.result, hsource hsources.test, and_self]
  · obtain ⟨report, -, rfl⟩ := Option.map_eq_some_iff.mp (Option.mem_toList.mp hentry)
    exact depth_authPreflightReport report

theorem pushRequest_wellFormed
    (hbinding : validateSequenceBinding step.binding step.binding)
    (hsources : PushSources setup testResult)
    (hcommands : Shallow payload.commands)
    (hdetails : ∀ f ∈ failure, f.details.depth ≤ 2) :
    WellFormed step.binding (pushRequest step run setup testResult payload failure) where
  binding := hbinding
  producer := step.identified
  unnamed := by
    unfold pushRequest pushPayload
    cases payload.authPreflight <;> rfl
  successful := fun _ => by
    unfold pushRequest pushPayload
    cases payload.authPreflight <;> rfl
  shallow := Nat.lt_of_le_of_lt (depth_pushPayload hsources hcommands) (by decide)
  details := fun f hf => Nat.lt_of_le_of_lt (hdetails f hf) (by decide)

end Request

/-! ### Records -/

/-- What the next execution takes from an artifact, where it is of the same scope. -/
structure PushRecord where
  head : String
  index : Nat
  /-- Whether the worktree had been looked at. -/
  inspected : Bool
  state : String

/-- The record of an artifact, where it is about the plan and the result. -/
def pushRecordOf (step : PushStep) (setup : PushRunSetup) (value : Json) : Option PushRecord :=
  match value.get? "retry_scope" with
  | some (.obj entries) =>
    let head := stringField (.obj entries) "head_sha" ""
    if pushRetryScopeMatches step setup head (.obj entries) then
      some
        { head := head
          index := (value.u64? "push_retry_index").getD 0
          inspected := stringField value "pre_push_remote_head_sha" "" != "unknown"
          state := stringField value "push_state" "" }
    else none
  | _ => none

def ArtifactStore.pushRecord (step : PushStep) (setup : PushRunSetup) (store : ArtifactStore) :
    Option PushRecord :=
  (store.document step.binding pushFamily).bind (pushRecordOf step setup)

def nextIndex (record : Option PushRecord) (head : String) : Nat :=
  match record with
  | none => 0
  | some record => if record.head = head then record.index + 1 else 0

def PushPayload.record (payload : PushPayload) : PushRecord where
  head := payload.committedHeadSha.getD payload.prePushLocalHeadSha
  index := payload.retryIndex
  inspected := payload.prePushRemoteHeadSha != "unknown"
  state := payload.pushState

section Record

variable {validate : FamilyInvariants} {step : PushStep} {run : PushRun}
  {setup : PushRunSetup} {testResult : Json} {payload : PushPayload}

theorem pushFamily_plain : PlainFamily pushFamily := by decide +kernel

theorem pushRetryScopeMatches_iff (scope : Json) (localHead : String) :
    pushRetryScopeMatches step setup localHead scope = true ↔
      pushRetryScopeMatches step setup (stringField scope "head_sha" "") scope = true ∧
        stringField scope "head_sha" "" = localHead := by
  unfold pushRetryScopeMatches stringField
  cases hhead : (scope.get? "head_sha").bind Json.asStr? with
  | none => simp
  | some head =>
    simp only [Option.getD_some, Bool.and_eq_true, beq_iff_eq, Option.some.injEq]
    tauto

theorem nextRetryIndex_eq {index : Nat} (h : nextRetryIndex value = .ok index) :
    index = (value.u64? "push_retry_index").getD 0 + 1 ∧ index < 2 ^ 64 := by
  unfold nextRetryIndex at h
  dsimp only at h
  split at h
  · rename_i hsmall
    obtain rfl := Except.ok.inj h
    exact ⟨rfl, hsmall⟩
  · simp at h

/-- **The index of an execution follows the record.** -/
theorem Ledger.currentPushRetryIndex_eq {store : ArtifactStore}
    (h : Ledger validate step.binding store)
    (hbinding : validateSequenceBinding step.binding step.binding) {localHead : String}
    {index : Nat}
    (hindex : currentPushRetryIndex validate step setup localHead store =
      .ok index) :
    index = nextIndex (store.pushRecord step setup) localHead ∧ index < 2 ^ 64 := by
  unfold currentPushRetryIndex at hindex
  unfold ArtifactStore.pushRecord
  cases hfile : store.currentFile step.binding pushFamily with
  | none =>
    rw [hfile] at hindex
    obtain rfl := Except.ok.inj hindex
    unfold ArtifactStore.document
    rw [hfile]
    exact ⟨rfl, by decide⟩
  | some file =>
    rw [hfile] at hindex
    obtain ⟨value, hvalue, hread⟩ := Sql.bind_ok.mp hindex
    rw [(h.readCurrentJson_iff pushFamily_plain hbinding).mp hvalue, Option.bind_some]
    unfold pushRecordOf
    by_cases hobject : ∃ entries, value.get? "retry_scope" = some (.obj entries)
    · obtain ⟨entries, hscope⟩ := hobject
      rw [hscope] at hread ⊢
      dsimp only at hread ⊢
      by_cases hmatches : pushRetryScopeMatches step setup localHead (.obj entries) = true
      · rw [if_pos hmatches] at hread
        obtain ⟨hown, hhead⟩ := (pushRetryScopeMatches_iff _ _).mp hmatches
        rw [if_pos hown]
        obtain ⟨hnext, hsmall⟩ := nextRetryIndex_eq hread
        refine ⟨?_, hsmall⟩
        simp only [nextIndex, if_pos hhead]
        exact hnext
      · rw [if_neg hmatches] at hread
        obtain rfl := Except.ok.inj hread
        refine ⟨?_, by decide⟩
        split
        · rename_i hown
          have hhead : stringField (.obj entries) "head_sha" "" ≠ localHead := fun hhead =>
            hmatches ((pushRetryScopeMatches_iff _ _).mpr ⟨hown, hhead⟩)
          simp only [nextIndex, if_neg hhead]
        · rfl
    · generalize value.get? "retry_scope" = scope at hread hobject ⊢
      rcases scope with _ | (_ | _ | _ | _ | _ | entries)
      case some.obj => exact absurd ⟨entries, rfl⟩ hobject
      all_goals
        obtain rfl := Except.ok.inj hread
        exact ⟨rfl, by decide⟩

/-- The plan and the result have their numbers. -/
structure NumberedSetup (setup : PushRunSetup) : Prop where
  plan : setup.plan.get? "artifact_sequence" = some (artifactSequenceOf setup.plan)
  result : setup.result.get? "artifact_sequence" = some (artifactSequenceOf setup.result)

theorem pushRetryScopeMatches_written (hnumbered : NumberedSetup setup) (head : String) :
    pushRetryScopeMatches step setup head (.obj (("head_sha", .str head) ::
      retryScopeOf step setup)) = true := by
  generalize hscope : Json.obj (("head_sha", .str head) :: retryScopeOf step setup) = scope
  have hrun : scope.get? "run_id" = some (.str step.binding.runId) := hscope ▸ rfl
  have howner : scope.get? "repository_owner" = some (.str step.binding.repositoryOwner) :=
    hscope ▸ rfl
  have hname : scope.get? "repository_name" = some (.str step.binding.repositoryName) :=
    hscope ▸ rfl
  have hpr : scope.u64? "pr_number" = some step.binding.prNumber.toNat :=
    u64?_of_get? (hscope ▸ rfl) step.binding.prNumber.toNat_lt
  have hhead : scope.get? "head_sha" = some (.str head) := hscope ▸ rfl
  have hremote : scope.get? "remote_ref" = some (.str step.remoteRef) := hscope ▸ rfl
  have hplan : scope.get? "plan_artifact_sequence" = some (artifactSequenceOf setup.plan) :=
    hscope ▸ rfl
  have hresult : scope.get? "remediation_result_artifact_sequence" =
      some (artifactSequenceOf setup.result) := hscope ▸ rfl
  unfold pushRetryScopeMatches
  rw [hrun, howner, hname, hpr, hhead, hremote, hplan, hresult, hnumbered.plan, hnumbered.result]
  simp [Json.asStr?]

/-- **What an execution writes is recorded.** -/
theorem pushRecordOf_envelope (hnumbered : NumberedSetup setup) {root : String}
    {sequence : ArtifactSequenceMetadata} {failure : Option ArtifactFailure}
    {numbered : Option (Nat × ArtifactFailure)}
    (h : envelope root (pushRequest step run setup testResult payload failure) sequence numbered =
      .ok value) (hsmall : payload.retryIndex < 2 ^ 64) :
    pushRecordOf step setup value = some payload.record := by
  have hscope : value.get? "retry_scope" = some (.obj (("head_sha",
      .str (payload.committedHeadSha.getD payload.prePushLocalHeadSha)) ::
        retryScopeOf step setup)) := by
    rw [get?_payload h (by decide)]
    rfl
  have hindex : value.u64? "push_retry_index" = some payload.retryIndex := by
    refine u64?_of_get? ?_ hsmall
    rw [get?_payload h (by decide)]
    rfl
  have hremote : value.get? "pre_push_remote_head_sha" =
      some (.str payload.prePushRemoteHeadSha) := by
    rw [get?_payload h (by decide)]
    rfl
  have hstate : value.get? "push_state" = some (.str payload.pushState) := by
    rw [get?_payload h (by decide)]
    rfl
  unfold pushRecordOf stringField
  rw [hscope, hindex, hremote, hstate]
  exact if_pos (pushRetryScopeMatches_written hnumbered _)

end Record

end Luther
