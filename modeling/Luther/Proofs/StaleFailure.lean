/-
Where a run with a failure on record is resumed.

The record names the checkpoint of the step that failed.  While the cleanup is unfinished, or has
left its one recovery, the run goes on from that checkpoint if it is still kept, and otherwise from
where any run goes on.  But the checkpoint is looked up as the target of a rewind is, and there a
target that is not kept is an error.  So a record that the run has moved past does not fall back:
it stops the resume.
-/
import Luther.Proofs.CheckpointIdentity

namespace Luther

open Sql

/-! ### Where the run goes on -/

/-- The record is followed: its cleanup is unfinished, or has left a recovery. -/
def FailureCleanupState.isDue (metadata : RunMetadata) (failure : FailureCleanupState) : Bool :=
  !failure.cleanupSucceeded
    || (metadata.isCleanupFailureAbandonment && failure.recoveryIsAvailable)

/-- The checkpoint of the run with exactly the identity that is on record. -/
def recordedCheckpoint (cps : CheckpointTable) (runId : String) (metadata : RunMetadata) :
    Option Checkpoint :=
  metadata.failureCleanup.bind fun failure =>
    if failure.isDue metadata then
      (listCheckpoints cps runId).find? fun cp =>
        checkpointIdentity cp == failure.failedCheckpointId
    else none

/-- Where the run goes on: from the recorded checkpoint, else the newest that is resumable, else
the one before the terminal step, else the last. -/
def resumePoint (cps : CheckpointTable) (runId : String) (metadata : RunMetadata) :
    Option Checkpoint :=
  (recordedCheckpoint cps runId metadata).or <|
    (newestResumable (listCheckpoints cps runId)).or <|
      (loadCheckpointBeforeStep cps runId (metadata.currentStep.getD terminalStep)).or
        (listCheckpoints cps runId).getLast?

/-- The resume selects that checkpoint, which is one of the run's. -/
def ResumesThere (host : ContinuationHost) (cps : CheckpointTable) (request : ContinuationRequest)
    (metadata : RunMetadata) : Prop :=
  ∃ cp, selectCheckpoint host cps request metadata = .ok cp ∧ cps.Keeps request.runId cp ∧
    resumePoint cps request.runId metadata = some cp

/-- The record, if it is followed and names anything, names a step and the time that the checkpoint
of the step still has. -/
def RecordIsCurrent (host : ContinuationHost) (cps : CheckpointTable) (runId : String)
    (metadata : RunMetadata) : Prop :=
  ∀ failure, metadata.failureCleanup = some failure → failure.isDue metadata = true →
    failure.failedCheckpointId ≠ "" →
      ∃ step ts, parseCheckpointIdentityTarget host failure.failedCheckpointId = .ok (step, ts) ∧
        ∃ cp, cps.Keeps runId cp ∧ cp.stepId = step ∧ cp.timestamp = ts

/-! ### One checkpoint for each step -/

section Selection

variable {host : ContinuationHost} {cps : CheckpointTable} {runId : String} {metadata : RunMetadata}
  {failure : FailureCleanupState} {cp other : Checkpoint}

theorem CheckpointTable.Keeps.eq_of_step (hcp : cps.Keeps runId cp) (hother : cps.Keeps runId other)
    (h : cp.stepId = other.stepId) : cp = other := by
  obtain ⟨row, hrow, hrun, rfl⟩ := hcp
  obtain ⟨row', hrow', hrun', rfl⟩ := hother
  rw [Table.eq_of_clash hrow hrow' ⟨hrun.trans hrun'.symm, h⟩]

theorem step_of_parse (hreads : ∀ text t, host.parseFromRfc3339 text = .ok t → '@' ∉ text.toList)
    {step : String} {t : Timestamp}
    (h : parseCheckpointIdentityTarget host (checkpointIdentity cp) = .ok (step, t)) :
    cp.stepId = step := by
  unfold parseCheckpointIdentityTarget at h
  split at h
  · cases h
  · rename_i before ts hsplit
    obtain ⟨-, htext⟩ := splitOnce_eq_some.mp hsplit
    split at h
    · rename_i parsed hparsed
      obtain ⟨rfl, rfl⟩ := Prod.mk.inj (Except.ok.inj h)
      have hreversed := congrArg List.reverse htext
      simp only [toList_checkpointIdentity, List.reverse_append, List.reverse_cons,
        List.append_assoc, List.singleton_append] at hreversed
      have htime : '@' ∉ cp.timestamp.toRfc3339.toList.reverse := fun hmem =>
        at_notMem_toRfc3339 _ (List.mem_reverse.mp hmem)
      have hts : '@' ∉ ts.toList.reverse := fun hmem =>
        hreads _ _ hparsed (List.mem_reverse.mp hmem)
      have hstep := (Fields.append_cons_inj htime hts hreversed).2
      exact String.toList_inj.mp (List.reverse_inj.mp hstep)
    · cases h

theorem checkpointIdentity_ne_empty (cp : Checkpoint) : checkpointIdentity cp ≠ "" := by
  intro h
  have htext := congrArg String.toList h
  rw [toList_checkpointIdentity] at htext
  simp at htext

/-! ### The record -/

section

variable (hfailure : metadata.failureCleanup = some failure)

include hfailure

theorem recordedCheckpoint_of_due (hdue : failure.isDue metadata) :
    recordedCheckpoint cps runId metadata = (listCheckpoints cps runId).find? fun cp =>
      checkpointIdentity cp == failure.failedCheckpointId := by
  unfold recordedCheckpoint
  rw [hfailure, Option.bind_some, if_pos hdue]

theorem recordedCheckpoint_eq_none
    (h : ∀ cp, cps.Keeps runId cp → checkpointIdentity cp ≠ failure.failedCheckpointId) :
    recordedCheckpoint cps runId metadata = none := by
  by_cases hdue : failure.isDue metadata = true
  · rw [recordedCheckpoint_of_due hfailure hdue, List.find?_eq_none]
    intro cp hcp
    simpa using h cp (mem_listCheckpoints.mp hcp)
  · unfold recordedCheckpoint
    rw [hfailure, Option.bind_some, if_neg hdue]

theorem recordedCheckpoint_eq_some (hdue : failure.isDue metadata) (hcp : cps.Keeps runId cp)
    (hidentity : checkpointIdentity cp = failure.failedCheckpointId) :
    recordedCheckpoint cps runId metadata = some cp := by
  rw [recordedCheckpoint_of_due hfailure hdue]
  cases hfind : (listCheckpoints cps runId).find? fun cp =>
      checkpointIdentity cp == failure.failedCheckpointId with
  | none =>
    have hnone := List.find?_eq_none.mp hfind cp (mem_listCheckpoints.mpr hcp)
    exact absurd (by simpa using hidentity) hnone
  | some other =>
    have hother : checkpointIdentity other = failure.failedCheckpointId := by
      simpa using List.find?_some hfind
    have hkeeps := mem_listCheckpoints.mp (List.mem_of_find?_eq_some hfind)
    have hstep := (checkpointIdentity_inj (hother.trans hidentity.symm)).1
    rw [hkeeps.eq_of_step hcp hstep]

theorem selectFailedCleanupCheckpoint_of_not_due
    (h : ¬ (failure.isDue metadata = true ∧ failure.failedCheckpointId ≠ "")) :
    selectFailedCleanupCheckpoint host cps runId metadata = .ok none := by
  unfold selectFailedCleanupCheckpoint
  rw [hfailure]
  refine if_pos ?_
  by_cases hid : failure.failedCheckpointId = ""
  · simp [hid]
  · have hdue : failure.isDue metadata = false := by
      simpa using fun hdue => h ⟨hdue, hid⟩
    simp only [FailureCleanupState.isDue, Bool.or_eq_false_iff, Bool.not_eq_false'] at hdue
    simp [hdue.1, hdue.2]

theorem selectFailedCleanupCheckpoint_of_due
    (hdue : failure.isDue metadata) (hid : failure.failedCheckpointId ≠ "") :
    selectFailedCleanupCheckpoint host cps runId metadata =
      (selectRewindCheckpoint host cps runId (.toCheckpoint failure.failedCheckpointId)).map
        fun cp => if checkpointIdentity cp = failure.failedCheckpointId then some cp else none := by
  unfold selectFailedCleanupCheckpoint
  rw [hfailure]
  dsimp only
  rw [if_neg]
  · cases selectRewindCheckpoint host cps runId (.toCheckpoint failure.failedCheckpointId) <;> rfl
  · simp only [FailureCleanupState.isDue, Bool.or_eq_true, Bool.not_eq_true'] at hdue
    rcases hdue with hopen | havailable
    · simp [hopen, hid]
    · simp [havailable, hid]

end

/-- **A record that is current is found, or passed by.** -/
theorem selectFailedCleanupCheckpoint_eq
    (hreads : ∀ text t, host.parseFromRfc3339 text = .ok t → '@' ∉ text.toList)
    (h : RecordIsCurrent host cps runId metadata) :
    selectFailedCleanupCheckpoint host cps runId metadata =
      .ok (recordedCheckpoint cps runId metadata) := by
  cases hfailure : metadata.failureCleanup with
  | none =>
    unfold selectFailedCleanupCheckpoint recordedCheckpoint
    rw [hfailure]
    rfl
  | some failure =>
    by_cases hdue : failure.isDue metadata = true
    · by_cases hid : failure.failedCheckpointId = ""
      · rw [selectFailedCleanupCheckpoint_of_not_due hfailure (fun h => h.2 hid),
          recordedCheckpoint_eq_none hfailure]
        intro cp _ hidentity
        exact checkpointIdentity_ne_empty cp (hidentity.trans hid)
      · obtain ⟨step, ts, hparse, cp, hcp, hstep, hts⟩ := h failure hfailure hdue hid
        have hrewind : selectRewindCheckpoint host cps runId
            (.toCheckpoint failure.failedCheckpointId) = .ok cp := by
          obtain ⟨row, hrow, hrun, rfl⟩ := hcp
          exact selectRewindCheckpoint_ok.mpr ⟨step, ts, hparse, row, hrow,
            CheckpointRow.isStep_iff.mpr ⟨hrun, hstep⟩, hts, rfl⟩
        rw [selectFailedCleanupCheckpoint_of_due hfailure hdue hid, hrewind]
        by_cases hidentity : checkpointIdentity cp = failure.failedCheckpointId
        · rw [recordedCheckpoint_eq_some hfailure hdue hcp hidentity]
          exact congrArg Except.ok (if_pos hidentity)
        · -- The time is the checkpoint's, but is written in another way.
          rw [recordedCheckpoint_eq_none hfailure]
          · exact congrArg Except.ok (if_neg hidentity)
          · intro other hother hnamed
            rw [← hnamed] at hparse
            have hsame := hother.eq_of_step hcp ((step_of_parse hreads hparse).trans hstep.symm)
            exact hidentity (hsame ▸ hnamed)
    · rw [selectFailedCleanupCheckpoint_of_not_due hfailure (fun h => hdue h.1)]
      unfold recordedCheckpoint
      rw [hfailure, Option.bind_some, if_neg hdue]

/-! ### The resume -/

theorem getLast?_isSome (h : ∃ cp, cps.Keeps runId cp) :
    ∃ last, (listCheckpoints cps runId).getLast? = some last := by
  obtain ⟨cp, hcp⟩ := h
  refine Option.ne_none_iff_exists'.mp ?_
  rw [ne_eq, List.getLast?_eq_none_iff]
  exact List.ne_nil_of_mem (mem_listCheckpoints.mpr hcp)

theorem exists_resumePoint (h : ∃ cp, cps.Keeps runId cp) (metadata : RunMetadata) :
    ∃ cp, resumePoint cps runId metadata = some cp := by
  obtain ⟨last, hlast⟩ := getLast?_isSome h
  unfold resumePoint
  rw [hlast]
  cases recordedCheckpoint cps runId metadata <;>
    cases newestResumable (listCheckpoints cps runId) <;>
      cases loadCheckpointBeforeStep cps runId (metadata.currentStep.getD terminalStep) <;> simp

/-- **A run with a checkpoint is resumed where it is to go on exactly if its record is current.** -/
theorem resume_follows_record_iff {request : ContinuationRequest} (hkind : request.kind = .resume)
    (hreads : ∀ text t, host.parseFromRfc3339 text = .ok t → '@' ∉ text.toList)
    (hstored : ∃ cp, cps.Keeps request.runId cp) (metadata : RunMetadata) :
    ResumesThere host cps request metadata ↔ RecordIsCurrent host cps request.runId metadata := by
  have hresume : selectCheckpoint host cps request metadata =
      selectResumeCheckpoint host cps request.runId metadata := by
    unfold selectCheckpoint
    rw [hkind]
  constructor
  · rintro ⟨cp, hselect, -, -⟩ failure hfailure hdue hid
    rw [hresume] at hselect
    obtain ⟨found, hfound, -⟩ := bind_ok.mp hselect
    rw [selectFailedCleanupCheckpoint_of_due hfailure hdue hid] at hfound
    cases hrewind : selectRewindCheckpoint host cps request.runId
        (.toCheckpoint failure.failedCheckpointId) with
    | error e =>
      rw [hrewind] at hfound
      cases hfound
    | ok target =>
      obtain ⟨step, ts, hparse, row, hrow, his, hts, -⟩ := selectRewindCheckpoint_ok.mp hrewind
      obtain ⟨hrun, hstep⟩ := CheckpointRow.isStep_iff.mp his
      exact ⟨step, ts, hparse, row.toCheckpoint, ⟨row, hrow, hrun, rfl⟩, hstep, hts⟩
  · intro hcurrent
    have hselect : selectResumeCheckpoint host cps request.runId metadata =
        okOr (.noResumableCheckpoint request.runId)
          (resumePoint cps request.runId metadata) := by
      unfold selectResumeCheckpoint resumePoint
      rw [selectFailedCleanupCheckpoint_eq hreads hcurrent]
      cases recordedCheckpoint cps request.runId metadata <;> rfl
    obtain ⟨cp, hcp⟩ := exists_resumePoint hstored metadata
    have hok : selectResumeCheckpoint host cps request.runId metadata = .ok cp := by
      rw [hselect, hcp]
      rfl
    exact ⟨cp, hresume.trans hok, keeps_of_resume hok, hcp⟩

end Selection

/-! ### A step that was run again -/

theorem exactReader_at {text : String} {t : Timestamp} (h : exactReader text = .ok t) :
    '@' ∉ text.toList := by
  unfold exactReader at h
  by_cases hfound : ∃ u, FourDigitYear u ∧ u.toRfc3339 = text
  · obtain ⟨u, -, rfl⟩ := hfound
    exact at_notMem_toRfc3339 u
  · rw [dif_neg hfound] at h
    cases h

/-- A run whose step failed, and whose cleanup is unfinished; the record is of this checkpoint. -/
def failedRun (failed : Checkpoint) : RunMetadata :=
  { runId := "run-1", status := .failed, currentStep := some failed.stepId
    failureCleanup := some
      { schemaVersion := failureCleanupSchemaVersion, failedStep := failed.stepId
        failureOutcome := "fatal", failureReason := "exit status 1"
        failedCheckpointId := checkpointIdentity failed
        failedStateSnapshot := failed.stateSnapshot, cleanupStep := "cleanup"
        cleanupSucceeded := false, capturedAt := 1000, cleanupCompletedAt := none
        recoveryConsumedAt := none, ownershipDenied := false } }

def failedRunResume : ContinuationRequest := { runId := "run-1", kind := .resume, force := false }

/-- The checkpoint of the step, written once more when the step was run again. -/
def rewrittenCheckpoints : CheckpointTable :=
  saveCheckpoint { earlyCheckpoint "build" with timestamp := 2000 }
    (saveCheckpoint (earlyCheckpoint "build") Table.empty)

/-- A record of the checkpoint that is kept is followed. -/
theorem resume_follows_record_early :
    ResumesThere readingHost (saveCheckpoint (earlyCheckpoint "build") Table.empty) failedRunResume
      (failedRun (earlyCheckpoint "build")) := by
  have hkeeps : (saveCheckpoint (earlyCheckpoint "build") Table.empty).Keeps "run-1"
      (earlyCheckpoint "build").toRow.toCheckpoint :=
    ⟨_, mem_saveCheckpoint.mpr (.inl rfl), rfl, rfl⟩
  refine (resume_follows_record_iff rfl (fun _ _ => exactReader_at) ⟨_, hkeeps⟩ _).mpr ?_
  rintro failure hfailure - -
  obtain rfl := Option.some.inj hfailure
  exact ⟨"build", 1000, (parse_checkpointIdentity_iff exactReader_reads _).mpr (by decide),
    _, hkeeps, rfl, rfl⟩

theorem rewrittenCheckpoints_keeps : rewrittenCheckpoints.Keeps "run-1"
    { earlyCheckpoint "build" with timestamp := 2000 }.toRow.toCheckpoint :=
  ⟨_, mem_saveCheckpoint.mpr (.inl rfl), rfl, rfl⟩

/-- **A record of the checkpoint before it stops the resume**, although there is one to go on
from. -/
theorem resume_stopped_by_stale_record :
    (∃ cp, rewrittenCheckpoints.Keeps "run-1" cp) ∧
    (∃ cp, resumePoint rewrittenCheckpoints "run-1" (failedRun (earlyCheckpoint "build")) =
      some cp) ∧
    ∀ cp, selectCheckpoint readingHost rewrittenCheckpoints failedRunResume
      (failedRun (earlyCheckpoint "build")) ≠ .ok cp := by
  refine ⟨⟨_, rewrittenCheckpoints_keeps⟩,
    exists_resumePoint ⟨_, rewrittenCheckpoints_keeps⟩ _, ?_⟩
  intro cp hselect
  obtain ⟨found, hfound, -⟩ := bind_ok.mp hselect
  rw [selectFailedCleanupCheckpoint_of_due rfl rfl
    (checkpointIdentity_ne_empty (earlyCheckpoint "build"))] at hfound
  cases hrewind : selectRewindCheckpoint readingHost rewrittenCheckpoints "run-1"
      (.toCheckpoint (checkpointIdentity (earlyCheckpoint "build"))) with
  | error e =>
    rw [show failedRunResume.runId = "run-1" from rfl, hrewind] at hfound
    cases hfound
  | ok target =>
    obtain ⟨step, ts, hparse, row, hrow, his, hts, -⟩ := selectRewindCheckpoint_ok.mp hrewind
    rw [(parse_checkpointIdentity_iff exactReader_reads (earlyCheckpoint "build")).mpr
      (by decide)] at hparse
    obtain ⟨rfl, rfl⟩ := Prod.mk.inj (Except.ok.inj hparse)
    rcases mem_saveCheckpoint.mp hrow with rfl | ⟨-, hclash⟩
    · exact absurd hts (by decide)
    · exact hclash (CheckpointRow.isStep_iff.mp his)

end Luther
