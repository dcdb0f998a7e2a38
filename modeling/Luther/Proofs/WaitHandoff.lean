/-
When a wait that is ready can be resumed.

A poll that finds a wait ready uses the wait up, stamps the checkpoint of its step, and
hands the run over.  What authorized the step was the wait; afterwards it takes something
else to authorize it.  A run in the status `ready_to_resume` has no authorization of its
own, so what is left is a step that is safe to run again, or the cleanup of a failure that
is unfinished.

The checkpoint that a resume selects is the last of the resumable ones, so it need not be
the one that was stamped either: a checkpoint that bears a later time than the clock comes
after it.
-/
import Luther.Proofs.Continuation
import Luther.Proofs.Poller

namespace Luther

open Sql Sql.Table

variable {now : Timestamp} {record : WaitStateRecord} {db db' : RunDb} {md : RunMetadata}

/-! ### The tables after a handoff -/

theorem MovesRun.getRun {status : RunStatus} {runs runs' : RunTable}
    (h : MovesRun now record status runs runs') :
    ∃ md, Luther.getRun runs record.runId = some md ∧ md.status = .waitingExternal
      ∧ Luther.getRun runs' record.runId
        = some (md.withStatus now status (some record.resumeStep)) := by
  obtain ⟨md, hmd, hid, hstatus⟩ := h.waiting
  have hget : Luther.getRun runs md.runId = some md := getRun_of_mem hmd
  refine ⟨md, by rw [← hid, hget], hstatus, ?_⟩
  have hmoved : md.withStatus now status (some record.resumeStep) ∈ runs' := by
    refine (mem_set h.rows).mpr ⟨md, hmd, set_pos ?_⟩
    simp [RunMetadata.isRun, hid, hstatus]
  rw [← hid]
  exact getRun_of_mem hmoved

theorem HandsOff.getWaitState_none (h : HandsOff now record db db') :
    getWaitState db'.waits record.runId = none := by
  refine Table.find?_none.mpr fun row hrow => ?_
  by_contra hrun
  rw [h.waits] at hrow
  obtain ⟨hmem, hnot⟩ := mem_delete.mp hrow
  obtain ⟨wait, hwait, hid, hsuspension⟩ := h.waited
  have hsame : row = wait := by
    refine eq_of_clash hmem hwait ?_
    have hrow : row.runId = record.runId := by simpa using hrun
    exact hrow.trans hid.symm
  rw [hsame, isSuspension_iff.mpr ⟨hid, hsuspension⟩] at hnot
  simp at hnot

/-! ### The checkpoint that a resume selects -/

/-- The time of a checkpoint once the handoff has stamped the resume step. -/
def handoffTime (now : Timestamp) (resumeStep : String) (row : CheckpointRow) : Timestamp :=
  if row.stepId = resumeStep then now else row.timestamp

/-- The checkpoint is resumable once the handoff has stamped the resume step. -/
def handoffResumable (resumeStep : String) (row : CheckpointRow) : Bool :=
  row.stepId == resumeStep || isResumableCheckpointStatus row.status

def CheckpointTable.ofRun (cps : CheckpointTable) (runId : String) : List CheckpointRow :=
  cps.select fun row => row.runId == runId

/-- The last checkpoint to resume from, once the handoff has stamped the resume step. -/
structure IsLastResumable (now : Timestamp) (record : WaitStateRecord) (cps : CheckpointTable)
    (row : CheckpointRow) : Prop where
  mem : row ∈ cps.ofRun record.runId
  resumable : handoffResumable record.resumeStep row = true
  last : ∀ other ∈ cps.ofRun record.runId, handoffResumable record.resumeStep other = true →
    other ≠ row →
      Sorted.Before (handoffTime now record.resumeStep) (cps.ofRun record.runId) other row

theorem nodup_ofRun (cps : CheckpointTable) (runId : String) : (cps.ofRun runId).Nodup := by
  refine (cps.distinct.filter _).imp ?_
  rintro a b hclash rfl
  exact hclash ⟨rfl, rfl⟩

variable {cps : CheckpointTable} {row : CheckpointRow}

theorem mem_ofRun {runId : String} :
    row ∈ cps.ofRun runId ↔ row ∈ cps ∧ row.runId = runId := by
  rw [CheckpointTable.ofRun, mem_select]
  simp

/-- A checkpoint of the run as the handoff leaves it. -/
def stampedRow (now : Timestamp) (record : WaitStateRecord) (row : CheckpointRow) :
    CheckpointRow :=
  Table.set (CheckpointRow.isStep record.runId record.resumeStep) (CheckpointRow.rearmed now) row

theorem stampedRow_timestamp (h : row.runId = record.runId) :
    (stampedRow now record row).timestamp = handoffTime now record.resumeStep row := by
  unfold stampedRow Table.set handoffTime
  by_cases hstep : row.stepId = record.resumeStep
  · rw [if_pos (CheckpointRow.isStep_iff.mpr ⟨h, hstep⟩), if_pos hstep]
    rfl
  · rw [if_neg (by simp [CheckpointRow.isStep, hstep]), if_neg hstep]

theorem stampedRow_resumable (h : row.runId = record.runId) :
    isResumableCheckpointStatus (stampedRow now record row).status
      = handoffResumable record.resumeStep row := by
  unfold stampedRow Table.set handoffResumable
  by_cases hstep : row.stepId = record.resumeStep
  · rw [if_pos (CheckpointRow.isStep_iff.mpr ⟨h, hstep⟩)]
    simp [hstep, CheckpointRow.rearmed, isResumableCheckpointStatus]
  · rw [if_neg (by simp [CheckpointRow.isStep, hstep])]
    simp [hstep]

theorem stampedRow_stepId (row : CheckpointRow) :
    (stampedRow now record row).stepId = row.stepId :=
  set_column CheckpointRow.stepId (f := CheckpointRow.rearmed now) (fun _ => rfl) row

theorem stampedRow_runId (row : CheckpointRow) :
    (stampedRow now record row).runId = row.runId :=
  set_column CheckpointRow.runId (f := CheckpointRow.rearmed now) (fun _ => rfl) row

theorem isSafe_stampedRow (now : Timestamp) (record : WaitStateRecord) (row : CheckpointRow) :
    isSafeRerunStep (stampedRow now record row).toCheckpoint.stepId = isSafeRerunStep row.stepId :=
  congrArg isSafeRerunStep (stampedRow_stepId row)

theorem listCheckpoints_handoff (h : HandsOff now record db db') :
    listCheckpoints db'.checkpoints record.runId
      = (Sorted.sort (handoffTime now record.resumeStep) (db.checkpoints.ofRun record.runId)).map
          fun row => (stampedRow now record row).toCheckpoint := by
  have hselect : db'.checkpoints.select (fun row => row.runId == record.runId)
      = (db.checkpoints.ofRun record.runId).map (stampedRow now record) := by
    unfold Table.select CheckpointTable.ofRun Table.select
    rw [h.checkpoints, List.filter_map]
    refine congrArg _ (List.filter_congr fun row _ => ?_)
    show ((stampedRow now record row).runId == record.runId) = _
    rw [stampedRow_runId]
  have hsort : Sorted.sort CheckpointRow.timestamp
      ((db.checkpoints.ofRun record.runId).map (stampedRow now record))
      = (Sorted.sort (handoffTime now record.resumeStep)
          (db.checkpoints.ofRun record.runId)).map (stampedRow now record) := by
    unfold Sorted.sort
    refine (List.map_mergeSort fun a ha b hb => ?_).symm
    rw [stampedRow_timestamp (mem_ofRun.mp ha).2, stampedRow_timestamp (mem_ofRun.mp hb).2]
  unfold listCheckpoints
  rw [hselect, hsort, List.map_map]
  rfl

/-- **After the handoff there is a newest resumable checkpoint, and it is the last.** -/
theorem newestResumable_handoff (h : HandsOff now record db db') :
    ∃ row, IsLastResumable now record db.checkpoints row
      ∧ newestResumable (listCheckpoints db'.checkpoints record.runId)
        = some (stampedRow now record row).toCheckpoint := by
  have hlist := listCheckpoints_handoff h
  have hfind : newestResumable (listCheckpoints db'.checkpoints record.runId)
      = ((Sorted.sort (handoffTime now record.resumeStep)
          (db.checkpoints.ofRun record.runId)).reverse.find?
            (handoffResumable record.resumeStep)).map
          fun row => (stampedRow now record row).toCheckpoint := by
    unfold newestResumable
    rw [hlist, ← List.map_reverse, List.find?_map, ← List.head?_filter, ← List.head?_filter]
    refine congrArg (fun rows : List CheckpointRow => rows.head?.map _)
      (List.filter_congr fun row hrow => ?_)
    have hmem : row ∈ db.checkpoints.ofRun record.runId := by
      simpa [Sorted.sort] using hrow
    exact stampedRow_resumable (mem_ofRun.mp hmem).2
  obtain ⟨stamped, hstamped, his⟩ := h.checkpoint
  obtain ⟨hrun, hstep⟩ := CheckpointRow.isStep_iff.mp his
  cases hlast : (Sorted.sort (handoffTime now record.resumeStep)
      (db.checkpoints.ofRun record.runId)).reverse.find? (handoffResumable record.resumeStep) with
  | none =>
    have hmem : stamped ∈ (Sorted.sort (handoffTime now record.resumeStep)
        (db.checkpoints.ofRun record.runId)).reverse := by
      simpa [Sorted.sort] using mem_ofRun.mpr ⟨hstamped, hrun⟩
    exact absurd (by simp [handoffResumable, hstep]) (List.find?_eq_none.mp hlast stamped hmem)
  | some row =>
    rw [hlast] at hfind
    obtain ⟨hmem, hresumable, hbefore⟩ :=
      (Sorted.find?_reverse_sort (nodup_ofRun _ _)).mp hlast
    exact ⟨row, ⟨hmem, hresumable, hbefore⟩, hfind⟩

theorem IsLastResumable.unique {a b : CheckpointRow} (ha : IsLastResumable now record cps a)
    (hb : IsLastResumable now record cps b) : a = b := by
  have hfind := fun row (h : IsLastResumable now record cps row) =>
    (Sorted.find?_reverse_sort (nodup_ofRun cps record.runId)
      (p := handoffResumable record.resumeStep)).mpr ⟨h.mem, h.resumable, h.last⟩
  have hsame := (hfind a ha).symm.trans (hfind b hb)
  exact Option.some.inj hsame

/-! ### What authorizes the step -/

def resumeRequest (runId : String) (force : Bool) : ContinuationRequest :=
  { runId := runId, kind := .resume, force := force }

/-- The cleanup of a failure is unfinished, and is about this checkpoint. -/
def CleanupCovers (md : RunMetadata) (cp : Checkpoint) : Prop :=
  ∃ failure, md.failureCleanup = some failure ∧ failure.cleanupSucceeded = false
    ∧ (checkpointIdentity cp = failure.failedCheckpointId ∨ cp.stepId = failure.cleanupStep)

section

variable (host : ContinuationHost)

/-- **A run that was handed over is authorized by an unfinished cleanup, and by nothing else.** -/
theorem stepMayRun_handoff (md : RunMetadata) (force : Bool)
    (cp : Checkpoint) {waits : WaitStateTable} (hstatus : md.status = .readyToResume)
    (hwait : getWaitState waits record.runId = none)
    (hdenied : md.isOwnershipDeniedTerminal = false) :
    StepMayRun host waits md (resumeRequest record.runId force) cp ↔
      isSafeRerunStep cp.stepId = true ∨ CleanupCovers md cp := by
  have hauth : ResumeAuthorization.forResume host waits md (resumeRequest record.runId force) cp
      = .operator := by
    unfold ResumeAuthorization.forResume
    simp [resumeRequest, ContinuationKind.isResume, hstatus, hwait]
  have habandoned : md.isCleanupFailureAbandonment = false := by
    simp [RunMetadata.isCleanupFailureAbandonment, hstatus]
  unfold StepMayRun checkpointIsAuthorized authorizesCleanupResume CleanupCovers
  rw [hauth, hdenied, habandoned]
  cases hfailure : md.failureCleanup with
  | none => simp [ResumeAuthorization.permitsNonSafeRerun]
  | some failure =>
    simp [ResumeAuthorization.permitsNonSafeRerun, resumeRequest, ContinuationKind.isResume,
      hstatus]

/-- The cleanup of a failure is unfinished, and names the checkpoint that failed. -/
def FailureIsOpen (md : RunMetadata) (failure : FailureCleanupState) : Prop :=
  md.failureCleanup = some failure ∧ failure.cleanupSucceeded = false
    ∧ failure.failedCheckpointId ≠ ""

/-- What a resume of a run that was handed over selects: where the run failed, while the cleanup
is unfinished, else the newest resumable checkpoint. -/
theorem selectResume_handoff (md : RunMetadata) {runId : String}
    {newest : Checkpoint} (hstatus : md.status = .readyToResume)
    (hnewest : newestResumable (listCheckpoints cps runId) = some newest) (cp : Checkpoint) :
    selectResumeCheckpoint host cps runId md = .ok cp ↔
      (∀ failure, FailureIsOpen md failure → ∃ failed,
        selectRewindCheckpoint host cps runId (.toCheckpoint failure.failedCheckpointId)
            = .ok failed
          ∧ cp = if checkpointIdentity failed = failure.failedCheckpointId then failed
              else newest)
      ∧ ((¬ ∃ failure, FailureIsOpen md failure) → cp = newest) := by
  have habandoned : md.isCleanupFailureAbandonment = false := by
    simp [RunMetadata.isCleanupFailureAbandonment, hstatus]
  unfold selectResumeCheckpoint selectFailedCleanupCheckpoint
  by_cases hopen : ∃ failure, FailureIsOpen md failure
  · obtain ⟨failure, hfailure, hunfinished, hnamed⟩ := hopen
    have honly : ∀ other, FailureIsOpen md other → other = failure := by
      rintro other ⟨hother, _⟩
      exact Option.some.inj (hother.symm.trans hfailure)
    simp only [hfailure, habandoned, hunfinished, Bool.false_and, Bool.false_or,
      beq_eq_false_iff_ne.mpr hnamed]
    have hexists : ∃ failure, FailureIsOpen md failure := ⟨failure, hfailure, hunfinished, hnamed⟩
    cases hselect : selectRewindCheckpoint host cps runId
        (.toCheckpoint failure.failedCheckpointId) with
    | error e =>
      constructor
      · intro h
        simp [bind, Except.bind] at h
      · rintro ⟨hfailed, _⟩
        obtain ⟨failed, hok, _⟩ := hfailed failure ⟨hfailure, hunfinished, hnamed⟩
        rw [hselect] at hok
        simp at hok
    | ok failed =>
      have hanswer : (∀ other, FailureIsOpen md other → ∃ failed,
          selectRewindCheckpoint host cps runId (.toCheckpoint other.failedCheckpointId)
              = .ok failed
            ∧ cp = if checkpointIdentity failed = other.failedCheckpointId then failed
                else newest) ↔
          cp = if checkpointIdentity failed = failure.failedCheckpointId then failed
            else newest := by
        constructor
        · intro h
          obtain ⟨found, hfound, hcp⟩ := h failure ⟨hfailure, hunfinished, hnamed⟩
          rw [hselect] at hfound
          rw [Except.ok.inj hfound]
          exact hcp
        · intro hcp other hother
          rw [honly other hother]
          exact ⟨failed, hselect, hcp⟩
      rw [hanswer]
      by_cases hexact : checkpointIdentity failed = failure.failedCheckpointId
      · simp [bind, Except.bind, hexact, hexists, eq_comm]
      · simp [bind, Except.bind, hexact, hexists, hnewest, okOr, eq_comm]
  · have hnone : selectFailedCleanupCheckpoint host cps runId md = .ok none := by
      unfold selectFailedCleanupCheckpoint
      cases hfailure : md.failureCleanup with
      | none => rfl
      | some failure =>
        have hclosed : (failure.cleanupSucceeded || failure.failedCheckpointId == "") = true := by
          by_contra hnot
          simp only [Bool.or_eq_true, beq_iff_eq, not_or, Bool.not_eq_true] at hnot
          exact hopen ⟨failure, hfailure, hnot.1, hnot.2⟩
        simp [habandoned, hclosed]
    unfold selectFailedCleanupCheckpoint at hnone
    rw [hnone]
    simp only [hopen, not_false_eq_true, forall_const]
    constructor
    · intro h
      simp only [bind, Except.bind, hnewest, Option.some_or, okOr, Except.ok.injEq] at h
      exact ⟨fun failure hfailure => absurd ⟨failure, hfailure⟩ hopen, h.symm⟩
    · rintro ⟨_, rfl⟩
      simp [bind, Except.bind, hnewest, okOr]

/-! ### When the run can be resumed -/

def identityText (step : String) (ts : Timestamp) : String := s!"{step}@{ts.toRfc3339}"

/-- What the run and its checkpoints are before the handoff, when the run can be resumed after
it. -/
structure HandoffResumes (host : ContinuationHost) (now : Timestamp) (record : WaitStateRecord)
    (md : RunMetadata) (cps : CheckpointTable) : Prop where
  /-- The run was not turned away from its workspace. -/
  allowed : md.isOwnershipDeniedTerminal = false
  /-- An unfinished cleanup names a checkpoint, by the time it has after the handoff. -/
  failed : ∀ failure, FailureIsOpen md failure → ∃ step ts,
    parseCheckpointIdentityTarget host failure.failedCheckpointId = .ok (step, ts)
      ∧ ∃ row ∈ cps, row.isStep record.runId step = true
        ∧ handoffTime now record.resumeStep row = ts
  /-- The run goes on where it failed, or at a step that is safe or belongs to the cleanup. -/
  mayRun : (∃ failure step ts, FailureIsOpen md failure
      ∧ parseCheckpointIdentityTarget host failure.failedCheckpointId = .ok (step, ts)
      ∧ identityText step ts = failure.failedCheckpointId)
    ∨ ∃ row, IsLastResumable now record cps row
      ∧ (isSafeRerunStep row.stepId = true
        ∨ CleanupCovers md (stampedRow now record row).toCheckpoint)

/-- What the claimed checks of a plan are, for a resume of the run. -/
def ResumePasses (runId : String) (force : Bool) (db : RunDb) : Prop :=
  (validateContinuation host (resumeRequest runId force) db).Passes "checkpoint_exists"
    ∧ (validateContinuation host (resumeRequest runId force) db).Passes "resumable_status"
    ∧ (validateContinuation host (resumeRequest runId force) db).Passes "safe_step"

theorem selectRewind_handoff {host : ContinuationHost} {id : String} {cp : Checkpoint}
    (h : HandsOff now record db db') :
    selectRewindCheckpoint host db'.checkpoints record.runId (.toCheckpoint id) = .ok cp ↔
      ∃ step ts, parseCheckpointIdentityTarget host id = .ok (step, ts)
        ∧ ∃ row ∈ db.checkpoints, row.isStep record.runId step = true
          ∧ handoffTime now record.resumeStep row = ts
          ∧ cp = (stampedRow now record row).toCheckpoint := by
  have hcolumn : ∀ step (row : CheckpointRow),
      (stampedRow now record row).isStep record.runId step = row.isStep record.runId step := by
    intro step row
    simp only [CheckpointRow.isStep, stampedRow_runId, stampedRow_stepId]
  rw [selectRewindCheckpoint_ok]
  constructor
  · rintro ⟨step, ts, hparse, stamped, hstamped, his, hts, rfl⟩
    obtain ⟨row, hrow, rfl⟩ := (mem_set h.checkpoints).mp hstamped
    have hstep : row.isStep record.runId step = true := by rw [← hcolumn]; exact his
    refine ⟨step, ts, hparse, row, hrow, hstep, ?_, rfl⟩
    rw [← hts]
    exact (stampedRow_timestamp (CheckpointRow.isStep_iff.mp hstep).1).symm
  · rintro ⟨step, ts, hparse, row, hrow, his, hts, rfl⟩
    refine ⟨step, ts, hparse, stampedRow now record row,
      (mem_set h.checkpoints).mpr ⟨row, hrow, rfl⟩, ?_, ?_, rfl⟩
    · rw [hcolumn]
      exact his
    · rw [stampedRow_timestamp (CheckpointRow.isStep_iff.mp his).1, hts]

theorem identity_of_selected {step : String} {ts : Timestamp}
    (his : row.isStep record.runId step) (hts : handoffTime now record.resumeStep row = ts) :
    checkpointIdentity (stampedRow now record row).toCheckpoint = identityText step ts := by
  obtain ⟨hrun, hstep⟩ := CheckpointRow.isStep_iff.mp his
  show s!"{(stampedRow now record row).stepId}@{(stampedRow now record row).timestamp.toRfc3339}"
    = identityText step ts
  rw [stampedRow_stepId, stampedRow_timestamp hrun, hstep, hts]
  rfl

theorem resumePasses_handoff (force : Bool)
    (hoff : HandsOff now record db db') (hrun : getRun db.runs record.runId = some md) :
    ResumePasses host record.runId force db' ↔ HandoffResumes host now record md db.checkpoints := by
  obtain ⟨before, hbefore, _, hafter⟩ := hoff.runs.getRun
  have hmd : before = md := Option.some.inj (hbefore.symm.trans hrun)
  rw [hmd] at hafter
  have hwait := hoff.getWaitState_none
  obtain ⟨last, hlast, hnewest⟩ := newestResumable_handoff hoff
  have hselect := selectResume_handoff host
    (md.withStatus now .readyToResume (some record.resumeStep)) rfl hnewest
  obtain ⟨hstatus, hexists, hsafe⟩ :=
    passes_checks host (resumeRequest record.runId force) hafter
  have hstatus : (validateContinuation host (resumeRequest record.runId force) db').Passes
      "resumable_status" ↔ md.isOwnershipDeniedTerminal = false := by
    rw [hstatus, checkResumableStatus_passed]
    simp [RunMetadata.withStatus, RunStatus.isResumable, RunMetadata.isOwnershipDeniedTerminal]
  unfold ResumePasses
  rw [hexists, hstatus, hsafe]
  constructor
  · rintro ⟨_, hdenied, cp, hcp, hmay⟩
    have hmay := (stepMayRun_handoff host
      (md.withStatus now .readyToResume (some record.resumeStep)) force cp rfl hwait
      hdenied).mp hmay
    obtain ⟨hfailed, hnone⟩ := (hselect cp).mp hcp
    refine ⟨hdenied, ?_, ?_⟩
    · intro failure hopen
      obtain ⟨failed, hok, _⟩ := hfailed failure hopen
      obtain ⟨step, ts, hparse, row, hrow, his, hts, _⟩ := (selectRewind_handoff hoff).mp hok
      exact ⟨step, ts, hparse, row, hrow, his, hts⟩
    · by_cases hopen : ∃ failure, FailureIsOpen md failure
      · obtain ⟨failure, hopen⟩ := hopen
        obtain ⟨failed, hok, hchosen⟩ := hfailed failure hopen
        obtain ⟨step, ts, hparse, row, _, his, hts, hfrom⟩ := (selectRewind_handoff hoff).mp hok
        by_cases hexact : checkpointIdentity failed = failure.failedCheckpointId
        · refine Or.inl ⟨failure, step, ts, hopen, hparse, ?_⟩
          rw [← hexact, hfrom, identity_of_selected his hts]
        · rw [if_neg hexact] at hchosen
          rw [hchosen] at hmay
          rw [isSafe_stampedRow] at hmay
          exact Or.inr ⟨last, hlast, hmay⟩
      · rw [hnone hopen, isSafe_stampedRow] at hmay
        exact Or.inr ⟨last, hlast, hmay⟩
  · rintro ⟨hdenied, hfailed, hmay⟩
    have hgo : ∃ cp, selectCheckpoint host db'.checkpoints (resumeRequest record.runId force)
        (md.withStatus now .readyToResume (some record.resumeStep)) = .ok cp
        ∧ (isSafeRerunStep cp.stepId = true
          ∨ CleanupCovers (md.withStatus now .readyToResume (some record.resumeStep)) cp) := by
      by_cases hopen : ∃ failure, FailureIsOpen md failure
      · obtain ⟨failure, hopen⟩ := hopen
        have honly : ∀ other, FailureIsOpen md other → other = failure := by
          rintro other ⟨hother, _⟩
          exact Option.some.inj (hother.symm.trans hopen.1)
        obtain ⟨step, ts, hparse, row, hrow, his, hts⟩ := hfailed failure hopen
        have hok : selectRewindCheckpoint host db'.checkpoints record.runId
            (.toCheckpoint failure.failedCheckpointId)
              = .ok (stampedRow now record row).toCheckpoint :=
          (selectRewind_handoff hoff).mpr ⟨step, ts, hparse, row, hrow, his, hts, rfl⟩
        have hidentity := identity_of_selected his hts
        by_cases hexact : identityText step ts = failure.failedCheckpointId
        · refine ⟨_, (hselect _).mpr ⟨?_, fun hno => absurd ⟨failure, hopen⟩ hno⟩, Or.inr
            ⟨failure, hopen.1, hopen.2.1, Or.inl (hidentity.trans hexact)⟩⟩
          intro other hother
          rw [honly other hother]
          exact ⟨_, hok, by rw [if_pos (hidentity.trans hexact)]⟩
        · refine ⟨(stampedRow now record last).toCheckpoint,
            (hselect _).mpr ⟨?_, fun hno => absurd ⟨failure, hopen⟩ hno⟩, ?_⟩
          · intro other hother
            rw [honly other hother]
            exact ⟨_, hok, by rw [if_neg (by rw [hidentity]; exact hexact)]⟩
          · rcases hmay with ⟨other, step', ts', hother, hparse', hexact'⟩ | ⟨row', hrow', hsafe⟩
            · rw [honly other hother] at hparse' hexact'
              have hpair := Except.ok.inj (hparse.symm.trans hparse')
              rw [(Prod.mk.inj hpair).1, (Prod.mk.inj hpair).2] at hexact
              exact absurd hexact' hexact
            · rw [hrow'.unique hlast, ← isSafe_stampedRow now record] at hsafe
              exact hsafe
      · refine ⟨(stampedRow now record last).toCheckpoint,
          (hselect _).mpr ⟨fun failure hf => absurd ⟨failure, hf⟩ hopen, fun _ => rfl⟩, ?_⟩
        rcases hmay with ⟨other, _, _, hother, _⟩ | ⟨row', hrow', hsafe⟩
        · exact absurd ⟨other, hother⟩ hopen
        · rw [hrow'.unique hlast, ← isSafe_stampedRow now record] at hsafe
          exact hsafe
    obtain ⟨cp, hcp, hcovers⟩ := hgo
    exact ⟨⟨cp, hcp⟩, hdenied, cp, hcp, (stepMayRun_handoff host
      (md.withStatus now .readyToResume (some record.resumeStep)) force cp rfl hwait
      hdenied).mpr hcovers⟩

end

/-- **A wait that the poller declares ready can be resumed exactly when its run goes on at a
step that is safe to run again, or that the cleanup of a failure authorizes.** -/
theorem ready_wait_resumes_iff (host : ContinuationHost) (force : Bool)
    {decision : PollDecision} (hready : decision.classification = .readyToResume)
    (h : applyPollDecisionAt record decision now db = (.ok (), db'))
    (hrun : getRun db.runs record.runId = some md) :
    ResumePasses host record.runId force db' ↔ HandoffResumes host now record md db.checkpoints := by
  have happly := applyPollDecisionAt_ok h
  rw [hready] at happly
  exact resumePasses_handoff host force happly hrun

/-- A machine on which no process is left and every directory is there. -/
def exampleHost : ContinuationHost where
  isPidStale _ := true
  isSymlink _ := some false
  isDir _ := true
  verifyWorkspaceOwnership _ _ := none
  parseFromRfc3339 := exampleReader.parseFromRfc3339

def exampleReady : PollDecision where
  runId := "run-1"
  classification := .readyToResume
  nextPollAt := none
  observedState := .null

/-- The wait at the step that watches the checks of a pull request. -/
def exampleChecksWait : WaitStateRecord := { exampleWait with resumeStep := "watch_pr_checks" }

def exampleChecksDb : RunDb where
  checkpoints :=
    ⟨[exampleCheckpoint "watch_pr_checks" exampleMidnight], List.pairwise_singleton _ _⟩
  runs :=
    ⟨[{ runId := "run-1", workflowTypeId := "issue", configId := "default",
        status := .waitingExternal, currentStep := some "watch_pr_checks",
        repository := some "o/r", issueNumber := some 7 }], List.pairwise_singleton _ _⟩
  waits := ⟨[exampleChecksWait], List.pairwise_singleton _ _⟩
  leases :=
    ⟨[{ leaseId := "lease-1", issueRepo := "o/r", issueNumber := 7, configId := "default",
        runId := some "run-1", status := .waitingExternal, claimedAt := 0, updatedAt := 0,
        heartbeatAt := 0 }], List.pairwise_singleton _ _⟩

/-- The step that watches the checks is safe to run again, so the run can be resumed. -/
theorem ready_wait_resumes_checks :
    ResumePasses exampleHost "run-1" true
      (applyPollDecisionAt exampleChecksWait exampleReady (exampleMidnight + 1)
        exampleChecksDb).2 := by
  have happlied : (applyPollDecisionAt exampleChecksWait exampleReady (exampleMidnight + 1)
      exampleChecksDb).1 = .ok () := by decide +kernel
  have hwaiting : ∀ md, getRun exampleChecksDb.runs "run-1" = some md →
      md.failureCleanup = none := by
    intro md hmd
    rw [← Option.some.inj hmd]
  obtain ⟨md, hmd⟩ : ∃ md, getRun exampleChecksDb.runs "run-1" = some md := ⟨_, rfl⟩
  have hnone := hwaiting md hmd
  refine (ready_wait_resumes_iff exampleHost true rfl (Prod.ext happlied rfl) hmd).mpr ⟨?_, ?_, ?_⟩
  · simp [RunMetadata.isOwnershipDeniedTerminal, hnone]
  · rintro failure ⟨hfailure, _⟩
    simp [hnone] at hfailure
  · refine Or.inr ⟨exampleCheckpoint "watch_pr_checks" exampleMidnight, ⟨?_, rfl, ?_⟩,
      Or.inl (by decide)⟩
    · exact mem_ofRun.mpr ⟨List.mem_singleton.mpr rfl, rfl⟩
    · intro other hother _ hne
      exact absurd (List.mem_singleton.mp (mem_ofRun.mp hother).1) hne

/-- The run of the example, suspended at a step that is not safe to run again. -/
def exampleSuspendedDb : RunDb :=
  (persistExternalWait exampleMidnight exampleWait (exampleRunDb (exampleMidnight - 2))).2

/-- A run is suspended at such a step; its wait is ready, and no resume of the run passes. -/
theorem ready_wait_not_resumable :
    (persistExternalWait exampleMidnight exampleWait
        (exampleRunDb (exampleMidnight - 2))).1 = .ok ()
      ∧ (applyPollDecisionAt exampleWait exampleReady (exampleMidnight + 1)
          exampleSuspendedDb).1 = .ok ()
      ∧ ∀ force, ¬ ResumePasses exampleHost "run-1" force
          (applyPollDecisionAt exampleWait exampleReady (exampleMidnight + 1)
            exampleSuspendedDb).2 := by
  have happlied : (applyPollDecisionAt exampleWait exampleReady (exampleMidnight + 1)
      exampleSuspendedDb).1 = .ok () := by decide +kernel
  refine ⟨by decide +kernel, happlied, ?_⟩
  intro force hpasses
  have happly : applyPollDecisionAt exampleWait exampleReady (exampleMidnight + 1)
      exampleSuspendedDb = (.ok (), (applyPollDecisionAt exampleWait exampleReady
        (exampleMidnight + 1) exampleSuspendedDb).2) := Prod.ext happlied rfl
  have hoff := applyPollDecisionAt_ok happly
  obtain ⟨md, hmd⟩ : ∃ md, getRun exampleSuspendedDb.runs "run-1" = some md := ⟨_, rfl⟩
  have hclean : ((getRun exampleSuspendedDb.runs "run-1").bind
      RunMetadata.failureCleanup).isNone = true := by decide +kernel
  have hnone : md.failureCleanup = none := by simpa [hmd] using hclean
  have hunsafe : (exampleSuspendedDb.checkpoints.rows.all fun row =>
      !isSafeRerunStep row.stepId) = true := by decide +kernel
  rcases ((resumePasses_handoff exampleHost force hoff hmd).mp hpasses).mayRun with
    ⟨failure, _, _, ⟨hfailure, _⟩, _⟩ | ⟨row, hlast, hsafe⟩
  · simp [hnone] at hfailure
  · rcases hsafe with hsafe | ⟨failure, hfailure, _⟩
    · have hrow := List.all_eq_true.mp hunsafe row (mem_ofRun.mp hlast.mem).1
      simp [hsafe] at hrow
    · simp [hnone] at hfailure

end Luther
