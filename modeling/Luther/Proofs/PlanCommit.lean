/-
Where the plan of a continuation and its commit agree.

Both select the same checkpoint, and both ask whether its step may run.  But the commit
asks after it has used up the wait of the run, so a step that only the wait authorizes is
planned and not committed; and it wants that wait to be the wait of the checkpoint it
selects, which the plan does not look at.

What the plan turns away the commit turns away as well: a wait can authorize a step, and
no step needs a wait to be absent.
-/
import Luther.Proofs.WaitHandoff

namespace Luther

open Sql

variable {host : ContinuationHost} {now : Timestamp} {pid : UInt32}
  {request : ContinuationRequest} {md : RunMetadata} {db db' : RunDb} {cp : Checkpoint}

/-! ### The checkpoint that is selected is one of the run's -/

/-- The checkpoint is kept, for the run. -/
def CheckpointTable.Keeps (cps : CheckpointTable) (runId : String) (cp : Checkpoint) : Prop :=
  ∃ row ∈ cps, row.runId = runId ∧ cp = row.toCheckpoint

variable {cps : CheckpointTable} {runId : String} {leases : LeaseTable}
  {waits waits' : WaitStateTable}

theorem mem_listCheckpoints :
    cp ∈ listCheckpoints cps runId ↔ cps.Keeps runId cp := by
  unfold listCheckpoints Sorted.sort CheckpointTable.Keeps
  simp only [List.mem_map, List.mem_mergeSort, Table.mem_select, beq_iff_eq]
  constructor
  · rintro ⟨row, ⟨hrow, hrun⟩, rfl⟩
    exact ⟨row, hrow, hrun, rfl⟩
  · rintro ⟨row, hrow, hrun, rfl⟩
    exact ⟨row, ⟨hrow, hrun⟩, rfl⟩

theorem keeps_of_rewind {target : RewindTarget}
    (h : selectRewindCheckpoint host cps runId target = .ok cp) : cps.Keeps runId cp := by
  cases target with
  | toStep step =>
    obtain ⟨⟨_, _⟩, htarget, h⟩ := bind_ok.mp h
    obtain ⟨found, hfound, h⟩ := bind_ok.mp h
    rw [← (Prod.mk.inj (Except.ok.inj htarget)).2] at h
    rw [← Except.ok.inj h]
    exact mem_listCheckpoints.mp (List.mem_of_find?_eq_some (okOr_ok.mp hfound))
  | toCheckpoint id =>
    obtain ⟨step, ts, _, row, hrow, his, _, hcp⟩ := selectRewindCheckpoint_ok.mp h
    exact ⟨row, hrow, (CheckpointRow.isStep_iff.mp his).1, hcp⟩

theorem keeps_of_failedCleanup
    (h : selectFailedCleanupCheckpoint host cps runId md = .ok (some cp)) :
    cps.Keeps runId cp := by
  unfold selectFailedCleanupCheckpoint at h
  split at h
  · simp at h
  dsimp only at h
  split at h
  · simp at h
  obtain ⟨failed, hfailed, h⟩ := bind_ok.mp h
  have hsome := Except.ok.inj h
  split at hsome
  · rw [← Option.some.inj hsome]
    exact keeps_of_rewind hfailed
  · simp at hsome

theorem mem_of_loadCheckpointBeforeStep {stepId : String}
    (h : loadCheckpointBeforeStep cps runId stepId = some cp) :
    cp ∈ listCheckpoints cps runId := by
  unfold loadCheckpointBeforeStep at h
  dsimp only at h
  split at h
  · exact List.mem_of_getElem? h
  · simp at h

theorem keeps_of_resume (h : selectResumeCheckpoint host cps runId md = .ok cp) :
    cps.Keeps runId cp := by
  obtain ⟨failed, hfailed, h⟩ := bind_ok.mp h
  cases failed with
  | some found =>
    rw [← Except.ok.inj h]
    exact keeps_of_failedCleanup hfailed
  | none =>
    refine mem_listCheckpoints.mp ?_
    rcases Option.or_eq_some_iff.mp (okOr_ok.mp h) with hnewest | ⟨_, h⟩
    · exact List.mem_reverse.mp (List.mem_of_find?_eq_some hnewest)
    · rcases Option.or_eq_some_iff.mp h with hbefore | ⟨_, hlast⟩
      · exact mem_of_loadCheckpointBeforeStep hbefore
      · exact List.mem_of_getLast? hlast

/-- **Whatever is asked for, the checkpoint that is selected is one that the run has.** -/
theorem selectCheckpoint_keeps (h : selectCheckpoint host cps request md = .ok cp) :
    cps.Keeps request.runId cp := by
  unfold selectCheckpoint at h
  split at h
  · exact keeps_of_resume h
  · obtain ⟨failed, hfailed, h⟩ := bind_ok.mp h
    cases failed with
    | some found =>
      rw [← Except.ok.inj h]
      exact keeps_of_failedCleanup hfailed
    | none =>
      dsimp only at h
      split at h
      · exact mem_listCheckpoints.mp
          (List.mem_reverse.mp (List.mem_of_find?_eq_some (okOr_ok.mp h)))
      · exact keeps_of_resume h
  · exact keeps_of_rewind h

/-! ### What the plan has checked -/

/-- The plan is made: every check passes, and this is the checkpoint it selects. -/
structure Planned (host : ContinuationHost) (request : ContinuationRequest) (md : RunMetadata)
    (db : RunDb) (cp : Checkpoint) : Prop where
  ok : (validateContinuation host request db).ok = true
  selected : selectCheckpoint host db.checkpoints request md = .ok cp

theorem validateContinuation_ok (hrun : getRun db.runs request.runId = some md)
    (hselected : selectCheckpoint host db.checkpoints request md = .ok cp) :
    (validateContinuation host request db).ok = true ↔
      (checkWorkflowResolvable md).passed = true
        ∧ (checkResumableStatus host md request).passed = true
        ∧ (checkIdentityRecoverable md).passed = true ∧ (checkWorkspace host md).passed = true
        ∧ StepMayRun host db.waits md request cp := by
  have hok : (validateContinuation host request db).ok
      = (validateContinuation host request db).checks.all SafetyCheck.passed := by
    unfold validateContinuation
    dsimp only
    rw [hrun]
    rfl
  rw [hok, validateContinuation_checks hrun, hselected]
  simp [checkSelection, checkSafeStep_passed, StepMayRun, checkRunExists, pass,
    checkCheckpointExists]

/-! ### What a commit does -/

/-- What a commit has found, and what it makes of the tables. -/
structure Commits (host : ContinuationHost) (now : Timestamp) (pid : UInt32)
    (request : ContinuationRequest) (md : RunMetadata) (cp : Checkpoint) (db db' : RunDb) :
    Prop where
  run : getRun db.runs request.runId = some md
  allowed : reopenStatusIsAllowed md request = true
  lease : acquireContinuationLease now md request db.leases = .ok db'.leases
  quiet : ensureNothingIsLive host md request = .ok ()
  selected : selectCheckpoint host db.checkpoints request md = .ok cp
  wait : consumeWait request cp db.waits = .ok db'.waits
  /-- By the waits that are left. -/
  mayRun : StepMayRun host db'.waits md request cp
  stamped : setResumePoint now request.runId cp.stepId db.checkpoints = .ok (now, db'.checkpoints)
  runs : db'.runs = persistRun (reopenedRun now pid cp.stepId
    (rearmedRun (checkpointIdentity cp) (identityText cp.stepId now) md)) db.runs

theorem ensureReopenClaimIsAvailable_ok {leases' : LeaseTable} :
    ensureReopenClaimIsAvailable host now md request leases = .ok leases' ↔
      reopenStatusIsAllowed md request = true
        ∧ acquireContinuationLease now md request leases = .ok leases'
        ∧ ensureNothingIsLive host md request = .ok () := by
  unfold ensureReopenClaimIsAvailable
  cases hallowed : reopenStatusIsAllowed md request with
  | false => simp
  | true =>
    simp only [Bool.not_true, Bool.false_eq_true, if_false, true_and]
    constructor
    · intro h
      obtain ⟨acquired, hacquired, h⟩ := bind_ok.mp h
      obtain ⟨_, hquiet, h⟩ := bind_ok.mp h
      rw [← Except.ok.inj h]
      exact ⟨hacquired, hquiet⟩
    · rintro ⟨hacquired, hquiet⟩
      exact bind_ok.mpr ⟨_, hacquired, bind_ok.mpr ⟨_, hquiet, rfl⟩⟩

/-- **A commit goes through exactly when every guard passes.** -/
theorem commitContinuation_ok {identity : String} {committed : RunMetadata} :
    commitContinuation host now pid request identity db = (.ok committed, db') ↔
      ∃ md cp, Commits host now pid request md cp db db' ∧ checkpointIdentity cp = identity
        ∧ committed = reopenedRun now pid cp.stepId
            (rearmedRun (checkpointIdentity cp) (identityText cp.stepId now) md) := by
  unfold commitContinuation
  rw [atomically_ok]
  unfold commitContinuationInTransaction
  constructor
  · intro h
    obtain ⟨md, hrun, h⟩ := bind_ok.mp h
    obtain ⟨leases, hclaim, h⟩ := bind_ok.mp h
    obtain ⟨cp, hselected, h⟩ := bind_ok.mp h
    obtain ⟨hallowed, hlease, hquiet⟩ := ensureReopenClaimIsAvailable_ok.mp hclaim
    dsimp only at h
    split at h
    · simp at h
    rename_i hbound
    obtain ⟨waits, hwait, h⟩ := bind_ok.mp h
    split at h
    · simp at h
    rename_i hsafe
    obtain ⟨⟨stamp, cps⟩, hstamped, h⟩ := bind_ok.mp h
    have hstamp : stamp = now := (setResumePoint_ok.mp (mapError_ok.mp hstamped)).2.1
    simp only [Except.ok.injEq, Prod.mk.injEq] at h
    obtain ⟨hcommitted, rfl⟩ := h
    rw [hstamp] at hstamped hcommitted
    have hidentity : checkpointIdentity cp = identity := not_not.mp hbound
    refine ⟨md, cp, ⟨okOr_ok.mp hrun, hallowed, hlease, hquiet, hselected, hwait, ?_,
      mapError_ok.mp hstamped, ?_⟩, hidentity, hcommitted.symm⟩
    · rw [Bool.not_eq_true, Bool.not_eq_false', checkSafeStep_passed] at hsafe
      exact Bool.or_eq_true _ _ |>.mp hsafe
    · rw [hstamp]
      rfl
  · rintro ⟨md, cp, h, hidentity, rfl⟩
    have hsafe : (checkSafeStep cp.stepId request.force
        (checkpointIsAuthorized host db'.waits md request cp)).passed = true := by
      rw [checkSafeStep_passed]
      exact (Bool.or_eq_true _ _).mpr h.mayRun
    refine bind_ok.mpr ⟨md, okOr_ok.mpr h.run, bind_ok.mpr ⟨db'.leases,
      ensureReopenClaimIsAvailable_ok.mpr ⟨h.allowed, h.lease, h.quiet⟩,
      bind_ok.mpr ⟨cp, h.selected, ?_⟩⟩⟩
    simp only [hidentity, ne_eq, not_true_eq_false, if_false]
    refine bind_ok.mpr ⟨db'.waits, h.wait, ?_⟩
    rw [hsafe]
    simp only [Bool.not_true, Bool.false_eq_true, if_false]
    refine bind_ok.mpr ⟨(now, db'.checkpoints), mapError_ok.mpr h.stamped, ?_⟩
    have hruns := h.runs
    rw [hidentity] at hruns
    exact congrArg (fun runs => Except.ok (_, RunDb.mk db'.checkpoints runs db'.waits db'.leases))
      hruns.symm

theorem commitContinuation_error {identity : String} {e : ContinuationError}
    (h : commitContinuation host now pid request identity db = (.error e, db')) : db' = db :=
  atomically_error h

/-! ### The run is there to be taken over -/

/-- The lease of the run's issue, when it has one, is the run's and may be taken over. -/
def OwnsIssueLease (md : RunMetadata) (runId : String) (leases : LeaseTable) : Prop :=
  ∀ repository issueNumber, md.repository = some repository →
    md.issueLeaseNumber = some issueNumber →
    ∃ lease, getLeaseForIssue leases repository issueNumber = .ok (some lease)
      ∧ lease.runId = some runId ∧ lease.status ∈ acquirableStatuses

/-- The run is not running, no process of it is alive, and its lease is its own. -/
structure Continuable (host : ContinuationHost) (request : ContinuationRequest)
    (md : RunMetadata) (db : RunDb) : Prop where
  run : getRun db.runs request.runId = some md
  notRunning : md.status ≠ .running
  noWorkflow : md.liveWorkflowPid host.isPidStale = none
  noChild : md.liveChildPid host.isPidStale = none
  lease : OwnsIssueLease md request.runId db.leases

def LeaseNamesRun (md : RunMetadata) (runId : String) : Prop :=
  md.repository ≠ none → md.issueLeaseNumber ≠ none → runId ≠ ""

theorem getLeaseForIssue_mem {repository : String} {issueNumber : UInt64} {lease : IssueLease}
    (h : getLeaseForIssue leases repository issueNumber = .ok (some lease)) :
    lease ∈ leases := by
  obtain ⟨_, _, h⟩ := bind_ok.mp h
  exact (Table.find?_some (Except.ok.inj h)).1

theorem updateLeaseStatusConditional_applied {leaseId newRunId : String} {status : LeaseStatus}
    {expected : List LeaseStatus} (hname : newRunId ≠ "") (hexpected : expected ≠ [])
    (hmovable : ∃ row ∈ leases, movable (· == some runId) leaseId expected row = true) :
    ∃ leases', updateLeaseStatusConditional now leaseId status expected (some newRunId)
      (some runId) leases = .ok (true, leases') := by
  cases hmove : updateLeaseStatusConditional now leaseId status expected (some newRunId)
      (some runId) leases with
  | error e =>
    unfold updateLeaseStatusConditional conditionalTransition at hmove
    rw [if_neg (by simpa using hname), if_neg hexpected] at hmove
    simp at hmove
  | ok moved =>
    obtain ⟨applied, leases'⟩ := moved
    rw [(updateLeaseStatusConditional_ok hmove).2.mpr hmovable]
    exact ⟨leases', rfl⟩

theorem acquireContinuationLease_iff (howns : OwnsIssueLease md request.runId leases) :
    (∃ leases', acquireContinuationLease now md request leases = .ok leases') ↔
      LeaseNamesRun md request.runId := by
  unfold acquireContinuationLease LeaseNamesRun
  cases hrepository : md.repository with
  | none => simp
  | some repository =>
    cases hissue : md.issueLeaseNumber with
    | none => simp
    | some issueNumber =>
      obtain ⟨lease, hlease, howner, hstatus⟩ := howns repository issueNumber hrepository hissue
      simp only [hlease, howner, mapStatement, Except.mapError, bind, Except.bind, ne_eq,
        not_true_eq_false, if_false, reduceCtorEq, not_false_eq_true, true_imp_iff]
      by_cases hname : request.runId = ""
      · simp [updateLeaseStatusConditional, conditionalTransition, hname]
      · have hmove : ∀ target, ∃ leases', updateLeaseStatusConditional now lease.leaseId target
            acquirableStatuses (some request.runId) (some request.runId) leases
              = .ok (true, leases') := by
          intro target
          refine updateLeaseStatusConditional_applied hname (by simp [acquirableStatuses])
            ⟨lease, getLeaseForIssue_mem hlease, ?_⟩
          simp [movable, howner, hstatus]
        obtain ⟨running, hrunning⟩ := hmove .running
        obtain ⟨ready, hready⟩ := hmove .readyToResume
        simp only [hname, not_false_eq_true, iff_true]
        cases request.kind with
        | resume | retry fromFailedStep => exact ⟨running, by simp [hrunning]⟩
        | rewind target => exact ⟨ready, by simp [hready]⟩

theorem Continuable.quiet (h : Continuable host request md db)
    (hworkspace : (checkWorkspace host md).passed) :
    ensureNothingIsLive host md request = .ok () := by
  unfold ensureNothingIsLive
  simp only [h.notRunning, if_false, h.noChild]
  unfold checkWorkspace at hworkspace
  split
  · rename_i habandoned
    cases hpath : md.workspacePath with
    | none => simp [hpath, habandoned, fail] at hworkspace
    | some path =>
      simp only [hpath, habandoned, if_true] at hworkspace
      simp [hworkspace]
  · rfl

theorem Continuable.allowed (h : Continuable host request md db)
    (hstatus : (checkResumableStatus host md request).passed) :
    reopenStatusIsAllowed md request = true := by
  rw [checkResumableStatus_passed] at hstatus
  unfold reopenStatusIsAllowed
  have hrunning : runningClaimIsAvailable host md = false := by
    simp [runningClaimIsAvailable, h.notRunning]
  rw [hrunning, Bool.or_false] at hstatus
  simp only [Bool.and_eq_true, Bool.or_eq_true] at hstatus ⊢
  obtain ⟨hallowed, hresumable | hcleanup⟩ := hstatus
  · exact ⟨hallowed, Or.inl (Or.inl hresumable)⟩
  · exact ⟨hallowed, Or.inr hcleanup⟩

/-! ### The wait that is used up -/

theorem consumeWait_ok :
    consumeWait request cp waits = .ok waits' ↔
      if request.kind.isResume = false then waits' = waits
      else match getWaitState waits request.runId with
        | none => waits' = waits
        | some wait => wait.checkpointId = checkpointIdentity cp ∧ wait.resumeStep = cp.stepId
            ∧ waits' = waits.delete
                (WaitStateRecord.isSuspension request.runId wait.suspensionId) := by
  unfold consumeWait
  by_cases hresume : request.kind.isResume = false
  · simp [hresume, eq_comm]
  · simp only [hresume, Bool.not_eq_true']
    cases hwait : getWaitState waits request.runId with
    | none => simp [eq_comm]
    | some wait =>
      have hrow := Table.find?_some hwait
      have hwaits : 0 < waits.count
          (WaitStateRecord.isSuspension request.runId wait.suspensionId) :=
        Table.count_pos_iff.mpr ⟨wait, hrow.1,
          isSuspension_iff.mpr ⟨by simpa using hrow.2, rfl⟩⟩
      by_cases hidentity : wait.checkpointId = checkpointIdentity cp
      · by_cases hstep : wait.resumeStep = cp.stepId
        · simp [hidentity, hstep, deleteWaitStateForSuspension, hwaits, eq_comm]
        · simp [hidentity, hstep]
      · simp [hidentity]

theorem getWaitState_none_of_consumeWait (hresume : request.kind.isResume)
    (h : consumeWait request cp waits = .ok waits') :
    getWaitState waits' request.runId = none := by
  have hused := consumeWait_ok.mp h
  rw [if_neg (by simp [hresume])] at hused
  cases hwait : getWaitState waits request.runId with
  | none =>
    rw [hwait] at hused
    rw [hused]
    exact hwait
  | some wait =>
    rw [hwait] at hused
    obtain ⟨_, _, hwaits⟩ := hused
    refine Table.find?_none.mpr fun row hrow => ?_
    by_contra hrun
    rw [hwaits] at hrow
    obtain ⟨hmem, hnot⟩ := Table.mem_delete.mp hrow
    have hrow : row.runId = request.runId := by simpa using hrun
    have hget : getWaitState waits row.runId = some row := getWaitState_of_mem hmem
    rw [hrow, hwait] at hget
    rw [isSuspension_iff.mpr ⟨hrow, by rw [Option.some.inj hget]⟩] at hnot
    simp at hnot

/-! ### The authorization, before and after -/

theorem permits_of_no_wait (hnone : getWaitState waits' request.runId = none)
    (h : (ResumeAuthorization.forResume host waits' md request cp).permitsNonSafeRerun cp) :
    (ResumeAuthorization.forResume host waits md request cp).permitsNonSafeRerun cp = true := by
  unfold ResumeAuthorization.forResume at h ⊢
  rw [hnone] at h
  simp only [Option.any_none, Bool.false_eq_true, if_false] at h ⊢
  split at h
  · simp [ResumeAuthorization.permitsNonSafeRerun] at h
  rename_i hresume
  rw [if_neg hresume]
  split at h
  · rename_i hcurrent
    rw [if_pos hcurrent]
    exact h
  rename_i hcurrent
  rw [if_neg hcurrent]
  split at h
  · rename_i hcommitted
    rw [if_pos hcommitted]
    exact h
  · simp [ResumeAuthorization.permitsNonSafeRerun] at h

/-- **A wait can authorize a step, and takes no authorization away.** -/
theorem StepMayRun.of_no_wait (hnone : getWaitState waits' request.runId = none)
    (h : StepMayRun host waits' md request cp) : StepMayRun host waits md request cp := by
  unfold StepMayRun checkpointIsAuthorized at h ⊢
  simp only [Bool.and_eq_true, Bool.or_eq_true] at h ⊢
  exact h.imp_right fun hauthorized =>
    ⟨hauthorized.1, hauthorized.2.imp_right (permits_of_no_wait hnone)⟩

theorem stepMayRun_of_not_resume (hresume : request.kind.isResume = false) :
    StepMayRun host waits' md request cp ↔ StepMayRun host waits md request cp := by
  unfold StepMayRun checkpointIsAuthorized ResumeAuthorization.forResume
  simp [hresume]

theorem StepMayRun.of_consumeWait (hwait : consumeWait request cp waits = .ok waits')
    (h : StepMayRun host waits' md request cp) : StepMayRun host waits md request cp := by
  cases hresume : request.kind.isResume with
  | false => exact (stepMayRun_of_not_resume hresume).mp h
  | true => exact h.of_no_wait (getWaitState_none_of_consumeWait hresume hwait)

/-- The step of the checkpoint may run by something other than a wait row: it is safe, or the
cleanup of a failure is about it, or the run waits at it, or a continuation of the run that
failed was committed at it. -/
def MayRunWithoutWait (md : RunMetadata) (cp : Checkpoint) : Prop :=
  isSafeRerunStep cp.stepId = true ∨ CleanupCovers md cp
    ∨ md.currentStep = some cp.stepId
      ∧ (md.status = .waitingExternal ∧ cp.stateSnapshot.status = checkpointStatusWaiting
        ∨ md.status = .failed ∧ cp.stateSnapshot.status = checkpointStatusReadyToResume
          ∧ md.continuationRearmCheckpointId = some (checkpointIdentity cp))

/-- **Without a wait row, that is what authorizes a resume.** -/
theorem stepMayRun_without_wait (h : Continuable host request md db)
    (hresume : request.kind.isResume) (hallowed : md.isOwnershipDeniedTerminal = false)
    (hresumable : md.status.isResumable) (hcp : cp.runId = request.runId)
    (hnone : getWaitState waits request.runId = none) :
    StepMayRun host waits md request cp ↔ MayRunWithoutWait md cp := by
  have hrunning : (md.status == RunStatus.running) = false := by simp [h.notRunning]
  have habandoned : md.isCleanupFailureAbandonment = false := by
    unfold RunMetadata.isCleanupFailureAbandonment
    by_cases hstatus : md.status = .abandoned
    · rw [hstatus] at hresumable
      exact absurd hresumable (by decide)
    · simp [hstatus]
  have hcleanup : authorizesCleanupResume md request cp = true ↔ CleanupCovers md cp := by
    unfold authorizesCleanupResume CleanupCovers
    rw [hallowed, hresume, hrunning]
    cases md.failureCleanup with
    | none => simp
    | some failure => simp
  have hpermits : (ResumeAuthorization.forResume host waits md request cp).permitsNonSafeRerun cp
      = true ↔ md.currentStep = some cp.stepId
      ∧ (md.status = .waitingExternal ∧ cp.stateSnapshot.status = checkpointStatusWaiting
        ∨ md.status = .failed ∧ cp.stateSnapshot.status = checkpointStatusReadyToResume
          ∧ md.continuationRearmCheckpointId = some (checkpointIdentity cp)) := by
    unfold ResumeAuthorization.forResume
    rw [hnone, hresume, hrunning, h.noWorkflow, h.noChild]
    by_cases hstep : md.currentStep = some cp.stepId
    · by_cases hwaiting : md.status = .waitingExternal
      · by_cases hcheckpoint : cp.stateSnapshot.status = checkpointStatusWaiting
        · simp [hstep, hwaiting, hcheckpoint, ResumeAuthorization.permitsNonSafeRerun, hcp]
        · simp [hstep, hwaiting, hcheckpoint, ResumeAuthorization.permitsNonSafeRerun]
      · by_cases hfailed : md.status = .failed ∧ cp.stateSnapshot.status
            = checkpointStatusReadyToResume
            ∧ md.continuationRearmCheckpointId = some (checkpointIdentity cp)
        · simp [hstep, hfailed.1, hfailed.2.1, hfailed.2.2,
            ResumeAuthorization.permitsNonSafeRerun, hcp]
        · have hguard : ¬ ((md.status = .failed ∧ cp.stateSnapshot.status
              = checkpointStatusReadyToResume)
              ∧ md.continuationRearmCheckpointId = some (checkpointIdentity cp)) :=
            fun hall => hfailed ⟨hall.1.1, hall.1.2, hall.2⟩
          simp [hstep, hwaiting, hfailed, hguard, ResumeAuthorization.permitsNonSafeRerun]
    · simp [hstep, ResumeAuthorization.permitsNonSafeRerun]
  have hauthorized : checkpointIsAuthorized host waits md request cp = true ↔
      authorizesCleanupResume md request cp = true
        ∨ (ResumeAuthorization.forResume host waits md request cp).permitsNonSafeRerun cp
            = true := by
    unfold checkpointIsAuthorized
    rw [hallowed, habandoned]
    cases md.failureCleanup with
    | none => simp
    | some failure => simp
  unfold StepMayRun MayRunWithoutWait
  rw [hauthorized, hcleanup, hpermits]

/-! ### The agreement -/

/-- The commit does what was planned: it succeeds, its step has the newest checkpoint, and the
run is running again at that step. -/
def CommittedAsPlanned (host : ContinuationHost) (now : Timestamp) (pid : UInt32)
    (request : ContinuationRequest) (db : RunDb) (cp : Checkpoint) : Prop :=
  ∃ committed db', commitContinuation host now pid request (checkpointIdentity cp) db
      = (.ok committed, db')
    ∧ CheckpointIsNewest db'.checkpoints request.runId cp.stepId
    ∧ getRun db'.runs request.runId = some committed ∧ committed.status = .running
    ∧ committed.currentStep = some cp.stepId

def PlanAndCommitAgree (host : ContinuationHost) (now : Timestamp) (pid : UInt32)
    (request : ContinuationRequest) (md : RunMetadata) (db : RunDb) : Prop :=
  (∀ cp, Planned host request md db cp → CommittedAsPlanned host now pid request db cp)
    ∧ ((validateContinuation host request db).Fails "safe_step" → ∀ identity, ∃ e,
        commitContinuation host now pid request identity db = (.error e, db))

/-- What the commit asks beyond the plan. -/
structure CommitFollows (now : Timestamp) (request : ContinuationRequest) (md : RunMetadata)
    (db : RunDb) (cp : Checkpoint) : Prop where
  named : LeaseNamesRun md request.runId
  /-- A wait that a resume meets is the checkpoint's own, and is not what authorizes it. -/
  wait : request.kind = .resume → ∀ wait, getWaitState db.waits request.runId = some wait →
    wait.checkpointId = checkpointIdentity cp ∧ wait.resumeStep = cp.stepId
      ∧ MayRunWithoutWait md cp
  clock : ∀ row ∈ db.checkpoints, row.runId = request.runId → row.stepId ≠ cp.stepId →
    row.timestamp < now

theorem getRun_persistRun (metadata : RunMetadata) (runs : RunTable) :
    getRun (persistRun metadata runs) metadata.runId = some metadata := by
  refine getRun_of_mem ((Table.mem_upsert (fun row => ?_) ?_).mpr (Or.inl rfl))
  · simp [RunMetadata.isRun, RunMetadata.Clash]
  · rintro row (hrun : row.runId = metadata.runId)
    rw [hrun]

theorem reopenedRun_columns (now : Timestamp) (pid : UInt32) (stepId : String)
    (md : RunMetadata) :
    (reopenedRun now pid stepId md).runId = md.runId
      ∧ (reopenedRun now pid stepId md).status = .running
      ∧ (reopenedRun now pid stepId md).currentStep = some stepId := by
  unfold reopenedRun
  dsimp only
  split
  all_goals
    split
    · exact ⟨rfl, rfl, rfl⟩
    · exact ⟨rfl, rfl, rfl⟩

theorem commits_iff (h : Continuable host request md db) (hplan : Planned host request md db cp) :
    (∃ db', Commits host now pid request md cp db db') ↔
      LeaseNamesRun md request.runId
        ∧ ∃ waits', consumeWait request cp db.waits = .ok waits'
          ∧ StepMayRun host waits' md request cp := by
  obtain ⟨_, hstatus, _, hworkspace, _⟩ :=
    (validateContinuation_ok h.run hplan.selected).mp hplan.ok
  rw [← acquireContinuationLease_iff h.lease]
  constructor
  · rintro ⟨db', hcommits⟩
    exact ⟨⟨db'.leases, hcommits.lease⟩, db'.waits, hcommits.wait, hcommits.mayRun⟩
  · rintro ⟨⟨leases', hlease⟩, waits', hwait, hmay⟩
    obtain ⟨row, hrow, hrun, hcp⟩ := selectCheckpoint_keeps hplan.selected
    have hstep : row.isStep request.runId cp.stepId = true :=
      CheckpointRow.isStep_iff.mpr ⟨hrun, congrArg Checkpoint.stepId hcp.symm⟩
    have hstamped : ∃ cps, setResumePoint now request.runId cp.stepId db.checkpoints
        = .ok (now, cps) := ⟨_, setResumePoint_ok.mpr ⟨⟨row, hrow, hstep⟩, rfl, rfl⟩⟩
    obtain ⟨cps, hstamped⟩ := hstamped
    exact ⟨⟨cps, _, waits', leases'⟩, h.run, h.allowed hstatus, hlease, h.quiet hworkspace,
      hplan.selected, hwait, hmay, hstamped, rfl⟩

theorem committedAsPlanned_iff (h : Continuable host request md db)
    (hplan : Planned host request md db cp) :
    CommittedAsPlanned host now pid request db cp ↔ CommitFollows now request md db cp := by
  obtain ⟨_, hstatus, _, _, hmay⟩ := (validateContinuation_ok h.run hplan.selected).mp hplan.ok
  obtain ⟨row, hrow, hrun, hcp⟩ := selectCheckpoint_keeps hplan.selected
  have hrunId : cp.runId = request.runId := by rw [hcp, ← hrun]; rfl
  have hmd : md.runId = request.runId := (getRun_some h.run).2
  have hstep : ∃ row ∈ db.checkpoints, row.isStep request.runId cp.stepId = true :=
    ⟨row, hrow, CheckpointRow.isStep_iff.mpr ⟨hrun, congrArg Checkpoint.stepId hcp.symm⟩⟩
  have hnewest : ∀ {db' : RunDb}, Commits host now pid request md cp db db' →
      (CheckpointIsNewest db'.checkpoints request.runId cp.stepId ↔
        ∀ row ∈ db.checkpoints, row.runId = request.runId → row.stepId ≠ cp.stepId →
          row.timestamp < now) := by
    intro db' hcommits
    refine newest_of_rearmed ?_ hstep
    rw [(setResumePoint_ok.mp hcommits.stamped).2.2]
    rfl
  have hauthorized : ∀ {waits' : WaitStateTable}, request.kind.isResume = true →
      getWaitState waits' request.runId = none →
      (StepMayRun host waits' md request cp ↔ MayRunWithoutWait md cp) := by
    intro waits' hresume hnone
    rw [checkResumableStatus_passed] at hstatus
    have hkind : request.kind = .resume := by simpa [ContinuationKind.isResume] using hresume
    simp only [cleanupRecovery, hkind, ContinuationKind.isRetryOrRewind, runningClaimIsAvailable,
      beq_eq_false_iff_ne.mpr h.notRunning, Bool.and_false, Bool.false_and, Bool.or_false,
      Bool.and_eq_true, Bool.not_eq_true'] at hstatus
    exact stepMayRun_without_wait h hresume hstatus.1 hstatus.2 hrunId hnone
  constructor
  · rintro ⟨committed, db', hcommit, hfirst, _⟩
    obtain ⟨md', cp', hcommits, _, _⟩ := commitContinuation_ok.mp hcommit
    have hsame : md' = md := Option.some.inj (hcommits.run.symm.trans h.run)
    rw [hsame] at hcommits
    have hsame : cp' = cp := Except.ok.inj (hcommits.selected.symm.trans hplan.selected)
    rw [hsame] at hcommits
    refine ⟨((commits_iff h hplan).mp ⟨db', hcommits⟩).1, ?_, (hnewest hcommits).mp hfirst⟩
    intro hkind wait hwait
    have hresume : request.kind.isResume = true := by simp [hkind, ContinuationKind.isResume]
    have hused := consumeWait_ok.mp hcommits.wait
    rw [if_neg (by simp [hresume]), hwait] at hused
    exact ⟨hused.1, hused.2.1, (hauthorized hresume
      (getWaitState_none_of_consumeWait hresume hcommits.wait)).mp hcommits.mayRun⟩
  · intro hfollows
    have hwait : ∃ waits', consumeWait request cp db.waits = .ok waits'
        ∧ StepMayRun host waits' md request cp := by
      by_cases hresume : request.kind.isResume = true
      · have hkind : request.kind = .resume := by simpa [ContinuationKind.isResume] using hresume
        cases hget : getWaitState db.waits request.runId with
        | none =>
          refine ⟨db.waits, consumeWait_ok.mpr ?_, hmay⟩
          rw [if_neg (by simp [hresume]), hget]
        | some wait =>
          obtain ⟨hidentity, hresumeStep, hwithout⟩ := hfollows.wait hkind wait hget
          have hused : consumeWait request cp db.waits = .ok (db.waits.delete
              (WaitStateRecord.isSuspension request.runId wait.suspensionId)) := by
            refine consumeWait_ok.mpr ?_
            rw [if_neg (by simp [hresume]), hget]
            exact ⟨hidentity, hresumeStep, rfl⟩
          exact ⟨_, hused, (hauthorized hresume
            (getWaitState_none_of_consumeWait hresume hused)).mpr hwithout⟩
      · refine ⟨db.waits, consumeWait_ok.mpr ?_, hmay⟩
        rw [if_pos (by simpa using hresume)]
    have hgo : ∃ db', Commits host now pid request md cp db db' :=
      (commits_iff h hplan).mpr ⟨hfollows.named, hwait⟩
    obtain ⟨db', hcommits⟩ := hgo
    obtain ⟨hid, hrunning, hcurrent⟩ := reopenedRun_columns now pid cp.stepId
      (rearmedRun (checkpointIdentity cp) (identityText cp.stepId now) md)
    refine ⟨_, db', commitContinuation_ok.mpr ⟨md, cp, hcommits, rfl, rfl⟩,
      (hnewest hcommits).mpr hfollows.clock, ?_, hrunning, hcurrent⟩
    rw [hcommits.runs, ← hmd]
    have hget := getRun_persistRun (reopenedRun now pid cp.stepId
      (rearmedRun (checkpointIdentity cp) (identityText cp.stepId now) md)) db.runs
    rw [hid] at hget
    exact hget

/-- A run of the example, at a step, and the checkpoint it has there. -/
def exampleRunAt (status : RunStatus) (step : String) : RunMetadata :=
  { runId := "run-1", workflowTypeId := "issue", configId := "default", status := status,
    currentStep := some step, repository := some "o/r", issueNumber := some 7 }

/-- The run with one checkpoint, which is ready to be resumed, and the waits that are left. -/
def exampleRunAtDb (status : RunStatus) (lease : LeaseStatus) (step : String)
    (waits : WaitStateTable) : RunDb where
  checkpoints :=
    ⟨[CheckpointRow.rearmed exampleMidnight (exampleCheckpoint step exampleMidnight)],
      List.pairwise_singleton _ _⟩
  runs := ⟨[exampleRunAt status step], List.pairwise_singleton _ _⟩
  waits := waits
  leases :=
    ⟨[{ leaseId := "lease-1", issueRepo := "o/r", issueNumber := 7, configId := "default",
        runId := some "run-1", status := lease, claimedAt := 0, updatedAt := 0,
        heartbeatAt := 0 }], List.pairwise_singleton _ _⟩

/-- The checkpoint that a resume of the run selects. -/
def exampleReadyCheckpoint (step : String) : Checkpoint :=
  (CheckpointRow.rearmed exampleMidnight (exampleCheckpoint step exampleMidnight)).toCheckpoint

theorem selectCheckpoint_example (status : RunStatus) (lease : LeaseStatus) (step : String)
    (waits : WaitStateTable) (md : RunMetadata) (hclean : md.failureCleanup = none) :
    selectCheckpoint exampleHost (exampleRunAtDb status lease step waits).checkpoints
        (resumeRequest "run-1" false) md
      = .ok (exampleReadyCheckpoint step) := by
  have hlist : listCheckpoints (exampleRunAtDb status lease step waits).checkpoints "run-1"
      = [exampleReadyCheckpoint step] := by
    simp [listCheckpoints, Sorted.sort, Table.select, exampleRunAtDb, exampleCheckpoint,
      CheckpointRow.rearmed, exampleReadyCheckpoint]
  have hnewest : newestResumable [exampleReadyCheckpoint step]
      = some (exampleReadyCheckpoint step) := rfl
  unfold selectCheckpoint selectResumeCheckpoint resumeRequest
  simp [selectFailedCleanupCheckpoint, hclean, hlist, hnewest, okOr, bind, Except.bind]

theorem continuable_example {status : RunStatus} {lease : LeaseStatus} {step : String}
    (hstatus : status ≠ .running) (hlease : lease ∈ acquirableStatuses) :
    Continuable exampleHost (resumeRequest "run-1" false) (exampleRunAt status step)
      (exampleRunAtDb status lease step waits) where
  run := rfl
  notRunning := hstatus
  noWorkflow := rfl
  noChild := rfl
  lease := by
    intro repository issueNumber hrepository hissue
    have hrepository : repository = "o/r" := (Option.some.inj hrepository).symm
    have hissue : issueNumber = 7 := (Option.some.inj hissue).symm
    rw [hrepository, hissue]
    exact ⟨_, rfl, rfl, hlease⟩

end Luther
