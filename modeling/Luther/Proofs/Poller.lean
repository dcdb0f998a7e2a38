/-
What each decision of a poll does to the tables.

A decision that is applied has found its suspension waiting, its run in the status
`waiting_external`, and the lease that its record names with the run.  One that finds
something else is an error, and an error leaves the tables.
-/
import Luther.Daemon.Poller
import Luther.Proofs.ExternalWait

namespace Luther

open Sql

variable {now : Timestamp} {record : WaitStateRecord} {db db' : RunDb}

theorem isSuspension_iff {runId suspensionId : String} {row : WaitStateRecord} :
    row.isSuspension runId suspensionId = true ↔
      row.runId = runId ∧ row.suspensionId = suspensionId := by
  simp [WaitStateRecord.isSuspension]

variable {waits : WaitStateTable} {decision : PollDecision}

theorem getWaitState_of_mem {wait : WaitStateRecord} (h : wait ∈ waits) :
    getWaitState waits wait.runId = some wait := by
  refine Table.find?_eq_some_of_key (fun a b ha hb => ?_) h (by simp)
  simp only [beq_iff_eq] at ha hb
  exact ha.trans hb.symm

def RunDb.Waits (db : RunDb) (runId suspensionId : String) : Prop :=
  ∃ wait ∈ db.waits, wait.runId = runId ∧ wait.suspensionId = suspensionId

variable {waits' : WaitStateTable} {status : RunStatus} {runs runs' : RunTable}

theorem consumeSuspension_ok :
    consumeSuspension record waits = .ok waits' ↔
      (∃ wait ∈ waits, wait.isSuspension record.runId record.suspensionId = true)
        ∧ waits' = waits.delete (WaitStateRecord.isSuspension record.runId record.suspensionId) := by
  unfold consumeSuspension deleteWaitStateForSuspension
  rw [← Table.count_pos_iff]
  by_cases hwaits : 0 < waits.count (WaitStateRecord.isSuspension record.runId record.suspensionId)
  · simp [hwaits, eq_comm]
  · simp [hwaits]

theorem markRunStatus_ok {runId stepId : String} {expected : List RunStatus}
    (h : markRunStatus now runId status stepId expected runs = .ok runs') :
    (∃ md ∈ runs, md.runId = runId ∧ md.status ∈ expected)
      ∧ runs'.rows = runs.rows.map
          (Table.set (fun md => md.isRun runId && expected.contains md.status)
            (RunMetadata.withStatus now status (some stepId))) := by
  obtain ⟨hchanged, hrows⟩ :=
    updateRunStatus_rows now runId status (some stepId) expected.contains runs
  unfold markRunStatus persistRunStatusFromExpected at h
  dsimp only at h
  by_cases hwrote :
      (updateRunStatus now runId status (some stepId) expected.contains runs).1 = true
  · rw [if_pos hwrote] at h
    rw [← Except.ok.inj h]
    refine ⟨?_, hrows⟩
    obtain ⟨md, hmd, hid, hstatus⟩ := hchanged.mp hwrote
    exact ⟨md, hmd, hid, List.contains_iff_mem.mp hstatus⟩
  · rw [if_neg hwrote] at h
    cases hget : getRun (updateRunStatus now runId status (some stepId) expected.contains runs).2
        runId with
    | none | some md =>
      rw [hget] at h
      simp at h

/-- The leases as a decision leaves them: moved, when the record names one. -/
def LeaseAdvances (now : Timestamp) (record : WaitStateRecord) (status : LeaseStatus)
    (expected : List LeaseStatus) (leases leases' : LeaseTable) : Prop :=
  match record.leaseId with
  | none => leases' = leases
  | some leaseId =>
    (∃ lease ∈ leases, movable (· == some record.runId) leaseId expected lease = true)
      ∧ leases'.rows = leases.rows.map
          (Table.set (movable (· == some record.runId) leaseId expected)
            (movedLease now status none))

theorem advanceLease_ok {status : LeaseStatus} {expected : List LeaseStatus} {reason : String}
    {leases leases' : LeaseTable}
    (h : advanceLease now record status expected reason leases = .ok leases') :
    LeaseAdvances now record status expected leases leases' := by
  unfold advanceLease at h
  unfold LeaseAdvances
  cases hlease : record.leaseId with
  | none =>
    rw [hlease] at h
    exact (Except.ok.inj h).symm
  | some leaseId =>
    rw [hlease] at h
    obtain ⟨⟨applied, moved⟩, hmove, h⟩ := bind_ok.mp h
    obtain ⟨hrows, hmoved⟩ := updateLeaseStatusConditional_ok (mapError_ok.mp hmove)
    dsimp only at h
    split at h
    · rename_i happlied
      rw [← Except.ok.inj h]
      exact ⟨hmoved.mp happlied, hrows⟩
    · simp at h

/-! ### The three transactions -/

/-- What every decision that is applied has found, and what it makes of the run. -/
structure MovesRun (now : Timestamp) (record : WaitStateRecord) (status : RunStatus)
    (runs runs' : RunTable) : Prop where
  waiting : ∃ md ∈ runs, md.runId = record.runId ∧ md.status = .waitingExternal
  rows : runs'.rows = runs.rows.map
    (Table.set (fun md => md.isRun record.runId && md.status == .waitingExternal)
      (RunMetadata.withStatus now status (some record.resumeStep)))

theorem movesRun_of_markRunStatus
    (h : markRunStatus now record.runId status record.resumeStep [.waitingExternal] runs
      = .ok runs') : MovesRun now record status runs runs' := by
  obtain ⟨⟨md, hmd, hid, hstatus⟩, hrows⟩ := markRunStatus_ok h
  refine ⟨⟨md, hmd, hid, List.mem_singleton.mp hstatus⟩, ?_⟩
  rw [hrows]
  refine List.map_congr_left fun row _ => ?_
  unfold Table.set
  simp

/-- A wait that is ready: the run goes on from the step it names. -/
structure HandsOff (now : Timestamp) (record : WaitStateRecord) (db db' : RunDb) : Prop where
  waited : db.Waits record.runId record.suspensionId
  waits : db'.waits
    = db.waits.delete (WaitStateRecord.isSuspension record.runId record.suspensionId)
  checkpoint : ∃ row ∈ db.checkpoints, row.isStep record.runId record.resumeStep = true
  checkpoints : db'.checkpoints.rows = db.checkpoints.rows.map
    (Table.set (CheckpointRow.isStep record.runId record.resumeStep) (CheckpointRow.rearmed now))
  runs : MovesRun now record .readyToResume db.runs db'.runs
  leases : LeaseAdvances now record .readyToResume [.waitingExternal, .readyToResume] db.leases
    db'.leases

/-- The wait is over, and its run has failed. -/
structure FailsWait (now : Timestamp) (record : WaitStateRecord) (db db' : RunDb) : Prop where
  waited : db.Waits record.runId record.suspensionId
  waits : db'.waits
    = db.waits.delete (WaitStateRecord.isSuspension record.runId record.suspensionId)
  checkpoints : db'.checkpoints = db.checkpoints
  runs : MovesRun now record .failed db.runs db'.runs
  leases : LeaseAdvances now record .failed
    [.waitingExternal, .readyToResume, .running, .claimed] db.leases db'.leases

def refreshable (record : WaitStateRecord) (row : WaitStateRecord) : Bool :=
  row.isSuspension record.runId record.suspensionId && row.pollCount == record.pollCount

def refreshed (now : Timestamp) (record : WaitStateRecord) (decision : PollDecision)
    (row : WaitStateRecord) : WaitStateRecord :=
  { row with
    lastObservedState := decision.observedState
    nextPollAt := validatedNextPollTime record decision.nextPollAt now
    pollCount := row.pollCount + 1
    updatedAt := now }

/-- The run waits on, under a row that says when it was looked at. -/
structure KeepsWaiting (now : Timestamp) (record : WaitStateRecord) (decision : PollDecision)
    (db db' : RunDb) : Prop where
  waited : ∃ wait ∈ db.waits, refreshable record wait = true
  waits : db'.waits.rows
    = db.waits.rows.map (Table.set (refreshable record) (refreshed now record decision))
  checkpoints : db'.checkpoints = db.checkpoints
  runs : MovesRun now record .waitingExternal db.runs db'.runs
  leases : LeaseAdvances now record .waitingExternal [.waitingExternal] db.leases db'.leases

theorem waits_of_isSuspension
    (h : ∃ wait ∈ db.waits, wait.isSuspension record.runId record.suspensionId = true) :
    db.Waits record.runId record.suspensionId := by
  obtain ⟨wait, hwait, his⟩ := h
  exact ⟨wait, hwait, isSuspension_iff.mp his⟩

theorem applyReadyToResume_ok (h : applyReadyToResume now record db = .ok db') :
    HandsOff now record db db' := by
  obtain ⟨waits, hwaits, h⟩ := bind_ok.mp h
  obtain ⟨⟨stamp, cps⟩, hcps, h⟩ := bind_ok.mp h
  obtain ⟨runs, hruns, h⟩ := bind_ok.mp h
  obtain ⟨leases, hleases, h⟩ := bind_ok.mp h
  obtain ⟨hwaited, hwaits⟩ := consumeSuspension_ok.mp hwaits
  obtain ⟨hcheckpoint, _, hcps⟩ := setResumePoint_ok.mp (mapError_ok.mp hcps)
  rw [← Except.ok.inj h]
  refine ⟨waits_of_isSuspension hwaited, hwaits, hcheckpoint, ?_,
    movesRun_of_markRunStatus hruns, advanceLease_ok hleases⟩
  rw [hcps]
  rfl

theorem applyTerminalFailure_ok (h : applyTerminalFailure now record db = .ok db') :
    FailsWait now record db db' := by
  obtain ⟨waits, hwaits, h⟩ := bind_ok.mp h
  obtain ⟨runs, hruns, h⟩ := bind_ok.mp h
  obtain ⟨leases, hleases, h⟩ := bind_ok.mp h
  obtain ⟨hwaited, hwaits⟩ := consumeSuspension_ok.mp hwaits
  rw [← Except.ok.inj h]
  exact ⟨waits_of_isSuspension hwaited, hwaits, rfl, movesRun_of_markRunStatus hruns,
    advanceLease_ok hleases⟩

theorem updateWaitStateAfterPoll_ok {changed : Bool}
    (h : updateWaitStateAfterPoll now record.runId decision.observedState
      (validatedNextPollTime record decision.nextPollAt now) record.pollCount record.suspensionId
      waits = .ok (changed, waits')) :
    (changed = true ↔ ∃ wait ∈ waits, refreshable record wait = true)
      ∧ waits'.rows
        = waits.rows.map (Table.set (refreshable record) (refreshed now record decision)) := by
  obtain ⟨expected, hexpected, h⟩ := bind_ok.mp h
  have hcount : expected = (record.pollCount.toNat : Int) := by
    unfold toSqlI64 at hexpected
    split at hexpected
    · exact (Except.ok.inj hexpected).symm
    · simp at hexpected
  have hselected : (fun row : WaitStateRecord =>
      row.isSuspension record.runId record.suspensionId
        && (row.pollCount.toNat : Int) == expected) = refreshable record := by
    funext row
    have hsame : ((row.pollCount.toNat : Int) == expected) = (row.pollCount == record.pollCount) := by
      rw [hcount, Bool.eq_iff_iff, beq_iff_eq, beq_iff_eq, Int.ofNat_inj, UInt64.toNat_inj]
    unfold refreshable
    rw [hsame]
  simp only [Except.ok.injEq, Prod.mk.injEq] at h
  obtain ⟨hchanged, hwaits⟩ := h
  rw [hselected] at hchanged
  constructor
  · rw [← hchanged, decide_eq_true_iff]
    exact Table.count_pos_iff
  · rw [← hwaits]
    show waits.rows.map (Table.set (fun row : WaitStateRecord =>
      row.isSuspension record.runId record.suspensionId
        && (row.pollCount.toNat : Int) == expected) _) = _
    rw [hselected]
    rfl

theorem applyStillWaiting_ok (h : applyStillWaiting now record decision db = .ok db') :
    KeepsWaiting now record decision db db' := by
  obtain ⟨runs, hruns, h⟩ := bind_ok.mp h
  obtain ⟨⟨changed, waits⟩, hwaits, h⟩ := bind_ok.mp h
  obtain ⟨hchanged, hrows⟩ := updateWaitStateAfterPoll_ok (mapError_ok.mp hwaits)
  dsimp only at h
  split at h
  · rename_i hrefreshed
    obtain ⟨leases, hleases, h⟩ := bind_ok.mp h
    rw [← Except.ok.inj h]
    exact ⟨hchanged.mp hrefreshed, hrows, rfl, movesRun_of_markRunStatus hruns,
      advanceLease_ok hleases⟩
  · simp at h

/-- **What a decision that is applied does, by its classification.** -/
theorem applyPollDecisionAt_ok (h : applyPollDecisionAt record decision now db = (.ok (), db')) :
    match decision.classification with
    | .readyToResume => HandsOff now record db db'
    | .terminalFailure | .timedOut => FailsWait now record db db'
    | .stillWaiting | .transientFailure => KeepsWaiting now record decision db db' := by
  have hbody := atomically_ok.mp h
  have hmap : ∀ {x : Except PollApplyError RunDb}, (x.map fun db => ((), db)) = .ok ((), db') →
      x = .ok db' := by
    intro x hx
    cases x with
    | error e => simp [Except.map] at hx
    | ok done =>
      simp only [Except.map, Except.ok.injEq, Prod.mk.injEq, true_and] at hx
      rw [hx]
  cases hclass : decision.classification with
  | readyToResume => exact applyReadyToResume_ok (hmap (by simpa [hclass] using hbody))
  | terminalFailure => exact applyTerminalFailure_ok (hmap (by simpa [hclass] using hbody))
  | timedOut => exact applyTerminalFailure_ok (hmap (by simpa [hclass] using hbody))
  | stillWaiting => exact applyStillWaiting_ok (hmap (by simpa [hclass] using hbody))
  | transientFailure => exact applyStillWaiting_ok (hmap (by simpa [hclass] using hbody))

theorem applyPollDecisionAt_error {e : PollApplyError}
    (h : applyPollDecisionAt record decision now db = (.error e, db')) : db' = db :=
  atomically_error h

end Luther
