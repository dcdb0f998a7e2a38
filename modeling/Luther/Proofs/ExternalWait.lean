/-
Suspending a run is all or nothing, and the run resumes where it was suspended as long as
the clock is ahead of its checkpoints.

Each of the four writes has its guard, and a guard that fails drops what was written
before it.  So the four tables change together or not at all, and what they say together
is what the query for a pollable wait asks.  The one thing that no guard looks at is the
clock: the checkpoint is made the newest by the time it is stamped with, and a checkpoint
of the run that bears a later time stays newer.
-/
import Luther.Persistence.ExternalWait
import Luther.Proofs.Leases

namespace Luther

open Sql Sql.Table

variable {now : Timestamp} {runId stepId : String}

/-! ### What each write does -/

theorem CheckpointRow.isStep_iff {row : CheckpointRow} :
    row.isStep runId stepId = true ↔ row.runId = runId ∧ row.stepId = stepId := by
  simp [CheckpointRow.isStep]

variable {cps : CheckpointTable} {record : WaitStateRecord} {db db' : RunDb} {leaseId : String}

theorem setResumePoint_ok {cps' : CheckpointTable} {at' : Timestamp} :
    setResumePoint now runId stepId cps = .ok (at', cps') ↔
      (∃ row ∈ cps, row.isStep runId stepId = true) ∧ at' = now
        ∧ cps' = cps.update (CheckpointRow.isStep runId stepId) (CheckpointRow.rearmed now)
            (fun _ _ h => h) := by
  unfold setResumePoint
  rw [← count_pos_iff]
  by_cases hnone : cps.count (CheckpointRow.isStep runId stepId) = 0
  · rw [if_pos hnone]
    simp [hnone]
  · rw [if_neg hnone]
    simp only [Except.ok.injEq, Prod.mk.injEq]
    constructor
    · rintro ⟨rfl, rfl⟩
      exact ⟨Nat.pos_of_ne_zero hnone, rfl, rfl⟩
    · rintro ⟨_, rfl, rfl⟩
      exact ⟨rfl, rfl⟩

/-- The checkpoint of a step is the newest of its run. -/
def CheckpointIsNewest (cps : CheckpointTable) (runId stepId : String) : Prop :=
  ∃ row ∈ cps.rows, row.isStep runId stepId = true
    ∧ ∀ other ∈ cps.rows, other.runId = runId → other.stepId ≠ stepId →
        other.timestamp < row.timestamp

/-- **The loader that takes the newest checkpoint takes that one.** -/
theorem CheckpointIsNewest.loadCheckpoint (h : CheckpointIsNewest cps runId stepId) :
    ∃ cp, Luther.loadCheckpoint cps runId = some cp ∧ cp.stepId = stepId := by
  obtain ⟨row, hrow, hstep, hnewest⟩ := h
  obtain ⟨hrun, hid⟩ := CheckpointRow.isStep_iff.mp hstep
  unfold Luther.loadCheckpoint
  cases hlatest : cps.latest? (fun row => row.runId == runId) CheckpointRow.timestamp with
  | none => simpa [hrun] using Table.latest?_none hlatest row hrow
  | some latest =>
    obtain ⟨hmem, hof, hmax⟩ := Table.latest?_some hlatest
    refine ⟨latest.toCheckpoint, rfl, ?_⟩
    by_contra hother
    have hlt := hnewest latest hmem (by simpa using hof) hother
    exact absurd (hmax row hrow (by simpa using hrun)) (not_le_of_gt hlt)

theorem newest_of_rearmed {cps' : CheckpointTable}
    (hrows : cps'.rows
      = cps.rows.map (Table.set (CheckpointRow.isStep runId stepId) (CheckpointRow.rearmed now)))
    (hstep : ∃ row ∈ cps, row.isStep runId stepId = true) :
    CheckpointIsNewest cps' runId stepId ↔
      ∀ row ∈ cps, row.runId = runId → row.stepId ≠ stepId → row.timestamp < now := by
  have hother : ∀ row : CheckpointRow, row.stepId ≠ stepId →
      Table.set (CheckpointRow.isStep runId stepId) (CheckpointRow.rearmed now) row = row := by
    intro row hne
    exact set_neg (by simp [CheckpointRow.isStep, hne])
  constructor
  · rintro ⟨stamped, hstamped, his, hnewest⟩ row hrow hrun hne
    obtain ⟨old, hold, rfl⟩ := (mem_set hrows).mp hstamped
    have hold_step : old.isStep runId stepId = true := by
      rw [← his]
      exact (set_column (CheckpointRow.isStep runId stepId)
        (f := CheckpointRow.rearmed now) (fun _ => rfl) old).symm
    have hlt := hnewest row ((mem_set hrows).mpr ⟨row, hrow, hother row hne⟩) hrun hne
    rw [set_pos hold_step] at hlt
    exact hlt
  · intro hold
    obtain ⟨row, hrow, his⟩ := hstep
    refine ⟨CheckpointRow.rearmed now row, ?_, his, ?_⟩
    · exact (mem_set hrows).mpr ⟨row, hrow, set_pos his⟩
    · intro other hmem hrun hne
      obtain ⟨before, hbefore, rfl⟩ := (mem_set hrows).mp hmem
      have hid : before.stepId ≠ stepId := by
        rw [← set_column CheckpointRow.stepId (p := CheckpointRow.isStep runId stepId)
          (f := CheckpointRow.rearmed now) (fun _ => rfl) before]
        exact hne
      rw [hother before hid] at hrun ⊢
      exact hold before hbefore hrun hid

theorem updateRunStatus_rows (now : Timestamp) (runId : String) (status : RunStatus)
    (step : Option String) (guard : RunStatus → Bool) (runs : RunTable) :
    ((updateRunStatus now runId status step guard runs).1 = true ↔
      ∃ md ∈ runs, md.runId = runId ∧ guard md.status = true)
    ∧ (updateRunStatus now runId status step guard runs).2.rows = runs.rows.map
        (Table.set (fun md => md.isRun runId && guard md.status)
          (RunMetadata.withStatus now status step)) := by
  refine ⟨?_, rfl⟩
  unfold updateRunStatus
  rw [decide_eq_true_iff, count_pos_iff]
  simp [RunMetadata.isRun]

theorem markRunWaitingExternal_ok {runs runs' : RunTable} :
    markRunWaitingExternal now runId stepId runs = .ok runs' ↔
      (∃ md ∈ runs, md.runId = runId ∧ md.status.isTerminal = false)
        ∧ runs' = (updateRunStatus now runId .waitingExternal (some stepId)
            (fun current => !current.isTerminal) runs).2 := by
  have hchanged := (updateRunStatus_rows now runId .waitingExternal (some stepId)
    (fun current => !current.isTerminal) runs).1
  unfold markRunWaitingExternal persistRunStatusConditionalOutcome
  dsimp only
  by_cases h : (updateRunStatus now runId .waitingExternal (some stepId)
      (fun current => !current.isTerminal) runs).1 = true
  · rw [if_pos h]
    have hrun := hchanged.mp h
    simp only [Bool.not_eq_true'] at hrun
    simp only [Except.ok.injEq]
    constructor
    · rintro rfl
      exact ⟨hrun, rfl⟩
    · rintro ⟨_, rfl⟩
      rfl
  · rw [if_neg h]
    have hrun : ¬ ∃ md ∈ runs, md.runId = runId ∧ md.status.isTerminal = false := by
      intro hrun
      exact h (hchanged.mpr (by simpa using hrun))
    simp only [hrun, false_and, iff_false]
    cases getRun (updateRunStatus now runId .waitingExternal (some stepId)
        (fun current => !current.isTerminal) runs).2 runId with
    | none => simp
    | some md => simp

/-- The record as the table keeps it: a wait of the run that was there gave it its age. -/
def storedWait (record : WaitStateRecord) (waits : WaitStateTable) : WaitStateRecord :=
  { record with
    createdAt := ((getWaitState waits record.runId).map WaitStateRecord.createdAt).getD
      record.createdAt }

theorem upsertWaitState_ok {waits waits' : WaitStateTable}
    (h : upsertWaitState record waits = .ok waits') :
    record.suspensionId ≠ "" ∧ (∃ row, recordParams record = .ok row)
      ∧ getWaitState waits' record.runId = some (storedWait record waits) := by
  unfold upsertWaitState at h
  split at h
  · simp at h
  · rename_i hsuspension
    obtain ⟨row, hrow, h⟩ := bind_ok.mp h
    refine ⟨hsuspension, ⟨row, mapError_ok.mp hrow⟩, ?_⟩
    have hkey : ∀ a b : WaitStateRecord, (a.runId == record.runId) = true →
        (b.runId == record.runId) = true → WaitStateRecord.Clash a b := by
      intro a b ha hb
      simp only [beq_iff_eq] at ha hb
      exact ha.trans hb.symm
    unfold storedWait
    cases hinsert : waits.insert record with
    | some inserted =>
      rw [hinsert] at h
      have hsame : inserted = waits' := Except.ok.inj h
      have hnone : getWaitState waits record.runId = none := by
        refine Table.find?_none.mpr fun row hrow => ?_
        by_contra hrun
        have hclash : row.runId = record.runId := by simpa using hrun
        exact not_clash_of_insert hinsert hrow hclash
      rw [hnone]
      refine Table.find?_eq_some_of_key hkey ?_ (by simp)
      rw [← hsame]
      exact (mem_insert hinsert _).mpr (Or.inr rfl)
    | none =>
      rw [hinsert] at h
      obtain ⟨old, hold, hclash⟩ := insert_eq_none_iff.mp hinsert
      have hrun : old.runId = record.runId := hclash
      have hget : getWaitState waits record.runId = some old :=
        Table.find?_eq_some_of_key hkey hold (by simp [hrun])
      rw [hget]
      refine Table.find?_eq_some_of_key hkey ?_ (by simp)
      rw [← Except.ok.inj h]
      refine (mem_set rfl).mpr ⟨old, hold, ?_⟩
      rw [set_pos (by simp [hrun]), hrun]
      rfl

theorem upsertWaitState_of_parts (waits : WaitStateTable) (hsuspension : record.suspensionId ≠ "")
    {row : WaitStateRow} (hrow : recordParams record = .ok row) :
    ∃ waits', upsertWaitState record waits = .ok waits' := by
  unfold upsertWaitState
  rw [if_neg hsuspension, hrow]
  cases hinsert : waits.insert record with
  | some inserted => exact ⟨inserted, rfl⟩
  | none => exact ⟨_, rfl⟩

theorem updateLeaseStatusConditional_total (now : Timestamp) (leaseId : String)
    (status : LeaseStatus) (expected : List LeaseStatus) (owner : Option String)
    (leases : LeaseTable) :
    ∃ applied leases', updateLeaseStatusConditional now leaseId status expected none owner leases
      = .ok (applied, leases') := by
  unfold updateLeaseStatusConditional conditionalTransition
  rw [if_neg (by simp)]
  by_cases hexpected : expected = []
  · rw [if_pos hexpected]
    exact ⟨false, leases, rfl⟩
  · rw [if_neg hexpected]
    exact ⟨_, _, rfl⟩

/-! ### The transaction -/

/-- What `persist_external_wait` asks of the record and the tables. -/
structure CanWait (record : WaitStateRecord) (leaseId : String) (db : RunDb) : Prop where
  named : record.leaseId = some leaseId ∧ leaseId ≠ ""
  runId : record.runId ≠ ""
  resumeStep : record.resumeStep ≠ ""
  suspensionId : record.suspensionId ≠ ""
  /-- The numbers of the record fit their columns. -/
  columns : ∃ row, recordParams record = .ok row
  /-- There is a checkpoint to go on from. -/
  checkpoint : ∃ row ∈ db.checkpoints, row.isStep record.runId record.resumeStep = true
  /-- The run has not ended. -/
  run : ∃ md ∈ db.runs, md.runId = record.runId ∧ md.status.isTerminal = false
  /-- The run has the lease, and runs or waits on it. -/
  lease : ∃ lease ∈ db.leases,
    movable (· == some record.runId) leaseId [.running, .waitingExternal] lease = true

/-- What the writes leave. -/
structure Suspends (now : Timestamp) (record : WaitStateRecord) (leaseId : String)
    (db db' : RunDb) : Prop where
  checkpoints : db'.checkpoints.rows = db.checkpoints.rows.map
    (Table.set (CheckpointRow.isStep record.runId record.resumeStep) (CheckpointRow.rearmed now))
  runs : db'.runs.rows = db.runs.rows.map
    (Table.set (fun md => md.isRun record.runId && !md.status.isTerminal)
      (RunMetadata.withStatus now .waitingExternal (some record.resumeStep)))
  wait : getWaitState db'.waits record.runId = some (storedWait record db.waits)
  leases : db'.leases.rows = db.leases.rows.map
    (Table.set (movable (· == some record.runId) leaseId [.running, .waitingExternal])
      (movedLease now .waitingExternal none))

theorem persistExternalWait_error {e : ExternalWaitError}
    (h : persistExternalWait now record db = (.error e, db')) :
    db' = db := by
  unfold persistExternalWait at h
  dsimp only at h
  split at h
  · exact (congrArg Prod.snd h).symm
  split at h
  · exact (congrArg Prod.snd h).symm
  split at h
  · exact (congrArg Prod.snd h).symm
  split at h
  · exact (congrArg Prod.snd h).symm
  exact atomically_error h

theorem persistExternalWait_eq (hlease : record.leaseId = some leaseId ∧ leaseId ≠ "")
    (hrun : record.runId ≠ "") (hstep : record.resumeStep ≠ "")
    (hsuspension : record.suspensionId ≠ "") :
    persistExternalWait now record db = atomically (externalWaitWrites now record leaseId) db := by
  unfold persistExternalWait
  rw [hlease.1]
  simp only [Option.filter_some, decide_eq_true hlease.2, if_true, if_neg hrun, if_neg hstep,
    if_neg hsuspension]

theorem persistExternalWait_identity (h : persistExternalWait now record db = (.ok (), db')) :
    record.runId ≠ "" ∧ record.resumeStep ≠ "" ∧ record.suspensionId ≠ ""
      ∧ ∃ leaseId, record.leaseId = some leaseId ∧ leaseId ≠ "" := by
  unfold persistExternalWait at h
  dsimp only at h
  split at h
  · simp at h
  rename_i leaseId hlease
  split at h
  · simp at h
  rename_i hrun
  split at h
  · simp at h
  rename_i hstep
  split at h
  · simp at h
  rename_i hsuspension
  obtain ⟨hsome, hne⟩ := Option.filter_eq_some_iff.mp hlease
  exact ⟨hrun, hstep, hsuspension, leaseId, hsome, by simpa using hne⟩

/-- **A run that was suspended could be, and the four tables say so.** -/
theorem persistExternalWait_ok (h : persistExternalWait now record db = (.ok (), db')) :
    ∃ leaseId, CanWait record leaseId db ∧ Suspends now record leaseId db db' := by
  obtain ⟨hrun, hstep, hsuspension, leaseId, hlease⟩ := persistExternalWait_identity h
  rw [persistExternalWait_eq hlease hrun hstep hsuspension] at h
  have hbody := atomically_ok.mp h
  obtain ⟨⟨stamp, cps⟩, hcps, hbody⟩ := bind_ok.mp hbody
  obtain ⟨runs, hruns, hbody⟩ := bind_ok.mp hbody
  obtain ⟨waits, hwaits, hbody⟩ := bind_ok.mp hbody
  obtain ⟨⟨applied, leases⟩, hleases, hbody⟩ := bind_ok.mp hbody
  obtain ⟨hcheckpoint, _, hcps⟩ := setResumePoint_ok.mp (mapError_ok.mp hcps)
  obtain ⟨hmd, hruns⟩ := markRunWaitingExternal_ok.mp hruns
  obtain ⟨_, hcolumns, hwait⟩ := upsertWaitState_ok (mapError_ok.mp hwaits)
  obtain ⟨hrows, hmoved⟩ := updateLeaseStatusConditional_ok (mapError_ok.mp hleases)
  dsimp only at hbody
  split at hbody
  · rename_i happlied
    simp only [Except.ok.injEq, Prod.mk.injEq, true_and] at hbody
    rw [← hbody]
    refine ⟨leaseId, ⟨hlease, hrun, hstep, hsuspension, hcolumns, hcheckpoint, hmd,
      hmoved.mp happlied⟩, ⟨?_, ?_, hwait, hrows⟩⟩
    · rw [hcps]
      rfl
    · rw [hruns]
      rfl
  · simp at hbody

theorem persistExternalWait_of_canWait (h : CanWait record leaseId db) :
    ∃ db', persistExternalWait now record db = (.ok (), db') := by
  obtain ⟨row, hrow⟩ := h.columns
  obtain ⟨waits, hwaits⟩ := upsertWaitState_of_parts db.waits h.suspensionId hrow
  obtain ⟨applied, leases, hleases⟩ := updateLeaseStatusConditional_total now leaseId
    .waitingExternal [.running, .waitingExternal] (some record.runId) db.leases
  have happlied : applied = true := (updateLeaseStatusConditional_ok hleases).2.mpr h.lease
  rw [persistExternalWait_eq h.named h.runId h.resumeStep h.suspensionId]
  have hbody : ∃ db', externalWaitWrites now record leaseId db = .ok ((), db') := by
    unfold externalWaitWrites
    rw [setResumePoint_ok.mpr ⟨h.checkpoint, rfl, rfl⟩, hwaits, hleases,
      markRunWaitingExternal_ok.mpr ⟨h.run, rfl⟩, happlied]
    exact ⟨_, rfl⟩
  obtain ⟨db', hbody⟩ := hbody
  exact ⟨db', atomically_ok.mpr hbody⟩

/-! ### What the tables say of a run that was suspended -/

/-- The tables say that the run waits, and for what. -/
structure ExternalWaitEstablished (reader : TextReader) (record : WaitStateRecord)
    (db db' : RunDb) : Prop where
  pollable : hasPollableExternalWait db' record.runId = true
  newest : CheckpointIsNewest db'.checkpoints record.runId record.resumeStep
  /-- The columns of the wait read back as the record, but for the age of a wait that was there. -/
  stored : ∃ stored row, getWaitState db'.waits record.runId = some stored
    ∧ recordParams stored = .ok row
    ∧ rowToWaitState reader row = .ok (storedWait record db.waits)
  lease : ∃ lease ∈ db'.leases, some lease.leaseId = record.leaseId
    ∧ lease.status = .waitingExternal ∧ lease.runId = some record.runId
  /-- A run that had ended is as it was. -/
  ended : ∀ md ∈ db.runs, md.status.isTerminal = true → md ∈ db'.runs

/-- `persist_external_wait` establishes the wait or leaves the tables. -/
def ExternalWaitAtomic (reader : TextReader) (now : Timestamp) (record : WaitStateRecord)
    (db : RunDb) : Prop :=
  match persistExternalWait now record db with
  | (.ok (), db') => ExternalWaitEstablished reader record db db'
  | (.error _, db') => db' = db

theorem recordParams_createdAt {row : WaitStateRow} (at' : Timestamp)
    (h : recordParams record = .ok row) :
    ∃ row', recordParams { record with createdAt := at' } = .ok row' := by
  obtain ⟨issueNumber, hissue, h⟩ := bind_ok.mp h
  obtain ⟨prNumber, hpr, h⟩ := bind_ok.mp h
  obtain ⟨interval, hinterval, h⟩ := bind_ok.mp h
  obtain ⟨maxWait, hmax, h⟩ := bind_ok.mp h
  obtain ⟨pollCount, hpoll, _⟩ := bind_ok.mp h
  unfold recordParams
  simp only [hissue, hpr, hinterval, hmax, hpoll]
  exact ⟨_, rfl⟩

theorem Suspends.run (hcan : CanWait record leaseId db) (h : Suspends now record leaseId db db') :
    ∃ md ∈ db'.runs, md.runId = record.runId ∧ md.status = .waitingExternal := by
  obtain ⟨md, hmd, hid, hstatus⟩ := hcan.run
  refine ⟨_, (mem_set h.runs).mpr ⟨md, hmd, rfl⟩, ?_⟩
  rw [set_pos (by simp [RunMetadata.isRun, hid, hstatus])]
  exact ⟨hid, rfl⟩

theorem Suspends.lease (hcan : CanWait record leaseId db) (h : Suspends now record leaseId db db') :
    ∃ lease ∈ db'.leases, some lease.leaseId = record.leaseId
      ∧ lease.status = .waitingExternal ∧ lease.runId = some record.runId := by
  obtain ⟨lease, hlease, hmovable⟩ := hcan.lease
  refine ⟨_, (mem_set h.leases).mpr ⟨lease, hlease, rfl⟩, ?_⟩
  rw [set_pos hmovable]
  simp only [movable, Bool.and_eq_true, beq_iff_eq] at hmovable
  refine ⟨?_, rfl, hmovable.2⟩
  rw [hcan.named.1]
  exact congrArg some hmovable.1.1

/-- **The query for a pollable wait finds the wait.** -/
theorem Suspends.pollable (hcan : CanWait record leaseId db)
    (h : Suspends now record leaseId db db') :
    hasPollableExternalWait db' record.runId = true := by
  obtain ⟨md, hmd, hid, hstatus⟩ := h.run hcan
  obtain ⟨lease, hlease, hleaseId, hleaseStatus, howner⟩ := h.lease hcan
  obtain ⟨hwait, _⟩ := Table.find?_some h.wait
  unfold hasPollableExternalWait
  refine List.any_eq_true.mpr ⟨md, hmd, ?_⟩
  have hjoin : (db'.waits.rows.any fun wait =>
      wait.runId == md.runId && wait.leaseId.any (· ≠ "") && wait.resumeStep ≠ ""
        && wait.suspensionId ≠ ""
        && db'.leases.rows.any fun lease =>
          some lease.leaseId == wait.leaseId && lease.runId == some wait.runId
            && lease.status == .waitingExternal) = true := by
    refine List.any_eq_true.mpr ⟨_, hwait, ?_⟩
    have hfound : (db'.leases.rows.any fun lease =>
        some lease.leaseId == (storedWait record db.waits).leaseId
          && lease.runId == some (storedWait record db.waits).runId
          && lease.status == .waitingExternal) = true :=
      List.any_eq_true.mpr ⟨lease, hlease, by simp [storedWait, hleaseId, howner, hleaseStatus]⟩
    rw [hfound]
    simp [storedWait, hid, hcan.named.1, hcan.named.2, hcan.resumeStep, hcan.suspensionId]
  rw [hjoin]
  simp [hid, hstatus]

theorem Suspends.ended (h : Suspends now record leaseId db db') {md : RunMetadata}
    (hmd : md ∈ db.runs) (hended : md.status.isTerminal) : md ∈ db'.runs :=
  (mem_set h.runs).mpr ⟨md, hmd, set_neg (by simp [hended])⟩

/-- **A suspension is all or nothing exactly where the clock is ahead of the other checkpoints
of the run, and the libraries read back what they have written of the record.** -/
theorem external_wait_atomic_iff (reader : TextReader) (now : Timestamp)
    (record : WaitStateRecord) (db : RunDb) :
    ExternalWaitAtomic reader now record db ↔
      ∀ leaseId, CanWait record leaseId db →
        (∀ row ∈ db.checkpoints, row.runId = record.runId → row.stepId ≠ record.resumeStep →
          row.timestamp < now)
        ∧ reader.Reads (storedWait record db.waits) := by
  unfold ExternalWaitAtomic
  match hpersist : persistExternalWait now record db with
  | (.error e, db') =>
    refine iff_of_true (persistExternalWait_error hpersist) ?_
    intro leaseId hcan
    obtain ⟨done, hdone⟩ : ∃ done, persistExternalWait now record db = (.ok (), done) :=
      persistExternalWait_of_canWait hcan
    rw [hpersist] at hdone
    simp at hdone
  | (.ok (), db') =>
    obtain ⟨leaseId, hcan, hsuspends⟩ := persistExternalWait_ok hpersist
    have hnewest := newest_of_rearmed hsuspends.checkpoints hcan.checkpoint
    obtain ⟨columns, hcolumns⟩ := hcan.columns
    obtain ⟨row, hrow⟩ := recordParams_createdAt (storedWait record db.waits).createdAt hcolumns
    have hreads : rowToWaitState reader row = .ok (storedWait record db.waits)
        ↔ reader.Reads (storedWait record db.waits) := rowToWaitState_recordParams hrow
    constructor
    · intro hestablished _ _
      obtain ⟨stored, storedRow, hget, hparams, hdecoded⟩ := hestablished.stored
      rw [hsuspends.wait] at hget
      rw [← Option.some.inj hget] at hparams
      have hsame : row = storedRow := Except.ok.inj (hrow.symm.trans hparams)
      rw [← hsame] at hdecoded
      exact ⟨hnewest.mp hestablished.newest, hreads.mp hdecoded⟩
    · intro hcondition
      obtain ⟨holder, hread⟩ := hcondition leaseId hcan
      exact ⟨hsuspends.pollable hcan, hnewest.mpr holder,
        ⟨_, row, hsuspends.wait, hrow, hreads.mpr hread⟩, hsuspends.lease hcan,
        fun _ hmd hended => hsuspends.ended hmd hended⟩

def exampleMidnight : Timestamp := 1783814400000000000

/-- The text of that instant, and of no value, and nothing else. -/
def exampleReader : TextReader where
  parseFromRfc3339 text :=
    if text = "2026-07-12T00:00:00+00:00" then .ok exampleMidnight else .error "invalid characters"
  parseJson text := if text = "null" then .ok .null else .error "expected value"

def exampleWait : WaitStateRecord where
  runId := "run-1"
  suspensionId := "suspension-1"
  leaseId := some "lease-1"
  workflowType := "issue"
  configId := "default"
  repository := "o/r"
  issueNumber := 7
  prNumber := some 8
  headSha := none
  waitKind := .prChecks
  waitCondition := .null
  lastObservedState := .null
  nextPollAt := exampleMidnight
  pollIntervalSeconds := 300
  maxWaitSeconds := none
  resumeStep := "await_review"
  checkpointId := "await_review@2026-07-12T00:00:00+00:00"
  pollCount := 0
  createdAt := exampleMidnight
  updatedAt := exampleMidnight

/-- The checkpoint of a step that was interrupted. -/
def exampleCheckpoint (stepId : String) (timestamp : Timestamp) : CheckpointRow where
  runId := "run-1"
  stepId := stepId
  retryCount := 0
  loopCount := 0
  context := []
  status := "interrupted"
  timestamp := timestamp

/-- A run with its lease, and the checkpoint of the step it is to wait at; another checkpoint of
the run bears the given time. -/
def exampleRunDb (other : Timestamp) : RunDb where
  checkpoints :=
    ⟨[exampleCheckpoint "await_review" (exampleMidnight - 1), exampleCheckpoint "open_pr" other],
      by simp [CheckpointRow.Clash, exampleCheckpoint]⟩
  runs :=
    ⟨[{ runId := "run-1", workflowTypeId := "issue", configId := "default", status := .running,
        repository := some "o/r", issueNumber := some 7 }], List.pairwise_singleton _ _⟩
  waits := Table.empty
  leases :=
    ⟨[{ leaseId := "lease-1", issueRepo := "o/r", issueNumber := 7, configId := "default",
        runId := some "run-1", status := .running, claimedAt := 0, updatedAt := 0,
        heartbeatAt := 0 }], List.pairwise_singleton _ _⟩

/-- Where another checkpoint of the run bears a later time than the clock shows, the run is
suspended and would go on from that one. -/
theorem external_wait_resumes_elsewhere :
    ¬ ExternalWaitAtomic exampleReader exampleMidnight exampleWait
        (exampleRunDb (exampleMidnight + 60000000000))
      ∧ (persistExternalWait exampleMidnight exampleWait
          (exampleRunDb (exampleMidnight + 60000000000))).1 = .ok ()
      ∧ (loadCheckpoint (persistExternalWait exampleMidnight exampleWait
          (exampleRunDb (exampleMidnight + 60000000000))).2.checkpoints "run-1").map
            Checkpoint.stepId = some "open_pr" := by
  have hload : (loadCheckpoint (persistExternalWait exampleMidnight exampleWait
      (exampleRunDb (exampleMidnight + 60000000000))).2.checkpoints "run-1").map
        Checkpoint.stepId = some "open_pr" := by decide +kernel
  have hok : (persistExternalWait exampleMidnight exampleWait
      (exampleRunDb (exampleMidnight + 60000000000))).1 = .ok () := by decide +kernel
  refine ⟨?_, hok, hload⟩
  intro hatomic
  unfold ExternalWaitAtomic at hatomic
  split at hatomic
  · rename_i db' hpersist
    rw [hpersist] at hload
    obtain ⟨cp, hcp, hstep⟩ := hatomic.newest.loadCheckpoint
    have hother : (loadCheckpoint db'.checkpoints "run-1").map Checkpoint.stepId
        = some "await_review" := by
      rw [show (exampleWait).runId = "run-1" from rfl] at hcp
      rw [hcp, Option.map_some, hstep]
      rfl
    rw [hload] at hother
    exact absurd hother (by decide)
  · rename_i e db' hpersist
    rw [hpersist] at hok
    simp at hok

end Luther
