/-
A finished launch leaves the leases of other runs alone, and strands a lease of its own
only where it takes the word of the runner.

Whatever the result is, one compare-and-swap is made, from the run to the run.  So what has
to be known is which status it may move, and to which.  After an error the wait is looked
at before the lease is left waiting; after a suspension it is not, and a run that has been
resumed in between has no wait any more.
-/
import Luther.Daemon.LeaseFinalization
import Luther.Proofs.ExternalWait

namespace Luther

open Sql Sql.Table

variable {now : Timestamp} {leaseId runId : String}
  {result : Except String WorkflowLaunchResult} {db : RunDb}

/-! ### The one transition -/

/-- The statuses that a result may move a lease from. -/
def finishExpected : Except String WorkflowLaunchResult → List LeaseStatus
  | .ok .cleanupAbandoned => [.running, .cleanupAbandoned]
  | .ok .suspendedExternalWait | .error _ => [.running, .waitingExternal]
  | .ok _ => [.running]

def finishTarget (db : RunDb) (runId : String) : Except String WorkflowLaunchResult → LeaseStatus
  | .ok .completedSuccess => .completed
  | .ok .completedFailure | .ok .ownershipDenied => .failed
  | .ok .cleanupAbandoned => .cleanupAbandoned
  | .ok .suspendedExternalWait => .waitingExternal
  | .error _ => if hasPollableExternalWait db runId then .waitingExternal else .failed

/-- The leases that the result of a launch moves. -/
def finishMoves (leaseId runId : String) (result : Except String WorkflowLaunchResult)
    (row : IssueLease) : Bool :=
  runId ≠ "" && movable (· == some runId) leaseId (finishExpected result) row

variable {row : IssueLease} {leases : LeaseTable}

theorem finishMoves_iff :
    finishMoves leaseId runId result row = true ↔
      runId ≠ "" ∧ row.leaseId = leaseId ∧ row.status ∈ finishExpected result
        ∧ row.runId = some runId := by
  simp [finishMoves, movable, and_assoc]

variable {expected : List LeaseStatus} {status : LeaseStatus} {run : String}

/-- A compare-and-swap that is given the owner it has moves what it may move, and moves nothing
for a run without a name. -/
theorem updateLeaseStatusConditional_owner (now : Timestamp) (leaseId runId : String)
    (status : LeaseStatus) (hexpected : expected ≠ [])
    (leases : LeaseTable) :
    (runId = "" ∧ ∃ e, updateLeaseStatusConditional now leaseId status expected (some runId)
        (some runId) leases = .error e)
      ∨ runId ≠ "" ∧ ∃ applied leases', updateLeaseStatusConditional now leaseId status expected
          (some runId) (some runId) leases = .ok (applied, leases')
        ∧ leases'.rows = leases.rows.map (Table.set (movable (· == some runId) leaseId expected)
            (movedLease now status (some runId))) := by
  by_cases hname : runId = ""
  · refine Or.inl ⟨hname, ?_⟩
    rw [hname]
    exact ⟨_, rfl⟩
  · refine Or.inr ⟨hname, ?_⟩
    cases hmove : updateLeaseStatusConditional now leaseId status expected (some runId)
        (some runId) leases with
    | error e =>
      unfold updateLeaseStatusConditional conditionalTransition at hmove
      rw [if_neg (by simpa using hname), if_neg hexpected] at hmove
      simp at hmove
    | ok moved => exact ⟨moved.1, moved.2, rfl, (updateLeaseStatusConditional_ok hmove).1⟩

/-- The rows of the leases, moved where the result moves them. -/
def finishedRows (now : Timestamp) (leaseId runId : String) (expected : List LeaseStatus)
    (status : LeaseStatus) (leases : LeaseTable) : List IssueLease :=
  leases.rows.map (Table.set
    (fun row => runId ≠ "" && movable (· == some runId) leaseId expected row)
    (movedLease now status (some runId)))

theorem finishedRows_unnamed (expected : List LeaseStatus) (status : LeaseStatus)
    (leases : LeaseTable) : finishedRows now leaseId "" expected status leases = leases.rows := by
  unfold finishedRows
  rw [List.map_congr_left fun row _ => set_neg (by simp), List.map_id']

theorem finishedRows_named (hname : runId ≠ "") (expected : List LeaseStatus)
    (status : LeaseStatus) (leases : LeaseTable) :
    finishedRows now leaseId runId expected status leases
      = leases.rows.map (Table.set (movable (· == some runId) leaseId expected)
          (movedLease now status (some runId))) := by
  unfold finishedRows
  simp [hname]

theorem finalizeLease_rows (hexpected : expected ≠ [])
    {outcome : ConditionalLeaseStatusOutcome → Except Error LaunchOutcome} (leases : LeaseTable) :
    (finalizeLease now leaseId runId status expected outcome leases).2.rows
      = finishedRows now leaseId runId expected status leases := by
  unfold finalizeLease atomically updateLeaseStatusConditionalOutcome
  rcases updateLeaseStatusConditional_owner now leaseId runId status hexpected leases with
    ⟨hname, e, hmove⟩ | ⟨hname, applied, leases', hmove, hrows⟩
  · rw [hmove, hname, finishedRows_unnamed]
    rfl
  · rw [hmove, finishedRows_named hname, ← hrows]
    simp only [bind, Except.bind]
    by_cases happlied : applied = true
    · rw [if_pos happlied]
    · rw [if_neg happlied]
      cases leases'.find? fun row => row.leaseId == leaseId with
      | none => rfl
      | some row => rfl

theorem compensate_rows (now : Timestamp) (leaseId runId : String) (db : RunDb) :
    (compensateLeaseAfterLaunchError now leaseId runId db).2.leases.rows
        = finishedRows now leaseId runId [.running, .waitingExternal]
            (if hasPollableExternalWait db runId then .waitingExternal else .failed) db.leases
      ∧ ∃ leases, (compensateLeaseAfterLaunchError now leaseId runId db).2
          = { db with leases := leases } := by
  unfold compensateLeaseAfterLaunchError atomically
  dsimp only
  generalize (if hasPollableExternalWait db runId = true then LeaseStatus.waitingExternal
    else LeaseStatus.failed) = status
  rcases updateLeaseStatusConditional_owner now leaseId runId status (List.cons_ne_nil _ _)
      db.leases with
    ⟨hname, e, hmove⟩ | ⟨hname, applied, leases', hmove, hrows⟩
  · rw [hmove, hname, finishedRows_unnamed]
    exact ⟨rfl, db.leases, rfl⟩
  · rw [hmove, finishedRows_named hname, ← hrows]
    exact ⟨rfl, leases', rfl⟩

/-- **A result makes one transition of the leases, and nothing else.** -/
theorem finishLeaseAfterResult_db (now : Timestamp) (leaseId runId : String)
    (result : Except String WorkflowLaunchResult) (db : RunDb) :
    ∃ leases : LeaseTable, (finishLeaseAfterResult now leaseId runId result db).2
        = { db with leases := leases }
      ∧ leases.rows = db.leases.rows.map (Table.set (finishMoves leaseId runId result)
          (movedLease now (finishTarget db runId result) (some runId))) := by
  cases result with
  | error e =>
    obtain ⟨hrows, leases, hdb⟩ := compensate_rows now leaseId runId db
    refine ⟨leases, hdb, ?_⟩
    rw [hdb] at hrows
    exact hrows
  | ok result =>
    cases result with
    | completedSuccess => exact ⟨_, rfl, finalizeLease_rows (List.cons_ne_nil _ _) db.leases⟩
    | completedFailure => exact ⟨_, rfl, finalizeLease_rows (List.cons_ne_nil _ _) db.leases⟩
    | cleanupAbandoned => exact ⟨_, rfl, finalizeLease_rows (List.cons_ne_nil _ _) db.leases⟩
    | suspendedExternalWait => exact ⟨_, rfl, finalizeLease_rows (List.cons_ne_nil _ _) db.leases⟩
    | ownershipDenied => exact ⟨_, rfl, finalizeLease_rows (List.cons_ne_nil _ _) db.leases⟩

/-! ### A launch that is over -/

/-- What the run of a lease is waiting for can be polled. -/
def LeaseIsPollable (db : RunDb) (lease : IssueLease) : Prop :=
  ∃ run, lease.runId = some run ∧ hasPollableExternalWait db run = true

/-- The lease was the run's and is: it ran or waited, or its cleanup had been given up, and now
it does not run. -/
structure LeaseFinished (leaseId runId : String) (before : IssueLease) (after : LeaseTable) :
    Prop where
  id : before.leaseId = leaseId
  owner : before.runId = some runId
  status : before.status = .running ∨ before.status = .waitingExternal
    ∨ before.status = .cleanupAbandoned
  now : ∃ row ∈ after, row.leaseId = leaseId ∧ row.runId = some runId ∧ row.status ≠ .running

/-- A finished launch neither strands a lease nor takes one. -/
structure LaunchFinishes (now : Timestamp) (leaseId runId : String)
    (result : Except String WorkflowLaunchResult) (db : RunDb) : Prop where
  /-- A lease is as it was, or it is the run's and is finished. -/
  leases : ∀ row ∈ db.leases,
    row ∈ (finishLeaseAfterResult now leaseId runId result db).2.leases
      ∨ LeaseFinished leaseId runId row (finishLeaseAfterResult now leaseId runId result db).2.leases
  /-- A lease that ends up waiting has a wait that is polled. -/
  waiting : ∀ row ∈ (finishLeaseAfterResult now leaseId runId result db).2.leases,
    row.leaseId = leaseId → row.status = .waitingExternal →
    LeaseIsPollable (finishLeaseAfterResult now leaseId runId result db).2 row
  /-- The lease of another run is as it was. -/
  foreign : ∀ row ∈ db.leases, row.runId ≠ some runId →
    row ∈ (finishLeaseAfterResult now leaseId runId result db).2.leases

/-- The run waits, and its wait names a lease of the run that waits or is this one. -/
def SuspensionIsComplete (db : RunDb) (leaseId runId : String) : Prop :=
  (∃ md ∈ db.runs, md.runId = runId ∧ md.status = .waitingExternal)
    ∧ ∃ wait ∈ db.waits, wait.runId = runId ∧ wait.resumeStep ≠ "" ∧ wait.suspensionId ≠ ""
      ∧ ∃ lease ∈ db.leases, wait.leaseId = some lease.leaseId ∧ lease.leaseId ≠ ""
        ∧ lease.runId = some runId
        ∧ (lease.status = .waitingExternal ∨ lease.leaseId = leaseId)

/-- The wait of a lease that ends up waiting is there: where the lease is suspended it is
complete, and where the result does not move the lease it was so already. -/
def WaitIsThere (leaseId runId : String) (result : Except String WorkflowLaunchResult)
    (db : RunDb) (lease : IssueLease) : Prop :=
  if finishMoves leaseId runId result lease then
    result = .ok .suspendedExternalWait → SuspensionIsComplete db leaseId runId
  else lease.status = .waitingExternal → LeaseIsPollable db lease

/-! ### What can be polled -/

theorem hasPollableExternalWait_iff :
    hasPollableExternalWait db run = true ↔
      (∃ md ∈ db.runs, md.runId = run ∧ md.status = .waitingExternal)
        ∧ ∃ wait ∈ db.waits, wait.runId = run ∧ wait.resumeStep ≠ "" ∧ wait.suspensionId ≠ ""
          ∧ ∃ lease ∈ db.leases, wait.leaseId = some lease.leaseId ∧ lease.leaseId ≠ ""
            ∧ lease.runId = some run ∧ lease.status = .waitingExternal := by
  unfold hasPollableExternalWait
  simp only [List.any_eq_true, Bool.and_eq_true, beq_iff_eq, decide_eq_true_eq]
  constructor
  · rintro ⟨md, hmd, ⟨hid, hstatus⟩, wait, hwait, ⟨⟨⟨hrun, hnamed⟩, hstep⟩, hsuspension⟩, lease,
      hlease, ⟨hleaseId, howner⟩, hleaseStatus⟩
    have hname : lease.leaseId ≠ "" := by
      rw [← hleaseId] at hnamed
      simpa using hnamed
    exact ⟨⟨md, hmd, hid, hstatus⟩, wait, hwait, hrun.trans hid, hstep, hsuspension, lease, hlease,
      hleaseId.symm, hname, howner.trans (congrArg some (hrun.trans hid)), hleaseStatus⟩
  · rintro ⟨⟨md, hmd, hid, hstatus⟩, wait, hwait, hrun, hstep, hsuspension, lease, hlease,
      hleaseId, hname, howner, hleaseStatus⟩
    refine ⟨md, hmd, ⟨hid, hstatus⟩, wait, hwait, ⟨⟨⟨hrun.trans hid.symm, ?_⟩, hstep⟩,
      hsuspension⟩, lease, hlease, ⟨hleaseId.symm, howner.trans (congrArg some hrun.symm)⟩,
      hleaseStatus⟩
    rw [hleaseId]
    simpa using hname

def finishedLease (now : Timestamp) (leaseId runId : String)
    (result : Except String WorkflowLaunchResult) (db : RunDb) (row : IssueLease) : IssueLease :=
  Table.set (finishMoves leaseId runId result)
    (movedLease now (finishTarget db runId result) (some runId)) row

theorem finishedLease_moved (h : finishMoves leaseId runId result row) :
    finishedLease now leaseId runId result db row
      = movedLease now (finishTarget db runId result) (some runId) row := set_pos h

theorem finishedLease_kept (h : finishMoves leaseId runId result row = false) :
    finishedLease now leaseId runId result db row = row := set_neg h

theorem finishedLease_columns (now : Timestamp) (leaseId runId : String)
    (result : Except String WorkflowLaunchResult) (db : RunDb) (row : IssueLease) :
    (finishedLease now leaseId runId result db row).leaseId = row.leaseId
      ∧ (finishedLease now leaseId runId result db row).runId = row.runId := by
  by_cases hmoves : finishMoves leaseId runId result row = true
  · rw [finishedLease_moved hmoves]
    exact ⟨rfl, (finishMoves_iff.mp hmoves).2.2.2.symm⟩
  · rw [finishedLease_kept (by simpa using hmoves)]
    exact ⟨rfl, rfl⟩

theorem finishTarget_ne_running (db : RunDb) (runId : String)
    (result : Except String WorkflowLaunchResult) : finishTarget db runId result ≠ .running := by
  unfold finishTarget
  split
  · simp
  · simp
  · simp
  · simp
  · simp
  · split
    · simp
    · simp

theorem finishExpected_cases (h : status ∈ finishExpected result) :
    status = .running ∨ status = .waitingExternal ∨ status = .cleanupAbandoned := by
  unfold finishExpected at h
  split at h
  · simp only [List.mem_cons, List.not_mem_nil, or_false] at h
    exact h.imp_right Or.inr
  · simp only [List.mem_cons, List.not_mem_nil, or_false] at h
    exact h.imp_right Or.inl
  · simp only [List.mem_cons, List.not_mem_nil, or_false] at h
    exact h.imp_right Or.inl
  · exact Or.inl (List.mem_singleton.mp h)

theorem pollable_finished
    (hrows : leases.rows = db.leases.rows.map (finishedLease now leaseId runId result db)) :
    hasPollableExternalWait { db with leases := leases } run = true ↔
      (∃ md ∈ db.runs, md.runId = run ∧ md.status = .waitingExternal)
        ∧ ∃ wait ∈ db.waits, wait.runId = run ∧ wait.resumeStep ≠ "" ∧ wait.suspensionId ≠ ""
          ∧ ∃ lease ∈ db.leases, wait.leaseId = some lease.leaseId ∧ lease.leaseId ≠ ""
            ∧ lease.runId = some run
            ∧ (finishedLease now leaseId runId result db lease).status = .waitingExternal := by
  rw [hasPollableExternalWait_iff]
  have hlease : ∀ p : IssueLease → Prop, (∃ lease ∈ leases, p lease) ↔
      ∃ lease ∈ db.leases, p (finishedLease now leaseId runId result db lease) := by
    intro p
    constructor
    · rintro ⟨after, hafter, hp⟩
      obtain ⟨lease, hlease, rfl⟩ := (mem_set hrows).mp hafter
      exact ⟨lease, hlease, hp⟩
    · rintro ⟨lease, hlease, hp⟩
      exact ⟨_, (mem_set hrows).mpr ⟨lease, hlease, rfl⟩, hp⟩
  simp only [hlease, (finishedLease_columns now leaseId runId result db _).1,
    (finishedLease_columns now leaseId runId result db _).2]

/-- **A lease that is suspended has a wait that is polled exactly when the suspension is
complete.** -/
theorem pollable_suspended (hrow : row ∈ db.leases)
    (hmoves : finishMoves leaseId runId (.ok .suspendedExternalWait) row)
    (hrows : leases.rows
      = db.leases.rows.map (finishedLease now leaseId runId (.ok .suspendedExternalWait) db)) :
    hasPollableExternalWait { db with leases := leases } runId = true ↔
      SuspensionIsComplete db leaseId runId := by
  rw [pollable_finished hrows]
  have hstatus : ∀ lease ∈ db.leases,
      (finishedLease now leaseId runId (.ok .suspendedExternalWait) db lease).status
          = .waitingExternal
        ↔ lease.status = .waitingExternal ∨ lease.leaseId = leaseId := by
    intro lease hlease
    by_cases hmoved : finishMoves leaseId runId (.ok .suspendedExternalWait) lease = true
    · rw [finishedLease_moved hmoved]
      exact iff_of_true rfl (Or.inr (finishMoves_iff.mp hmoved).2.1)
    · rw [finishedLease_kept (by simpa using hmoved)]
      refine ⟨Or.inl, fun h => h.resolve_right fun hid => hmoved ?_⟩
      have hsame : lease = row :=
        eq_of_clash hlease hrow (Or.inl (hid.trans (finishMoves_iff.mp hmoves).2.1.symm))
      rw [hsame]
      exact hmoves
  unfold SuspensionIsComplete
  refine and_congr_right fun _ => exists_congr fun wait => and_congr_right fun _ =>
    and_congr_right fun _ => and_congr_right fun _ => and_congr_right fun _ =>
    exists_congr fun lease => and_congr_right fun hlease => ?_
  rw [hstatus lease hlease]

theorem pollable_of_compensated {e : String} (hpollable : hasPollableExternalWait db runId)
    (hrows : leases.rows = db.leases.rows.map (finishedLease now leaseId runId (.error e) db)) :
    hasPollableExternalWait { db with leases := leases } runId = true := by
  rw [pollable_finished hrows]
  obtain ⟨hrun, wait, hwait, hid, hstep, hsuspension, lease, hlease, hleaseId, hname, howner,
    hstatus⟩ := hasPollableExternalWait_iff.mp hpollable
  refine ⟨hrun, wait, hwait, hid, hstep, hsuspension, lease, hlease, hleaseId, hname, howner, ?_⟩
  by_cases hmoved : finishMoves leaseId runId (.error e) lease = true
  · rw [finishedLease_moved hmoved]
    show finishTarget db runId (.error e) = .waitingExternal
    unfold finishTarget
    rw [hpollable]
    rfl
  · rw [finishedLease_kept (by simpa using hmoved)]
    exact hstatus

theorem finishedRows_kept (hrow : row ∈ db.leases) (hid : row.leaseId = leaseId)
    (hkept : finishMoves leaseId runId result row = false)
    (hrows : leases.rows = db.leases.rows.map (finishedLease now leaseId runId result db)) :
    leases.rows = db.leases.rows := by
  have hsame : ∀ lease ∈ db.leases.rows, finishedLease now leaseId runId result db lease = lease := by
    intro lease hlease
    refine finishedLease_kept ?_
    by_contra hmoves
    have hmoves : finishMoves leaseId runId result lease = true := by simpa using hmoves
    have hlease : lease = row := eq_of_clash hlease hrow
      (Or.inl ((finishMoves_iff.mp hmoves).2.1.trans hid.symm))
    rw [hlease, hkept] at hmoves
    simp at hmoves
  rw [hrows, List.map_congr_left hsame, List.map_id']

theorem finishedLease_waiting (hrow : row ∈ db.leases) (hid : row.leaseId = leaseId)
    (hrows : leases.rows = db.leases.rows.map (finishedLease now leaseId runId result db)) :
    ((finishedLease now leaseId runId result db row).status = .waitingExternal →
      LeaseIsPollable { db with leases := leases } (finishedLease now leaseId runId result db row))
      ↔ WaitIsThere leaseId runId result db row := by
  unfold WaitIsThere
  by_cases hmoves : finishMoves leaseId runId result row = true
  · have howner := (finishMoves_iff.mp hmoves).2.2.2
    have hpollable : LeaseIsPollable { db with leases := leases }
        (finishedLease now leaseId runId result db row) ↔
          hasPollableExternalWait { db with leases := leases } runId = true := by
      unfold LeaseIsPollable
      rw [(finishedLease_columns now leaseId runId result db row).2, howner]
      simp
    rw [if_pos hmoves, hpollable, finishedLease_moved hmoves]
    show (finishTarget db runId result = .waitingExternal → _) ↔ _
    cases hresult : result with
    | error e =>
      rw [hresult] at hrows
      refine iff_of_true (fun hwaiting => pollable_of_compensated ?_ hrows) (by simp)
      unfold finishTarget at hwaiting
      by_contra hnot
      rw [if_neg hnot] at hwaiting
      simp at hwaiting
    | ok outcome =>
      cases outcome with
      | suspendedExternalWait =>
        rw [hresult] at hrows hmoves
        rw [pollable_suspended hrow hmoves hrows]
        simp [finishTarget]
      | completedSuccess => simp [finishTarget]
      | completedFailure | cleanupAbandoned | ownershipDenied => simp [finishTarget]
  · have hkept : finishMoves leaseId runId result row = false := by simpa using hmoves
    have hleases : leases = db.leases := by
      have hsame := finishedRows_kept hrow hid hkept hrows
      cases leases
      cases hdb : db.leases
      rw [hdb] at hsame
      cases hsame
      rfl
    rw [if_neg hmoves, finishedLease_kept hkept, hleases]

/-- **A finished launch neither strands a lease nor takes one, exactly when the wait of its lease
is there.** -/
theorem launch_finishes_iff (now : Timestamp) (leaseId runId : String)
    (result : Except String WorkflowLaunchResult) (db : RunDb) :
    LaunchFinishes now leaseId runId result db ↔
      ∀ lease ∈ db.leases, lease.leaseId = leaseId → WaitIsThere leaseId runId result db lease := by
  obtain ⟨leases, hdb, hrows⟩ := finishLeaseAfterResult_db now leaseId runId result db
  have hrows : leases.rows = db.leases.rows.map (finishedLease now leaseId runId result db) := hrows
  have hkept : ∀ row ∈ db.leases, finishMoves leaseId runId result row = false → row ∈ leases :=
    fun row hrow hnot => (mem_set hrows).mpr ⟨row, hrow, finishedLease_kept hnot⟩
  constructor
  · intro hfinishes lease hlease hid
    refine (finishedLease_waiting hlease hid hrows).mp fun hwaiting => ?_
    have hpollable := hfinishes.waiting (finishedLease now leaseId runId result db lease)
    rw [hdb] at hpollable
    exact hpollable ((mem_set hrows).mpr ⟨lease, hlease, rfl⟩)
      ((finishedLease_columns now leaseId runId result db lease).1.trans hid) hwaiting
  · intro hthere
    refine ⟨fun row hrow => ?_, fun row hrow hid hwaiting => ?_, fun row hrow howner => ?_⟩
    · rw [hdb]
      by_cases hmoves : finishMoves leaseId runId result row = true
      · obtain ⟨_, hid, hstatus, howner⟩ := finishMoves_iff.mp hmoves
        refine Or.inr ⟨hid, howner, finishExpected_cases hstatus,
          finishedLease now leaseId runId result db row,
          (mem_set hrows).mpr ⟨row, hrow, rfl⟩, ?_, ?_, ?_⟩
        · rw [(finishedLease_columns now leaseId runId result db row).1, hid]
        · rw [(finishedLease_columns now leaseId runId result db row).2, howner]
        · rw [finishedLease_moved hmoves]
          exact finishTarget_ne_running db runId result
      · exact Or.inl (hkept row hrow (by simpa using hmoves))
    · rw [hdb] at hrow ⊢
      obtain ⟨before, hbefore, rfl⟩ := (mem_set hrows).mp hrow
      have hid : before.leaseId = leaseId :=
        (finishedLease_columns now leaseId runId result db before).1.symm.trans hid
      exact (finishedLease_waiting hbefore hid hrows).mpr (hthere before hbefore hid) hwaiting
    · rw [hdb]
      refine hkept row hrow ?_
      by_contra hmoves
      exact howner (finishMoves_iff.mp (by simpa using hmoves)).2.2.2

/-- A run that has been resumed, and its lease with it, when its launcher reports that it was
suspended. -/
theorem launch_strands_resumed_run :
    ¬ LaunchFinishes (exampleMidnight + 1) "lease-1" "run-1" (.ok .suspendedExternalWait)
        (exampleRunDb (exampleMidnight - 2))
      ∧ (finishLeaseAfterResult (exampleMidnight + 1) "lease-1" "run-1"
          (.ok .suspendedExternalWait) (exampleRunDb (exampleMidnight - 2))).1
        = .ok (.waitingExternal "run-1") := by
  refine ⟨fun hfinishes => ?_, by decide +kernel⟩
  have hwaiting : ((finishLeaseAfterResult (exampleMidnight + 1) "lease-1" "run-1"
      (.ok .suspendedExternalWait) (exampleRunDb (exampleMidnight - 2))).2.leases.rows.map
        fun row => (row.leaseId, row.runId, row.status))
      = [("lease-1", some "run-1", .waitingExternal)] := by decide +kernel
  have hpollable : hasPollableExternalWait (finishLeaseAfterResult (exampleMidnight + 1) "lease-1"
      "run-1" (.ok .suspendedExternalWait) (exampleRunDb (exampleMidnight - 2))).2 "run-1"
        = false := by decide +kernel
  obtain ⟨row, hrow, hcolumns⟩ : ∃ row ∈ (finishLeaseAfterResult (exampleMidnight + 1) "lease-1"
      "run-1" (.ok .suspendedExternalWait) (exampleRunDb (exampleMidnight - 2))).2.leases.rows,
        (row.leaseId, row.runId, row.status) = ("lease-1", some "run-1", .waitingExternal) := by
    rw [← List.mem_map, hwaiting]
    exact List.mem_singleton.mpr rfl
  simp only [Prod.mk.injEq] at hcolumns
  obtain ⟨run, hrun, hpolled⟩ := hfinishes.waiting row hrow hcolumns.1 hcolumns.2.2
  rw [hcolumns.2.1] at hrun
  rw [← Option.some.inj hrun, hpollable] at hpolled
  simp at hpolled

end Luther
