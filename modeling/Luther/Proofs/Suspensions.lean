/-
A suspension is used up once.

No poll and no continuation writes a wait, so a suspension that is gone stays gone.  Every
call that moves a suspension on has to find it and takes it away, and so only one of them
does.  A poll that comes late finds nothing and is an error, and an error leaves the
tables.

What is not bound to the suspension is a continuation.  It is bound to a checkpoint, and
where the run has no wait it asks for none: a resume that was planned while the run waited
goes through after a poll has failed the wait.
-/
import Luther.Proofs.PlanCommit

namespace Luther

open Sql Sql.Table StateMachine

/-!
### The pollers and the continuations of a database

A poller reads a wait, looks at what it waits for, and applies its decision later; a
continuation is planned and committed later.  Each is one transaction, so any number of
them at once are a list of calls, whose records and identities may be as old as they like.
-/

def PollClassification.endsWait : PollClassification → Bool
  | readyToResume | terminalFailure | timedOut => true
  | stillWaiting | transientFailure => false

/-- One call of a poller or a continuation. -/
inductive SuspensionCall where
  | applyPollDecision (record : WaitStateRecord) (decision : PollDecision) (now : Timestamp)
  | commitContinuation (host : ContinuationHost) (request : ContinuationRequest)
      (boundIdentity : String) (now : Timestamp) (pid : UInt32)

/-- What a call returned. -/
inductive SuspensionAnswer where
  | polled (result : Except PollApplyError Unit)
  | committed (result : Except ContinuationError RunMetadata)

def SuspensionAnswer.isOk : SuspensionAnswer → Bool
  | polled result => result.isOk
  | committed result => result.isOk

def suspensionStep (db : RunDb) : SuspensionCall → SuspensionAnswer × RunDb
  | .applyPollDecision record decision now =>
    let r := applyPollDecisionAt record decision now db
    (.polled r.1, r.2)
  | .commitContinuation host request boundIdentity now pid =>
    let r := commitContinuation host now pid request boundIdentity db
    (.committed r.1, r.2)

/-- Any number of pollers and continuations on one database, whatever it holds. -/
def suspensionMachine : StateMachine RunDb SuspensionCall SuspensionAnswer where
  start _ := True
  step := suspensionStep

/-- The call is of the suspension and moves it on: a poll that ends the wait, or the commit of
a resume that has found it. -/
def settles (runId suspensionId : String) (db : RunDb) (call : SuspensionCall) : Bool :=
  (suspensionMachine.answer db call).isOk &&
    match call with
    | .applyPollDecision record decision _ =>
      record.runId == runId && record.suspensionId == suspensionId
        && decision.classification.endsWait
    | .commitContinuation _ request _ _ _ =>
      request.kind.isResume && request.runId == runId
        && db.waits.rows.any (WaitStateRecord.isSuspension runId suspensionId)

/-- The call is a poll of the suspension that goes on waiting. -/
def refreshes (runId suspensionId : String) (db : RunDb) (call : SuspensionCall) : Bool :=
  (suspensionMachine.answer db call).isOk &&
    match call with
    | .applyPollDecision record decision _ =>
      record.runId == runId && record.suspensionId == suspensionId
        && !decision.classification.endsWait
    | .commitContinuation .. => false

variable {runId suspensionId : String} {db : RunDb}

/-! ### One call -/

variable {decision : PollDecision} {now : Timestamp} {record : WaitStateRecord} {db' : RunDb}

theorem isOk_polled
    (h : (suspensionMachine.answer db (.applyPollDecision record decision now)).isOk) :
    applyPollDecisionAt record decision now db
      = (.ok (), suspensionMachine.next db (.applyPollDecision record decision now)) := by
  change (applyPollDecisionAt record decision now db).1.isOk = true at h
  match happly : applyPollDecisionAt record decision now db with
  | (.ok (), db') =>
    show _ = (Except.ok (), (applyPollDecisionAt record decision now db).2)
    rw [happly]
  | (.error e, db') =>
    rw [happly] at h
    simp [Except.isOk, Except.toBool] at h

variable {host : ContinuationHost} {request : ContinuationRequest} {pid : UInt32}
  {md : RunMetadata}

theorem isOk_committed {identity : String} (h : (suspensionMachine.answer db
      (.commitContinuation host request identity now pid)).isOk) :
    ∃ md cp, Commits host now pid request md cp db
        (suspensionMachine.next db (.commitContinuation host request identity now pid))
      ∧ checkpointIdentity cp = identity := by
  change (commitContinuation host now pid request identity db).1.isOk = true at h
  match hcommit : commitContinuation host now pid request identity db with
  | (.ok committed, db') =>
    obtain ⟨md, cp, hcommits, hidentity, _⟩ := commitContinuation_ok.mp hcommit
    refine ⟨md, cp, ?_, hidentity⟩
    show Commits host now pid request md cp db
      (commitContinuation host now pid request identity db).2
    rw [hcommit]
    exact hcommits
  | (.error e, db') =>
    rw [hcommit] at h
    simp [Except.isOk, Except.toBool] at h

/-- **A call that returns an error leaves the tables.** -/
theorem next_of_error {call : SuspensionCall}
    (h : (suspensionMachine.answer db call).isOk = false) : suspensionMachine.next db call = db := by
  cases call with
  | applyPollDecision record decision now =>
    change (applyPollDecisionAt record decision now db).1.isOk = false at h
    show (applyPollDecisionAt record decision now db).2 = db
    match happly : applyPollDecisionAt record decision now db with
    | (.ok (), db') =>
      rw [happly] at h
      simp [Except.isOk, Except.toBool] at h
    | (.error e, db') => exact applyPollDecisionAt_error happly
  | commitContinuation host request identity now pid =>
    change (commitContinuation host now pid request identity db).1.isOk = false at h
    show (commitContinuation host now pid request identity db).2 = db
    match hcommit : commitContinuation host now pid request identity db with
    | (.ok committed, db') =>
      rw [hcommit] at h
      simp [Except.isOk, Except.toBool] at h
    | (.error e, db') => exact commitContinuation_error hcommit

/-! ### What a call does to a suspension -/

theorem waits_delete {p : WaitStateRecord → Bool} (h : db'.waits = db.waits.delete p) :
    db'.Waits runId suspensionId ↔
      ∃ wait ∈ db.waits, p wait = false ∧ wait.runId = runId
        ∧ wait.suspensionId = suspensionId := by
  unfold RunDb.Waits
  rw [h]
  simp only [mem_delete, and_assoc]

section

variable (h : applyPollDecisionAt record decision now db = (.ok (), db'))

include h

theorem poll_endsWait (hends : decision.classification.endsWait) :
    db.Waits record.runId record.suspensionId ∧ db'.waits
      = db.waits.delete (WaitStateRecord.isSuspension record.runId record.suspensionId) := by
  have happly := applyPollDecisionAt_ok h
  cases hclass : decision.classification with
  | readyToResume | terminalFailure | timedOut =>
    rw [hclass] at happly
    exact ⟨happly.waited, happly.waits⟩
  | stillWaiting | transientFailure => simp [hclass, PollClassification.endsWait] at hends

theorem poll_keepsWaiting (hends : decision.classification.endsWait = false) :
    KeepsWaiting now record decision db db' := by
  have happly := applyPollDecisionAt_ok h
  cases hclass : decision.classification with
  | readyToResume => simp [hclass, PollClassification.endsWait] at hends
  | terminalFailure | timedOut => simp [hclass, PollClassification.endsWait] at hends
  | stillWaiting | transientFailure =>
    rw [hclass] at happly
    exact happly

end

theorem KeepsWaiting.waits_iff (h : KeepsWaiting now record decision db db') :
    db'.Waits runId suspensionId ↔ db.Waits runId suspensionId := by
  have hcolumns : ∀ wait : WaitStateRecord,
      (Table.set (refreshable record) (refreshed now record decision) wait).runId = wait.runId
        ∧ (Table.set (refreshable record) (refreshed now record decision) wait).suspensionId
          = wait.suspensionId := by
    intro wait
    exact ⟨set_column WaitStateRecord.runId (f := refreshed now record decision)
        (fun _ => rfl) wait,
      set_column WaitStateRecord.suspensionId (f := refreshed now record decision)
        (fun _ => rfl) wait⟩
  constructor
  · rintro ⟨wait', hwait', hrun, hsuspension⟩
    obtain ⟨wait, hwait, rfl⟩ := (mem_set h.waits).mp hwait'
    rw [(hcolumns wait).1] at hrun
    rw [(hcolumns wait).2] at hsuspension
    exact ⟨wait, hwait, hrun, hsuspension⟩
  · rintro ⟨wait, hwait, hrun, hsuspension⟩
    exact ⟨_, (mem_set h.waits).mpr ⟨wait, hwait, rfl⟩, (hcolumns wait).1.trans hrun,
      (hcolumns wait).2.trans hsuspension⟩

theorem Commits.waits_subset {cp : Checkpoint}
    (h : Commits host now pid request md cp db db') (hwaits : db'.Waits runId suspensionId) :
    db.Waits runId suspensionId := by
  have hused := consumeWait_ok.mp h.wait
  split at hused
  · unfold RunDb.Waits at hwaits ⊢
    rw [← hused]
    exact hwaits
  split at hused
  · unfold RunDb.Waits at hwaits ⊢
    rw [← hused]
    exact hwaits
  · obtain ⟨wait, hwait, _, hrun, hsuspension⟩ := (waits_delete hused.2.2).mp hwaits
    exact ⟨wait, hwait, hrun, hsuspension⟩

/-- **No call brings a suspension back.** -/
theorem waits_of_next (call : SuspensionCall)
    (h : (suspensionMachine.next db call).Waits runId suspensionId) :
    db.Waits runId suspensionId := by
  by_cases hok : (suspensionMachine.answer db call).isOk = true
  · cases call with
    | applyPollDecision record decision now =>
      have happly := isOk_polled hok
      by_cases hends : decision.classification.endsWait = true
      · obtain ⟨wait, hwait, _, hrun, hsuspension⟩ :=
          (waits_delete (poll_endsWait happly hends).2).mp h
        exact ⟨wait, hwait, hrun, hsuspension⟩
      · exact (poll_keepsWaiting happly (by simpa using hends)).waits_iff.mp h
    | commitContinuation host request identity now pid =>
      obtain ⟨md, cp, hcommits, _⟩ := isOk_committed hok
      exact hcommits.waits_subset h
  · rw [next_of_error (by simpa using hok)] at h
    exact h

/-- **A call that moves a suspension on has found it, and takes it away.** -/
theorem settles_uses (db : RunDb) (call : SuspensionCall)
    (h : settles runId suspensionId db call) :
    db.Waits runId suspensionId
      ∧ ¬ (suspensionMachine.next db call).Waits runId suspensionId := by
  obtain ⟨hok, hcall⟩ := (Bool.and_eq_true _ _).mp h
  cases call with
  | applyPollDecision record decision now =>
    simp only [Bool.and_eq_true, beq_iff_eq] at hcall
    obtain ⟨⟨rfl, rfl⟩, hends⟩ := hcall
    obtain ⟨hwaited, hwaits⟩ := poll_endsWait (isOk_polled hok) hends
    refine ⟨hwaited, fun hafter => ?_⟩
    obtain ⟨wait, _, hnot, hrun, hsuspension⟩ := (waits_delete hwaits).mp hafter
    rw [isSuspension_iff.mpr ⟨hrun, hsuspension⟩] at hnot
    simp at hnot
  | commitContinuation host request identity now pid =>
    simp only [Bool.and_eq_true, beq_iff_eq] at hcall
    obtain ⟨⟨hresume, rfl⟩, hfound⟩ := hcall
    obtain ⟨wait, hwait, his⟩ := List.any_eq_true.mp hfound
    obtain ⟨md, cp, hcommits, _⟩ := isOk_committed hok
    refine ⟨⟨wait, hwait, isSuspension_iff.mp his⟩, fun hafter => ?_⟩
    obtain ⟨left, hleft, hrun, _⟩ := hafter
    have hnone := getWaitState_none_of_consumeWait hresume hcommits.wait
    rw [← hrun, getWaitState_of_mem hleft] at hnone
    simp at hnone

/-! ### How often a suspension was polled -/

def pollCountOf (runId suspensionId : String) (db : RunDb) : Nat :=
  ((db.waits.find? (WaitStateRecord.isSuspension runId suspensionId)).map
    fun wait => wait.pollCount.toNat).getD 0

theorem pollCountOf_eq {wait : WaitStateRecord} (hwait : wait ∈ db.waits)
    (hrun : wait.runId = runId) (hsuspension : wait.suspensionId = suspensionId) :
    pollCountOf runId suspensionId db = wait.pollCount.toNat := by
  have hfind : db.waits.find? (WaitStateRecord.isSuspension runId suspensionId) = some wait := by
    refine Table.find?_eq_some_of_key (fun a b ha hb => ?_) hwait
      (isSuspension_iff.mpr ⟨hrun, hsuspension⟩)
    exact (isSuspension_iff.mp ha).1.trans (isSuspension_iff.mp hb).1.symm
  rw [pollCountOf, hfind]
  rfl

theorem poll_count_lt (h : applyPollDecisionAt record decision now db = (.ok (), db'))
    (hends : decision.classification.endsWait = false) : record.pollCount.toNat < 2 ^ 63 := by
  have hstill : ∃ done, applyStillWaiting now record decision db = .ok done := by
    have hbody := atomically_ok.mp h
    cases happly : applyStillWaiting now record decision db with
    | ok done => exact ⟨done, rfl⟩
    | error e =>
      cases hclass : decision.classification with
      | readyToResume => simp [hclass, PollClassification.endsWait] at hends
      | terminalFailure | timedOut => simp [hclass, PollClassification.endsWait] at hends
      | stillWaiting | transientFailure => simp [hclass, happly, Except.map] at hbody
  obtain ⟨done, hdone⟩ := hstill
  obtain ⟨_, _, hdone⟩ := bind_ok.mp hdone
  obtain ⟨_, hupdate, _⟩ := bind_ok.mp hdone
  obtain ⟨expected, hexpected, _⟩ := bind_ok.mp (mapError_ok.mp hupdate)
  unfold toSqlI64 at hexpected
  split at hexpected
  · assumption
  · simp at hexpected

/-- **A suspension that a call leaves waiting has been polled once more exactly when the call was
such a poll.** -/
theorem pollCountOf_next (db : RunDb) (call : SuspensionCall)
    (hbefore : db.Waits runId suspensionId)
    (hafter : (suspensionMachine.next db call).Waits runId suspensionId) :
    pollCountOf runId suspensionId (suspensionMachine.next db call)
      = pollCountOf runId suspensionId db + if refreshes runId suspensionId db call then 1 else 0 := by
  obtain ⟨wait, hwait, hrun, hsuspension⟩ := hbefore
  have hkept : wait ∈ (suspensionMachine.next db call).waits →
      refreshes runId suspensionId db call = false →
      pollCountOf runId suspensionId (suspensionMachine.next db call)
        = pollCountOf runId suspensionId db
          + if refreshes runId suspensionId db call then 1 else 0 := by
    intro hmem hnot
    rw [pollCountOf_eq hmem hrun hsuspension, pollCountOf_eq hwait hrun hsuspension, hnot]
    rfl
  obtain ⟨left, hleft, hleftRun, hleftSuspension⟩ := hafter
  have hsame : left ∈ db.waits → left = wait := by
    intro hmem
    exact eq_of_clash hmem hwait (hleftRun.trans hrun.symm)
  by_cases hok : (suspensionMachine.answer db call).isOk = true
  · cases call with
    | applyPollDecision record decision now =>
      have happly := isOk_polled hok
      by_cases hends : decision.classification.endsWait = true
      · refine hkept ?_ (by simp [refreshes, hends])
        have hwaits := (poll_endsWait happly hends).2
        rw [hwaits] at hleft ⊢
        obtain ⟨hmem, hnot⟩ := mem_delete.mp hleft
        rw [hsame hmem] at hnot
        exact mem_delete.mpr ⟨hwait, hnot⟩
      · have hends : decision.classification.endsWait = false := by simpa using hends
        have hwaits := (poll_keepsWaiting happly hends)
        have hcount := poll_count_lt happly hends
        by_cases hrefreshed : refreshable record wait = true
        · obtain ⟨his, hpolls⟩ := (Bool.and_eq_true _ _).mp hrefreshed
          obtain ⟨hid, hsid⟩ := isSuspension_iff.mp his
          have hnew : refreshed now record decision wait
              ∈ (suspensionMachine.next db (.applyPollDecision record decision now)).waits :=
            (mem_set hwaits.waits).mpr ⟨wait, hwait, set_pos hrefreshed⟩
          rw [pollCountOf_eq hnew hrun hsuspension, pollCountOf_eq hwait hrun hsuspension,
            if_pos (by simp [refreshes, hok, hends, ← hrun, ← hsuspension, hid, hsid])]
          show (wait.pollCount + 1).toNat = _
          have hpolls : wait.pollCount = record.pollCount := by simpa using hpolls
          rw [hpolls, UInt64.toNat_add]
          have hone : (1 : UInt64).toNat = 1 := rfl
          omega
        · have hrefreshed : refreshable record wait = false := by simpa using hrefreshed
          refine hkept ((mem_set hwaits.waits).mpr
            ⟨wait, hwait, set_neg hrefreshed⟩) ?_
          by_contra hcalls
          have hcalls : record.runId = runId ∧ record.suspensionId = suspensionId := by
            simpa [refreshes, hok, hends] using hcalls
          obtain ⟨found, hfound, hrefreshable⟩ := hwaits.waited
          have hfoundIs := isSuspension_iff.mp ((Bool.and_eq_true _ _).mp hrefreshable).1
          have hfoundSame : found = wait :=
            eq_of_clash hfound hwait (hfoundIs.1.trans (hcalls.1.trans hrun.symm))
          rw [hfoundSame, hrefreshed] at hrefreshable
          simp at hrefreshable
    | commitContinuation host request identity now pid =>
      obtain ⟨md, cp, hcommits, _⟩ := isOk_committed hok
      refine hkept ?_ (by simp [refreshes])
      have hused := consumeWait_ok.mp hcommits.wait
      split at hused
      · rw [hused]
        exact hwait
      split at hused
      · rw [hused]
        exact hwait
      · rw [hused.2.2] at hleft ⊢
        obtain ⟨hmem, hnot⟩ := mem_delete.mp hleft
        rw [hsame hmem] at hnot
        exact mem_delete.mpr ⟨hwait, hnot⟩
  · refine hkept ?_ (by simp [refreshes, hok])
    rw [next_of_error (by simpa using hok)]
    exact hwait

/-! ### Every call -/

/-- What each call makes of the suspension it is about. -/
structure HandlesSuspension (db : RunDb) (call : SuspensionCall) : Prop where
  /-- A call that returns an error changes no table. -/
  rejected : (suspensionMachine.answer db call).isOk = false →
    suspensionMachine.next db call = db
  /-- A poll that goes through has found its suspension waiting. -/
  found : ∀ record decision now, call = .applyPollDecision record decision now →
    (suspensionMachine.answer db call).isOk = true →
    db.Waits record.runId record.suspensionId
  /-- A resume that goes through has met no wait of its run but that of its checkpoint. -/
  bound : ∀ host request identity now pid,
    call = .commitContinuation host request identity now pid → request.kind = .resume →
    (suspensionMachine.answer db call).isOk = true → ∀ wait,
    getWaitState db.waits request.runId = some wait → wait.checkpointId = identity
  /-- A poll that goes on waiting leaves the runs that do not wait. -/
  runs : ∀ record decision now, call = .applyPollDecision record decision now →
    decision.classification.endsWait = false → ∀ md ∈ db.runs, md.status ≠ .waitingExternal →
    md ∈ (suspensionMachine.next db call).runs
  /-- And the leases that do not wait. -/
  leases : ∀ record decision now, call = .applyPollDecision record decision now →
    decision.classification.endsWait = false → ∀ lease ∈ db.leases,
    lease.status ≠ .waitingExternal → lease ∈ (suspensionMachine.next db call).leases

theorem KeepsWaiting.runs_kept (h : KeepsWaiting now record decision db db')
    (hmd : md ∈ db.runs) (hstatus : md.status ≠ .waitingExternal) :
    md ∈ db'.runs :=
  (mem_set h.runs.rows).mpr ⟨md, hmd, set_neg (by simp [hstatus])⟩

theorem KeepsWaiting.leases_kept (h : KeepsWaiting now record decision db db') {lease : IssueLease}
    (hlease : lease ∈ db.leases) (hstatus : lease.status ≠ .waitingExternal) :
    lease ∈ db'.leases := by
  have hmoved := h.leases
  unfold LeaseAdvances at hmoved
  split at hmoved
  · rw [hmoved]
    exact hlease
  · exact (mem_set hmoved.2).mpr
      ⟨lease, hlease, set_neg (by simp [movable, hstatus])⟩

theorem handlesSuspension (db : RunDb) (call : SuspensionCall) : HandlesSuspension db call where
  rejected := next_of_error
  found := by
    rintro record decision now rfl hok
    by_cases hends : decision.classification.endsWait = true
    · exact (poll_endsWait (isOk_polled hok) hends).1
    · obtain ⟨wait, hwait, hrefreshable⟩ :=
        (poll_keepsWaiting (isOk_polled hok) (by simpa using hends)).waited
      exact ⟨wait, hwait, isSuspension_iff.mp ((Bool.and_eq_true _ _).mp hrefreshable).1⟩
  bound := by
    rintro host request identity now pid rfl hkind hok wait hwait
    obtain ⟨md, cp, hcommits, hidentity⟩ := isOk_committed hok
    have hused := consumeWait_ok.mp hcommits.wait
    rw [if_neg (by simp [hkind, ContinuationKind.isResume]), hwait] at hused
    rw [hused.1, hidentity]
  runs := by
    rintro record decision now rfl hends md hmd hstatus
    by_cases hok : (suspensionMachine.answer db
        (.applyPollDecision record decision now)).isOk = true
    · exact (poll_keepsWaiting (isOk_polled hok) hends).runs_kept hmd hstatus
    · rw [next_of_error (by simpa using hok)]
      exact hmd
  leases := by
    rintro record decision now rfl hends lease hlease hstatus
    by_cases hok : (suspensionMachine.answer db
        (.applyPollDecision record decision now)).isOk = true
    · exact (poll_keepsWaiting (isOk_polled hok) hends).leases_kept hlease hstatus
    · rw [next_of_error (by simpa using hok)]
      exact hlease

/-! ### Every run -/

/-- What holds of any number of pollers and continuations. -/
structure SuspensionsUsedOnce (db : RunDb) (calls : List SuspensionCall) : Prop where
  /-- A suspension is moved on by one call at most. -/
  once : ∀ runId suspensionId,
    suspensionMachine.tally (settles runId suspensionId) db calls ≤ 1
  /-- A suspension that is gone stays gone. -/
  gone : ∀ runId suspensionId, ¬ db.Waits runId suspensionId →
    ¬ (suspensionMachine.run db calls).Waits runId suspensionId
  /-- Every call of the run, in the state it is made in. -/
  handled : suspensionMachine.Along HandlesSuspension db calls
  /-- A suspension that still waits has been counted once for each poll that went on waiting. -/
  counted : ∀ runId suspensionId, db.Waits runId suspensionId →
    (suspensionMachine.run db calls).Waits runId suspensionId →
    pollCountOf runId suspensionId (suspensionMachine.run db calls)
      = pollCountOf runId suspensionId db
        + suspensionMachine.tally (refreshes runId suspensionId) db calls

/-- **A suspension is used up once, whatever the pollers and the continuations do.** -/
theorem suspensions_used_once (db : RunDb) (calls : List SuspensionCall) :
    SuspensionsUsedOnce db calls := by
  have hgone : ∀ {runId suspensionId : String} (db : RunDb) (call : SuspensionCall),
      ¬ db.Waits runId suspensionId →
      ¬ (suspensionMachine.next db call).Waits runId suspensionId :=
    fun _ call hnot hwaits => hnot (waits_of_next call hwaits)
  refine ⟨fun runId suspensionId => ?_, fun runId suspensionId hnot => ?_, ?_,
    fun runId suspensionId hbefore hafter => ?_⟩
  · exact tally_le_one hgone settles_uses db calls
  · exact run_keeps hgone hnot calls
  · induction calls generalizing db with
    | nil => trivial
    | cons call rest ih => exact ⟨handlesSuspension db call, ih _⟩
  · exact tally_measure hgone pollCountOf_next hbefore hafter

/-- The wait of the run of the example, at the checkpoint it has at that step. -/
def exampleReadyWait : WaitStateRecord :=
  { exampleChecksWait with checkpointId := "watch_pr_checks@2026-07-12T00:00:00+00:00" }

/-- The poll of the wait finds that it took too long. -/
def exampleTimedOut : PollDecision := { exampleReady with classification := .timedOut }

/-- The run of the example, which waits at that step. -/
def exampleReadyDb : RunDb :=
  exampleRunAtDb .waitingExternal .waitingExternal "watch_pr_checks"
    ⟨[exampleReadyWait], List.pairwise_singleton _ _⟩

theorem exampleFailed_commits
    (h : FailsWait (exampleMidnight + 1) exampleReadyWait exampleReadyDb db') :
    CommittedAsPlanned exampleHost (exampleMidnight + 2) 42 (resumeRequest "run-1" false) db'
      (exampleReadyCheckpoint "watch_pr_checks") := by
  obtain ⟨md, hmd, _, hrun⟩ := h.runs.getRun
  have hmd : exampleRunAt .waitingExternal "watch_pr_checks" = md := Option.some.inj hmd
  rw [← hmd] at hrun
  have hleases : db'.leases.rows = exampleReadyDb.leases.rows.map
      (Table.set (movable (· == some "run-1") "lease-1"
        [.waitingExternal, .readyToResume, .running, .claimed])
        (movedLease (exampleMidnight + 1) .failed none)) := h.leases.2
  have hcontinuable : Continuable exampleHost (resumeRequest "run-1" false)
      ((exampleRunAt .waitingExternal "watch_pr_checks").withStatus (exampleMidnight + 1) .failed
        (some "watch_pr_checks")) db' := by
    refine ⟨hrun, by decide, rfl, rfl, ?_⟩
    intro repository issueNumber hrepository hissue
    have hrepository : repository = "o/r" := (Option.some.inj hrepository).symm
    have hissue : issueNumber = 7 := (Option.some.inj hissue).symm
    rw [hrepository, hissue]
    unfold getLeaseForIssue Table.find?
    rw [hleases]
    exact ⟨_, rfl, rfl, by decide⟩
  have hselected : selectCheckpoint exampleHost db'.checkpoints (resumeRequest "run-1" false)
      ((exampleRunAt .waitingExternal "watch_pr_checks").withStatus (exampleMidnight + 1) .failed
        (some "watch_pr_checks")) = .ok (exampleReadyCheckpoint "watch_pr_checks") := by
    rw [h.checkpoints]
    exact selectCheckpoint_example .waitingExternal .waitingExternal "watch_pr_checks" _ _ rfl
  have hplanned : Planned exampleHost (resumeRequest "run-1" false)
      ((exampleRunAt .waitingExternal "watch_pr_checks").withStatus (exampleMidnight + 1) .failed
        (some "watch_pr_checks")) db' (exampleReadyCheckpoint "watch_pr_checks") :=
    ⟨(validateContinuation_ok hrun hselected).mpr
      ⟨by decide, by decide, by decide, by decide, Or.inl (by decide)⟩, hselected⟩
  refine (committedAsPlanned_iff hcontinuable hplanned).mpr ⟨fun _ _ => by decide, ?_, ?_⟩
  · intro _ wait hwait
    have hleft := (Table.find?_some hwait).1
    rw [h.waits] at hleft
    obtain ⟨hmem, hnot⟩ := mem_delete.mp hleft
    rw [List.mem_singleton.mp hmem] at hnot
    exact absurd hnot (by decide)
  · intro row hrow _ hstep
    rw [h.checkpoints] at hrow
    rw [List.mem_singleton.mp hrow] at hstep
    exact absurd rfl hstep

/-- A resume is planned while the run waits, a poll fails the wait, and the resume goes through:
the late call is no error. -/
theorem resume_after_failed_wait :
    exampleReadyWait.checkpointId = checkpointIdentity (exampleReadyCheckpoint "watch_pr_checks")
      ∧ Planned exampleHost (resumeRequest "run-1" false)
        (exampleRunAt .waitingExternal "watch_pr_checks") exampleReadyDb
        (exampleReadyCheckpoint "watch_pr_checks")
      ∧ (suspensionMachine.log exampleReadyDb
          [.applyPollDecision exampleReadyWait exampleTimedOut (exampleMidnight + 1),
            .commitContinuation exampleHost (resumeRequest "run-1" false)
              (checkpointIdentity (exampleReadyCheckpoint "watch_pr_checks"))
              (exampleMidnight + 2) 42]).map (fun e => e.2.isOk) = [true, true] := by
  have hpolled : (suspensionMachine.answer exampleReadyDb
      (.applyPollDecision exampleReadyWait exampleTimedOut (exampleMidnight + 1))).isOk = true := by
    decide +kernel
  have hplanned : Planned exampleHost (resumeRequest "run-1" false)
      (exampleRunAt .waitingExternal "watch_pr_checks") exampleReadyDb
      (exampleReadyCheckpoint "watch_pr_checks") := by
    have hselected := selectCheckpoint_example .waitingExternal .waitingExternal "watch_pr_checks"
      ⟨[exampleReadyWait], List.pairwise_singleton _ _⟩
      (exampleRunAt .waitingExternal "watch_pr_checks") rfl
    refine ⟨(validateContinuation_ok rfl hselected).mpr ?_, hselected⟩
    unfold StepMayRun
    decide +kernel
  have hcommitted := exampleFailed_commits (applyPollDecisionAt_ok (isOk_polled hpolled))
  refine ⟨by decide +kernel, hplanned, ?_⟩
  simp only [log_cons, log_nil, List.map_cons, List.map_nil, hpolled]
  obtain ⟨committed, db', hcommit, _⟩ := hcommitted
  have hanswer : (suspensionMachine.answer (suspensionMachine.next exampleReadyDb
      (.applyPollDecision exampleReadyWait exampleTimedOut (exampleMidnight + 1)))
      (.commitContinuation exampleHost (resumeRequest "run-1" false)
        (checkpointIdentity (exampleReadyCheckpoint "watch_pr_checks"))
        (exampleMidnight + 2) 42)).isOk = true := by
    show (commitContinuation _ _ _ _ _ _).1.isOk = true
    rw [hcommit]
    rfl
  rw [hanswer]

end Luther
