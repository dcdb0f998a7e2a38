/-
Which epoch a recovery goes on under.

A fresh reservation moves the epoch and goes on under what it moved it to.  A
reservation that takes a pending operation over goes on under the epoch of that
operation, which may be an old one: the request is checked against the persisted
epoch, and then the operation keeps its own.  Epochs never fall, so two fresh
reservations of one run are told apart by theirs.
-/
import Luther.Proofs.RecoveryBinding

namespace Luther

open Sql

/-- The run and the reservation of an answer that proceeds. -/
def RecoveryAnswer.proceeds : RecoveryAnswer → Option (String × ReservedRecovery)
  | .reserved p (.ok (.proceed r)) => some (p.runId, r)
  | _ => none

/-- The reservation makes its operation: the ledger has none under its id. -/
def Fresh (s : RecoverySystem) (r : ReservedRecovery) : Prop :=
  ∀ row ∈ s.db.operations, row.operationId ≠ r.operationId

section Fencing

variable {sha : Sha256Hex} {decodeWorkflow : List UInt8 → Except String WorkflowType}
  {s : RecoverySystem}

variable {c : RecoveryCall} {r : ReservedRecovery} {runId : String}

section

variable (h : ((recoveryMachine sha decodeWorkflow).answer s c).proceeds = some (runId, r))

include h

theorem proceeds_reserve :
    ∃ now pid workspace p, p ∈ s.prepared ∧ p.runId = runId
      ∧ ReserveEffect now pid workspace s.world p s.db (.ok (.proceed r))
        ((recoveryMachine sha decodeWorkflow).next s c).db := by
  cases hanswer : (recoveryMachine sha decodeWorkflow).answer s c with
  | reserved p result =>
    obtain ⟨now, pid, workspace, i, rfl, hp, rfl⟩ := answer_reserved hanswer
    rw [hanswer] at h
    have heffect := reserve_effect now pid workspace s.world p s.db
    rw [(next_reserve hp).2.1]
    refine ⟨now, pid, workspace, p, List.mem_of_getElem? hp, ?_⟩
    rcases hres : (reserve now pid workspace s.world p s.db).1 with e | outcome
    · rw [hres] at h
      simp [RecoveryAnswer.proceeds] at h
    · rw [hres] at h heffect
      cases outcome with
      | shortCircuit outcome => simp [RecoveryAnswer.proceeds] at h
      | proceed reserved =>
        simp only [RecoveryAnswer.proceeds, Option.some.injEq, Prod.mk.injEq] at h
        obtain ⟨hrun, rfl⟩ := h
        exact ⟨hrun, heffect⟩
  | nothing | prepared | finalized | ledger =>
    rw [hanswer] at h
    simp [RecoveryAnswer.proceeds] at h

theorem fresh_epoch (hfresh : Fresh s r) :
    r.epoch = persistedEpoch ((recoveryMachine sha decodeWorkflow).next s c).db.epochs runId
      ∧ r.epoch = persistedEpoch s.db.epochs runId + 1 := by
  obtain ⟨now, pid, workspace, p, -, rfl, heffect⟩ := proceeds_reserve h
  generalize ((recoveryMachine sha decodeWorkflow).next s c).db = db' at heffect ⊢
  cases heffect with
  | declined _ hproceed => exact absurd rfl (hproceed r)
  | adopted hlookup => exact absurd rfl (hfresh _ (lookupLogicalOperation_some hlookup).1)
  | fresh _ hvalid hcas =>
    have hread := revalidate_none hvalid
    obtain ⟨hto, hown, -⟩ := casAdvanceEpoch_advanced hread hcas
    exact ⟨hown.symm, by rw [← (readEpoch_ok hread).1]; exact hto⟩

end

theorem adopted_epoch (hsha : Function.Injective sha) (hinv : RecoveryInv sha s)
    (h : ((recoveryMachine sha decodeWorkflow).answer s c).proceeds = some (runId, r))
    (hadopted : ¬ Fresh s r) :
    ∃ row ∈ s.db.operations, row.operationId = r.operationId ∧ row.runId = runId
      ∧ r.epoch = row.epoch
      ∧ r.epoch ≤ persistedEpoch ((recoveryMachine sha decodeWorkflow).next s c).db.epochs runId
    := by
  obtain ⟨now, pid, workspace, p, hp, rfl, heffect⟩ := proceeds_reserve h
  have hkept := heffect.kept
  generalize ((recoveryMachine sha decodeWorkflow).next s c).db = db' at heffect hkept ⊢
  cases heffect with
  | declined _ hproceed => exact absurd rfl (hproceed r)
  | adopted hlookup =>
    obtain ⟨hmem, hkey⟩ := lookupLogicalOperation_some hlookup
    have hkeyed := hinv.ledger.keyed _ hmem
    rw [hkey] at hkeyed
    have hrun := (hkeyed.inj hsha (hinv.prepared p hp).keyed).1
    refine ⟨_, hmem, rfl, hrun, rfl, ?_⟩
    have hle := hinv.ledger.epochs _ hmem
    rw [hrun] at hle
    exact Nat.le_trans hle (hkept.epochs p.runId)
  | fresh _ _ _ _ hinsert =>
    -- The insertion of a fresh row succeeded, so no row has its id.
    refine absurd (fun row hrow hid => ?_) hadopted
    exact Table.not_clash_of_insert hinsert hrow (Or.inl hid)

/-- **Recovery epochs fence.** In every reachable state: a fresh reservation goes on under the
epoch that is persisted when it commits, and any other under the epoch of the operation it
took over, which is at most the persisted one; no run lowers an epoch; and of two fresh
reservations of one run, the later goes on under the larger epoch. -/
theorem recovery_epoch_fencing (hsha : Function.Injective sha)
    (hs : (recoveryMachine sha decodeWorkflow).Reachable s) :
    (∀ c runId r,
      ((recoveryMachine sha decodeWorkflow).answer s c).proceeds = some (runId, r) →
      (Fresh s r → r.epoch
        = persistedEpoch ((recoveryMachine sha decodeWorkflow).next s c).db.epochs runId)
      ∧ (¬ Fresh s r → ∃ row ∈ s.db.operations, row.operationId = r.operationId
        ∧ row.runId = runId ∧ r.epoch = row.epoch
        ∧ r.epoch
          ≤ persistedEpoch ((recoveryMachine sha decodeWorkflow).next s c).db.epochs runId))
    ∧ (∀ calls runId, persistedEpoch s.db.epochs runId
      ≤ persistedEpoch ((recoveryMachine sha decodeWorkflow).run s calls).db.epochs runId)
    ∧ ∀ c₁ calls c₂ runId r₁ r₂,
      ((recoveryMachine sha decodeWorkflow).answer s c₁).proceeds = some (runId, r₁) →
      Fresh s r₁ →
      ((recoveryMachine sha decodeWorkflow).answer
        ((recoveryMachine sha decodeWorkflow).run s (c₁ :: calls)) c₂).proceeds
          = some (runId, r₂) →
      Fresh ((recoveryMachine sha decodeWorkflow).run s (c₁ :: calls)) r₂ →
      r₁.epoch < r₂.epoch := by
  have hinv := recoveryInv_invariant.reachable hs
  refine ⟨fun c runId r h => ⟨fun hfresh => ?_, fun hadopted => ?_⟩, fun calls runId => ?_,
    fun c₁ calls c₂ runId r₁ r₂ h₁ hfresh₁ h₂ hfresh₂ => ?_⟩
  · exact (fresh_epoch h hfresh).1
  · exact adopted_epoch hsha hinv h hadopted
  · exact (run_kept s calls).epochs runId
  · have hfirst := (fresh_epoch h₁ hfresh₁).1
    have hsecond := (fresh_epoch h₂ hfresh₂).2
    have hgrow := (@run_kept sha decodeWorkflow
      ((recoveryMachine sha decodeWorkflow).next s c₁) calls).epochs runId
    rw [StateMachine.run_cons] at hsecond
    omega

end Fencing

/-- The first reservation of a run goes on under epoch one, which is then persisted. -/
theorem recovery_epoch_fencing_first :
    1 = persistedEpoch ((recoveryMachine spelled exampleDecode).next
      ((recoveryMachine spelled exampleDecode).run (exampleSystem spelled)
        [.prepare exampleWorkspace (exampleRequest "step-a" .retry 0)])
      (.reserve 0 7 exampleWorkspace 0)).db.epochs "run-1" := by
  have hs : (recoveryMachine spelled exampleDecode).Reachable
      ((recoveryMachine spelled exampleDecode).run (exampleSystem spelled)
        [.prepare exampleWorkspace (exampleRequest "step-a" .retry 0)]) :=
    StateMachine.Reachable.run (.start (exampleSystem_start _ _)) _
  refine ((recovery_epoch_fencing spelled_injective hs).1 (.reserve 0 7 exampleWorkspace 0)
    "run-1" { operationId := (exampleRow spelled).operationId, attemptId := 1, epoch := 1 }
    ?_).1 ?_
  · decide +kernel
  · have hempty : ((recoveryMachine spelled exampleDecode).run (exampleSystem spelled)
        [.prepare exampleWorkspace (exampleRequest "step-a" .retry 0)]).db.operations.rows
        = [] := by
      decide +kernel
    intro row hrow
    rw [Table.mem_def, hempty] at hrow
    exact absurd hrow List.not_mem_nil

/-- A retry whose lease has expired is taken over after a resume moved the epoch on: it goes
on under epoch one while epoch two is persisted. -/
theorem recovery_epoch_adopted_old :
    ¬ ∀ (sha : Sha256Hex) (decodeWorkflow : List UInt8 → Except String WorkflowType),
      Function.Injective sha → ∀ s, (recoveryMachine sha decodeWorkflow).Reachable s →
        ∀ c runId r,
          ((recoveryMachine sha decodeWorkflow).answer s c).proceeds = some (runId, r) →
          r.epoch
            = persistedEpoch ((recoveryMachine sha decodeWorkflow).next s c).db.epochs runId := by
  intro h
  let s := (recoveryMachine spelled exampleDecode).run (exampleSystem spelled)
    [.prepare exampleWorkspace (exampleRequest "step-a" .retry 0),
      .reserve 0 7 exampleWorkspace 0,
      .prepare exampleWorkspace (exampleRequest "step-a" .resume 1),
      .reserve 0 8 exampleWorkspace 1,
      .prepare exampleWorkspace (exampleRequest "step-a" .retry 2)]
  have hs : (recoveryMachine spelled exampleDecode).Reachable s :=
    StateMachine.Reachable.run (.start (exampleSystem_start _ _)) _
  have hbad := h spelled exampleDecode spelled_injective s hs
    (.reserve (2 * recoveryLease) 9 exampleWorkspace 2) "run-1"
    { operationId := (exampleRow spelled).operationId, attemptId := 1, epoch := 1 }
    (by decide +kernel)
  exact absurd hbad (by decide +kernel)

end Luther

/-
What is finalized stays finalized.

Two recoverers may hold one operation: one that is still executing, and one that took
the operation over when the lease expired.  Only one of them finalizes it.  The guards
of the two tables are in one transaction, so the one that comes second finds the
attempt with its outcome, and its transaction leaves no trace.
-/

namespace Luther

open Sql

section Finality

variable (sha : Sha256Hex) (decodeWorkflow : List UInt8 → Except String WorkflowType)

/-- The call takes the operation out of the pending status. -/
def LeavesPending (s : RecoverySystem) (c : RecoveryCall) (operationId : String) : Prop :=
  (∃ row ∈ s.db.operations, row.operationId = operationId ∧ row.status = .pending)
    ∧ ∃ row ∈ ((recoveryMachine sha decodeWorkflow).next s c).db.operations,
      row.operationId = operationId ∧ row.status ≠ .pending

/-- The call gives the attempt its outcome. -/
def GetsOutcome (s : RecoverySystem) (c : RecoveryCall) (attemptId : Nat) : Prop :=
  (∃ attempt ∈ s.db.attempts.table, attempt.attemptId = attemptId ∧ attempt.finalizedAt = none)
    ∧ ∃ attempt ∈ ((recoveryMachine sha decodeWorkflow).next s c).db.attempts.table,
      attempt.attemptId = attemptId ∧ attempt.finalizedAt.isSome

variable {sha decodeWorkflow} {s : RecoverySystem}

theorem operation_frozen {row : RecoveryOperation} (hmem : row ∈ s.db.operations)
    (hstatus : row.status ≠ .pending) (calls : List RecoveryCall) :
    row ∈ ((recoveryMachine sha decodeWorkflow).run s calls).db.operations := by
  obtain ⟨row', hmem', hkept⟩ :=
    (@run_kept sha decodeWorkflow s calls).operations row hmem
  rwa [hkept.frozen hstatus] at hmem'

theorem attempt_frozen {attempt : AttemptRow} (hmem : attempt ∈ s.db.attempts.table)
    (hfinal : attempt.finalizedAt.isSome) (calls : List RecoveryCall) :
    attempt ∈ ((recoveryMachine sha decodeWorkflow).run s calls).db.attempts.table := by
  obtain ⟨attempt', hmem', hkept⟩ :=
    (@run_kept sha decodeWorkflow s calls).attempts attempt hmem
  rwa [hkept.frozen hfinal] at hmem'

theorem leavesPending_once {c₁ c₂ : RecoveryCall} {calls : List RecoveryCall}
    {operationId : String} (h : LeavesPending sha decodeWorkflow s c₁ operationId) :
    ¬ LeavesPending sha decodeWorkflow
      ((recoveryMachine sha decodeWorkflow).run s (c₁ :: calls)) c₂ operationId := by
  obtain ⟨-, row, hmem, hid, hstatus⟩ := h
  intro hagain
  obtain ⟨⟨row', hmem', hid', hpending⟩, -⟩ := hagain
  have hfrozen := @operation_frozen sha decodeWorkflow _ _ hmem hstatus
    calls
  obtain rfl := eq_of_operationId hmem' hfrozen (hid'.trans hid.symm)
  exact hstatus hpending

theorem getsOutcome_once {c₁ c₂ : RecoveryCall} {calls : List RecoveryCall} {attemptId : Nat}
    (h : GetsOutcome sha decodeWorkflow s c₁ attemptId) :
    ¬ GetsOutcome sha decodeWorkflow
      ((recoveryMachine sha decodeWorkflow).run s (c₁ :: calls)) c₂ attemptId := by
  obtain ⟨-, attempt, hmem, hid, hfinal⟩ := h
  intro hagain
  obtain ⟨⟨attempt', hmem', hid', hnone⟩, -⟩ := hagain
  have hfrozen := @attempt_frozen sha decodeWorkflow _ _ hmem hfinal calls
  obtain rfl := eq_of_attemptId hmem' hfrozen (hid'.trans hid.symm)
  simp [hnone] at hfinal

theorem finalize_failed {now : Timestamp} {i : Nat} {result : RecoveryExecutionResult}
    {r : ReservedRecovery} {e : RecoveryError}
    (h : (recoveryMachine sha decodeWorkflow).answer s (.finalize now i result)
      = .finalized r (.error e)) :
    (recoveryMachine sha decodeWorkflow).next s (.finalize now i result) = s := by
  simp only [StateMachine.answer, StateMachine.next, recoveryMachine, recoveryStep] at h ⊢
  split at h
  · cases h
  · rename_i p r' hi
    simp only [RecoveryAnswer.finalized.injEq] at h
    have hdb : (finalize now p r' result s.db).2 = s.db :=
      finalize_error (Prod.ext h.2 rfl)
    simp only [hdb]

/-- **Recovery finalizes at most once.** In every reachable state, and whatever is called
after it: an operation leaves pending at most once and does not change after that; an attempt
gets its outcome at most once and does not change after that; a completed operation's outcome
encodes the attempt it executed under, which is a finalized attempt of that operation; and a
finalize that fails leaves both tables as they were. -/
theorem recovery_finalizes_once (hs : (recoveryMachine sha decodeWorkflow).Reachable s) :
    (∀ c₁ calls c₂ operationId, LeavesPending sha decodeWorkflow s c₁ operationId →
      ¬ LeavesPending sha decodeWorkflow
        ((recoveryMachine sha decodeWorkflow).run s (c₁ :: calls)) c₂ operationId)
    ∧ (∀ row ∈ s.db.operations, row.status ≠ .pending → ∀ calls,
      row ∈ ((recoveryMachine sha decodeWorkflow).run s calls).db.operations)
    ∧ (∀ c₁ calls c₂ attemptId, GetsOutcome sha decodeWorkflow s c₁ attemptId →
      ¬ GetsOutcome sha decodeWorkflow
        ((recoveryMachine sha decodeWorkflow).run s (c₁ :: calls)) c₂ attemptId)
    ∧ (∀ attempt ∈ s.db.attempts.table, attempt.finalizedAt.isSome → ∀ calls,
      attempt ∈ ((recoveryMachine sha decodeWorkflow).run s calls).db.attempts.table)
    ∧ (∀ row ∈ s.db.operations, row.status = .completed →
      ∃ attempt ∈ s.db.attempts.table, row.executionAttemptId = some attempt.attemptId
        ∧ row.serializedOutcome.map attemptIdFromOutcome = some (.ok attempt.attemptId)
        ∧ attempt.operationId = row.operationId ∧ attempt.finalizedAt.isSome)
    ∧ ∀ now i result r e, (recoveryMachine sha decodeWorkflow).answer s (.finalize now i result)
      = .finalized r (.error e) →
      (recoveryMachine sha decodeWorkflow).next s (.finalize now i result) = s := by
  refine ⟨fun c₁ calls c₂ id h => leavesPending_once h, fun row hmem hstatus calls => ?_,
    fun c₁ calls c₂ id h => getsOutcome_once h, fun attempt hmem hfinal calls => ?_,
    (recoveryInv_invariant.reachable hs).ledger.completed,
    fun now i result r e h => finalize_failed h⟩
  · exact operation_frozen hmem hstatus calls
  · exact attempt_frozen hmem hfinal calls

end Finality

def exampleRecovery : List RecoveryCall :=
  [.prepare exampleWorkspace (exampleRequest "step-a" .retry 0), .reserve 0 7 exampleWorkspace 0,
    .finalize 1 0 { stepStatus := "completed", stateSnapshot := {}, runnerResult := none }]

/-- Its operation is completed under its attempt. -/
theorem recovery_finalizes_once_completed :
    ∃ row ∈ ((recoveryMachine spelled exampleDecode).run (exampleSystem spelled)
        exampleRecovery).db.operations, row.status = .completed
      ∧ ∃ attempt ∈ ((recoveryMachine spelled exampleDecode).run (exampleSystem spelled)
          exampleRecovery).db.attempts.table,
        row.executionAttemptId = some attempt.attemptId
          ∧ row.serializedOutcome.map attemptIdFromOutcome = some (.ok attempt.attemptId)
          ∧ attempt.operationId = row.operationId ∧ attempt.finalizedAt.isSome := by
  have hs : (recoveryMachine spelled exampleDecode).Reachable
      ((recoveryMachine spelled exampleDecode).run (exampleSystem spelled) exampleRecovery) :=
    StateMachine.Reachable.run (.start (exampleSystem_start _ _)) _
  have hcompleted : ∃ row ∈ ((recoveryMachine spelled exampleDecode).run (exampleSystem spelled)
      exampleRecovery).db.operations.rows, row.status = .completed := by
    decide +kernel
  obtain ⟨row, hmem, hstatus⟩ := hcompleted
  exact ⟨row, hmem, hstatus, (recovery_finalizes_once hs).2.2.2.2.1 row hmem hstatus⟩

end Luther
