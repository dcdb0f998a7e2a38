/-
A recovery that is asked for again.

The key of a request is made from the latest finalized attempt of its step, and the
recovery finalizes an attempt.  When that attempt is one of the request's own step, the
second request has another key, and does not find the operation of the first.  It does
find it in one case: when the first request took over an operation of another step.
-/
import Luther.Proofs.RecoveryBinding

namespace Luther

open Sql

section Replay

variable {sha : Sha256Hex} {decodeWorkflow : List UInt8 → Except String WorkflowType}
  {reservedAt finalizedAt : Timestamp} {pid : UInt32} {workspace : Workspace}
  {executor : RecoveryExecutor} {request : RecoveryRequest} {world : AuthorityTables}
  {db : RecoveryDb}

theorem refusalOf_ne_recovered (e : RecoveryError) (step : String) (a : Nat) (o : String) :
    refusalOf e ≠ .ok (.recovered step a o) ∧ reserveRefusalOf e ≠ .ok (.recovered step a o) := by
  cases e <;> exact ⟨by simp [refusalOf], by simp [reserveRefusalOf, refusalOf]⟩

theorem refusalOf_ne_alreadyApplied (e : RecoveryError) (prior : String) (a : Nat) (o : String) :
    refusalOf e ≠ .ok (.alreadyApplied prior a o)
      ∧ reserveRefusalOf e ≠ .ok (.alreadyApplied prior a o) := by
  cases e <;> exact ⟨by simp [refusalOf], by simp [reserveRefusalOf, refusalOf]⟩

variable {a : Nat} {p : PreparedRecovery} {db₁ : RecoveryDb} {now : Timestamp}
  {r : ReservedRecovery}

variable {o : String} {row : RecoveryOperation} {result : RecoveryExecutionResult}
  {db₂ : RecoveryDb} {outcome : RecoveryOutcome}

theorem recover_recovered {step : String}
    (h : (recover sha decodeWorkflow reservedAt finalizedAt pid workspace executor request world
      db).answer = .ok (.recovered step a o)) :
    ∃ p r result db₁,
      prepare sha decodeWorkflow workspace request world db.attempts = .ok p
      ∧ ReserveEffect reservedAt pid workspace world p db (.ok (.proceed r)) db₁
      ∧ FinalizeEffect finalizedAt p r result db₁ (.recovered step a o)
        (recover sha decodeWorkflow reservedAt finalizedAt pid workspace executor request world
          db).db := by
  unfold recover at h ⊢
  cases hprepare : prepare sha decodeWorkflow workspace request world db.attempts with
  | error e =>
    simp only [hprepare] at h
    exact absurd h (refusalOf_ne_recovered e step a o).1
  | ok p =>
    simp only [hprepare] at h ⊢
    have heffect := reserve_effect reservedAt pid workspace world p db
    rcases hreserve : reserve reservedAt pid workspace world p db with ⟨answer, db₁⟩
    rw [hreserve] at heffect
    simp only [hreserve] at h ⊢
    rcases answer with e | outcome
    · exact absurd h (refusalOf_ne_recovered e step a o).2
    · cases outcome with
      | shortCircuit outcome =>
        -- Reserve itself never recovers.
        simp only [Except.ok.injEq] at h
        subst h
        cases heffect with
        | declined hdeclined => simp [namedOperation] at hdeclined
      | proceed r =>
        dsimp only at h ⊢
        rcases hexecutor : executor (executionInvocation p r) world with ⟨result, world'⟩
        simp only [hexecutor] at h ⊢
        cases result with
        | error e => simp at h
        | ok result =>
          dsimp only at h ⊢
          exact ⟨p, r, result, db₁, rfl, heffect, finalize_effect (Prod.ext h rfl)⟩

theorem recover_alreadyApplied {prior : String}
    (h : (recover sha decodeWorkflow reservedAt finalizedAt pid workspace executor request world
      db).answer = .ok (.alreadyApplied prior a o)) :
    ∃ p row, prepare sha decodeWorkflow workspace request world db.attempts = .ok p
      ∧ row ∈ db.operations ∧ row.logicalRequestKey = p.logicalRequestKey
      ∧ row.operationId = o := by
  unfold recover at h
  cases hprepare : prepare sha decodeWorkflow workspace request world db.attempts with
  | error e =>
    simp only [hprepare] at h
    exact absurd h (refusalOf_ne_alreadyApplied e prior a o).1
  | ok p =>
    simp only [hprepare] at h
    have heffect := reserve_effect reservedAt pid workspace world p db
    rcases hreserve : reserve reservedAt pid workspace world p db with ⟨answer, db₁⟩
    rw [hreserve] at heffect
    simp only [hreserve] at h
    rcases answer with e | outcome
    · exact absurd h (refusalOf_ne_alreadyApplied e prior a o).2
    · cases outcome with
      | shortCircuit outcome =>
        simp only [Except.ok.injEq] at h
        subst h
        cases heffect with
        | declined hdeclined => simp [namedOperation] at hdeclined
        | answered hlookup =>
          obtain ⟨hmem, hkey⟩ := lookupLogicalOperation_some hlookup
          exact ⟨p, _, rfl, hmem, hkey, rfl⟩
      | proceed r =>
        dsimp only at h
        rcases hexecutor : executor (executionInvocation p r) world with ⟨result, world'⟩
        simp only [hexecutor] at h
        cases result with
        | error e => simp at h
        | ok result =>
          dsimp only at h
          have hfinal := (finalize_effect (Prod.ext h rfl)).outcome
          simp at hfinal

theorem recover_completed
    (hprepare : prepare sha decodeWorkflow workspace request world db.attempts = .ok p)
    (hmem : row ∈ db.operations) (hkey : row.logicalRequestKey = p.logicalRequestKey)
    (hcapsule : row.capsuleEnvelopeDigest = p.authority.capsule.envelopeDigest)
    (hstatus : row.status = .completed) (hexec : row.executionAttemptId = some a) :
    (recover sha decodeWorkflow reservedAt finalizedAt pid workspace executor request world
        db).answer = .ok (.alreadyApplied row.outcomeText a row.operationId)
      ∧ (recover sha decodeWorkflow reservedAt finalizedAt pid workspace executor request world
        db).invocations = [] := by
  have hfound : lookupLogicalOperation db.operations p.logicalRequestKey = some row :=
    hkey ▸ lookupLogicalOperation_of_mem hmem
  have heffect := reserve_effect reservedAt pid workspace world p db
  have hreserve : ∃ db', reserve reservedAt pid workspace world p db
      = (.ok (.shortCircuit (.alreadyApplied row.outcomeText a row.operationId)), db') := by
    rcases hres : reserve reservedAt pid workspace world p db with ⟨answer, db'⟩
    rw [hres] at heffect
    refine ⟨db', ?_⟩
    cases heffect with
    | declined _ _ hlookup =>
      rw [hlookup row hfound ⟨hcapsule, Or.inl hstatus⟩] at hexec
      simp at hexec
    | answered hlookup _ _ hattempt =>
      obtain rfl := Option.some.inj (hfound.symm.trans hlookup)
      rw [Option.some.inj (hexec.symm.trans hattempt)]
    | adopted hlookup _ hpending =>
      obtain rfl := Option.some.inj (hfound.symm.trans hlookup)
      rw [hstatus] at hpending
      exact absurd hpending (by decide)
    | fresh hlookup =>
      rw [hlookup] at hfound
      simp at hfound
  obtain ⟨db', hdb'⟩ := hreserve
  unfold recover
  rw [hprepare]
  dsimp only
  rw [hdb']
  exact ⟨rfl, rfl⟩

/-- What a recovery that succeeded leaves behind: its row, completed, and its attempt. -/
structure Completion (db : RecoveryDb) (row : RecoveryOperation) (attempt : AttemptRow) (a : Nat)
    (o : String) : Prop where
  rowMem : row ∈ db.operations
  operationId : row.operationId = o
  completed : row.status = .completed
  executing : row.executionAttemptId = some a
  attemptMem : attempt ∈ db.attempts.table
  attemptId : attempt.attemptId = a
  runId : attempt.runId = row.runId
  stepId : attempt.stepId = row.stepId
  finalized : attempt.finalizedAt.isSome
  source : ∀ source, row.sourceAttemptId = some source → source < a

theorem FinalizeEffect.completion (h : FinalizeEffect now p r result db₁ outcome db₂)
    (hinv : LedgerInv sha db₁) (hmem : row ∈ db₁.operations)
    (hid : row.operationId = r.operationId) (hexec : row.executionAttemptId = some r.attemptId) :
    ∃ row' attempt, row'.binding = row.binding
      ∧ Completion db₂ row' attempt r.attemptId r.operationId := by
  obtain ⟨⟨pending, hpendingMem, hpendingId, hpending⟩, hrows⟩ := finalizeRow_ok h.operation
  obtain rfl := eq_of_operationId hmem hpendingMem (hid.trans hpendingId.symm)
  obtain ⟨attempt, hattempt, hexecuting, -, hrun, hstep, hsource⟩ := hinv.executing row hmem
  have hattemptId : attempt.attemptId = r.attemptId :=
    Option.some.inj (hexecuting.symm.trans hexec)
  obtain ⟨attempt', hattempt', hidentity, hfinal⟩ := h.attempt_finalized hattempt hattemptId
  have hid' := congrArg AttemptRow.Identity.attemptId hidentity
  have hrun' := congrArg AttemptRow.Identity.runId hidentity
  have hstep' := congrArg AttemptRow.Identity.stepId hidentity
  simp only [AttemptRow.identity] at hid' hrun' hstep'
  have hopen : row.isOpen r.operationId = true :=
    RecoveryOperation.isOpen_iff.mpr ⟨hid, hpending⟩
  have hmem' := (Table.mem_set hrows).mpr ⟨row, hmem, rfl⟩
  rw [Table.set_pos hopen] at hmem'
  refine ⟨_, attempt', ?_, hmem', hid, rfl, hexec, hattempt', hid'.trans hattemptId,
    hrun'.trans hrun, hstep'.trans hstep, hfinal, fun source hs => ?_⟩
  · rfl
  · rw [← hattemptId]
    exact hsource source hs

theorem ReserveEffect.proceed_row
    (h : ReserveEffect now pid workspace world p db (.ok (.proceed r)) db₁) :
    ∃ row ∈ db₁.operations, row.operationId = r.operationId
      ∧ row.executionAttemptId = some r.attemptId
      ∧ row.logicalRequestKey = p.logicalRequestKey
      ∧ row.capsuleEnvelopeDigest = p.authority.capsule.envelopeDigest
      ∧ ((row.stepId = p.stepId ∧ row.runId = p.runId
          ∧ lookupLogicalOperation db.operations p.logicalRequestKey = none)
        ∨ db₁.attempts = db.attempts
          ∧ ∃ old, lookupLogicalOperation db.operations p.logicalRequestKey = some old
            ∧ row.binding = old.binding) := by
  have hkept := h.kept
  cases h with
  | declined _ hproceed => exact absurd rfl (hproceed r)
  | adopted hlookup hcapsule _ _ hattempt =>
    obtain ⟨hmem, hkey⟩ := lookupLogicalOperation_some hlookup
    obtain ⟨row, hrow, hrowKept⟩ := hkept.operations _ hmem
    have hb := hrowKept.binding
    simp only [RecoveryOperation.binding, RecoveryOperation.Binding.mk.injEq] at hb
    obtain ⟨hid, -, -, -, hdigest, -, hkey', -, hexec⟩ := hb
    exact ⟨row, hrow, hid, hexec.trans hattempt, hkey'.trans hkey, hdigest.trans hcapsule,
      Or.inr ⟨rfl, _, hlookup, hrowKept.binding⟩⟩
  | fresh hlookup _ _ _ hinsert =>
    exact ⟨_, (Table.mem_insert hinsert _).mpr (Or.inr rfl), rfl, rfl, rfl, rfl,
      Or.inl ⟨rfl, rfl, hlookup⟩⟩

theorem FinalizeEffect.latestForStep_eq (h : FinalizeEffect now p r result db₁ outcome db₂)
    {attempt : AttemptRow} (hmem : attempt ∈ db₁.attempts.table)
    (hid : attempt.attemptId = r.attemptId) (runId : String) {stepId : String}
    (hstep : attempt.stepId ≠ stepId) :
    latestForStep db₂.attempts runId stepId = latestForStep db₁.attempts runId stepId := by
  obtain ⟨-, -, hrows⟩ := appendAttemptOutcome_ok h.attempt
  have hother : ∀ row : AttemptRow, row.stepId ≠ stepId → row.finalizedFor runId stepId = false := by
    intro row hrow
    simp [AttemptRow.finalizedFor, hrow]
  unfold latestForStep Table.latest?
  rw [Table.select_set hrows]
  intro row hrow hopen
  obtain rfl := eq_of_attemptId hrow hmem ((AttemptRow.isOpen_iff.mp hopen).1.trans hid.symm)
  exact ⟨hother row hstep, hother _ hstep⟩

end Replay

/-- What an executor leaves to a run: its row, and its capsule, which is written once. -/
structure KeepsRun (sha : Sha256Hex) (runId : String) (world world' : AuthorityTables) : Prop where
  capsule : loadCapsuleV1 sha world'.capsules runId = loadCapsuleV1 sha world.capsules runId
  run : ∃ metadata, getRun world'.runs runId = some metadata

/-- The key of a request, as prepare computes it from the attempts. -/
def requestKey (sha : Sha256Hex) (request : RecoveryRequest) (attempts : AttemptTable) : String :=
  computeLogicalRequestKey sha request.runId
    ((latestForStep attempts request.runId request.stepId).map AttemptRow.attemptId)
    (normalizeOperatorVerb request.operatorVerb)

theorem Prepares.requestKey_eq {sha : Sha256Hex}
    {decodeWorkflow : List UInt8 → Except String WorkflowType} {workspace : Workspace}
    {request : RecoveryRequest} {world : AuthorityTables} {attempts : AttemptTable}
    {prepared : PreparedRecovery}
    (h : Prepares sha decodeWorkflow workspace request world attempts prepared) :
    prepared.logicalRequestKey = requestKey sha request attempts := by
  rw [h.key, h.source, h.runId]
  rfl

/-- **A request that was recovered is answered with its recovery, exactly when that recovery
took over an operation of another step.** -/
theorem recovery_replay {sha : Sha256Hex}
    {decodeWorkflow : List UInt8 → Except String WorkflowType} (hsha : Function.Injective sha)
    {s : RecoverySystem} (hs : (recoveryMachine sha decodeWorkflow).Reachable s)
    (request : RecoveryRequest) (workspace : Workspace)
    (reservedAt finalizedAt reservedAt' finalizedAt' : Timestamp) (pid pid' : UInt32)
    (executor executor' : RecoveryExecutor) {step : String} {a : Nat} {o : String}
    (first : RecoveryReport)
    (hfirst : recover sha decodeWorkflow reservedAt finalizedAt pid workspace executor request
      s.world s.db = first)
    (hrecovered : first.answer = .ok (.recovered step a o))
    (hkeeps : KeepsRun sha request.runId s.world first.world) :
    ((∃ prior, (recover sha decodeWorkflow reservedAt' finalizedAt' pid' workspace executor'
        request first.world first.db).answer = .ok (.alreadyApplied prior a o))
      ∧ (recover sha decodeWorkflow reservedAt' finalizedAt' pid' workspace executor' request
        first.world first.db).invocations = [])
    ↔ ∃ row ∈ s.db.operations,
      row.logicalRequestKey = requestKey sha request s.db.attempts
        ∧ row.stepId ≠ request.stepId := by
  subst hfirst
  obtain ⟨p, r, result, db₁, hprepare, hreserve, hfinalize⟩ := recover_recovered hrecovered
  obtain ⟨hstepEq, ha, ho⟩ : step = p.stepId ∧ a = r.attemptId ∧ o = r.operationId := by
    simpa using hfinalize.outcome
  subst ha ho
  have hprep := prepare_ok hprepare
  have hinv := recoveryInv_invariant.reachable hs
  have hledger₁ := hreserve.ledgerInv hinv.ledger
    ⟨hprep.keyed, fun id hid => (hprep.source_mem hid).2⟩
  obtain ⟨row, hrow, hrowId, hrowExec, hrowKey, hrowCapsule, hfrom⟩ := hreserve.proceed_row
  have hledger₂ := hfinalize.ledgerInv hledger₁ ⟨row, hrow, hrowId, hrowExec⟩
  obtain ⟨row', attempt, hb, hdone⟩ := hfinalize.completion hledger₁ hrow hrowId hrowExec
  have hb' := hb
  simp only [RecoveryOperation.binding, RecoveryOperation.Binding.mk.injEq] at hb'
  obtain ⟨-, -, -, hstep', hdigest', hsource', hkey', -, -⟩ := hb'
  constructor
  · -- The second request finds the row, so it has the key the row has; had the first one
    -- finalized an attempt of its own step, the second would have a later source.
    intro hagain
    obtain ⟨prior, hagain⟩ := hagain.1
    obtain ⟨p₂, row₂, hprepare₂, hrow₂, hkey₂, hid₂⟩ := recover_alreadyApplied hagain
    obtain rfl := eq_of_operationId hrow₂ hdone.rowMem (hid₂.trans hdone.operationId.symm)
    have hprep₂ := prepare_ok hprepare₂
    by_contra hnone
    push Not at hnone
    have hown : row.stepId = request.stepId ∧ row.runId = request.runId := by
      rcases hfrom with ⟨hs', hr', -⟩ | ⟨-, old, hold, hbold⟩
      · exact ⟨hs'.trans hprep.stepId, hr'.trans hprep.runId⟩
      · obtain ⟨holdMem, holdKey⟩ := lookupLogicalOperation_some hold
        have holdStep := hnone old holdMem (holdKey.trans hprep.requestKey_eq)
        have hkeyed := hinv.ledger.keyed old holdMem
        rw [holdKey] at hkeyed
        have holdRun := (hkeyed.inj hsha hprep.keyed).1
        simp only [RecoveryOperation.binding, RecoveryOperation.Binding.mk.injEq] at hbold
        exact ⟨hbold.2.2.2.1.trans holdStep, hbold.2.1.trans (holdRun.trans hprep.runId)⟩
    have hkeyed₂ := hledger₂.keyed row₂ hdone.rowMem
    rw [hkey₂] at hkeyed₂
    obtain ⟨hrun₂, hsource₂, -⟩ := hkeyed₂.inj hsha hprep₂.keyed
    have hqualifies : attempt.finalizedFor request.runId request.stepId = true := by
      refine AttemptRow.finalizedFor_iff.mpr ⟨?_, ?_, hdone.finalized⟩
      · rw [hdone.runId, hrun₂, hprep₂.runId]
      · rw [hdone.stepId, hstep', hown.1]
    rw [hprep₂.source] at hsource₂
    cases hlatest : latestForStep (recover sha decodeWorkflow reservedAt finalizedAt pid workspace
        executor request s.world s.db).db.attempts request.runId request.stepId with
    | none =>
      have := Table.latest?_none hlatest attempt hdone.attemptMem
      rw [hqualifies] at this
      simp at this
    | some latest =>
      rw [hlatest] at hsource₂
      have hlt := hdone.source latest.attemptId hsource₂
      have hle := (latestForStep_some hlatest).2.2 attempt hdone.attemptMem hqualifies
      rw [hdone.attemptId] at hle
      omega
  · -- The attempt is one of another step, so the key of the request has not changed.
    intro hother
    obtain ⟨old, hold, hkeyOld, hstepOld⟩ := hother
    have hfoundOld : lookupLogicalOperation s.db.operations p.logicalRequestKey = some old := by
      rw [hprep.requestKey_eq, ← hkeyOld]
      exact lookupLogicalOperation_of_mem hold
    rcases hfrom with ⟨-, -, hnone⟩ | ⟨hattempts, old', hold', hbold⟩
    · rw [hnone] at hfoundOld
      simp at hfoundOld
    · obtain rfl := Option.some.inj (hfoundOld.symm.trans hold')
      have hrowStep : row.stepId = old.stepId := congrArg RecoveryOperation.Binding.stepId hbold
      obtain ⟨executing, hexecuting, hexecId, -, -, hexecStep, -⟩ := hledger₁.executing row hrow
      have hexecAttempt : executing.attemptId = r.attemptId :=
        Option.some.inj (hexecId.symm.trans hrowExec)
      have hlatest := hfinalize.latestForStep_eq hexecuting hexecAttempt
        request.runId (by
          rw [hexecStep]
          exact hrowStep ▸ hstepOld)
      rw [hattempts] at hlatest
      obtain ⟨stepDef, hdef, hstrategy⟩ := hprep.stepDef
      obtain ⟨metadata, hmetadata⟩ := hkeeps.run
      obtain ⟨p₂, hprepare₂⟩ := prepare_of_parts
        (recover sha decodeWorkflow reservedAt finalizedAt pid workspace executor request
          s.world s.db).db.attempts
        (hkeeps.capsule.trans hprep.capsule) hdef (hstrategy ▸ hprep.anchored) hmetadata
      have hprep₂ := prepare_ok hprepare₂
      have hcapsule₂ : p₂.authority.capsule = p.authority.capsule :=
        Except.ok.inj (hprep₂.capsule.symm.trans (hkeeps.capsule.trans hprep.capsule))
      have hkey₂ : row'.logicalRequestKey = p₂.logicalRequestKey := by
        rw [hkey', hrowKey, hprep.requestKey_eq, hprep₂.requestKey_eq, requestKey, requestKey,
          hlatest]
      obtain ⟨hanswer, hinvocations⟩ := recover_completed hprepare₂ hdone.rowMem hkey₂
        (by rw [hdigest', hrowCapsule, hcapsule₂]) hdone.completed hdone.executing
      rw [hdone.operationId] at hanswer
      exact ⟨⟨_, hanswer⟩, hinvocations⟩

/-! ### A step recovered twice, and two steps recovered as one -/

/-- An executor that completes every step and writes nothing. -/
def exampleExecutor : RecoveryExecutor := fun _ world =>
  (.ok { stepStatus := "completed", stateSnapshot := {}, runnerResult := none }, world)

/-- A retry of the first step that nobody finalizes. -/
def exampleAbandoned : RecoverySystem :=
  (recoveryMachine spelled exampleDecode).run (exampleSystem spelled)
    [.prepare exampleWorkspace (exampleRequest "step-a" .retry 0),
      .reserve 0 7 exampleWorkspace 0]

/-- A retry of the second step, after the lease of the first has expired. -/
def exampleTakeover : RecoveryReport :=
  recover spelled exampleDecode (2 * recoveryLease) (2 * recoveryLease) 9 exampleWorkspace
    exampleExecutor (exampleRequest "step-b" .retry 1) exampleAbandoned.world exampleAbandoned.db

/-- It took over the operation of the first step, and is answered with it when it is asked
for again. -/
theorem recovery_replay_takeover :
    (∃ prior, (recover spelled exampleDecode (3 * recoveryLease) (3 * recoveryLease) 9
        exampleWorkspace exampleExecutor (exampleRequest "step-b" .retry 1) exampleTakeover.world
        exampleTakeover.db).answer
          = .ok (.alreadyApplied prior 1 (exampleRow spelled).operationId))
      ∧ (recover spelled exampleDecode (3 * recoveryLease) (3 * recoveryLease) 9
        exampleWorkspace exampleExecutor (exampleRequest "step-b" .retry 1) exampleTakeover.world
        exampleTakeover.db).invocations = [] := by
  have hs : (recoveryMachine spelled exampleDecode).Reachable exampleAbandoned :=
    StateMachine.Reachable.run (.start (exampleSystem_start _ _)) _
  have hrecovered : exampleTakeover.answer
      = .ok (.recovered "step-b" 1 (exampleRow spelled).operationId) := by
    decide +kernel
  have hkeeps : KeepsRun spelled "run-1" exampleAbandoned.world exampleTakeover.world :=
    ⟨by decide +kernel, Option.isSome_iff_exists.mp (by decide +kernel)⟩
  refine (recovery_replay spelled_injective hs (exampleRequest "step-b" .retry 1)
    exampleWorkspace _ _ _ _ 9 9 exampleExecutor exampleExecutor exampleTakeover rfl hrecovered
    hkeeps).mpr ?_
  show ∃ row ∈ exampleAbandoned.db.operations.rows, row.logicalRequestKey
    = requestKey spelled (exampleRequest "step-b" .retry 1) exampleAbandoned.db.attempts
      ∧ row.stepId ≠ "step-b"
  decide +kernel

/-- A step that is recovered from the start is not found again: its own attempt has given the
request another key, and the epoch it expects is gone. -/
theorem recovery_replay_lost :
    ¬ ∀ (sha : Sha256Hex) (decodeWorkflow : List UInt8 → Except String WorkflowType),
      Function.Injective sha → ∀ s, (recoveryMachine sha decodeWorkflow).Reachable s →
      ∀ request workspace reservedAt finalizedAt reservedAt' finalizedAt' pid pid' executor
        executor' step a o first,
        recover sha decodeWorkflow reservedAt finalizedAt pid workspace executor request s.world
          s.db = first →
        first.answer = .ok (.recovered step a o) →
        KeepsRun sha request.runId s.world first.world →
        (∃ prior, (recover sha decodeWorkflow reservedAt' finalizedAt' pid' workspace executor'
          request first.world first.db).answer = .ok (.alreadyApplied prior a o))
        ∧ (recover sha decodeWorkflow reservedAt' finalizedAt' pid' workspace executor' request
          first.world first.db).invocations = [] := by
  intro h
  let first := recover spelled exampleDecode 0 1 7 exampleWorkspace exampleExecutor
    (exampleRequest "step-a" .retry 0) (exampleSystem spelled).world (exampleSystem spelled).db
  have hrecovered : first.answer
      = .ok (.recovered "step-a" 1 (exampleRow spelled).operationId) := by
    decide +kernel
  have hkeeps : KeepsRun spelled "run-1" (exampleSystem spelled).world first.world :=
    ⟨by decide +kernel, Option.isSome_iff_exists.mp (by decide +kernel)⟩
  obtain ⟨⟨prior, hagain⟩, -⟩ := h spelled exampleDecode spelled_injective _
    (.start (exampleSystem_start _ _)) (exampleRequest "step-a" .retry 0) exampleWorkspace 0 1 2 3
    7 7 exampleExecutor exampleExecutor _ _ _ first rfl hrecovered hkeeps
  have hstale : (recover spelled exampleDecode 2 3 7 exampleWorkspace exampleExecutor
      (exampleRequest "step-a" .retry 0) first.world first.db).answer
      = .ok (.staleEpoch 1 0) := by
    decide +kernel
  rw [hstale] at hagain
  simp at hagain

end Luther
