/-
What holds of the recovery tables whatever the recoverers do.

Every row of the ledger is keyed by what it is bound to, executes under an attempt
of its own that comes after its source, and, once completed, names that attempt as
finalized.  Every recovery in flight still has its row.  These hold after each
action, because each action either leaves the tables alone, sets columns that no
binding reads, or adds one row that a prepared recovery vouches for.
-/
import Luther.Proofs.RecoveryProtocol

namespace Luther

open Sql Sql.Table

/-- The operation executes under an attempt of its own, which comes after its source. -/
def Executing (attempts : AttemptTable) (b : RecoveryOperation.Binding) : Prop :=
  ∃ attempt ∈ attempts.table, b.executionAttemptId = some attempt.attemptId
    ∧ attempt.operationId = b.operationId ∧ attempt.runId = b.runId ∧ attempt.stepId = b.stepId
    ∧ ∀ source, b.sourceAttemptId = some source → source < attempt.attemptId

/-- The operation's outcome names the attempt it executed under, which is finalized. -/
def FinalizedAttempt (attempts : AttemptTable) (row : RecoveryOperation) : Prop :=
  ∃ attempt ∈ attempts.table, row.executionAttemptId = some attempt.attemptId
    ∧ row.serializedOutcome.map attemptIdFromOutcome = some (.ok attempt.attemptId)
    ∧ attempt.operationId = row.operationId ∧ attempt.finalizedAt.isSome

/-- What every row of the ledger keeps to. -/
structure LedgerInv (sha : Sha256Hex) (db : RecoveryDb) : Prop where
  keyed : ∀ row ∈ db.operations, RequestKeyed sha row.runId row.sourceAttemptId
    row.logicalRequestKey row.intentDigest
  executing : ∀ row ∈ db.operations, Executing db.attempts row.binding
  completed : ∀ row ∈ db.operations, row.status = .completed → FinalizedAttempt db.attempts row
  epochs : ∀ row ∈ db.operations, row.epoch ≤ persistedEpoch db.epochs row.runId

/-- A prepared recovery: its keys, and a source that the table has given out. -/
structure PreparedInv (sha : Sha256Hex) (db : RecoveryDb) (prepared : PreparedRecovery) :
    Prop where
  keyed : RequestKeyed sha prepared.runId prepared.sourceAttemptId prepared.logicalRequestKey
    prepared.intentDigest
  source : ∀ id, prepared.sourceAttemptId = some id → id ≤ db.attempts.lastId

/-- A reserved recovery: the row it reserved. -/
def ReservedInv (db : RecoveryDb) (reserved : ReservedRecovery) : Prop :=
  ∃ row ∈ db.operations, row.operationId = reserved.operationId
    ∧ row.executionAttemptId = some reserved.attemptId

/-- What holds of the ledger and of all callers. -/
structure RecoveryInv (sha : Sha256Hex) (s : RecoverySystem) : Prop where
  ledger : LedgerInv sha s.db
  prepared : ∀ p ∈ s.prepared, PreparedInv sha s.db p
  reserved : ∀ e ∈ s.reserved, ReservedInv s.db e.2

/-! ### What later tables still vouch for -/

variable {a b : RecoveryDb}

theorem Executing.mono (hk : a.Kept b) {row : RecoveryOperation.Binding}
    (h : Executing a.attempts row) : Executing b.attempts row := by
  obtain ⟨attempt, hmem, hexec, hop, hrun, hstep, hsource⟩ := h
  obtain ⟨attempt', hmem', hkept⟩ := hk.attempts attempt hmem
  have hid := congrArg AttemptRow.Identity.attemptId hkept.identity
  have hop' := congrArg AttemptRow.Identity.operationId hkept.identity
  have hrun' := congrArg AttemptRow.Identity.runId hkept.identity
  have hstep' := congrArg AttemptRow.Identity.stepId hkept.identity
  simp only [AttemptRow.identity] at hid hop' hrun' hstep'
  exact ⟨attempt', hmem', by rw [hid, hexec], by rw [hop', hop], by rw [hrun', hrun],
    by rw [hstep', hstep], by rw [hid]; exact hsource⟩

theorem FinalizedAttempt.mono (hk : a.Kept b) {row : RecoveryOperation}
    (h : FinalizedAttempt a.attempts row) : FinalizedAttempt b.attempts row := by
  obtain ⟨attempt, hmem, hexec, hout, hop, hfinal⟩ := h
  obtain ⟨attempt', hmem', hkept⟩ := hk.attempts attempt hmem
  obtain rfl := hkept.frozen hfinal
  exact ⟨attempt', hmem', hexec, hout, hop, hfinal⟩

variable {sha : Sha256Hex}

theorem PreparedInv.mono (hk : a.Kept b) {p : PreparedRecovery}
    (h : PreparedInv sha a p) : PreparedInv sha b p :=
  ⟨h.keyed, fun id hid => Nat.le_trans (h.source id hid) hk.lastId⟩

theorem ReservedInv.mono (hk : a.Kept b) {r : ReservedRecovery} (h : ReservedInv a r) :
    ReservedInv b r := by
  obtain ⟨row, hmem, hid, hexec⟩ := h
  obtain ⟨row', hmem', hkept⟩ := hk.operations row hmem
  have hid' := congrArg RecoveryOperation.Binding.operationId hkept.binding
  have hexec' := congrArg RecoveryOperation.Binding.executionAttemptId hkept.binding
  simp only [RecoveryOperation.binding] at hid' hexec'
  exact ⟨row', hmem', by rw [hid', hid], by rw [hexec', hexec]⟩

/-- **Rows that come from rows with the same binding keep to the ledger's rules**, as long as
those that become completed name their attempt. -/
theorem LedgerInv.of_bindings (h : LedgerInv sha a) (hk : a.Kept b)
    (hrows : ∀ row' ∈ b.operations, ∃ row ∈ a.operations, row'.binding = row.binding
      ∧ (row'.status = .completed →
        row'.serializedOutcome = row.serializedOutcome ∧ row.status = .completed
          ∨ FinalizedAttempt b.attempts row')) : LedgerInv sha b where
  keyed row' hmem' := by
    obtain ⟨row, hmem, hb, -⟩ := hrows row' hmem'
    have hkeyed := h.keyed row hmem
    simp only [RecoveryOperation.binding, RecoveryOperation.Binding.mk.injEq] at hb
    rwa [← hb.2.1, ← hb.2.2.2.2.2.1, ← hb.2.2.2.2.2.2.1, ← hb.2.2.2.2.2.2.2.1] at hkeyed
  executing row' hmem' := by
    obtain ⟨row, hmem, hb, -⟩ := hrows row' hmem'
    rw [hb]
    exact (h.executing row hmem).mono hk
  completed row' hmem' hstatus := by
    obtain ⟨row, hmem, hb, hcompleted⟩ := hrows row' hmem'
    rcases hcompleted hstatus with ⟨hout, hwas⟩ | hnow
    · obtain ⟨attempt, hattempt, hexec, hserial, hop, hfinal⟩ := (h.completed row hmem hwas).mono hk
      have hid := congrArg RecoveryOperation.Binding.operationId hb
      have hexec' := congrArg RecoveryOperation.Binding.executionAttemptId hb
      simp only [RecoveryOperation.binding] at hid hexec'
      exact ⟨attempt, hattempt, by rw [hexec', hexec], by rw [hout, hserial], by rw [hid, hop],
        hfinal⟩
    · exact hnow
  epochs row' hmem' := by
    obtain ⟨row, hmem, hb, -⟩ := hrows row' hmem'
    have hepoch := congrArg RecoveryOperation.Binding.epoch hb
    have hrun := congrArg RecoveryOperation.Binding.runId hb
    simp only [RecoveryOperation.binding] at hepoch hrun
    rw [hepoch, hrun]
    exact Nat.le_trans (h.epochs row hmem) (hk.epochs row.runId)

/-! ### Reserve -/

section Reserve

variable {sha : Sha256Hex} {now : Timestamp} {pid : UInt32} {workspace : Workspace}
  {world : AuthorityTables} {p : PreparedRecovery} {db db' : RecoveryDb}
  {answer : Except RecoveryError ReserveOutcome}

theorem tryAdoptPending_dbKept (operationId : String) (pid : UInt32) (expiry now : Timestamp)
    (db : RecoveryDb) : db.Kept
      { db with operations := (tryAdoptPending operationId pid expiry now db.operations).2 } where
  operations := tryAdoptPending_kept _ _ _ _ _
  attempts := RecoveryDb.Kept.rfl.attempts
  lastId := Nat.le_refl _
  epochs _ := Nat.le_refl _

theorem ReserveEffect.kept (h : ReserveEffect now pid workspace world p db answer db') :
    db.Kept db' := by
  cases h with
  | declined => exact .rfl
  | answered => exact .rfl
  | adopted => exact tryAdoptPending_dbKept _ _ _ _ db
  | fresh hlookup hvalid hcas hattempt hinsert =>
    obtain ⟨-, hlast, hattempts⟩ := allocateAttempt_ok hattempt
    obtain ⟨hto, hown, hothers⟩ := casAdvanceEpoch_advanced (revalidate_none hvalid) hcas
    have hpersisted := (readEpoch_ok (revalidate_none hvalid)).1
    refine ⟨fun row hrow => ?_, fun a ha => ?_, ?_, fun runId => ?_⟩
    · exact ⟨row, (mem_insert hinsert row).mpr (Or.inl hrow), .rfl⟩
    · exact ⟨a, (hattempts a).mpr (Or.inl ha), .rfl⟩
    · rw [hlast]
      exact Nat.le_succ _
    · by_cases hrun : runId = p.runId
      · rw [hrun, hown]
        omega
      · rw [hothers runId hrun]

theorem ReserveEffect.ledgerInv (h : ReserveEffect now pid workspace world p db answer db')
    (hinv : LedgerInv sha db) (hp : PreparedInv sha db p) : LedgerInv sha db' := by
  have hk := h.kept
  cases h with
  | declined => exact hinv
  | answered => exact hinv
  | @adopted row =>
    refine hinv.of_bindings hk fun row' hmem' => ?_
    obtain ⟨a, ha, rfl⟩ := (mem_set
      (tryAdoptPending_rows row.operationId pid (now + recoveryLease) now db.operations)).mp hmem'
    refine ⟨a, ha, ?_, fun hcompleted => Or.inl ⟨?_, ?_⟩⟩
    · refine set_column RecoveryOperation.binding ?_ a
      intro b
      rfl
    · refine set_column RecoveryOperation.serializedOutcome ?_ a
      intro b
      rfl
    · rw [← hcompleted]
      refine (set_column RecoveryOperation.status ?_ a).symm
      intro b
      rfl
  | @fresh f t epochs operations hlookup hvalid hcas attempts hattempt hinsert =>
    obtain ⟨-, hlast, hattempts⟩ := allocateAttempt_ok hattempt
    obtain ⟨hto, hown, -⟩ := casAdvanceEpoch_advanced (revalidate_none hvalid) hcas
    refine ⟨fun row hrow => ?_, fun row hrow => ?_, fun row hrow hcompleted => ?_,
      fun row hrow => ?_⟩ <;>
      rcases (mem_insert hinsert row).mp hrow with hold | rfl
    · exact hinv.keyed row hold
    · exact hp.keyed
    · exact (hinv.executing row hold).mono hk
    · refine ⟨_, (hattempts _).mpr (Or.inr rfl), rfl, rfl, rfl, rfl, fun source hsource => ?_⟩
      exact Nat.lt_succ_of_le (hp.source source hsource)
    · exact (hinv.completed row hold hcompleted).mono hk
    · simp [PendingOperationInsert.row] at hcompleted
    · exact Nat.le_trans (hinv.epochs row hold) (hk.epochs row.runId)
    · show saturateI64 t ≤ persistedEpoch epochs p.runId
      rw [hown]
      exact Nat.min_le_left _ _

theorem ReserveEffect.reservedInv {r : ReservedRecovery}
    (h : ReserveEffect now pid workspace world p db (.ok (.proceed r)) db') :
    ReservedInv db' r := by
  cases h with
  | declined _ hproceed => exact absurd rfl (hproceed r)
  | adopted hlookup _ _ _ hattempt =>
    have hmem := (lookupLogicalOperation_some hlookup).1
    exact ReservedInv.mono (tryAdoptPending_dbKept _ _ _ _ db) ⟨_, hmem, rfl, hattempt⟩
  | fresh _ _ _ _ hinsert => exact ⟨_, (mem_insert hinsert _).mpr (Or.inr rfl), rfl, rfl⟩

end Reserve

/-! ### Finalize -/

section Finalize

variable {sha : Sha256Hex} {now : Timestamp} {p : PreparedRecovery} {r : ReservedRecovery}
  {result : RecoveryExecutionResult} {db db' : RecoveryDb}

/-- What a finalize that succeeds did to both tables. -/
structure FinalizeEffect (now : Timestamp) (p : PreparedRecovery) (r : ReservedRecovery)
    (result : RecoveryExecutionResult) (db : RecoveryDb) (outcome : RecoveryOutcome)
    (db' : RecoveryDb) : Prop where
  outcome : outcome = .recovered p.stepId r.attemptId r.operationId
  epochs : db'.epochs = db.epochs
  attempt : appendAttemptOutcome now r.attemptId result.stepStatus result.stateSnapshot
    result.runnerResult none db.attempts = .ok db'.attempts
  operation : finalizeRow now r.operationId .completed (serializedOutcome r result)
    "finalize_completed" db.operations = .ok db'.operations

variable {outcome : RecoveryOutcome}

theorem finalize_effect (h : finalize now p r result db = (.ok outcome, db')) :
    FinalizeEffect now p r result db outcome db' := by
  have htx := atomically_ok.mp h
  unfold finalizeTx at htx
  obtain ⟨attempts, hattempt, htx⟩ := bind_ok.mp htx
  obtain ⟨⟨id, operations⟩, hoperation, htx⟩ := bind_ok.mp htx
  have hcompleted := mapPersist_ok.mp hoperation
  unfold finalizeCompleted at hcompleted
  obtain ⟨operations', hrow, hcompleted⟩ := bind_ok.mp hcompleted
  obtain ⟨id', -, hcompleted⟩ := bind_ok.mp hcompleted
  simp only [Except.ok.injEq, Prod.mk.injEq] at htx hcompleted
  obtain ⟨rfl, rfl⟩ := htx
  obtain ⟨-, rfl⟩ := hcompleted
  exact ⟨rfl, rfl, mapPersist_ok.mp hattempt, hrow⟩

/-- **A finalize that fails leaves the tables exactly as they were.** -/
theorem finalize_error {e : RecoveryError} (h : finalize now p r result db = (.error e, db')) :
    db' = db :=
  atomically_error h

section

variable (h : FinalizeEffect now p r result db outcome db')

include h

theorem FinalizeEffect.kept : db.Kept db' where
  operations := finalizeRow_kept h.operation
  attempts := appendAttemptOutcome_kept h.attempt
  lastId := (appendAttemptOutcome_ok h.attempt).2.1 ▸ Nat.le_refl _
  epochs runId := by rw [h.epochs]

omit h in
theorem attemptIdFromOutcome_serializedOutcome (r : ReservedRecovery)
    (result : RecoveryExecutionResult) (hfits : r.attemptId < 2 ^ 63) :
    attemptIdFromOutcome (serializedOutcome r result) = .ok (r.attemptId : Int) := by
  have hget : (Json.obj [("attempt_id", .num r.attemptId), ("status", .str "completed"),
      ("step_status", .str result.stepStatus)]).get? "attempt_id"
      = some (.num r.attemptId) := rfl
  simp only [attemptIdFromOutcome, serializedOutcome, hget, Option.bind_some,
    Json.asI64?_natCast hfits]

theorem FinalizeEffect.attempt_finalized {attempt : AttemptRow} (hmem : attempt ∈ db.attempts.table)
    (hid : attempt.attemptId = r.attemptId) :
    ∃ attempt' ∈ db'.attempts.table, attempt'.identity = attempt.identity
      ∧ attempt'.finalizedAt.isSome := by
  obtain ⟨⟨found, hfound, hfoundId, hnone⟩, -, hrows⟩ := appendAttemptOutcome_ok h.attempt
  obtain rfl := eq_of_attemptId hmem hfound (hid.trans hfoundId.symm)
  refine ⟨_, (mem_set hrows).mpr ⟨attempt, hmem, rfl⟩, ?_⟩
  rw [set_pos (AttemptRow.isOpen_iff.mpr ⟨hid, hnone⟩)]
  exact ⟨rfl, rfl⟩

theorem FinalizeEffect.ledgerInv
    (hinv : LedgerInv sha db) (hr : ReservedInv db r) : LedgerInv sha db' := by
  refine hinv.of_bindings h.kept fun row' hmem' => ?_
  obtain ⟨row, hmem, rfl⟩ := (mem_set (finalizeRow_ok h.operation).2).mp hmem'
  by_cases hopen : row.isOpen r.operationId = true
  · rw [set_pos hopen]
    refine ⟨row, hmem, rfl, fun _ => Or.inr ?_⟩
    -- The row is the one that was reserved, so it executes under the reserved attempt.
    obtain ⟨reservedRow, hreserved, hid, hexec⟩ := hr
    obtain rfl := eq_of_operationId hmem hreserved
      ((RecoveryOperation.isOpen_iff.mp hopen).1.trans hid.symm)
    obtain ⟨attempt, hattempt, hexecuting, hop, -⟩ := hinv.executing row hmem
    have hattemptId : r.attemptId = attempt.attemptId :=
      Option.some.inj (hexec.symm.trans hexecuting)
    obtain ⟨attempt', hattempt', hidentity, hfinal⟩ :=
      h.attempt_finalized hattempt hattemptId.symm
    have hid' := congrArg AttemptRow.Identity.attemptId hidentity
    have hop' := congrArg AttemptRow.Identity.operationId hidentity
    simp only [AttemptRow.identity] at hid' hop'
    have hfits : r.attemptId < 2 ^ 63 := by
      rw [hattemptId]
      exact lt_of_le_of_lt (db.attempts.bounded attempt hattempt) db.attempts.fits
    refine ⟨attempt', hattempt', ?_, ?_, ?_, hfinal⟩
    · show row.executionAttemptId = _
      rw [hexec, hattemptId, hid']
    · show some (attemptIdFromOutcome (serializedOutcome r result)) = _
      rw [attemptIdFromOutcome_serializedOutcome r result hfits, hid', ← hattemptId]
    · show attempt'.operationId = row.operationId
      rw [hop']
      exact hop
  · rw [set_neg (by simpa using hopen)]
    exact ⟨row, hmem, rfl, fun hcompleted => Or.inl ⟨rfl, hcompleted⟩⟩

end

end Finalize

/-! ### The ledger's other transitions -/

theorem finalizeRow_ledgerInv {now : Timestamp} {operationId guardName : String}
    {terminal : OperationStatus} {outcome : SerializedOutcome} {db : RecoveryDb}
    {operations : OperationTable} (hterminal : terminal ≠ .completed)
    (h : finalizeRow now operationId terminal outcome guardName db.operations = .ok operations)
    (hinv : LedgerInv sha db) : db.Kept { db with operations := operations }
      ∧ LedgerInv sha { db with operations := operations } := by
  have hk : db.Kept { db with operations := operations } :=
    { RecoveryDb.Kept.rfl with operations := finalizeRow_kept h }
  refine ⟨hk, hinv.of_bindings hk fun row' hmem' => ?_⟩
  obtain ⟨row, hmem, rfl⟩ := (mem_set (finalizeRow_ok h).2).mp hmem'
  by_cases hopen : row.isOpen operationId = true
  · rw [set_pos hopen]
    exact ⟨row, hmem, rfl, fun hcompleted => absurd hcompleted hterminal⟩
  · rw [set_neg (by simpa using hopen)]
    exact ⟨row, hmem, rfl, fun hcompleted => Or.inl ⟨rfl, hcompleted⟩⟩

/-! ### The system -/

section System

variable {sha : Sha256Hex} {decodeWorkflow : List UInt8 → Except String WorkflowType}
  {s : RecoverySystem}

theorem next_reserve {now : Timestamp} {pid : UInt32} {workspace : Workspace} {i : Nat}
    {p : PreparedRecovery} (hp : s.prepared[i]? = some p) :
    ((recoveryMachine sha decodeWorkflow).answer s (.reserve now pid workspace i)
        = .reserved p (reserve now pid workspace s.world p s.db).1)
      ∧ ((recoveryMachine sha decodeWorkflow).next s (.reserve now pid workspace i)).db
        = (reserve now pid workspace s.world p s.db).2
      ∧ ((recoveryMachine sha decodeWorkflow).next s (.reserve now pid workspace i)).prepared
        = s.prepared
      ∧ ∀ e ∈ ((recoveryMachine sha decodeWorkflow).next s
          (.reserve now pid workspace i)).reserved,
        e ∈ s.reserved ∨ (reserve now pid workspace s.world p s.db).1 = .ok (.proceed e.2) := by
  simp only [StateMachine.answer, StateMachine.next, recoveryMachine, recoveryStep, hp]
  rcases hres : reserve now pid workspace s.world p s.db with ⟨answer, db'⟩
  rcases answer with e | outcome
  · exact ⟨rfl, rfl, rfl, fun e he => Or.inl he⟩
  · cases outcome with
    | shortCircuit outcome => exact ⟨rfl, rfl, rfl, fun e he => Or.inl he⟩
    | proceed r =>
      refine ⟨rfl, rfl, rfl, fun e he => ?_⟩
      rcases List.mem_append.mp he with h | h
      · exact Or.inl h
      · rw [List.mem_singleton.mp h]
        exact Or.inr rfl

theorem next_reserve_none {now : Timestamp} {pid : UInt32} {workspace : Workspace} {i : Nat}
    (hp : s.prepared[i]? = none) :
    (recoveryMachine sha decodeWorkflow).step s (.reserve now pid workspace i) = (.nothing, s) := by
  simp only [recoveryMachine, recoveryStep, hp]

theorem ledgerStep_db (body : OperationTable → Except Error OperationTable) (s : RecoverySystem) :
    (ledgerStep body s).2 = s ∨ ∃ operations, body s.db.operations = .ok operations
      ∧ (ledgerStep body s).2 = { s with db := { s.db with operations := operations } } := by
  unfold ledgerStep
  cases hbody : body s.db.operations with
  | ok operations => exact Or.inr ⟨operations, rfl, rfl⟩
  | error e => exact Or.inl rfl

/-- **No call of any recoverer undoes anything.** -/
theorem recoveryStep_kept (s : RecoverySystem) (c : RecoveryCall) :
    s.db.Kept ((recoveryMachine sha decodeWorkflow).next s c).db := by
  have hledger : ∀ (body : OperationTable → Except Error OperationTable),
      (∀ operations, body s.db.operations = .ok operations →
        ∀ row ∈ s.db.operations, ∃ row' ∈ operations, row.Kept row') →
      s.db.Kept (ledgerStep body s).2.db := by
    intro body hbody
    rcases ledgerStep_db body s with h | ⟨operations, hok, h⟩
    · rw [h]
      exact .rfl
    · rw [h]
      exact { RecoveryDb.Kept.rfl with operations := hbody operations hok }
  cases c with
  | others world => exact .rfl
  | prepare workspace request =>
    simp only [StateMachine.next, recoveryMachine, recoveryStep]
    split <;> exact .rfl
  | reserve now pid workspace i =>
    cases hp : s.prepared[i]? with
    | none =>
      simp only [StateMachine.next, next_reserve_none hp]
      exact .rfl
    | some p =>
      rw [(next_reserve hp).2.1]
      exact (reserve_effect now pid workspace s.world p s.db).kept
  | finalize now i result =>
    simp only [StateMachine.next, recoveryMachine, recoveryStep]
    split
    · exact .rfl
    · rename_i p r _
      rcases hfin : finalize now p r result s.db with ⟨answer, db'⟩
      cases answer with
      | ok outcome => exact (finalize_effect hfin).kept
      | error e =>
        obtain rfl := finalize_error hfin
        exact .rfl
  | finalizeRefused now operationId reason | finalizeConflict now operationId detail =>
    exact hledger _ fun operations h => finalizeRow_kept h

theorem run_kept (s : RecoverySystem) (calls : List RecoveryCall) :
    s.db.Kept ((recoveryMachine sha decodeWorkflow).run s calls).db := by
  induction calls generalizing s with
  | nil => exact .rfl
  | cons c rest ih => exact (recoveryStep_kept s c).trans (ih _)

theorem RecoveryInv.next {s' : RecoverySystem} (h : RecoveryInv sha s) (hk : s.db.Kept s'.db)
    (hledger : LedgerInv sha s'.db)
    (hprepared : ∀ p ∈ s'.prepared, p ∈ s.prepared ∨ PreparedInv sha s'.db p)
    (hreserved : ∀ e ∈ s'.reserved, e ∈ s.reserved ∨ ReservedInv s'.db e.2) :
    RecoveryInv sha s' where
  ledger := hledger
  prepared p hp := by
    rcases hprepared p hp with hold | hnew
    · exact (h.prepared p hold).mono hk
    · exact hnew
  reserved e he := by
    rcases hreserved e he with hold | hnew
    · exact (h.reserved e hold).mono hk
    · exact hnew

/-- **One action keeps the invariant.** -/
theorem recoveryStep_inv (s : RecoverySystem) (c : RecoveryCall) (h : RecoveryInv sha s) :
    RecoveryInv sha ((recoveryMachine sha decodeWorkflow).next s c) := by
  have hk := @recoveryStep_kept sha decodeWorkflow s c
  have hledger : ∀ (body : OperationTable → Except Error OperationTable),
      (∀ operations, body s.db.operations = .ok operations →
        LedgerInv sha { s.db with operations := operations }) →
      s.db.Kept (ledgerStep body s).2.db → RecoveryInv sha (ledgerStep body s).2 := by
    intro body hbody hkept
    rcases ledgerStep_db body s with hsame | ⟨operations, hok, hnew⟩
    · rw [hsame]
      exact h
    · rw [hnew] at hkept ⊢
      exact h.next hkept (hbody operations hok) (fun p hp => Or.inl hp) (fun e he => Or.inl he)
  cases c with
  | others world => exact ⟨h.ledger, h.prepared, h.reserved⟩
  | prepare workspace request =>
    simp only [StateMachine.next, recoveryMachine, recoveryStep] at hk ⊢
    split
    · rename_i p hp
      have hprep := prepare_ok hp
      refine h.next .rfl h.ledger (fun q hq => ?_) (fun e he => Or.inl he)
      rcases List.mem_append.mp hq with hold | hnew
      · exact Or.inl hold
      · rw [List.mem_singleton.mp hnew]
        exact Or.inr ⟨hprep.keyed, fun id hid => (hprep.source_mem hid).2⟩
    · exact h
  | reserve now pid workspace i =>
    cases hp : s.prepared[i]? with
    | none =>
      simp only [StateMachine.next, next_reserve_none hp]
      exact h
    | some p =>
      obtain ⟨-, hdb, hprepared, hreserved⟩ :=
        @next_reserve sha decodeWorkflow s now pid workspace i p hp
      have heffect := reserve_effect now pid workspace s.world p s.db
      have hpinv := h.prepared p (List.mem_of_getElem? hp)
      refine h.next hk ?_ (fun q hq => Or.inl (hprepared ▸ hq)) (fun e he => ?_)
      · rw [hdb]
        exact heffect.ledgerInv h.ledger hpinv
      · rcases hreserved e he with hold | hnew
        · exact Or.inl hold
        · rw [hnew] at heffect
          rw [hdb]
          exact Or.inr heffect.reservedInv
  | finalize now i result =>
    simp only [StateMachine.next, recoveryMachine, recoveryStep] at hk ⊢
    split
    · exact h
    · rename_i p r hi
      rcases hfin : finalize now p r result s.db with ⟨answer, db'⟩
      cases answer with
      | ok outcome =>
        have heffect := finalize_effect hfin
        have hr := h.reserved (p, r) (List.mem_of_getElem? hi)
        exact h.next heffect.kept (heffect.ledgerInv h.ledger hr) (fun q hq => Or.inl hq)
          (fun e he => Or.inl he)
      | error e =>
        obtain rfl := finalize_error hfin
        exact h
  | finalizeRefused now operationId reason | finalizeConflict now operationId detail =>
    exact hledger _ (fun operations hok =>
      (finalizeRow_ledgerInv (by decide) hok h.ledger).2) hk

/-- **The invariant holds of every reachable state.** -/
theorem recoveryInv_invariant :
    (recoveryMachine sha decodeWorkflow).Invariant (RecoveryInv sha) where
  start s hs := by
    obtain ⟨-, hops, -, hprepared, hreserved⟩ := hs
    have hnone : ∀ row, row ∉ s.db.operations := by
      rw [hops]
      exact not_mem_empty
    refine ⟨⟨fun row h => absurd h (hnone row), fun row h => absurd h (hnone row),
      fun row h => absurd h (hnone row), fun row h => absurd h (hnone row)⟩, ?_, ?_⟩
    · rw [hprepared]
      exact fun p hp => absurd hp List.not_mem_nil
    · rw [hreserved]
      exact fun e he => absurd he List.not_mem_nil
  step := recoveryStep_inv

end System

end Luther
