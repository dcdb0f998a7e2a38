/-
What the statements of recovery do to its three tables.

Each statement gets one lemma that says all it did.  From these, one relation on
the tables: no row is lost, what a row is bound to does not change, a row that has
its outcome does not change at all, and the epochs and identifiers only grow.
-/
import Luther.Recovery.Protocol

namespace Luther

open Sql Sql.Table

/-! ### The epoch -/

/-- The epoch the table holds for a run; zero without a row. -/
def persistedEpoch (epochs : EpochTable) (runId : String) : Nat :=
  ((epochs.find? (EpochRow.isRun runId)).map fun row => row.epoch.toNat).getD 0

variable {runId : String}

theorem readEpoch_ok {epochs : EpochTable} {n : Nat}
    (h : readEpoch epochs runId = .ok n) : n = persistedEpoch epochs runId ∧ n ≤ i64Max := by
  unfold readEpoch at h
  unfold persistedEpoch
  cases hfind : epochs.find? (EpochRow.isRun runId) with
  | none =>
    simp only [hfind] at h
    rw [← Except.ok.inj h]
    exact ⟨rfl, Nat.zero_le _⟩
  | some row =>
    simp only [hfind] at h
    split at h
    · rename_i hle
      rw [← Except.ok.inj h]
      exact ⟨rfl, Int.toNat_le.mpr hle⟩
    · simp at h

theorem EpochRow.clash_of_isRun (a b : EpochRow) (ha : a.isRun runId)
    (hb : b.isRun runId) : EpochRow.Clash a b := by
  simp only [EpochRow.isRun, beq_iff_eq] at ha hb
  exact ha.trans hb.symm

theorem findRun_congr {epochs epochs' : EpochTable}
    (h : ∀ row : EpochRow, row.runId = runId → (row ∈ epochs' ↔ row ∈ epochs)) :
    epochs'.find? (EpochRow.isRun runId) = epochs.find? (EpochRow.isRun runId) := by
  cases hfind : epochs.find? (EpochRow.isRun runId) with
  | none =>
    rw [Table.find?_none] at hfind ⊢
    intro row hmem
    by_cases hrun : row.runId = runId
    · exact hfind row ((h row hrun).mp hmem)
    · simpa [EpochRow.isRun] using hrun
  | some row =>
    obtain ⟨hmem, hrow⟩ := Table.find?_some hfind
    have hrun : row.runId = runId := by simpa [EpochRow.isRun] using hrow
    exact Table.find?_eq_some_of_key EpochRow.clash_of_isRun ((h row hrun).mpr hmem) hrow

/-- The run has a row with the value now, and the other runs have what they had. -/
structure EpochMoved (runId : String) (value : Int) (epochs epochs' : EpochTable) : Prop where
  own : epochs'.find? (EpochRow.isRun runId) = some ⟨runId, value⟩
  others : ∀ other, other ≠ runId →
    epochs'.find? (EpochRow.isRun other) = epochs.find? (EpochRow.isRun other)

section Swap

variable {runId : String} {expected : Nat} {epochs epochs' : EpochTable}

/-- **The first row of a run is written with whatever the caller expects.** -/
theorem casAdvanceEpoch_first (hnext : expected + 1 < 2 ^ 64)
    (hfind : epochs.find? (EpochRow.isRun runId) = none) :
    ∃ epochs', casAdvanceEpoch runId expected epochs
        = .ok (.advanced expected (expected + 1), epochs')
      ∧ EpochMoved runId (saturateI64 (expected + 1)) epochs epochs' := by
  have hfree : ¬ ∃ a ∈ epochs, EpochRow.Clash a ⟨runId, saturateI64 (expected + 1)⟩ := by
    rintro ⟨a, ha, hclash⟩
    have hother := Table.find?_none.mp hfind a ha
    have hrun : a.runId = runId := hclash
    simp [EpochRow.isRun, hrun] at hother
  cases hins : epochs.insert ⟨runId, saturateI64 (expected + 1)⟩ with
  | none => exact absurd (insert_eq_none_iff.mp hins) hfree
  | some inserted =>
    refine ⟨inserted, ?_, ?_, fun other hne => findRun_congr fun row hrow => ?_⟩
    · unfold casAdvanceEpoch
      simp only [if_pos hnext, hfind, hins]
    · exact Table.find?_eq_some_of_key EpochRow.clash_of_isRun
        ((mem_insert hins _).mpr (Or.inr rfl)) (by simp [EpochRow.isRun])
    · rw [mem_insert hins]
      refine ⟨fun hmem => hmem.resolve_right ?_, Or.inl⟩
      rintro rfl
      exact hne hrow.symm

theorem casAdvanceEpoch_met {row : EpochRow} (hnext : expected + 1 < 2 ^ 64)
    (hfind : epochs.find? (EpochRow.isRun runId) = some row)
    (hepoch : row.epoch = saturateI64 expected) :
    ∃ epochs', casAdvanceEpoch runId expected epochs
        = .ok (.advanced expected (expected + 1), epochs')
      ∧ EpochMoved runId (row.epoch + 1) epochs epochs' := by
  obtain ⟨hmem, hrow⟩ := Table.find?_some hfind
  have hrun : row.runId = runId := by simpa [EpochRow.isRun] using hrow
  have hother : ∀ a : EpochRow, a.runId ≠ runId → EpochRow.isRun runId a = false := by
    intro a ha
    simpa [EpochRow.isRun] using ha
  refine ⟨epochs.update (EpochRow.isRun runId) (fun r => { r with epoch := r.epoch + 1 })
    (fun _ _ h => h), ?_, ?_, fun other hne => findRun_congr fun r hr => ?_⟩
  · unfold casAdvanceEpoch
    simp only [if_pos hnext, hfind, if_pos hepoch]
  · have hnew : (⟨runId, row.epoch + 1⟩ : EpochRow)
        ∈ epochs.update (EpochRow.isRun runId) (fun r => { r with epoch := r.epoch + 1 })
          (fun _ _ h => h) := by
      refine (mem_set rfl).mpr ⟨row, hmem, ?_⟩
      rw [set_pos hrow, hrun]
    exact Table.find?_eq_some_of_key EpochRow.clash_of_isRun hnew (by simp [EpochRow.isRun])
  · rw [mem_set rfl]
    constructor
    · rintro ⟨a, ha, rfl⟩
      have hrunA : (Table.set (EpochRow.isRun runId)
          (fun r => { r with epoch := r.epoch + 1 }) a).runId = a.runId := by
        refine set_column EpochRow.runId ?_ a
        intro b
        rfl
      rw [hrunA] at hr
      rwa [set_neg (hother a (hr ▸ hne))]
    · intro hr'
      exact ⟨r, hr', set_neg (hother r (hr ▸ hne))⟩

theorem casAdvanceEpoch_missed {row : EpochRow}
    (hfind : epochs.find? (EpochRow.isRun runId) = some row)
    (hepoch : row.epoch ≠ saturateI64 expected) :
    casAdvanceEpoch runId expected epochs
      = match readEpoch epochs runId with
        | .ok persisted => .ok (.stale persisted expected, epochs)
        | .error e => .error e := by
  unfold casAdvanceEpoch
  rw [hfind]
  exact if_neg hepoch

/-- **A compare-and-swap that finds what it expects moves the run's epoch on by one.** -/
theorem casAdvanceEpoch_advanced {f t : Nat} (hread : readEpoch epochs runId = .ok expected)
    (h : casAdvanceEpoch runId expected epochs = .ok (.advanced f t, epochs')) :
    t = expected + 1 ∧ persistedEpoch epochs' runId = t
      ∧ ∀ other, other ≠ runId → persistedEpoch epochs' other = persistedEpoch epochs other := by
  obtain ⟨hpersisted, hle⟩ := readEpoch_ok hread
  unfold i64Max at hle
  have hnext : expected + 1 < 2 ^ 64 := by omega
  have hmoved : ∀ {value : Int} {moved : EpochTable}, casAdvanceEpoch runId expected epochs
        = .ok (.advanced expected (expected + 1), moved) →
      EpochMoved runId value epochs moved → value = expected + 1 →
      t = expected + 1 ∧ persistedEpoch epochs' runId = t
        ∧ ∀ other, other ≠ runId → persistedEpoch epochs' other = persistedEpoch epochs other := by
    rintro value moved hcas hm rfl
    rw [hcas, Except.ok.injEq, Prod.mk.injEq, CasOutcome.advanced.injEq] at h
    obtain ⟨⟨-, rfl⟩, rfl⟩ := h
    refine ⟨rfl, ?_, fun other hne => ?_⟩
    · unfold persistedEpoch
      rw [hm.own]
      simp only [Option.map_some, Option.getD_some]
      omega
    · unfold persistedEpoch
      rw [hm.others other hne]
  cases hfind : epochs.find? (EpochRow.isRun runId) with
  | none =>
    obtain ⟨moved, hcas, hm⟩ := casAdvanceEpoch_first hnext hfind
    have hzero : expected = 0 := by
      rw [hpersisted, persistedEpoch, hfind]
      rfl
    refine hmoved hcas hm ?_
    rw [hzero]
    rfl
  | some row =>
    have hsat : saturateI64 expected = expected := by
      unfold saturateI64 i64Max
      omega
    by_cases hepoch : row.epoch = saturateI64 expected
    · obtain ⟨moved, hcas, hm⟩ := casAdvanceEpoch_met hnext hfind hepoch
      exact hmoved hcas hm (by rw [hepoch, hsat])
    · rw [casAdvanceEpoch_missed hfind hepoch, hread] at h
      simp at h

end Swap

/-! ### The ledger -/

namespace RecoveryOperation

/-- What a row is bound to from its first day. -/
structure Binding where
  operationId : String
  runId : String
  epoch : Nat
  stepId : String
  capsuleEnvelopeDigest : String
  sourceAttemptId : Option Nat
  logicalRequestKey : String
  intentDigest : String
  executionAttemptId : Option Nat

def binding (row : RecoveryOperation) : Binding where
  operationId := row.operationId
  runId := row.runId
  epoch := row.epoch
  stepId := row.stepId
  capsuleEnvelopeDigest := row.capsuleEnvelopeDigest
  sourceAttemptId := row.sourceAttemptId
  logicalRequestKey := row.logicalRequestKey
  intentDigest := row.intentDigest
  executionAttemptId := row.executionAttemptId

/-- What a row may become: the same binding, and the same row once it is not pending. -/
structure Kept (a b : RecoveryOperation) : Prop where
  binding : b.binding = a.binding
  frozen : a.status ≠ .pending → b = a

theorem Kept.rfl {a : RecoveryOperation} : Kept a a := ⟨Eq.refl _, fun _ => Eq.refl _⟩

theorem Kept.trans {a b c : RecoveryOperation} (hab : Kept a b) (hbc : Kept b c) : Kept a c := by
  refine ⟨hbc.binding.trans hab.binding, fun ha => ?_⟩
  have hba := hab.frozen ha
  subst hba
  exact hbc.frozen ha

theorem clash_of_isOperation {operationId : String} (a b : RecoveryOperation)
    (ha : a.isOperation operationId) (hb : b.isOperation operationId) :
    Clash a b := by
  simp only [isOperation, beq_iff_eq] at ha hb
  exact Or.inl (ha.trans hb.symm)

theorem clash_of_isRequest {key : String} (a b : RecoveryOperation)
    (ha : a.isRequest key) (hb : b.isRequest key) : Clash a b := by
  simp only [isRequest, beq_iff_eq] at ha hb
  exact Or.inr (ha.trans hb.symm)

end RecoveryOperation

variable {operations operations' : OperationTable} {row : RecoveryOperation} {operationId : String}
  {now : Timestamp} {attempts attempts' : AttemptTable}

theorem lookupLogicalOperation_some {key : String}
    (h : lookupLogicalOperation operations key = some row) :
    row ∈ operations ∧ row.logicalRequestKey = key := by
  obtain ⟨hmem, hkey⟩ := Table.find?_some h
  exact ⟨hmem, by simpa [RecoveryOperation.isRequest] using hkey⟩

theorem lookupLogicalOperation_of_mem (h : row ∈ operations) :
    lookupLogicalOperation operations row.logicalRequestKey = some row :=
  Table.find?_eq_some_of_key RecoveryOperation.clash_of_isRequest h
    (by simp [RecoveryOperation.isRequest])

theorem eq_of_operationId {a b : RecoveryOperation} (ha : a ∈ operations) (hb : b ∈ operations)
    (h : a.operationId = b.operationId) : a = b :=
  eq_of_clash ha hb (Or.inl h)

/-- The guard of the ledger's updates: the operation is pending. -/
def RecoveryOperation.isOpen (operationId : String) (row : RecoveryOperation) : Bool :=
  row.isOperation operationId && row.isPending

theorem RecoveryOperation.isOpen_iff :
    row.isOpen operationId = true ↔ row.operationId = operationId ∧ row.status = .pending := by
  simp [isOpen, isOperation, isPending]

/-- **An adoption succeeds exactly on a pending row whose lease has expired.** -/
theorem tryAdoptPending_adopted (hmem : row ∈ operations) (pid : UInt32) (expiry now : Timestamp) :
    (tryAdoptPending row.operationId pid expiry now operations).1 = .adopted
      ↔ row.status = .pending ∧ row.leaseExpired now = true := by
  let selected (r : RecoveryOperation) : Bool :=
    r.isOperation row.operationId && r.isPending && r.leaseExpired now
  have hone : operations.count selected ≤ 1 := by
    refine count_le_one_of_key fun a b ha hb => ?_
    simp only [selected, Bool.and_eq_true] at ha hb
    exact RecoveryOperation.clash_of_isOperation a b ha.1.1 hb.1.1
  have hselected : selected row = true ↔ row.status = .pending ∧ row.leaseExpired now = true := by
    simp [selected, RecoveryOperation.isOperation, RecoveryOperation.isPending]
  have hcount : operations.count selected = 1 ↔ selected row = true := by
    constructor
    · intro h
      obtain ⟨r, hr, hsel⟩ := count_pos_iff.mp (show 0 < operations.count selected by omega)
      have hid : r.operationId = row.operationId := by
        simp only [selected, Bool.and_eq_true] at hsel
        simpa [RecoveryOperation.isOperation] using hsel.1.1
      rwa [← eq_of_operationId hr hmem hid]
    · intro h
      have := count_pos_iff.mpr ⟨row, hmem, h⟩
      omega
  show (if operations.count selected = 1 then AdoptOutcome.adopted else .stillOwned)
    = .adopted ↔ _
  rw [← hselected, ← hcount]
  split <;> simp_all

theorem tryAdoptPending_rows (operationId : String) (pid : UInt32) (expiry now : Timestamp)
    (operations : OperationTable) :
    (tryAdoptPending operationId pid expiry now operations).2.rows
      = operations.rows.map (Table.set
        (fun r => r.isOperation operationId && r.isPending && r.leaseExpired now)
        (fun r => { r with ownerPid := some pid, leaseExpiresAt := some expiry })) := rfl

theorem finalizeRow_ok {guardName : String} {terminal : OperationStatus}
    {outcome : SerializedOutcome}
    (h : finalizeRow now operationId terminal outcome guardName operations = .ok operations') :
    (∃ row ∈ operations, row.operationId = operationId ∧ row.status = .pending)
      ∧ operations'.rows = operations.rows.map (Table.set
        (RecoveryOperation.isOpen operationId)
        (fun r =>
          { r with
            status := terminal
            serializedOutcome := some outcome
            finalizedAt := some now })) := by
  unfold finalizeRow at h
  dsimp only at h
  split at h
  · rename_i hcount
    obtain ⟨row, hmem, hopen⟩ := count_pos_iff.mp
      (show 0 < operations.count (RecoveryOperation.isOpen operationId) by
        unfold RecoveryOperation.isOpen
        omega)
    rw [← Except.ok.inj h]
    exact ⟨⟨row, hmem, RecoveryOperation.isOpen_iff.mp hopen⟩, rfl⟩
  · simp at h

/-! ### The attempts -/

namespace AttemptRow

/-- What an attempt is from its first day. -/
structure Identity where
  attemptId : Nat
  runId : String
  epoch : Nat
  sourceAttemptId : Option Nat
  operationId : String
  stepId : String
  capsuleSchemaVersion : UInt32
  capsuleEnvelopeDigest : String
  startedAt : Timestamp

def identity (row : AttemptRow) : Identity where
  attemptId := row.attemptId
  runId := row.runId
  epoch := row.epoch
  sourceAttemptId := row.sourceAttemptId
  operationId := row.operationId
  stepId := row.stepId
  capsuleSchemaVersion := row.capsuleSchemaVersion
  capsuleEnvelopeDigest := row.capsuleEnvelopeDigest
  startedAt := row.startedAt

/-- What an attempt may become: the same attempt, and the same row once it has its outcome. -/
structure Kept (a b : AttemptRow) : Prop where
  identity : b.identity = a.identity
  frozen : a.finalizedAt.isSome → b = a

theorem Kept.rfl {a : AttemptRow} : Kept a a := ⟨Eq.refl _, fun _ => Eq.refl _⟩

theorem Kept.trans {a b c : AttemptRow} (hab : Kept a b) (hbc : Kept b c) : Kept a c := by
  refine ⟨hbc.identity.trans hab.identity, fun ha => ?_⟩
  have hba := hab.frozen ha
  subst hba
  exact hbc.frozen ha

theorem isOpen_iff {attemptId : Nat} {row : AttemptRow} :
    row.isOpen attemptId = true ↔ row.attemptId = attemptId ∧ row.finalizedAt = none := by
  simp [isOpen]

theorem finalizedFor_iff {runId stepId : String} {row : AttemptRow} :
    row.finalizedFor runId stepId = true
      ↔ row.runId = runId ∧ row.stepId = stepId ∧ row.finalizedAt.isSome := by
  simp [finalizedFor, and_assoc]

end AttemptRow

theorem AttemptTable.mem_push {row a : AttemptRow} (hid : row.attemptId = attempts.lastId + 1)
    (hfits : attempts.lastId + 1 < 2 ^ 63) :
    a ∈ (attempts.push row hid hfits).table ↔ a ∈ attempts.table ∨ a = row := by
  show a ∈ attempts.table.rows ++ [row] ↔ _
  rw [List.mem_append, List.mem_singleton]
  rfl

theorem eq_of_attemptId {a b : AttemptRow} (ha : a ∈ attempts.table) (hb : b ∈ attempts.table)
    (h : a.attemptId = b.attemptId) : a = b :=
  eq_of_clash ha hb h

theorem recordAttemptStart_ok {attempt : AttemptStart} {id : Nat}
    (h : recordAttemptStart now attempt attempts = .ok (id, attempts')) :
    id = attempts.lastId + 1 ∧ attempts'.lastId = attempts.lastId + 1
      ∧ ∀ a, a ∈ attempts'.table
        ↔ a ∈ attempts.table ∨ a = attempt.row now (attempts.lastId + 1) := by
  unfold recordAttemptStart at h
  dsimp only at h
  split at h
  · rename_i hfits
    simp only [Except.ok.injEq, Prod.mk.injEq] at h
    obtain ⟨rfl, rfl⟩ := h
    exact ⟨rfl, rfl, fun a => AttemptTable.mem_push rfl hfits⟩
  · simp at h

theorem appendAttemptOutcome_ok {attemptId : Nat} {stepStatus : String} {snapshot : StateSnapshot}
    {runnerResult : Option Json} {digest : Option String}
    (h : appendAttemptOutcome now attemptId stepStatus snapshot runnerResult digest attempts
      = .ok attempts') :
    (∃ row ∈ attempts.table, row.attemptId = attemptId ∧ row.finalizedAt = none)
      ∧ attempts'.lastId = attempts.lastId
      ∧ attempts'.table.rows = attempts.table.rows.map (Table.set (AttemptRow.isOpen attemptId)
        (fun r =>
          { r with
            stepStatus := stepStatus
            stateSnapshot := snapshot
            runnerResult := runnerResult
            checkpointDigest := digest
            finalizedAt := some now })) := by
  unfold appendAttemptOutcome at h
  dsimp only at h
  split at h
  · rename_i hcount
    obtain ⟨row, hmem, hopen⟩ := count_pos_iff.mp
      (show 0 < attempts.table.count (AttemptRow.isOpen attemptId) by omega)
    rw [← Except.ok.inj h]
    exact ⟨⟨row, hmem, AttemptRow.isOpen_iff.mp hopen⟩, rfl, rfl⟩
  · simp at h

theorem latestForStep_some {runId stepId : String} {row : AttemptRow}
    (h : latestForStep attempts runId stepId = some row) :
    row ∈ attempts.table ∧ row.finalizedFor runId stepId = true
      ∧ ∀ a ∈ attempts.table, a.finalizedFor runId stepId = true → a.attemptId ≤ row.attemptId :=
  Table.latest?_some h

/-! ### What no call undoes -/

/-- What the tables may become: no row lost, no binding changed, no outcome rewritten, and
epochs and identifiers that only grow. -/
structure RecoveryDb.Kept (a b : RecoveryDb) : Prop where
  operations : ∀ row ∈ a.operations, ∃ row' ∈ b.operations, row.Kept row'
  attempts : ∀ row ∈ a.attempts.table, ∃ row' ∈ b.attempts.table, row.Kept row'
  lastId : a.attempts.lastId ≤ b.attempts.lastId
  epochs : ∀ runId, persistedEpoch a.epochs runId ≤ persistedEpoch b.epochs runId

namespace RecoveryDb

theorem Kept.rfl {a : RecoveryDb} : Kept a a where
  operations row h := ⟨row, h, .rfl⟩
  attempts row h := ⟨row, h, .rfl⟩
  lastId := Nat.le_refl _
  epochs _ := Nat.le_refl _

theorem Kept.trans {a b c : RecoveryDb} (hab : Kept a b) (hbc : Kept b c) : Kept a c where
  operations row h := by
    obtain ⟨row', h', hk⟩ := hab.operations row h
    obtain ⟨row'', h'', hk'⟩ := hbc.operations row' h'
    exact ⟨row'', h'', hk.trans hk'⟩
  attempts row h := by
    obtain ⟨row', h', hk⟩ := hab.attempts row h
    obtain ⟨row'', h'', hk'⟩ := hbc.attempts row' h'
    exact ⟨row'', h'', hk.trans hk'⟩
  lastId := Nat.le_trans hab.lastId hbc.lastId
  epochs runId := Nat.le_trans (hab.epochs runId) (hbc.epochs runId)

end RecoveryDb

theorem operations_kept_of_set {p : RecoveryOperation → Bool}
    {f : RecoveryOperation → RecoveryOperation}
    (hrows : operations'.rows = operations.rows.map (Table.set p f))
    (hp : ∀ row, p row = true → row.status = .pending) (hf : ∀ row, (f row).binding = row.binding) :
    ∀ row ∈ operations, ∃ row' ∈ operations', row.Kept row' := by
  intro row hrow
  refine ⟨Table.set p f row, (mem_set hrows).mpr ⟨row, hrow, rfl⟩, ?_, fun hstatus => ?_⟩
  · exact set_column RecoveryOperation.binding hf row
  · refine set_neg ?_
    by_contra hsel
    exact hstatus (hp row (by simpa using hsel))

theorem adoptable_pending (row : RecoveryOperation)
    (h : (row.isOperation operationId && row.isPending && row.leaseExpired now) = true) :
    row.status = .pending := by
  simp only [Bool.and_eq_true] at h
  simpa [RecoveryOperation.isPending] using h.1.2

theorem tryAdoptPending_kept (operationId : String) (pid : UInt32) (expiry now : Timestamp)
    (operations : OperationTable) :
    ∀ row ∈ operations,
      ∃ row' ∈ (tryAdoptPending operationId pid expiry now operations).2, row.Kept row' :=
  operations_kept_of_set (tryAdoptPending_rows operationId pid expiry now operations)
    adoptable_pending (fun _ => rfl)

theorem finalizeRow_kept {guardName : String} {terminal : OperationStatus}
    {outcome : SerializedOutcome}
    (h : finalizeRow now operationId terminal outcome guardName operations = .ok operations') :
    ∀ row ∈ operations, ∃ row' ∈ operations', row.Kept row' :=
  operations_kept_of_set (finalizeRow_ok h).2
    (fun _ hopen => (RecoveryOperation.isOpen_iff.mp hopen).2) (fun _ => rfl)

theorem appendAttemptOutcome_kept {attemptId : Nat} {stepStatus : String} {snapshot : StateSnapshot}
    {runnerResult : Option Json} {digest : Option String}
    (h : appendAttemptOutcome now attemptId stepStatus snapshot runnerResult digest attempts
      = .ok attempts') :
    ∀ row ∈ attempts.table, ∃ row' ∈ attempts'.table, row.Kept row' := by
  obtain ⟨-, -, hrows⟩ := appendAttemptOutcome_ok h
  intro row hrow
  have hmem' := (mem_set hrows).mpr ⟨row, hrow, rfl⟩
  refine ⟨_, hmem', ?_⟩
  by_cases hopen : row.isOpen attemptId = true
  · rw [set_pos hopen]
    have hnone := (AttemptRow.isOpen_iff.mp hopen).2
    exact ⟨rfl, fun hfinal => by simp [hnone] at hfinal⟩
  · rw [set_neg (by simpa using hopen)]
    exact .rfl

end Luther
