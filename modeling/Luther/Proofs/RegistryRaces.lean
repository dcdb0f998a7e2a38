/-
When the runner's writes lose what another process has written.

A row that is written back has the columns it was read with, but for those the operation
sets.  So what another process has written in between is lost exactly where the operation
puts back what it read; and a terminal status is lost exactly where another one is set.  A
row that is read and written in one transaction loses nothing but the status that the end
of a cleanup sets.
-/
import Luther.Engine.RegistryWrites
import Luther.Proofs.LoopBudget
import Luther.Proofs.PlanCommit

namespace Luther

open Sql

/-! ### What must be kept -/

def RegistryCall.isRunners : RegistryCall → Bool
  | .conditional .. | .fromExpected .. => false
  | _ => true

/-- No column that another process writes goes from another value back to the one read. -/
structure NotReverted (read row written : RunMetadata) : Prop where
  status : row.status ≠ read.status → written.status ≠ read.status
  currentStep : row.currentStep ≠ read.currentStep → written.currentStep ≠ read.currentStep
  updatedAt : row.updatedAt ≠ read.updatedAt → written.updatedAt ≠ read.updatedAt

/-- A statement of the runner leaves a terminal status of another process as it is, and puts no
column of another process's update back. -/
structure ForeignKept (cfg : RunnerConfig) (w : RegistryWorld) (call : RegistryCall) : Prop where
  terminal : call.isRunners = true → ∀ status, w.foreign = some status →
    ((registryStep cfg w call).row cfg).map RunMetadata.status = some status
  columns : ∀ now op read row written, call = .writeBack now → w.held = some (op, read) →
    w.row cfg = some row → (registryStep cfg w call).row cfg = some written →
    NotReverted read row written

/-! ### When it is kept -/

/-- Where a write-back puts back what was read, the row still has it. -/
structure WriteBackFits (cfg : RunnerConfig) (now : Timestamp) (op : RegistryOp)
    (read row : RunMetadata) : Prop where
  status : (op.status? cfg).getD read.status = read.status → row.status = read.status
  currentStep : op.step?.or read.currentStep = read.currentStep →
    row.currentStep = read.currentStep
  updatedAt : some now = read.updatedAt → row.updatedAt = read.updatedAt

instance (cfg : RunnerConfig) (now : Timestamp) (op : RegistryOp) (read row : RunMetadata) :
    Decidable (WriteBackFits cfg now op read row) :=
  decidable_of_iff
    (((op.status? cfg).getD read.status = read.status → row.status = read.status)
      ∧ (op.step?.or read.currentStep = read.currentStep → row.currentStep = read.currentStep)
      ∧ (some now = read.updatedAt → row.updatedAt = read.updatedAt))
    ⟨fun h => ⟨h.1, h.2.1, h.2.2⟩, fun h => ⟨h.status, h.currentStep, h.updatedAt⟩⟩

/-- No terminal status of another process stands, but this one. -/
def StandsNo (w : RegistryWorld) (except : RunStatus) : Prop :=
  match w.foreign with
  | some status => status = except
  | none => True

instance (w : RegistryWorld) (except : RunStatus) : Decidable (StandsNo w except) := by
  unfold StandsNo
  split <;> infer_instance

/-- The status that the end of a cleanup step sets. -/
def cleanupStatus (outcome : StepOutcome) : RunStatus :=
  if outcome = .success then .abandoned else .failed

/-- The lease lets a step's result be written that begins or ends a cleanup. -/
def leaseProtected (cfg : RunnerConfig) (now : Timestamp) (w : RegistryWorld) : Bool :=
  (w.row cfg).any fun row => (protectFailureCleanupLease cfg now row w.db.leases).toBool

/-- The lease lets a denial of ownership be written. -/
def leaseFailed (cfg : RunnerConfig) (now : Timestamp) (w : RegistryWorld) : Bool :=
  (w.row cfg).any fun row => (failOwnedLeaseForOwnershipDenial cfg now row w.db.leases).toBool

/-- The statement does not go over an update of another process: a write-back finds what it puts
back, and what sets a status finds no other terminal one. -/
def Undisturbed (cfg : RunnerConfig) (w : RegistryWorld) : RegistryCall → Prop
  | .writeBack now =>
    match w.held, w.row cfg with
    | some (op, read), some row =>
      WriteBackFits cfg now op read row
        ∧ ∀ status, op.status? cfg = some status → StandsNo w status
    | _, _ => True
  | .stepResult now _ outcome _ terminalFailure =>
    cfg.persistRegistry = true → terminalFailure.isSome = true → leaseProtected cfg now w = true →
      StandsNo w (cleanupStatus outcome)
  | .ownershipDenied now .. =>
    cfg.persistRegistry = true → leaseFailed cfg now w = true → StandsNo w .failed
  | _ => True

instance (cfg : RunnerConfig) (w : RegistryWorld) (call : RegistryCall) :
    Decidable (Undisturbed cfg w call) := by
  unfold Undisturbed
  split
  · split
    · exact instDecidableAnd
    · infer_instance
  all_goals infer_instance

/-! ### What the statements write -/

section Writes

variable {cfg : RunnerConfig} {now : Timestamp}

namespace RegistryOp

theorem apply_status (op : RegistryOp) (md : RunMetadata) :
    (op.apply cfg now md).status = (op.status? cfg).getD md.status := by
  cases op <;> rfl

theorem apply_currentStep (op : RegistryOp) (md : RunMetadata) :
    (op.apply cfg now md).currentStep = op.step?.or md.currentStep := by
  cases op <;> rfl

theorem apply_updatedAt (op : RegistryOp) (md : RunMetadata) :
    (op.apply cfg now md).updatedAt = some now := by
  cases op <;> rfl

theorem apply_runId (op : RegistryOp) (md : RunMetadata) :
    (op.apply cfg now md).runId = md.runId := by
  cases op <;> rfl

theorem read_runId {op : RegistryOp} {runs : RunTable} {md : RunMetadata}
    (h : op.read cfg runs = some md) : md.runId = cfg.runId := by
  cases op with
  | complete outcome finalStep =>
    obtain rfl := Option.some.inj h
    cases hrow : getRun runs cfg.runId with
    | none => rfl
    | some row => exact (getRun_some hrow).2
  | markStarted | prepareStart step => exact (getRun_some h).2

end RegistryOp

/-- The row that the result of a step is written as. -/
def resultRow (cfg : RunnerConfig) (now : Timestamp) (currentStep : String)
    (outcome : StepOutcome) (failure terminalFailure : Option FailureCleanupState)
    (md : RunMetadata) : RunMetadata :=
  let md := md.setPreviousStepAndOutcome now currentStep outcome.asConditionStr
  let md := md.setNextStepCandidates now (computeNextStepCandidates cfg currentStep)
  match terminalFailure with
  | some state =>
    RunMetadata.setCurrentStep now state.failedStep
      { md with failureCleanup := some state, status := cleanupStatus outcome }
  | none =>
    match failure with
    | some state => { md with failureCleanup := some state }
    | none => md

theorem resultRow_runId (currentStep : String) (outcome : StepOutcome)
    (failure terminalFailure : Option FailureCleanupState) (md : RunMetadata) :
    (resultRow cfg now currentStep outcome failure terminalFailure md).runId = md.runId := by
  cases terminalFailure <;> cases failure <;> rfl

theorem resultRow_status (currentStep : String) (outcome : StepOutcome)
    (failure terminalFailure : Option FailureCleanupState) (md : RunMetadata) :
    (resultRow cfg now currentStep outcome failure terminalFailure md).status
      = if terminalFailure.isSome then cleanupStatus outcome else md.status := by
  cases terminalFailure <;> cases failure <;> rfl

variable {currentStep : String} {outcome : StepOutcome} {db db' : RunnerDb}

/-- What a transaction on the registry has written: the row of the run, and its leases as far as
they let it. -/
def RowCommitted (cfg : RunnerConfig) (lease : RunMetadata → LeaseTable → Except EngineError LeaseTable)
    (row : RunMetadata → RunMetadata) (db db' : RunnerDb) : Prop :=
  ∃ md leases, getRun db.runs cfg.runId = some md ∧ lease md db.leases = .ok leases
    ∧ db' = { db with runs := persistRun (row md) db.runs, leases := leases }

theorem rowCommitted_iff (missing : EngineError)
    {lease : RunMetadata → LeaseTable → Except EngineError LeaseTable}
    {row : RunMetadata → RunMetadata} :
    (okOr missing (getRun db.runs cfg.runId) >>= fun md => lease md db.leases >>= fun leases =>
      .ok { db with runs := persistRun (row md) db.runs, leases := leases }) = .ok db'
      ↔ RowCommitted cfg lease row db db' := by
  constructor
  · intro h
    obtain ⟨md, hmd, h⟩ := bind_ok.mp h
    obtain ⟨leases, hleases, h⟩ := bind_ok.mp h
    exact ⟨md, leases, okOr_ok.mp hmd, hleases, (Except.ok.inj h).symm⟩
  · intro h
    obtain ⟨md, leases, hmd, hleases, rfl⟩ := h
    exact bind_ok.mpr ⟨md, okOr_ok.mpr hmd, bind_ok.mpr ⟨leases, hleases, rfl⟩⟩

/-- A transaction commits exactly where the leases let it. -/
theorem toBool_of_rowCommitted {result : Except EngineError RunnerDb}
    {lease : RunMetadata → LeaseTable → Except EngineError LeaseTable}
    {row : RunMetadata → RunMetadata}
    (h : ∀ db', result = .ok db' ↔ RowCommitted cfg lease row db db') :
    result.toBool = true
      ↔ ((getRun db.runs cfg.runId).any fun md => (lease md db.leases).toBool) = true := by
  have htrue : ∀ {α : Type} {e : Except EngineError α}, e.toBool = true ↔ ∃ a, e = .ok a := by
    intro _ e
    cases e <;> simp [Except.toBool]
  rw [htrue, Option.any_eq_true]
  constructor
  · intro hok
    obtain ⟨db', hdb⟩ := hok
    obtain ⟨md, leases, hmd, hleases, -⟩ := (h db').mp hdb
    exact ⟨md, hmd, htrue.mpr ⟨leases, hleases⟩⟩
  · intro hlease
    obtain ⟨md, hmd, hok⟩ := hlease
    obtain ⟨leases, hleases⟩ := htrue.mp hok
    exact ⟨_, (h _).mpr ⟨md, leases, hmd, hleases, rfl⟩⟩

/-- What the leases say to the result of a step: they are asked where a cleanup begins or ends. -/
def stepLease (cfg : RunnerConfig) (now : Timestamp)
    (failure terminalFailure : Option FailureCleanupState) (md : RunMetadata)
    (leases : LeaseTable) : Except EngineError LeaseTable :=
  if failure.isSome || terminalFailure.isSome then protectFailureCleanupLease cfg now md leases
  else .ok leases

theorem persistRegistryStepState_eq (failure terminalFailure : Option FailureCleanupState) :
    persistRegistryStepState cfg now currentStep outcome failure terminalFailure db
      = (okOr (.persistenceError s!"persistent run {cfg.runId} is missing from the registry")
          (getRun db.runs cfg.runId)
        >>= fun md => stepLease cfg now failure terminalFailure md db.leases
        >>= fun leases => .ok { db with
          runs := persistRun
            (resultRow cfg now currentStep outcome failure terminalFailure md) db.runs
          leases := leases }) := by
  cases terminalFailure <;> cases failure <;> rfl

theorem persistRegistryStepState_ok {failure terminalFailure : Option FailureCleanupState} :
    persistRegistryStepState cfg now currentStep outcome failure terminalFailure db = .ok db' ↔
      RowCommitted cfg (stepLease cfg now failure terminalFailure)
        (resultRow cfg now currentStep outcome failure terminalFailure) db db' := by
  rw [persistRegistryStepState_eq]
  exact rowCommitted_iff _

/-- The row of the run, where its ownership has been denied. -/
def deniedRow (now : Timestamp) (currentStep : String) (outcome : StepOutcome)
    (cleanupStep : String) (failure : FailureCleanupState) (md : RunMetadata) : RunMetadata :=
  let md := md.setPreviousStepAndOutcome now currentStep outcome.asConditionStr
  let md := md.setNextStepCandidates now [cleanupStep]
  RunMetadata.setCurrentStep now currentStep
    { md with failureCleanup := some failure, status := .failed }

theorem persistTerminalOwnershipFailureRegistry_ok
    {cleanupStep : String} {failure : FailureCleanupState} :
    persistTerminalOwnershipFailureRegistry cfg now currentStep outcome cleanupStep failure db
        = .ok db' ↔
      RowCommitted cfg (failOwnedLeaseForOwnershipDenial cfg now)
        (deniedRow now currentStep outcome cleanupStep failure) db db' :=
  rowCommitted_iff _

variable {runs : RunTable}

variable {md : RunMetadata} {call : RegistryCall}

theorem getRun_mergedRuns {headSha : String}
    (h : getRun runs cfg.runId = some md) (hstatus : md.status ≠ allowedMergePredecessor) :
    getRun (mergedRuns cfg now headSha runs) cfg.runId = some md := by
  obtain ⟨hmem, hrun⟩ := getRun_some h
  have hkept : md ∈ mergedRuns cfg now headSha runs := by
    refine (Table.mem_set rfl).mpr ⟨md, hmem, Table.set_neg ?_⟩
    simp [hstatus]
  rw [← hrun]
  exact getRun_of_mem hkept

theorem getRun_updateRunStatus {status : RunStatus} {step : Option String}
    {guard : RunStatus → Bool}
    (h : (updateRunStatus now cfg.runId status step guard runs).1) :
    ∃ md, getRun runs cfg.runId = some md
      ∧ getRun (updateRunStatus now cfg.runId status step guard runs).2 cfg.runId
        = some (md.withStatus now status step) := by
  obtain ⟨hchanged, hrows⟩ := updateRunStatus_rows now cfg.runId status step guard runs
  obtain ⟨md, hmem, hrun, hguard⟩ := hchanged.mp h
  refine ⟨md, by rw [← hrun]; exact getRun_of_mem hmem, ?_⟩
  have hwritten : md.withStatus now status step
      ∈ (updateRunStatus now cfg.runId status step guard runs).2 := by
    refine (Table.mem_set hrows).mpr ⟨md, hmem, Table.set_pos ?_⟩
    simp [RunMetadata.isRun, hrun, hguard]
  have hid : (md.withStatus now status step).runId = cfg.runId := hrun
  have hread := getRun_of_mem hwritten
  rwa [hid] at hread

/-! ### One statement -/

/-- What holds between the statements: the row that is held is the run's, and a terminal status
of another process stands as long as it is not forgotten. -/
structure RegistryInv (cfg : RunnerConfig) (w : RegistryWorld) : Prop where
  held : ∀ op read, w.held = some (op, read) → read.runId = cfg.runId
  foreign : ∀ status, w.foreign = some status →
    (w.row cfg).map RunMetadata.status = some status ∧ status.isTerminal = true

variable {w : RegistryWorld}

theorem RegistryInv.withDb (h : RegistryInv cfg w) (db : RunnerDb) :
    RegistryInv cfg (w.withDb cfg db) := by
  refine ⟨h.held, fun status hstatus => ?_⟩
  obtain ⟨hsome, hstands⟩ := Option.filter_eq_some_iff.mp hstatus
  exact ⟨eq_of_beq hstands, (h.foreign status hsome).2⟩

theorem RegistryInv.foreignUpdate (h : RegistryInv cfg w)
    (status : RunStatus) (step : Option String) (guard : RunStatus → Bool) :
    RegistryInv cfg (w.foreignUpdate now cfg.runId status step guard) := by
  unfold RegistryWorld.foreignUpdate
  dsimp only
  split
  · rename_i hchanged
    obtain ⟨md, -, hwritten⟩ := getRun_updateRunStatus hchanged
    refine ⟨h.held, fun terminal hterminal => ?_⟩
    dsimp only at hterminal
    split at hterminal
    · rename_i hisTerminal
      obtain rfl := Option.some.inj hterminal
      refine ⟨?_, hisTerminal⟩
      show (getRun _ cfg.runId).map RunMetadata.status = some status
      rw [hwritten]
      rfl
    · simp at hterminal
  · exact h

section

variable (h : RegistryInv cfg w)

include h

theorem registryStep_inv (call : RegistryCall) : RegistryInv cfg (registryStep cfg w call) := by
  cases call with
  | load op =>
    unfold registryStep
    dsimp only
    split
    · refine ⟨fun op' read hheld => ?_, h.foreign⟩
      obtain ⟨md, hread, heq⟩ := Option.map_eq_some_iff.mp hheld
      obtain ⟨rfl, rfl⟩ := Prod.mk.inj heq
      exact RegistryOp.read_runId hread
    · exact h
  | writeBack now =>
    unfold registryStep
    dsimp only
    split
    · exact h
    · exact ⟨fun _ _ hheld => absurd hheld (by simp), (h.withDb _).foreign⟩
  | stepResult now currentStep outcome failure terminalFailure =>
    unfold registryStep
    dsimp only
    split
    · split
      · exact h.withDb _
      · exact h
    · exact h
  | ownershipDenied now currentStep outcome cleanupStep failure =>
    unfold registryStep
    dsimp only
    split
    · split
      · exact h.withDb _
      · exact h
    · exact h
  | mergeCompleted now headSha => exact h.withDb _
  | conditional now status currentStep => exact h.foreignUpdate ..
  | fromExpected now status currentStep expectedStatuses => exact h.foreignUpdate ..

omit h in
theorem registry_invariant (cfg : RunnerConfig) :
    (registryMachine cfg).Invariant (RegistryInv cfg) where
  start w h := by
    obtain ⟨hheld, hforeign⟩ := h
    refine ⟨fun op read hsome => ?_, fun status hsome => ?_⟩
    · rw [hheld] at hsome
      simp at hsome
    · rw [hforeign] at hsome
      simp at hsome
  step _ call h := registryStep_inv h call

theorem ForeignKept.of_row (hrow : (registryStep cfg w call).row cfg = w.row cfg)
    (hcall : ∀ now, call = .writeBack now → w.held = none) : ForeignKept cfg w call := by
  refine ⟨fun _ status hstatus => ?_, fun now op read row written heq hheld _ _ => ?_⟩
  · rw [hrow]
    exact (h.foreign status hstatus).1
  · rw [hcall now heq] at hheld
    simp at hheld

theorem row_writeBack {op : RegistryOp} {read : RunMetadata} (hheld : w.held = some (op, read)) :
    (registryStep cfg w (.writeBack now)).row cfg = some (op.apply cfg now read) := by
  have hid : (op.apply cfg now read).runId = cfg.runId := by
    rw [RegistryOp.apply_runId, h.held op read hheld]
  unfold registryStep
  dsimp only
  rw [hheld]
  show getRun (persistRun (op.apply cfg now read) w.db.runs) cfg.runId = _
  rw [← hid]
  exact getRun_persistRun _ _

omit h in
theorem standsNo_iff {except : RunStatus} :
    StandsNo w except ↔ ∀ status, w.foreign = some status → status = except := by
  unfold StandsNo
  split
  · rename_i status heq
    rw [heq]
    simp
  · rename_i heq
    rw [heq]
    simp

/-- **A write-back keeps what another process has written exactly when it finds it.** -/
theorem foreignKept_writeBack (now : Timestamp) :
    ForeignKept cfg w (.writeBack now) ↔ Undisturbed cfg w (.writeBack now) := by
  cases hheld : w.held with
  | none =>
    have hkept : ForeignKept cfg w (.writeBack now) := by
      refine ForeignKept.of_row h ?_ fun _ _ => hheld
      unfold registryStep
      dsimp only
      rw [hheld]
    unfold Undisturbed
    rw [hheld]
    simp only [hkept]
  | some pair =>
    obtain ⟨op, read⟩ := pair
    have hwritten : (registryStep cfg w (.writeBack now)).row cfg
        = some (op.apply cfg now read) := row_writeBack h hheld
    cases hrow : w.row cfg with
    | none =>
      unfold Undisturbed
      rw [hheld, hrow]
      refine ⟨fun _ => trivial, fun _ => ⟨fun _ status hstatus => ?_, ?_⟩⟩
      · have hstands := (h.foreign status hstatus).1
        rw [hrow] at hstands
        simp at hstands
      · intro _ _ _ row _ _ _ hsome _
        rw [hrow] at hsome
        simp at hsome
    | some row =>
      unfold Undisturbed
      rw [hheld, hrow]
      dsimp only
      constructor
      · intro hkept
        have hcolumns := hkept.columns now op read row _ rfl hheld hrow hwritten
        refine ⟨⟨fun hput => ?_, fun hput => ?_, fun hput => ?_⟩, fun status hset => ?_⟩
        · by_contra hne
          exact hcolumns.status hne (by rw [RegistryOp.apply_status, hput])
        · by_contra hne
          exact hcolumns.currentStep hne (by rw [RegistryOp.apply_currentStep, hput])
        · by_contra hne
          exact hcolumns.updatedAt hne (by rw [RegistryOp.apply_updatedAt, hput])
        · refine standsNo_iff.mpr fun terminal hterminal => ?_
          have hstands := hkept.terminal rfl terminal hterminal
          rw [hwritten, Option.map_some, RegistryOp.apply_status, hset] at hstands
          exact (Option.some.inj hstands).symm
      · intro hfit
        obtain ⟨hfits, hstands⟩ := hfit
        refine ⟨fun _ terminal hterminal => ?_, ?_⟩
        · rw [hwritten, Option.map_some, RegistryOp.apply_status]
          cases hset : op.status? cfg with
          | some status =>
            have heq := standsNo_iff.mp (hstands status hset) terminal hterminal
            rw [heq]
            rfl
          | none =>
            have hread : row.status = read.status := hfits.status (by rw [hset]; rfl)
            have hrowStatus := (h.foreign terminal hterminal).1
            rw [hrow, Option.map_some, hread] at hrowStatus
            exact hrowStatus
        · intro now' op' read' row' written' heq hheld' hrow' hwritten'
          obtain rfl := RegistryCall.writeBack.inj heq
          rw [hheld] at hheld'
          obtain ⟨rfl, rfl⟩ := Prod.mk.inj (Option.some.inj hheld')
          rw [hrow] at hrow'
          obtain rfl := Option.some.inj hrow'
          rw [hwritten] at hwritten'
          obtain rfl := Option.some.inj hwritten'
          refine ⟨fun hne hback => hne ?_, fun hne hback => hne ?_, fun hne hback => hne ?_⟩
          · exact hfits.status (by rwa [RegistryOp.apply_status] at hback)
          · exact hfits.currentStep (by rwa [RegistryOp.apply_currentStep] at hback)
          · exact hfits.updatedAt (by rwa [RegistryOp.apply_updatedAt] at hback)

/-- **A transaction keeps what another process has written exactly when the status that it sets,
if it commits and sets one, goes over no other terminal one.** -/
theorem foreignKept_transaction (hcall : call.isRunners) (hnot : ∀ now, call ≠ .writeBack now)
    {result : Except EngineError RunnerDb} {written : RunMetadata → RunMetadata}
    {set? : Option RunStatus}
    (hstep : registryStep cfg w call = if cfg.persistRegistry then
      match result with | .ok db => w.withDb cfg db | .error _ => w else w)
    (hcommit : ∀ db, result = .ok db → ∃ md, w.row cfg = some md
      ∧ getRun db.runs cfg.runId = some (written md))
    (hstatus : ∀ md, (written md).status = set?.getD md.status) :
    ForeignKept cfg w call ↔ (cfg.persistRegistry = true → result.toBool = true →
      ∀ status, set? = some status → StandsNo w status) := by
  constructor
  · intro hkept hregistry hok status hset
    refine standsNo_iff.mpr fun terminal hterminal => ?_
    have hstands := hkept.terminal hcall terminal hterminal
    rw [hstep, if_pos hregistry] at hstands
    cases hresult : result with
    | error e =>
      rw [hresult] at hok
      simp [Except.toBool] at hok
    | ok db =>
      rw [hresult] at hstands
      obtain ⟨md, -, hwritten⟩ := hcommit db hresult
      have hrow : (getRun db.runs cfg.runId).map RunMetadata.status = some terminal := hstands
      rw [hwritten, Option.map_some, hstatus, hset] at hrow
      exact (Option.some.inj hrow).symm
  · intro hstands
    refine ⟨fun _ terminal hterminal => ?_, fun now _ _ _ _ heq => absurd heq (hnot now)⟩
    have hbefore := (h.foreign terminal hterminal).1
    rw [hstep]
    by_cases hregistry : cfg.persistRegistry = true
    · rw [if_pos hregistry]
      cases hresult : result with
      | error e => exact hbefore
      | ok db =>
        obtain ⟨md, hmd, hwritten⟩ := hcommit db hresult
        show (getRun db.runs cfg.runId).map RunMetadata.status = some terminal
        rw [hwritten, Option.map_some, hstatus]
        rw [hmd, Option.map_some] at hbefore
        cases hset : set? with
        | none => exact hbefore
        | some status =>
          have hstand := hstands hregistry (by rw [hresult]; rfl) status hset
          rw [standsNo_iff.mp hstand terminal hterminal]
          rfl
    · rw [if_neg hregistry]
      exact hbefore

omit h in
theorem getRun_persistRun_of_id (hid : md.runId = cfg.runId) :
    getRun (persistRun md runs) cfg.runId = some md := by
  rw [← hid]
  exact getRun_persistRun md runs

theorem foreignKept_stepResult (now : Timestamp) (currentStep : String)
    (outcome : StepOutcome) (failure terminalFailure : Option FailureCleanupState) :
    ForeignKept cfg w (.stepResult now currentStep outcome failure terminalFailure)
      ↔ Undisturbed cfg w (.stepResult now currentStep outcome failure terminalFailure) := by
  have hcommit : ∀ db, persistRegistryStepState cfg now currentStep outcome failure
      terminalFailure w.db = .ok db → ∃ md, w.row cfg = some md ∧ getRun db.runs cfg.runId
        = some (resultRow cfg now currentStep outcome failure terminalFailure md) := by
    intro db hresult
    obtain ⟨md, leases, hmd, -, rfl⟩ := persistRegistryStepState_ok.mp hresult
    refine ⟨md, hmd, getRun_persistRun_of_id ?_⟩
    rw [resultRow_runId, (getRun_some hmd).2]
  have hset : ∀ md, (resultRow cfg now currentStep outcome failure terminalFailure md).status
      = ((if terminalFailure.isSome then some (cleanupStatus outcome)
          else none) : Option RunStatus).getD md.status := by
    intro md
    rw [resultRow_status]
    split <;> rfl
  rw [foreignKept_transaction h rfl (fun _ => by simp) rfl hcommit hset]
  -- At the end of a cleanup the transaction commits exactly where the lease is protected.
  have hcommits : terminalFailure.isSome = true →
      ((persistRegistryStepState cfg now currentStep outcome failure terminalFailure
        w.db).toBool = true ↔ leaseProtected cfg now w = true) := by
    intro hterminal
    rw [toBool_of_rowCommitted fun _ => persistRegistryStepState_ok]
    simp only [stepLease, hterminal, Bool.or_true, if_true]
    rfl
  constructor
  · intro hstands hregistry hterminal hlease
    exact hstands hregistry ((hcommits hterminal).mpr hlease) _ (by rw [if_pos hterminal])
  · intro hstands hregistry hok status hstatus
    split at hstatus
    · rename_i hterminal
      obtain rfl := Option.some.inj hstatus
      exact hstands hregistry hterminal ((hcommits hterminal).mp hok)
    · simp at hstatus

theorem foreignKept_ownershipDenied (now : Timestamp)
    (currentStep : String) (outcome : StepOutcome) (cleanupStep : String)
    (failure : FailureCleanupState) :
    ForeignKept cfg w (.ownershipDenied now currentStep outcome cleanupStep failure)
      ↔ Undisturbed cfg w (.ownershipDenied now currentStep outcome cleanupStep failure) := by
  have hcommit : ∀ db, persistTerminalOwnershipFailureRegistry cfg now currentStep outcome
      cleanupStep failure w.db = .ok db → ∃ md, w.row cfg = some md ∧ getRun db.runs cfg.runId
        = some (deniedRow now currentStep outcome cleanupStep failure md) := by
    intro db hresult
    obtain ⟨md, leases, hmd, -, rfl⟩ := persistTerminalOwnershipFailureRegistry_ok.mp hresult
    exact ⟨md, hmd, getRun_persistRun_of_id (getRun_some hmd).2⟩
  have hset : ∀ md, (deniedRow now currentStep outcome cleanupStep failure md).status
      = (some RunStatus.failed).getD md.status := fun _ => rfl
  rw [foreignKept_transaction h rfl (fun _ => by simp) rfl hcommit hset]
  have hcommits : (persistTerminalOwnershipFailureRegistry cfg now currentStep outcome
      cleanupStep failure w.db).toBool = true ↔ leaseFailed cfg now w = true :=
    toBool_of_rowCommitted fun _ => persistTerminalOwnershipFailureRegistry_ok
  constructor
  · intro hstands hregistry hlease
    exact hstands hregistry (hcommits.mpr hlease) _ rfl
  · intro hstands hregistry hok status hstatus
    obtain rfl := Option.some.inj hstatus
    exact hstands hregistry (hcommits.mp hok)

/-- **A statement keeps what another process has written exactly when it is undisturbed.** -/
theorem foreignKept_iff (call : RegistryCall) :
    ForeignKept cfg w call ↔ Undisturbed cfg w call := by
  have hforeign : ∀ call : RegistryCall, call.isRunners = false → ForeignKept cfg w call := by
    intro call hcall
    refine ⟨fun hyes => absurd (hyes.symm.trans hcall) (by simp), ?_⟩
    intro now _ _ _ _ heq
    subst heq
    simp [RegistryCall.isRunners] at hcall
  cases call with
  | load op =>
    refine ⟨fun _ => trivial, fun _ => ForeignKept.of_row h ?_ fun _ heq => absurd heq (by simp)⟩
    unfold registryStep
    dsimp only
    split <;> rfl
  | writeBack now => exact foreignKept_writeBack h now
  | stepResult now currentStep outcome failure terminalFailure => exact foreignKept_stepResult h ..
  | ownershipDenied now currentStep outcome cleanupStep failure =>
    exact foreignKept_ownershipDenied h ..
  | mergeCompleted now headSha =>
    refine ⟨fun _ => trivial, fun _ => ⟨fun _ terminal hterminal => ?_,
      fun _ _ _ _ _ heq => absurd heq (by simp)⟩⟩
    obtain ⟨hstands, hisTerminal⟩ := h.foreign terminal hterminal
    obtain ⟨md, hmd, rfl⟩ := Option.map_eq_some_iff.mp hstands
    have hready : md.status ≠ allowedMergePredecessor := by
      intro heq
      rw [heq] at hisTerminal
      exact absurd hisTerminal (by decide)
    show (getRun (mergedRuns cfg now headSha w.db.runs) cfg.runId).map RunMetadata.status = _
    rw [getRun_mergedRuns hmd hready]
    rfl
  | conditional now status currentStep => exact ⟨fun _ => trivial, fun _ => hforeign _ rfl⟩
  | fromExpected now status currentStep expectedStatuses =>
    exact ⟨fun _ => trivial, fun _ => hforeign _ rfl⟩

end

end Writes

/-- **A run of the registry loses nothing of another process exactly when no statement of the
runner goes over it**: no write-back puts back a column that has been written since, and none
sets a status over another process's terminal one. -/
theorem registry_keeps_foreign_iff (cfg : RunnerConfig) (w : RegistryWorld)
    (hstart : (registryMachine cfg).start w) (calls : List RegistryCall) :
    (registryMachine cfg).Along (ForeignKept cfg) w calls
      ↔ (registryMachine cfg).Along (Undisturbed cfg) w calls :=
  StateMachine.along_congr (registry_invariant cfg) (fun _ call h => foreignKept_iff h call)
    ((registry_invariant cfg).start w hstart) calls

/-! ### Statements with nothing in between -/

section Alone

variable {cfg : RunnerConfig} {w : RegistryWorld} {r : Runner}

section

variable (hheld : w.held = none)

include hheld

theorem load_writeBack_db (hr : r.db = w.db) {op : RegistryOp}
    (hread : op.read cfg w.db.runs = getRun w.db.runs cfg.runId) (now : Timestamp) :
    ((registryMachine cfg).run w [.load op, .writeBack now]).db
      = (r.updateMetadata cfg (op.apply cfg now)).db := by
  show (registryStep cfg (registryStep cfg w (.load op)) (.writeBack now)).db = _
  unfold Runner.updateMetadata Runner.loadMetadata
  rw [hr]
  by_cases hregistry : cfg.persistRegistry = true
  · cases hrow : getRun w.db.runs cfg.runId with
    | none => simp only [registryStep, hregistry, if_true, hread, hrow, Option.map_none, hr]
    | some md =>
      simp only [registryStep, hregistry, if_true, hread, hrow, Option.map_some,
        Runner.persistMetadata, hr]
      rfl
  · simp only [registryStep, hregistry, hheld, Bool.false_eq_true, if_false, hr]

theorem load_writeBack_markStarted (hr : r.db = w.db) (now : Timestamp) :
    ((registryMachine cfg).run w [.load .markStarted, .writeBack now]).db
      = (markRunStarted cfg now r).db :=
  load_writeBack_db hheld hr rfl now

theorem load_writeBack_prepareStart (hr : r.db = w.db) {now : Timestamp}
    {step : String} {r' : Runner} (h : prepareStepStart cfg now step r = (.ok (), r')) :
    ((registryMachine cfg).run w [.load (.prepareStart step), .writeBack now]).db.runs
      = r'.db.runs := by
  have halone : ∀ context : StepContext,
      ((registryMachine cfg).run w [.load (.prepareStart step), .writeBack now]).db.runs
        = ((heartbeatOwnedLease cfg now { r with context := context }).updateMetadata cfg
            (RegistryOp.apply cfg now (.prepareStart step))).db.runs := by
    intro context
    have hruns : (heartbeatOwnedLease cfg now { r with context := context }).db.runs
        = r.db.runs := by
      unfold heartbeatOwnedLease
      split
      · rfl
      · split
        · rfl
        · split
          · split
            · split <;> rfl
            · rfl
          · rfl
    rw [load_writeBack_db hheld hr rfl now]
    unfold Runner.updateMetadata Runner.loadMetadata Runner.persistMetadata
    rw [hruns]
    split
    · split
      · rfl
      · exact hruns.symm
    · exact hruns.symm
  unfold prepareStepStart at h
  dsimp only at h
  split at h
  · split at h
    · exact absurd (Prod.mk.inj h).1 (by simp)
    · rw [← (Prod.mk.inj h).2]
      exact halone _
  · rw [← (Prod.mk.inj h).2]
    exact halone _

theorem load_writeBack_complete (hr : r.db = w.db) (input : LoopInput)
    {outcome : RunOutcome} (finalStep : String)
    (hmerge : statusForCompletion outcome cfg.mergeRequired ≠ .reviewReady) :
    ((registryMachine cfg).run w [.load (.complete outcome finalStep), .writeBack input.now]).db
      = (recordRunCompletion cfg input outcome finalStep r).2.db := by
  show (registryStep cfg (registryStep cfg w (.load (.complete outcome finalStep)))
    (.writeBack input.now)).db = _
  unfold recordRunCompletion Runner.loadMetadata
  by_cases hregistry : cfg.persistRegistry = true
  · simp only [registryStep, hregistry, if_true, RegistryOp.read, Option.map_some, Bool.not_true,
      Bool.false_eq_true, if_false, if_neg hmerge, Runner.persistMetadata, hr]
    rfl
  · have hoff : cfg.persistRegistry = false := by simpa using hregistry
    simp only [registryStep, hoff, hheld, Bool.not_false, Bool.false_eq_true, if_false, if_true, hr]

end

end Alone

/-! ### A cancellation that is lost -/

def registeredConfig : RunnerConfig := { bareConfig remediation with persistRegistry := true }

/-- The registry with the run running at its first step. -/
def runningWorld : RegistryWorld where
  db := ⟨Table.empty, ⟨[{ runId := "run-1", status := .running, updatedAt := some 1
                          currentStep := some "implement" }], List.pairwise_singleton _ _⟩,
    Table.empty⟩

/-- A run is cancelled between the statements of `prepare_step_start`, and is running again. -/
theorem registry_loses_cancellation :
    ¬ (registryMachine registeredConfig).Along (ForeignKept registeredConfig) runningWorld
      [.load (.prepareStart "verify"), .conditional 2 .cancelled none, .writeBack 3] := by
  have hdisturbed : ¬ (registryMachine registeredConfig).Along (Undisturbed registeredConfig)
      runningWorld
      [.load (.prepareStart "verify"), .conditional 2 .cancelled none, .writeBack 3] := by
    decide +kernel
  intro hkept
  refine hdisturbed ((StateMachine.along_congr (registry_invariant registeredConfig)
    (fun _ call h => foreignKept_iff h call) ?_ _).mp hkept)
  exact (registry_invariant registeredConfig).start _ ⟨rfl, rfl⟩

/-- A step is prepared and its result is written down before the run is cancelled. -/
theorem registry_keeps_foreign_iff_cancelled :
    (registryMachine registeredConfig).Along (ForeignKept registeredConfig) runningWorld
      [.load .markStarted, .writeBack 2, .load (.prepareStart "implement"), .writeBack 3,
        .stepResult 4 "implement" .success none none, .conditional 5 .cancelled none,
        .stepResult 6 "verify" .fixable none none] :=
  (registry_keeps_foreign_iff registeredConfig runningWorld ⟨rfl, rfl⟩ _).mpr (by decide +kernel)

end Luther
