/-
A run leaves other runs alone.

Every statement of a runner names the run: a checkpoint and a row are written under its id, and a
lease is only changed where the run is its owner.  So whatever happens to a run, over all its
processes, the rows of the other runs are the same rows in the same order.
-/
import Luther.Proofs.RegistryRaces

namespace Luther

open Sql

/-- What is another run's is as it was. -/
structure Isolated (runId : String) (db db' : RunnerDb) : Prop where
  checkpoints : db'.checkpoints.select (fun row => row.runId != runId) =
    db.checkpoints.select fun row => row.runId != runId
  runs : db'.runs.select (fun md => md.runId != runId) =
    db.runs.select fun md => md.runId != runId
  leases : db'.leases.select (fun lease => lease.runId != some runId) =
    db.leases.select fun lease => lease.runId != some runId

theorem Isolated.refl {runId : String} (db : RunnerDb) : Isolated runId db db := ⟨rfl, rfl, rfl⟩

theorem Isolated.trans {runId : String} {a b c : RunnerDb} (hab : Isolated runId a b)
    (hbc : Isolated runId b c) : Isolated runId a c :=
  ⟨hbc.checkpoints.trans hab.checkpoints, hbc.runs.trans hab.runs, hbc.leases.trans hab.leases⟩

section Tables

variable {runId : String}

theorem select_saveCheckpoint {checkpoint : Checkpoint} (h : checkpoint.runId = runId)
    (checkpoints : CheckpointTable) :
    (saveCheckpoint checkpoint checkpoints).select (fun row => row.runId != runId) =
      checkpoints.select fun row => row.runId != runId := by
  refine Table.select_upsert (by simp [Checkpoint.toRow, h]) fun row _ hselected => ?_
  simp only [Checkpoint.toRow, h, Bool.and_eq_true, beq_iff_eq] at hselected
  simp [hselected.1]

theorem select_persistRun {md : RunMetadata} (h : md.runId = runId) (runs : RunTable) :
    (persistRun md runs).select (fun md => md.runId != runId) =
      runs.select fun md => md.runId != runId := by
  refine Table.select_upsert (by simp [h]) fun row _ hselected => ?_
  have hrow : row.runId = runId := by simpa [RunMetadata.isRun, h] using hselected
  simp [hrow]

theorem select_touch (now : Timestamp) (leaseId : String) (leases : LeaseTable) :
    (touchOwnedRunningLeaseHeartbeat now leaseId runId leases).2.select
        (fun lease => lease.runId != some runId) =
      leases.select fun lease => lease.runId != some runId := by
  refine Table.select_set rfl fun row _ hselected => ?_
  simp only [Bool.and_eq_true, beq_iff_eq] at hselected
  simp [hselected.1.2]

theorem select_updateLeaseStatus {now : Timestamp} {leaseId : String} {status : LeaseStatus}
    {expected : List LeaseStatus} {applied : Bool} {leases leases' : LeaseTable}
    (h : updateLeaseStatusConditional now leaseId status expected none (some runId) leases =
      .ok (applied, leases')) :
    leases'.select (fun lease => lease.runId != some runId) =
      leases.select fun lease => lease.runId != some runId := by
  refine Table.select_set (updateLeaseStatusConditional_ok h).1 fun row _ hselected => ?_
  simp only [movable, Bool.and_eq_true, beq_iff_eq] at hselected
  simp [movedLease, hselected.2]

end Tables

/-! ### A runner -/

section Runs

variable {cfg : RunnerConfig}

/-- The runner has left other runs alone. -/
def Alone (cfg : RunnerConfig) (r r' : Runner) : Prop := Isolated cfg.runId r.db r'.db

theorem Alone.refl (r : Runner) : Alone cfg r r := Isolated.refl r.db

theorem Alone.trans {a b c : Runner} (hab : Alone cfg a b) (hbc : Alone cfg b c) : Alone cfg a c :=
  Isolated.trans hab hbc

theorem alone_save (now : Timestamp) (stepId status : String) (r : Runner) :
    Alone cfg r { r with db := r.db.save (createCheckpoint cfg now stepId status r) } :=
  ⟨select_saveCheckpoint rfl r.db.checkpoints, rfl, rfl⟩

variable {md : RunMetadata} {now : Timestamp} {leases leases' : LeaseTable} {step : String}
  {outcome : StepOutcome} {db db' : RunnerDb} {r r' : Runner}

theorem alone_persistMetadata (h : md.runId = cfg.runId) (r : Runner) :
    Alone cfg r (r.persistMetadata md) :=
  ⟨rfl, select_persistRun h r.db.runs, rfl⟩

theorem alone_updateMetadata {f : RunMetadata → RunMetadata} (hf : ∀ md, (f md).runId = md.runId)
    (r : Runner) : Alone cfg r (r.updateMetadata cfg f) := by
  unfold Runner.updateMetadata
  split
  · split
    · rename_i hmd
      exact alone_persistMetadata ((hf _).trans (getRun_some hmd).2) r
    · exact .refl _
  · exact .refl _

theorem alone_heartbeat (now : Timestamp) (r : Runner) :
    Alone cfg r (heartbeatOwnedLease cfg now r) := by
  unfold heartbeatOwnedLease
  split
  · exact .refl _
  · split
    · exact .refl _
    · split
      · split
        · split
          · exact ⟨rfl, rfl, select_touch now _ r.db.leases⟩
          · exact .refl _
        · exact .refl _
      · exact .refl _

section

variable (input : LoopInput)

theorem alone_recordRunCompletion (outcome : RunOutcome) (stepId : String)
    (r : Runner) : Alone cfg r (recordRunCompletion cfg input outcome stepId r).2 := by
  have hread : ((r.loadMetadata cfg).getD (buildMetadata cfg
      (statusForCompletion outcome cfg.mergeRequired))).runId = cfg.runId := by
    cases hmd : r.loadMetadata cfg with
    | none => rfl
    | some md => exact (getRun_some hmd).2
  unfold recordRunCompletion
  dsimp only
  split
  · exact .refl _
  · split
    · split
      · refine Alone.trans ?_ (alone_persistMetadata ?_ _)
        · exact alone_persistMetadata (by exact hread) r
        · exact hread
      · exact alone_persistMetadata (by exact hread) r
      · exact alone_persistMetadata (by exact hread) r
    · exact alone_persistMetadata (by exact hread) r

theorem alone_completeWith (outcome : RunOutcome) (stepId : String)
    (r : Runner) : Alone cfg r (completeWith cfg input outcome stepId r).2 := by
  have halone : Alone cfg r _ := alone_recordRunCompletion input outcome stepId r
  unfold completeWith
  split <;> rename_i h <;> rwa [h] at halone

theorem alone_interruptAtStep (stepId : String) (r : Runner) :
    Alone cfg r (interruptAtStep cfg input stepId r).2 :=
  (alone_save input.now stepId "interrupted" r).trans (alone_recordRunCompletion input _ stepId _)

theorem alone_finishWithoutTransition (stepId : String) (outcome : StepOutcome)
    (r : Runner) : Alone cfg r (finishWithoutTransition cfg input stepId outcome r).2 := by
  unfold finishWithoutTransition
  split
  · split
    · exact .refl _
    · dsimp only
      split <;> exact .refl _
  · split
    · exact (alone_save input.now stepId _ r).trans (alone_completeWith input _ stepId _)
    · split <;> exact alone_completeWith ..

end

theorem alone_prepareStepStart (now : Timestamp) (stepId : String) (r : Runner) :
    Alone cfg r (prepareStepStart cfg now stepId r).2 := by
  have hbegin : ∀ context : StepContext, Alone cfg r
      ((heartbeatOwnedLease cfg now { r with context := context }).updateMetadata cfg fun md =>
        (md.setCurrentStep now stepId).setNextStepCandidates now
          (computeNextStepCandidates cfg stepId)) :=
    fun context =>
      have hbeat : Alone cfg r _ := alone_heartbeat now { r with context := context }
      hbeat.trans (alone_updateMetadata (by exact fun _ => rfl) _)
  unfold prepareStepStart
  dsimp only
  split
  · split
    · exact .refl _
    · exact hbegin _
  · exact hbegin _

theorem select_protectLease (h : protectFailureCleanupLease cfg now md leases = .ok leases') :
    leases'.select (fun lease => lease.runId != some cfg.runId) =
      leases.select fun lease => lease.runId != some cfg.runId := by
  unfold protectFailureCleanupLease at h
  split at h
  · rw [Except.ok.inj h]
  · split at h
    · cases h
    · cases h
    · split at h
      · cases h
      · split at h
        · cases h
        · rename_i hupdated
          rw [← Except.ok.inj h]
          exact select_updateLeaseStatus hupdated
        · cases h

theorem select_failLease (h : failOwnedLeaseForOwnershipDenial cfg now md leases = .ok leases') :
    leases'.select (fun lease => lease.runId != some cfg.runId) =
      leases.select fun lease => lease.runId != some cfg.runId := by
  unfold failOwnedLeaseForOwnershipDenial at h
  split at h
  · rw [Except.ok.inj h]
  · split at h
    · cases h
    · rw [Except.ok.inj h]
    · split at h
      · rw [Except.ok.inj h]
      · split at h
        · cases h
        · rename_i hupdated
          rw [← Except.ok.inj h]
          exact select_updateLeaseStatus hupdated

theorem isolated_stepState {failure terminal : Option FailureCleanupState}
    (h : persistRegistryStepState cfg now step outcome failure terminal db = .ok db') :
    Isolated cfg.runId db db' := by
  obtain ⟨md, leases, hmd, hleases, rfl⟩ := persistRegistryStepState_ok.mp h
  refine ⟨rfl, select_persistRun ((resultRow_runId ..).trans (getRun_some hmd).2) _, ?_⟩
  unfold stepLease at hleases
  split at hleases
  · exact select_protectLease hleases
  · rw [← Except.ok.inj hleases]

theorem isolated_denial {cleanupStep : String} {failure : FailureCleanupState}
    (h : persistTerminalOwnershipFailureRegistry cfg now step outcome cleanupStep failure db =
      .ok db') :
    Isolated cfg.runId db db' := by
  obtain ⟨md, leases, hmd, hleases, rfl⟩ := persistTerminalOwnershipFailureRegistry_ok.mp h
  have hid : (deniedRow now step outcome cleanupStep failure md).runId = cfg.runId :=
    (getRun_some hmd).2
  exact ⟨rfl, select_persistRun hid _, select_failLease hleases⟩

theorem alone_persistStepResult (input : LoopInput) (stepId : String) (outcome : StepOutcome)
    (nextStep : Option String) (r : Runner) :
    Alone cfg r (persistStepResult cfg input stepId outcome nextStep r).2 := by
  unfold persistStepResult
  split
  · unfold persistTerminalOwnershipFailure
    dsimp only
    split
    · exact .refl _
    · rename_i hpersisted
      refine Isolated.trans (alone_save input.now stepId "completed" r) ?_
      split at hpersisted
      · exact isolated_denial hpersisted
      · rw [← Except.ok.inj hpersisted]
        exact .refl _
  · dsimp only
    split
    · exact .refl _
    · split
      · exact .refl _
      · rename_i hpersisted
        refine Isolated.trans (alone_save input.now stepId "completed" r) ?_
        split at hpersisted
        · exact isolated_stepState hpersisted
        · rw [← Except.ok.inj hpersisted]
          exact .refl _

theorem alone_followOutcome (input : LoopInput) (outcome : StepOutcome) (nextStep : Option String)
    (r : Runner) : Alone cfg r (followOutcome cfg input outcome nextStep r).2 := by
  unfold followOutcome
  split
  · split <;> exact .refl _
  · split
    · split
      · exact alone_finishWithoutTransition ..
      · exact alone_recordRunCompletion ..
    · split
      · exact alone_finishWithoutTransition ..
      · rename_i next
        have hedge : Alone cfg r (enforceEdgeLimit cfg input r.currentState next outcome r).2 := by
          unfold enforceEdgeLimit
          dsimp only
          split
          · exact .refl _
          · split
            · exact alone_recordRunCompletion ..
            · exact .refl _
        split <;> rename_i h <;> rwa [h] at hedge

/-- A pass leaves other runs alone. -/
theorem alone_loopPass (input : LoopInput) (r : Runner) :
    Alone cfg r (loopPass cfg input r).2 := by
  unfold loopPass
  split
  · exact alone_interruptAtStep ..
  · have hprepared : Alone cfg r _ := alone_prepareStepStart input.now r.currentState r
    split
    · rename_i h
      rwa [h] at hprepared
    · rename_i r₁ h
      rw [h] at hprepared
      split
      · exact hprepared
      · rename_i outcome context _
        dsimp only
        split
        · exact Isolated.trans hprepared
            (alone_interruptAtStep input r₁.currentState { r₁ with context := context })
        · have hpersisted : ∀ nextStep, Alone cfg { r₁ with context := context } _ := fun nextStep =>
            alone_persistStepResult input r₁.currentState outcome nextStep _
          split
          · rename_i h
            have hstep := hpersisted (if outcome = .abandon then none
              else resolveTransitionSchema r₁.currentState outcome cfg.workflowType.transitions)
            rw [h] at hstep
            exact hprepared.trans hstep
          · rename_i h
            have hstep := hpersisted (if outcome = .abandon then none
              else resolveTransitionSchema r₁.currentState outcome cfg.workflowType.transitions)
            rw [h] at hstep
            exact hprepared.trans (hstep.trans (alone_followOutcome input outcome _ _))

theorem alone_loopStep (s : LoopState) (input : LoopInput) :
    Alone cfg s.runner (loopStep cfg s input).runner := by
  have hpass : Alone cfg s.runner _ := alone_loopPass input s.runner
  unfold loopStep
  split
  · exact .refl _
  · dsimp only
    split <;> rename_i h <;> rwa [h] at hpass

/-! ### A process -/

theorem restored_db {stepId : String} {snapshot : StateSnapshot}
    (h : r.restored stepId snapshot = .ok r') : r'.db = r.db := by
  obtain ⟨context, -, hr⟩ := bind_ok.mp h
  rw [← Except.ok.inj hr]

theorem resumeFromCheckpoint_db (h : resumeFromCheckpoint cfg r = .ok r') :
    r'.db = r.db := by
  unfold resumeFromCheckpoint at h
  split at h
  · split at h
    · cases h
    · obtain ⟨restored, hrestored, hr⟩ := bind_ok.mp h
      have hdb := restored_db hrestored
      rw [← Except.ok.inj hr]
      exact hdb
  · split at h
    · exact restored_db h
    · rw [← Except.ok.inj h]

theorem alone_persistInitialRun (r : Runner) : Alone cfg r (persistInitialRun cfg r) := by
  unfold persistInitialRun
  split
  · exact .refl _
  · split
    · exact .refl _
    · exact alone_persistMetadata rfl r

theorem isolated_startProcess
    (h : startProcess cfg now db = .ok r) : Isolated cfg.runId db r.db := by
  have hfirst : Isolated cfg.runId db (withDbPathAndContext cfg db).db := by
    unfold withDbPathAndContext
    dsimp only
    generalize hfirst : Runner.mk (firstStep cfg) _ _ _ _ _ db = r
    have hdb : r.db = db := hfirst ▸ rfl
    exact hdb ▸ alone_persistInitialRun r
  obtain ⟨resumed, hresumed, hr⟩ := bind_ok.mp h
  rw [← resumeFromCheckpoint_db hresumed] at hfirst
  rw [← Except.ok.inj hr]
  exact hfirst.trans (alone_updateMetadata (by exact fun _ => rfl) resumed)

theorem alone_sessionStep (s : LoopState) (call : SessionCall) :
    Alone cfg s.runner (sessionStep cfg s call).runner := by
  cases call with
  | pass input => exact alone_loopStep s _
  | interruptAndResume input resumedAt =>
    have hstep : Alone cfg s.runner _ := alone_loopStep s { input with interruptedBefore := true }
    unfold sessionStep
    dsimp only
    split
    · exact .refl _
    · split
      · rename_i hstarted
        exact Isolated.trans hstep (isolated_startProcess hstarted)
      · exact hstep

/-! ### Another run -/

/-- The registry and the checkpoints say the same of a run. -/
structure ReadsAlike (runId : String) (db db' : RunnerDb) : Prop where
  row : getRun db'.runs runId = getRun db.runs runId
  newest : loadCheckpoint db'.checkpoints runId = loadCheckpoint db.checkpoints runId

theorem Isolated.readsAlike {runId other : String}
    (h : Isolated runId db db') (hother : other ≠ runId) : ReadsAlike other db db' where
  row := by
    unfold getRun Table.find?
    rw [← List.head?_filter, ← List.head?_filter]
    exact congrArg List.head? (Table.select_of_select h.runs fun md hmd => by
      have hrun : md.runId = other := by simpa [RunMetadata.isRun] using hmd
      simpa [hrun] using hother)
  newest := by
    unfold loadCheckpoint Table.latest?
    rw [Table.select_of_select h.checkpoints fun row hrow => by
      have hrun : row.runId = other := by simpa using hrow
      simpa [hrun] using hother]

theorem withDbPathAndContext_alike (h : ReadsAlike cfg.runId db db') :
    ∃ db₁, withDbPathAndContext cfg db' = { withDbPathAndContext cfg db with db := db₁ }
      ∧ ReadsAlike cfg.runId (withDbPathAndContext cfg db).db db₁ := by
  unfold withDbPathAndContext persistInitialRun Runner.loadMetadata
  dsimp only
  rw [h.row, h.newest]
  split
  · exact ⟨db', rfl, h⟩
  · split
    · exact ⟨db', rfl, h⟩
    · exact ⟨_, rfl, (getRun_persistRun _ _).trans (getRun_persistRun _ _).symm, h.newest⟩

theorem resumeFromCheckpoint_alike (h : ReadsAlike cfg.runId r.db db') :
    resumeFromCheckpoint cfg { r with db := db' } =
      (resumeFromCheckpoint cfg r).map fun r => { r with db := db' } := by
  have hrestored : ∀ stepId snapshot, Runner.restored stepId snapshot { r with db := db' } =
      (r.restored stepId snapshot).map fun r => { r with db := db' } := by
    intro stepId snapshot
    unfold Runner.restored
    cases (r.context.restoreCheckpointValues snapshot.context).mapError
      fun e => EngineError.persistenceError e.text <;> rfl
  unfold resumeFromCheckpoint unfinishedCleanup Runner.loadMetadata
  dsimp only
  rw [h.row, h.newest]
  split
  · split
    · rfl
    · rw [hrestored]
      cases r.restored _ _ <;> rfl
  · split
    · exact hrestored _ _
    · rfl

/-- A process stands where it would stand if the database said the same of its run only. -/
theorem startProcess_alike (h : ReadsAlike cfg.runId db db') (now : Timestamp) (db₀ : RunnerDb) :
    (startProcess cfg now db').map (fun r => { r with db := db₀ }) =
      (startProcess cfg now db).map fun r => { r with db := db₀ } := by
  have hmark : ∀ r, { markRunStarted cfg now r with db := db₀ } = { r with db := db₀ } := by
    intro r
    unfold markRunStarted Runner.updateMetadata
    split
    · split <;> rfl
    · rfl
  obtain ⟨db₁, hfirst, halike⟩ := withDbPathAndContext_alike h
  unfold startProcess
  rw [hfirst, resumeFromCheckpoint_alike halike]
  cases resumeFromCheckpoint cfg (withDbPathAndContext cfg db) with
  | error e => rfl
  | ok r => exact congrArg Except.ok ((hmark _).trans (hmark r).symm)

/-- **A run leaves other runs alone.**  Whatever happens to it, over all its processes, what is
another run's stays as it was, and a process of another run stands where it would have stood. -/
theorem session_isolated (s : LoopState) (calls : List SessionCall) :
    Isolated cfg.runId s.runner.db ((sessionMachine cfg).run s calls).runner.db
      ∧ ∀ other : RunnerConfig, other.runId ≠ cfg.runId → ∀ now db₀,
        (startProcess other now ((sessionMachine cfg).run s calls).runner.db).map
            (fun r => { r with db := db₀ }) =
          (startProcess other now s.runner.db).map fun r => { r with db := db₀ } := by
  have hrun : Isolated cfg.runId s.runner.db ((sessionMachine cfg).run s calls).runner.db :=
    (sessionMachine cfg).run_keeps
      (fun s' call (h : Isolated cfg.runId s.runner.db s'.runner.db) =>
        h.trans (alone_sessionStep s' call)) (.refl _) calls
  exact ⟨hrun, fun other hother now db₀ =>
    startProcess_alike (hrun.readsAlike hother) now db₀⟩

end Runs

/-- Another run starts alike before and after a run of the remediation loop. -/
theorem session_isolated_remediation :
    (startProcess { registeredConfig with runId := "run-2" } 5
        ((sessionMachine registeredConfig).run { runner := bareRunner "implement" }
          [.pass (answering .success),
            .interruptAndResume (answering .success) 3]).runner.db).map
        (fun r => { r with db := (bareRunner "implement").db }) =
      (startProcess { registeredConfig with runId := "run-2" } 5 (bareRunner "implement").db).map
        fun r => { r with db := (bareRunner "implement").db } :=
  (session_isolated _ _).2 _ (by decide) 5 _

end Luther
