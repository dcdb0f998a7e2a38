/-
What the plan of a continuation checks, and what its commit does.

The checks of a plan are read off by their names.  A commit is a sequence of guards, and
it says one thing more than the plan: the wait that a resume uses up must be the wait of
the checkpoint it selects.
-/
import Luther.Engine.Continuation
import Luther.Proofs.ExternalWait

namespace Luther

open Sql

variable {host : ContinuationHost} {now : Timestamp} {request : ContinuationRequest}
  {md : RunMetadata} {db db' : RunDb}

/-! ### The checks of a plan -/

/-- The validation has a check of this name, and it passes. -/
def ContinuationValidation.Passes (v : ContinuationValidation) (name : String) : Prop :=
  ∃ check ∈ v.checks, check.name = name ∧ check.passed = true

/-- The validation has a check of this name, and it fails. -/
def ContinuationValidation.Fails (v : ContinuationValidation) (name : String) : Prop :=
  ∃ check ∈ v.checks, check.name = name ∧ check.passed = false

@[simp] theorem checkWorkflowResolvable_name (md : RunMetadata) :
    (checkWorkflowResolvable md).name = "workflow_resolvable" := by
  unfold checkWorkflowResolvable
  split
  · rfl
  · rfl

@[simp] theorem checkResumableStatus_name (host : ContinuationHost) (md : RunMetadata)
    (request : ContinuationRequest) :
    (checkResumableStatus host md request).name = "resumable_status" := by
  unfold checkResumableStatus
  split
  · rfl
  split
  · rfl
  split
  · rfl
  split
  · rfl
  · rfl

@[simp] theorem checkIdentityRecoverable_name (md : RunMetadata) :
    (checkIdentityRecoverable md).name = "identity_recoverable" := by
  unfold checkIdentityRecoverable
  dsimp only
  split
  · rfl
  · rfl

theorem checkCleanupWorkspaceOwnership_name (host : ContinuationHost) (path : String)
    (md : RunMetadata) : (checkCleanupWorkspaceOwnership host path md).name = "workspace" := by
  unfold checkCleanupWorkspaceOwnership
  split
  · rfl
  · rfl
  split
  · rfl
  split
  · rfl
  · rfl

@[simp] theorem checkWorkspace_name (host : ContinuationHost) (md : RunMetadata) :
    (checkWorkspace host md).name = "workspace" := by
  unfold checkWorkspace
  split
  · split
    · exact checkCleanupWorkspaceOwnership_name host _ md
    split
    · rfl
    · rfl
  · split
    · rfl
    · rfl

@[simp] theorem checkSafeStep_passed (stepId : String) (force authorized : Bool) :
    (checkSafeStep stepId force authorized).passed = (isSafeRerunStep stepId || authorized) := by
  unfold checkSafeStep
  split
  · rename_i h
    exact h.symm
  · rename_i h
    exact (Bool.not_eq_true _).mp h |>.symm

@[simp] theorem checkSafeStep_name (stepId : String) (force authorized : Bool) :
    (checkSafeStep stepId force authorized).name = "safe_step" := by
  unfold checkSafeStep
  split
  · rfl
  · rfl

/-- The check of the run's status passes when the status may be reopened, and the process of a
run that is running is gone. -/
theorem checkResumableStatus_passed (host : ContinuationHost) (md : RunMetadata)
    (request : ContinuationRequest) :
    (checkResumableStatus host md request).passed
      = (!md.isOwnershipDeniedTerminal && (md.status.isResumable || cleanupRecovery md request
          || runningClaimIsAvailable host md)) := by
  unfold checkResumableStatus
  by_cases hdenied : md.isOwnershipDeniedTerminal = true
  · rw [if_pos hdenied, hdenied]
    rfl
  · rw [if_neg hdenied, (Bool.not_eq_true _).mp hdenied]
    by_cases hresumable : md.status.isResumable = true
    · rw [if_pos hresumable, hresumable]
      rfl
    · rw [if_neg hresumable, (Bool.not_eq_true _).mp hresumable]
      by_cases hcleanup : cleanupRecovery md request = true
      · rw [if_pos hcleanup, hcleanup]
        rfl
      · rw [if_neg hcleanup, (Bool.not_eq_true _).mp hcleanup]
        by_cases hrunning : runningClaimIsAvailable host md = true
        · rw [if_pos hrunning, hrunning]
          rfl
        · rw [if_neg hrunning, (Bool.not_eq_true _).mp hrunning]
          rfl

theorem validateContinuation_checks (hrun : getRun db.runs request.runId = some md) :
    (validateContinuation host request db).checks
      = [checkRunExists (some md) request.runId, checkWorkflowResolvable md,
          checkResumableStatus host md request, checkIdentityRecoverable md,
          checkWorkspace host md]
        ++ checkSelection host db.waits md request
            (selectCheckpoint host db.checkpoints request md) := by
  unfold validateContinuation
  dsimp only
  rw [hrun]
  rfl

/-- The step of the selected checkpoint is safe, or authorized. -/
def StepMayRun (host : ContinuationHost) (waits : WaitStateTable) (md : RunMetadata)
    (request : ContinuationRequest) (cp : Checkpoint) : Prop :=
  isSafeRerunStep cp.stepId = true ∨ checkpointIsAuthorized host waits md request cp = true

theorem passes_checks (host : ContinuationHost) (request : ContinuationRequest)
    (hrun : getRun db.runs request.runId = some md) :
    let validation := validateContinuation host request db
    (validation.Passes "resumable_status" ↔
      (checkResumableStatus host md request).passed = true) ∧
    (validation.Passes "checkpoint_exists" ↔
      ∃ cp, selectCheckpoint host db.checkpoints request md = .ok cp) ∧
    (validation.Passes "safe_step" ↔
      ∃ cp, selectCheckpoint host db.checkpoints request md = .ok cp
        ∧ StepMayRun host db.waits md request cp) := by
  unfold ContinuationValidation.Passes StepMayRun
  dsimp only
  rw [validateContinuation_checks hrun]
  unfold checkSelection
  cases selectCheckpoint host db.checkpoints request md with
  | error e => simp [checkRunExists, pass, checkCheckpointExists, fail]
  | ok cp => simp [checkRunExists, pass, checkCheckpointExists]

theorem fails_safeStep (hrun : getRun db.runs request.runId = some md)
    (h : (validateContinuation host request db).Fails "safe_step") :
    ∃ cp, selectCheckpoint host db.checkpoints request md = .ok cp
      ∧ ¬ StepMayRun host db.waits md request cp := by
  unfold ContinuationValidation.Fails at h
  unfold StepMayRun
  rw [validateContinuation_checks hrun] at h
  unfold checkSelection at h
  cases hselect : selectCheckpoint host db.checkpoints request md with
  | error e =>
    rw [hselect] at h
    simp [checkRunExists, pass, checkCheckpointExists, fail] at h
  | ok cp =>
    rw [hselect] at h
    refine ⟨cp, rfl, ?_⟩
    simpa [checkRunExists, pass, checkCheckpointExists] using h

/-! ### Selecting a checkpoint -/

theorem getCheckpointForStep_some {cps : CheckpointTable} {runId stepId : String}
    {cp : Checkpoint} :
    getCheckpointForStep cps runId stepId = some cp ↔
      ∃ row ∈ cps, row.isStep runId stepId = true ∧ cp = row.toCheckpoint := by
  have hmem : ∀ row, row ∈ Sorted.sort CheckpointRow.timestamp
      (cps.select fun row => row.runId == runId) ↔ row ∈ cps ∧ row.runId = runId := by
    intro row
    rw [Sorted.sort, List.mem_mergeSort, Table.mem_select]
    simp
  unfold getCheckpointForStep listCheckpoints
  rw [List.find?_map]
  constructor
  · intro h
    obtain ⟨row, hfind, hrow⟩ := Option.map_eq_some_iff.mp h
    obtain ⟨hcps, hrun⟩ := (hmem row).mp (List.mem_of_find?_eq_some hfind)
    have hstep : row.stepId = stepId := by
      simpa [CheckpointRow.toCheckpoint] using List.find?_some hfind
    exact ⟨row, hcps, CheckpointRow.isStep_iff.mpr ⟨hrun, hstep⟩, hrow.symm⟩
  · rintro ⟨row, hrow, his, rfl⟩
    obtain ⟨hrun, hstep⟩ := CheckpointRow.isStep_iff.mp his
    refine Option.map_eq_some_iff.mpr ⟨row, ?_, rfl⟩
    cases hfind : (Sorted.sort CheckpointRow.timestamp
        (cps.select fun row => row.runId == runId)).find?
          ((fun cp : Checkpoint => cp.stepId == stepId) ∘ CheckpointRow.toCheckpoint) with
    | none =>
      have hnone := List.find?_eq_none.mp hfind row ((hmem row).mpr ⟨hrow, hrun⟩)
      simp [CheckpointRow.toCheckpoint, hstep] at hnone
    | some other =>
      obtain ⟨hother, hotherRun⟩ := (hmem other).mp (List.mem_of_find?_eq_some hfind)
      have hotherStep : other.stepId = stepId := by
        simpa [CheckpointRow.toCheckpoint] using List.find?_some hfind
      rw [Table.eq_of_clash hother hrow
        ⟨hotherRun.trans hrun.symm, hotherStep.trans hstep.symm⟩]

theorem selectRewindCheckpoint_ok {cps : CheckpointTable} {runId id : String} {cp : Checkpoint} :
    selectRewindCheckpoint host cps runId (.toCheckpoint id) = .ok cp ↔
      ∃ step ts, parseCheckpointIdentityTarget host id = .ok (step, ts)
        ∧ ∃ row ∈ cps, row.isStep runId step = true ∧ row.timestamp = ts
          ∧ cp = row.toCheckpoint := by
  constructor
  · intro h
    obtain ⟨⟨step, ts⟩, hparse, h⟩ := bind_ok.mp h
    obtain ⟨target, htarget, h⟩ := bind_ok.mp h
    rw [← Except.ok.inj htarget] at h
    obtain ⟨found, hfound, h⟩ := bind_ok.mp h
    obtain ⟨row, hrow, his, rfl⟩ := getCheckpointForStep_some.mp (okOr_ok.mp hfound)
    dsimp only at h
    split at h
    · rename_i hts
      exact ⟨step, ts, hparse, row, hrow, his, hts, (Except.ok.inj h).symm⟩
    · simp at h
  · rintro ⟨step, ts, hparse, row, hrow, his, hts, rfl⟩
    have hfound : getCheckpointForStep cps runId step = some row.toCheckpoint :=
      getCheckpointForStep_some.mpr ⟨row, hrow, his, rfl⟩
    have hts' : row.toCheckpoint.timestamp = ts := hts
    simp only [selectRewindCheckpoint, hparse, bind, Except.bind, hfound, okOr, hts', if_true]

end Luther
