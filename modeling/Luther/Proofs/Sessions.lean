/-
A run that is interrupted goes the way it would have gone.

Between two processes of a run there is the database: the newest checkpoint has the counts and
what is written down of the context, and the row of the run has the failure that a cleanup step is
about, with the state at that failure.  So the runner that goes on stands where the runner stood
that was interrupted, and every session is a plain run, in which nothing is interrupted.

What is not carried over is seen in three places: the variables that no checkpoint holds, the
reasons that are made of them, and in a cleanup step the count of the edge that led there.
-/
import Luther.Proofs.CheckpointIdentity
import Luther.Proofs.GraphSoundness
import Luther.Proofs.Persisted
import Luther.Proofs.RegistryRaces

namespace Luther

open Sql StepContext

section Sessions

variable {cfg : RunnerConfig} {input : LoopInput} {now t : Timestamp} {r : Runner} {v : PlainRun}
  {md : RunMetadata} {failure : Option FailureCleanupState} {current : String}
  {outcome : StepOutcome} {nextStep : Option String}

/-! ### The row of the run -/

/-- The registry has a row for the run, with the record of a failure or without. -/
def Registered (cfg : RunnerConfig) (failure : Option FailureCleanupState) (runs : RunTable) :
    Prop :=
  ∃ md, getRun runs cfg.runId = some md ∧ md.repository = cfg.repository
    ∧ md.issueNumber = cfg.issueNumber ∧ md.failureCleanup = failure

section

variable (hrepository : md.repository = cfg.repository)

include hrepository

section

variable (hissue : md.issueNumber = cfg.issueNumber)

include hissue

theorem leaseAuthority_eq :
    leaseAuthority cfg md = leaseAuthority cfg (buildMetadata cfg .starting) := by
  unfold leaseAuthority RunMetadata.issueLeaseNumber
  rw [hrepository, hissue]
  rfl

theorem protectLease_eq (leases : LeaseTable) :
    protectFailureCleanupLease cfg now md leases =
      protectFailureCleanupLease cfg now (buildMetadata cfg .starting) leases := by
  unfold protectFailureCleanupLease
  rw [leaseAuthority_eq hrepository hissue]

theorem failLease_eq (leases : LeaseTable) :
    failOwnedLeaseForOwnershipDenial cfg now md leases =
      failOwnedLeaseForOwnershipDenial cfg now (buildMetadata cfg .starting) leases := by
  unfold failOwnedLeaseForOwnershipDenial
  rw [leaseAuthority_eq hrepository hissue]

end

end

/-- An update that leaves the issue and the failure alone. -/
structure LeavesFailure (f : RunMetadata → RunMetadata) : Prop where
  runId : ∀ md, (f md).runId = md.runId
  repository : ∀ md, (f md).repository = md.repository
  issueNumber : ∀ md, (f md).issueNumber = md.issueNumber
  failureCleanup : ∀ md, (f md).failureCleanup = md.failureCleanup

variable {runs : RunTable} {f : FailureCleanupState} {context old : StepContext}
  {checkpoint : Checkpoint} {checkpoints : CheckpointTable} {db : RunnerDb}
  {terminal : Option FailureCleanupState} {stepId : String} {leases : LeaseTable}

theorem Registered.persist (h : Registered cfg failure runs)
    {f : RunMetadata → RunMetadata} (hf : LeavesFailure f) (hmd : getRun runs cfg.runId = some md) :
    Registered cfg failure (persistRun (f md) runs) := by
  obtain ⟨md', hmd', hrepository, hissue, hfailure⟩ := h
  obtain rfl : md' = md := Option.some.inj (hmd'.symm.trans hmd)
  exact ⟨f md', getRun_persistRun_of_id ((hf.runId md').trans (getRun_some hmd).2),
    (hf.repository md').trans hrepository, (hf.issueNumber md').trans hissue,
    (hf.failureCleanup md').trans hfailure⟩

theorem Registered.update (hpersist : cfg.persistRegistry)
    (h : Registered cfg failure r.db.runs) {f : RunMetadata → RunMetadata} (hf : LeavesFailure f) :
    ∃ runs, r.updateMetadata cfg f = { r with db := { r.db with runs := runs } }
      ∧ Registered cfg failure runs := by
  obtain ⟨md, hmd, -⟩ := id h
  refine ⟨_, ?_, h.persist hf hmd⟩
  unfold Runner.updateMetadata Runner.loadMetadata
  rw [if_pos hpersist, hmd]
  rfl

theorem Registered.heartbeat (h : Registered cfg failure r.db.runs) :
    heartbeatOwnedLease cfg now r =
      { r with db := { r.db with leases := beatLeases cfg now r.db.leases } } := by
  obtain ⟨md, hmd, hrepository, hissue, -⟩ := h
  unfold heartbeatOwnedLease beatLeases Runner.loadMetadata
  rw [← leaseAuthority_eq hrepository hissue, hmd]
  unfold leaseAuthority
  cases cfg.daemonManaged with
  | false => rfl
  | true =>
    simp only [Bool.not_true, Bool.false_eq_true, if_false]
    cases md.repository with
    | none => rfl
    | some repository =>
      cases md.issueLeaseNumber with
      | none => rfl
      | some issueNumber =>
        dsimp only
        cases getLeaseForIssue r.db.leases repository issueNumber with
        | error e => rfl
        | ok found =>
          cases found with
          | none => rfl
          | some lease =>
            dsimp only
            split <;> rfl

/-! ### The record of a failure -/

/-- The record of the failure that a way into a cleanup step was taken for. -/
structure FailureRecorded (cfg : RunnerConfig) (u : Traversal) (context : StepContext)
    (f : FailureCleanupState) : Prop where
  failedStep : f.failedStep = u.from
  failureOutcome : f.failureOutcome = u.outcome.asConditionStr
  cleanupStep : f.cleanupStep = u.to
  unfinished : f.cleanupSucceeded = false
  owned : f.ownershipDenied = false
  snapshot : ∃ old, f.failedStateSnapshot.context = old.checkpointValues
    ∧ (buildStepContext cfg).Grown old ∧ old.SamePersisted context

/-- In a cleanup step the failure is on record that led to it, and in another step none is. -/
def Provenance (cfg : RunnerConfig) (v : PlainRun) (context : StepContext)
    (failure : Option FailureCleanupState) : Prop :=
  if isFailureCleanupStep cfg.workflowType v.current then
    ∃ u f, v.traversals.getLast? = some u ∧ u.to = v.current ∧ failure = some f
      ∧ FailureRecorded cfg u context f
  else failure = none

theorem Provenance.recorded (h : Provenance cfg v context failure)
    (hcleanup : isFailureCleanupStep cfg.workflowType v.current) :
    ∃ u f, v.traversals.getLast? = some u ∧ u.to = v.current ∧ failure = some f
      ∧ FailureRecorded cfg u context f := by
  rwa [Provenance, if_pos hcleanup] at h

theorem Provenance.eq_none (h : Provenance cfg v context failure)
    (hother : ¬ isFailureCleanupStep cfg.workflowType v.current = true) : failure = none := by
  rwa [Provenance, if_neg hother] at h

/-- The failure that begins with the result of a step. -/
def beginningFailure (cfg : RunnerConfig) (input : LoopInput) (current : String)
    (outcome : StepOutcome) (nextStep : Option String) (r : Runner) : Option FailureCleanupState :=
  nextStep.bind fun next =>
    if failsInto cfg.workflowType outcome (some next) then
      some (buildFailureCleanupState input.now current next outcome
        (createCheckpoint cfg input.now current "completed" r) r)
    else none

/-- The failure that ends with it. -/
def endingFailure (cfg : RunnerConfig) (input : LoopInput) (current : String)
    (outcome : StepOutcome) (failure : Option FailureCleanupState) : Option FailureCleanupState :=
  if isFailureCleanupStep cfg.workflowType current then
    failure.map fun f =>
      if outcome = .success then
        { f with cleanupSucceeded := true, cleanupCompletedAt := some input.now }
      else f
  else none

/-- No checkpoint of the run is newer than that. -/
def SavedUntil (cfg : RunnerConfig) (t : Timestamp) (checkpoints : CheckpointTable) : Prop :=
  ∀ row ∈ checkpoints, row.runId = cfg.runId → row.timestamp ≤ t

theorem SavedUntil.save (h : SavedUntil cfg t checkpoints) (ht : t < checkpoint.timestamp) :
    SavedUntil cfg checkpoint.timestamp (saveCheckpoint checkpoint checkpoints) := by
  intro row hrow hrun
  rcases mem_saveCheckpoint.mp hrow with rfl | ⟨hold, -⟩
  · exact Int.le_refl _
  · exact Int.le_of_lt (Int.lt_of_le_of_lt (h row hold hrun) ht)

/-- A runner in the middle of a plain run. -/
structure FollowsRun (cfg : RunnerConfig) (t : Timestamp) (r : Runner) (v : PlainRun) : Prop where
  context : v.context.SamePersisted r.context
  grown : (buildStepContext cfg).Grown r.context
  leases : r.db.leases = v.leases
  owned : r.terminalOwnershipFailure = false
  saved : SavedUntil cfg t r.db.checkpoints
  record : ∃ failure, Registered cfg failure r.db.runs ∧ Provenance cfg v r.context failure

/-! ### The parts of a pass -/

/-- A step is begun with the failure that is on record. -/
theorem prepareStepStart_eq (now : Timestamp) (hpersist : cfg.persistRegistry)
    (h : Registered cfg failure r.db.runs) (hfailure : Provenance cfg v r.context failure) :
    ∃ runs, prepareStepStart cfg now v.current r = (.ok (), { r with
        context := beginStep cfg v.current v.traversals.getLast? r.context
        db := { r.db with leases := beatLeases cfg now r.db.leases, runs := runs } })
      ∧ Registered cfg failure runs := by
  have hbegin : ∀ context : StepContext, ∃ runs,
      (heartbeatOwnedLease cfg now { r with context := context }).updateMetadata cfg (fun md =>
          (md.setCurrentStep now v.current).setNextStepCandidates now
            (computeNextStepCandidates cfg v.current)) =
        { r with
          context := context
          db := { r.db with leases := beatLeases cfg now r.db.leases, runs := runs } }
        ∧ Registered cfg failure runs := by
    intro context
    have hleaves : LeavesFailure fun md => (md.setCurrentStep now v.current).setNextStepCandidates
        now (computeNextStepCandidates cfg v.current) :=
      ⟨fun _ => rfl, fun _ => rfl, fun _ => rfl, fun _ => rfl⟩
    rw [Registered.heartbeat (r := { r with context := context }) h]
    exact Registered.update (r := { r with
      context := context
      db := { r.db with leases := beatLeases cfg now r.db.leases } }) hpersist h hleaves
  unfold prepareStepStart beginStep
  by_cases hcleanup : isFailureCleanupStep cfg.workflowType v.current = true
  · obtain ⟨u, f, hlast, -, rfl, hrecorded⟩ := hfailure.recorded hcleanup
    obtain ⟨md, hmd, -, -, hrecord⟩ := id h
    have hwork : Runner.failedWork cfg
        { r with context := r.context.setCurrentStepId v.current } = some f := by
      unfold Runner.failedWork Runner.loadMetadata
      rw [hmd, Option.bind_some, hrecord, Option.some_or]
    dsimp only
    rw [if_pos hcleanup, hwork, hlast, hcleanup]
    dsimp only
    rw [hrecorded.failedStep, hrecorded.failureOutcome]
    obtain ⟨runs, hruns, hregistered⟩ := hbegin (((r.context.setCurrentStepId v.current).set
      "failed_work_step" u.from).set "failed_work_outcome" u.outcome.asConditionStr)
    exact ⟨runs, by rw [← hruns], hregistered⟩
  · dsimp only
    rw [if_neg hcleanup, (Bool.not_eq_true _).mp hcleanup]
    obtain ⟨runs, hruns, hregistered⟩ := hbegin (r.context.setCurrentStepId v.current)
    exact ⟨runs, by rw [← hruns], hregistered⟩

theorem isSome_beginningFailure :
    (beginningFailure cfg input current outcome nextStep r).isSome =
      failsInto cfg.workflowType outcome nextStep := by
  unfold beginningFailure
  cases nextStep with
  | none => rfl
  | some next =>
    rw [Option.bind_some]
    cases failsInto cfg.workflowType outcome (some next) with
    | false => rfl
    | true => rfl

theorem endingFailure_some (input : LoopInput) (outcome : StepOutcome)
    (h : isFailureCleanupStep cfg.workflowType current)
    (f : FailureCleanupState) :
    ∃ g, endingFailure cfg input current outcome (some f) = some g ∧ g.failedStep = f.failedStep := by
  unfold endingFailure
  rw [if_pos h, Option.map_some]
  split
  · exact ⟨_, rfl, rfl⟩
  · exact ⟨_, rfl, rfl⟩

theorem failureStatesForStep_eq (input : LoopInput) (outcome : StepOutcome)
    (nextStep : Option String) (h : Registered cfg failure r.db.runs)
    (hfailure : isFailureCleanupStep cfg.workflowType current = true → failure.isSome = true) :
    failureStatesForStep cfg input.now current outcome nextStep
        (createCheckpoint cfg input.now current "completed" r) r =
      .ok (beginningFailure cfg input current outcome nextStep r,
        endingFailure cfg input current outcome failure)
    ∧ (endingFailure cfg input current outcome failure).isSome =
        isFailureCleanupStep cfg.workflowType current := by
  obtain ⟨md, hmd, -, -, hrecord⟩ := h
  unfold failureStatesForStep endingFailure
  by_cases hcleanup : isFailureCleanupStep cfg.workflowType current = true
  · obtain ⟨f, rfl⟩ := Option.isSome_iff_exists.mp (hfailure hcleanup)
    have hwork : r.failedWork cfg = some f := by
      unfold Runner.failedWork Runner.loadMetadata
      rw [hmd, Option.bind_some, hrecord, Option.some_or]
    rw [hcleanup, hwork]
    by_cases hsuccess : outcome = .success
    · simp only [hsuccess, if_true]
      exact ⟨rfl, rfl⟩
    · simp only [hsuccess, if_false]
      exact ⟨rfl, rfl⟩
  · rw [(Bool.not_eq_true _).mp hcleanup]
    exact ⟨rfl, rfl⟩

theorem deniedRegistry_eq {cleanupStep : String} (hmd : getRun db.runs cfg.runId = some md) :
    persistTerminalOwnershipFailureRegistry cfg now current outcome cleanupStep f db =
      (failOwnedLeaseForOwnershipDenial cfg now md db.leases).map fun leases =>
        { db with
          runs := persistRun (deniedRow now current outcome cleanupStep f md) db.runs
          leases := leases } := by
  unfold persistTerminalOwnershipFailureRegistry
  rw [hmd]
  show failOwnedLeaseForOwnershipDenial cfg now md db.leases >>= _ = _
  cases failOwnedLeaseForOwnershipDenial cfg now md db.leases with
  | error e => rfl
  | ok leases => rfl

theorem stepRegistry_eq (hmd : getRun db.runs cfg.runId = some md) :
    persistRegistryStepState cfg now current outcome failure terminal db =
      (stepLease cfg now failure terminal md db.leases).map fun leases =>
        { db with
          runs := persistRun (resultRow cfg now current outcome failure terminal md) db.runs
          leases := leases } := by
  rw [persistRegistryStepState_eq, hmd]
  show (stepLease cfg now failure terminal md db.leases >>= fun leases => .ok _) = _
  cases stepLease cfg now failure terminal md db.leases with
  | error e => rfl
  | ok leases => rfl

theorem registered_resultRow {begun : Option FailureCleanupState}
    (hmd : getRun runs cfg.runId = some md) (hrepository : md.repository = cfg.repository)
    (hissue : md.issueNumber = cfg.issueNumber) :
    Registered cfg ((terminal.or begun).or md.failureCleanup)
      (persistRun (resultRow cfg now current outcome begun terminal md) runs) := by
  refine ⟨_, getRun_persistRun_of_id ((resultRow_runId ..).trans (getRun_some hmd).2), ?_⟩
  cases terminal <;> cases begun <;> exact ⟨hrepository, hissue, rfl⟩

/-- What is written down for a step that has ended. -/
theorem persistStepResult_eq (input : LoopInput) (outcome : StepOutcome) (nextStep : Option String)
    (hpersist : cfg.persistRegistry)
    (h : Registered cfg failure r.db.runs)
    (hfailure : isFailureCleanupStep cfg.workflowType current = true → failure.isSome = true) :
    match settleLeases cfg input current outcome nextStep r.db.leases with
    | .error e => persistStepResult cfg input current outcome nextStep r = (.error e, r)
    | .ok leases => ∃ runs pending,
        persistStepResult cfg input current outcome nextStep r = (.ok (), { r with
          pendingFailureCleanup := pending
          terminalOwnershipFailure :=
            (verifyFailureCleanupWorkspace cfg input outcome nextStep).isSome
              || r.terminalOwnershipFailure
          db :=
            { checkpoints := saveCheckpoint
                (createCheckpoint cfg input.now current "completed" r) r.db.checkpoints
              runs := runs
              leases := leases } })
        ∧ if (verifyFailureCleanupWorkspace cfg input outcome nextStep).isSome then
            ∃ f, pending = some f ∧ f.failedStep = current
          else Registered cfg (((endingFailure cfg input current outcome failure).or
            (beginningFailure cfg input current outcome nextStep r)).or failure) runs := by
  obtain ⟨hstates, hending⟩ := failureStatesForStep_eq input outcome nextStep h hfailure
  obtain ⟨md, hmd, hrepository, hissue, rfl⟩ := h
  have hsaved : ∀ checkpoint, getRun (r.db.save checkpoint).runs cfg.runId = some md :=
    fun _ => hmd
  unfold persistStepResult settleLeases
  dsimp only
  cases verifyFailureCleanupWorkspace cfg input outcome nextStep with
  | some reason =>
    rw [Option.isSome_some, if_pos rfl, ← failLease_eq hrepository hissue]
    dsimp only
    unfold persistTerminalOwnershipFailure
    dsimp only
    rw [if_pos hpersist, deniedRegistry_eq (hsaved _)]
    show (match failOwnedLeaseForOwnershipDenial cfg input.now md r.db.leases with
      | .error e => _ | .ok leases => _ : Prop)
    unfold RunnerDb.save
    dsimp only
    cases failOwnedLeaseForOwnershipDenial cfg input.now md r.db.leases with
    | error e => rfl
    | ok leases => exact ⟨_, _, rfl, _, rfl, rfl⟩
  | none =>
    dsimp only
    rw [hstates]
    dsimp only
    rw [if_pos hpersist, stepRegistry_eq (hsaved _), stepLease, isSome_beginningFailure, hending,
      protectLease_eq hrepository hissue]
    unfold RunnerDb.save
    simp only [Option.isSome_none, Bool.false_eq_true, if_false, Bool.false_or]
    cases (if failsInto cfg.workflowType outcome nextStep
        || isFailureCleanupStep cfg.workflowType current then
      protectFailureCleanupLease cfg input.now (buildMetadata cfg .starting) r.db.leases
      else .ok r.db.leases) with
    | error e => rfl
    | ok leases => exact ⟨_, _, rfl, registered_resultRow hmd hrepository hissue⟩

/-! ### The end of a pass -/

theorem recordRunCompletion_answer (hpersist : cfg.persistRegistry) (o : RunOutcome)
    (stepId : String) (r : Runner) :
    (completeWith cfg input o stepId r).1.map RunOutcome.bare = completion cfg input o := by
  unfold completeWith recordRunCompletion completion
  dsimp only
  rw [hpersist, Bool.not_true, if_neg Bool.false_ne_true]
  by_cases hstatus : statusForCompletion o cfg.mergeRequired = .reviewReady
  · rw [if_pos hstatus]
    cases input.mergeCompletion with
    | merged => rfl
    | notYetMerged => rfl
    | other debugText =>
      dsimp only
      rw [if_pos hstatus]
      rfl
  · rw [if_neg hstatus]
    cases input.mergeCompletion with
    | merged => rfl
    | notYetMerged => rfl
    | other debugText =>
      dsimp only
      rw [if_neg hstatus]
      rfl

/-- In a cleanup step the failure is known, under the name of the last step before it. -/
def KnowsFailure (cfg : RunnerConfig) (v : PlainRun) (r : Runner) : Prop :=
  isFailureCleanupStep cfg.workflowType v.current = true →
    ∃ u f, v.traversals.getLast? = some u ∧ r.failedWork cfg = some f ∧ f.failedStep = u.from

theorem finishWithoutTransition_bare (input : LoopInput) (hpersist : cfg.persistRegistry)
    (hknows : KnowsFailure cfg v r)
    (h : isFailureCleanupStep cfg.workflowType v.current = false → outcome ≠ .abandon) :
    (finishWithoutTransition cfg input v.current outcome r).1.map RunOutcome.bare =
      endRun cfg input v.current v.traversals.getLast? outcome := by
  unfold finishWithoutTransition endRun
  by_cases hcleanup : isFailureCleanupStep cfg.workflowType v.current = true
  · obtain ⟨u, f, hlast, hwork, hfailed⟩ := hknows hcleanup
    rw [if_pos hcleanup, if_pos hcleanup, hwork, hlast]
    dsimp only
    by_cases hsuccess : outcome = .success
    · rw [if_pos hsuccess, if_pos hsuccess, hfailed]
      rfl
    · rw [if_neg hsuccess, if_neg hsuccess, hfailed]
      rfl
  · rw [if_neg hcleanup, if_neg hcleanup, if_neg (h ((Bool.not_eq_true _).mp hcleanup))]
    by_cases hwait : outcome = .wait
    · rw [if_pos hwait, if_pos hwait]
      exact recordRunCompletion_answer hpersist ..
    · rw [if_neg hwait, if_neg hwait]
      split
      · rename_i hretryable
        rw [hretryable]
        exact recordRunCompletion_answer hpersist ..
      · exact recordRunCompletion_answer hpersist ..

theorem enforceEdgeLimit_eq (cfg : RunnerConfig) (input : LoopInput) (outcome : StepOutcome)
    (current next : String) (r : Runner) :
    match countEdge cfg current next outcome r.edgeLoopCounts with
    | .error limit => ∃ o r', enforceEdgeLimit cfg input current next outcome r =
        (some (limit, o), r') ∧ o.bare = .abandoned current ""
    | .ok counts => enforceEdgeLimit cfg input current next outcome r =
        (none, { r with edgeLoopCounts := counts }) := by
  unfold countEdge enforceEdgeLimit
  dsimp only
  generalize findTransition cfg.workflowType current outcome = transition
  cases isLimitedTransition cfg.workflowType current next transition with
  | false => rfl
  | true =>
    rw [if_pos rfl, Bool.not_true, if_neg Bool.false_ne_true]
    by_cases hlimit :
        edgeLimit cfg transition ≤ edgeCount r.edgeLoopCounts (edgeKey current next)
    · rw [if_pos hlimit, if_pos hlimit]
      exact ⟨_, _, rfl, rfl⟩
    · rw [if_neg hlimit, if_neg hlimit]

/-- A pass of a runner, and the pass of the plain run that it follows. -/
inductive PassAlike (cfg : RunnerConfig) (t : Timestamp) (v : PlainRun) :
    PassResult × Runner → PlainRun → Prop
  | ended {result : PassResult} {r : Runner} (hlast : result.result?.isSome) :
      PassAlike cfg t v (result, r) (v.endWith result.bare)
  | advanced {outcome : StepOutcome} {next : String} {context : StepContext}
      {counts : List (String × UInt32)} {leases : LeaseTable} {r : Runner}
      (hcurrent : r.currentState = next) (hcounts : r.edgeLoopCounts = counts)
      (hfollows : FollowsRun cfg t r (v.follow outcome next context counts leases)) :
      PassAlike cfg t v (.advanced outcome, r) (v.follow outcome next context counts leases)

/-- Going over an edge, or the end of the run there. -/
theorem followOutcome_alike (hpersist : cfg.persistRegistry)
    (hcurrent : r.currentState = v.current)
    (hcounts : isFailureCleanupStep cfg.workflowType v.current = false →
      r.edgeLoopCounts = v.counts)
    (howned : r.terminalOwnershipFailure = false) (hknows : KnowsFailure cfg v r)
    (hclean : isFailureCleanupStep cfg.workflowType v.current = true → nextStep = none)
    (habandon : outcome = .abandon → nextStep = none)
    (hverify : (verifyFailureCleanupWorkspace cfg input outcome nextStep).isSome = false)
    (hfollows : ∀ next counts, nextStep = some next →
      FollowsRun cfg t { r with edgeLoopCounts := counts, currentState := next }
        (v.follow outcome next context counts leases)) :
    PassAlike cfg t v (followOutcome cfg input outcome nextStep r)
      (v.settle cfg input outcome nextStep context leases) := by
  unfold followOutcome PlainRun.settle
  rw [howned, hverify, hcurrent]
  simp only [Bool.false_eq_true, if_false]
  cases hnext : nextStep with
  | none =>
    by_cases hfinish : outcome = .abandon ∧ isFailureCleanupStep cfg.workflowType v.current = false
    · obtain ⟨rfl, hcleanup⟩ := hfinish
      have hend : endRun cfg input v.current v.traversals.getLast? .abandon =
          .ok (.abandoned v.current "") := by
        unfold endRun
        rw [hcleanup]
        rfl
      rw [if_pos rfl, hcleanup, if_neg Bool.false_ne_true, hend]
      exact .ended rfl
    · have hbare := finishWithoutTransition_bare input hpersist hknows
        fun hcleanup hc => hfinish ⟨hc, hcleanup⟩
      rw [← hbare]
      by_cases houtcome : outcome = .abandon
      · rw [if_pos houtcome, if_pos (by simpa [houtcome] using hfinish)]
        exact .ended rfl
      · rw [if_neg houtcome]
        exact .ended rfl
  | some next =>
    have hedge := enforceEdgeLimit_eq cfg input outcome v.current next r
    have hother : isFailureCleanupStep cfg.workflowType v.current = false := by
      by_contra hc
      rw [hclean ((Bool.not_eq_false _).mp hc)] at hnext
      cases hnext
    rw [if_neg fun hc => by rw [habandon hc] at hnext; cases hnext]
    rw [hcounts hother] at hedge
    dsimp only
    cases hcount : countEdge cfg v.current next outcome v.counts with
    | error limit =>
      rw [hcount] at hedge
      obtain ⟨o, r', hlimit, hbare⟩ := hedge
      rw [hlimit]
      dsimp only
      rw [← hbare]
      exact .ended rfl
    | ok counts =>
      rw [hcount] at hedge
      rw [hedge]
      exact .advanced rfl rfl (hfollows next counts hnext)

/-! ### A pass -/

theorem cleanup_declared {wf : WorkflowType} (h : isFailureCleanupStep wf stepId) :
    ∃ step ∈ wf.steps, step.stepId = stepId ∧ step.stepType = "failure_cleanup" := by
  obtain ⟨step, hstep, hfits⟩ := List.any_eq_true.mp h
  simp only [Bool.and_eq_true, beq_iff_eq] at hfits
  exact ⟨step, hstep, hfits.1.1, hfits.2⟩

/-- No edge leaves a cleanup step. -/
theorem cleanup_last (hwf : ValidGraph cfg.workflowType)
    (h : isFailureCleanupStep cfg.workflowType v.current) (outcome : StepOutcome) :
    v.nextStep cfg outcome = none := by
  unfold PlainRun.nextStep
  split
  · rfl
  · obtain ⟨step, hstep, hid, htype⟩ := cleanup_declared h
    cases hnext : resolveTransitionSchema v.current outcome cfg.workflowType.transitions with
    | none => rfl
    | some next =>
      obtain ⟨t, hfound, -⟩ := Option.map_eq_some_iff.mp hnext
      obtain ⟨hmem, hfrom⟩ := findTransition_some hfound
      have hterminal := (failureCleanupErrors_nil (hwf.cleanup step hstep htype)).1
      have hterm : isTerminalStep step = true := by
        unfold isTerminalStep
        rw [hterminal]
        rfl
      exact absurd (hfrom.trans hid.symm) (hwf.terminal step hstep hterm t hmem)

theorem Registered.failedWork (h : Registered cfg (some f) r.db.runs) :
    r.failedWork cfg = some f := by
  obtain ⟨md, hmd, -, -, hrecord⟩ := h
  unfold Runner.failedWork Runner.loadMetadata
  rw [hmd, Option.bind_some, hrecord, Option.some_or]

/-- A step is begun alike. -/
theorem beginStep_same (cfg : RunnerConfig) (current : String) (last : Option Traversal)
    {a b : StepContext} (h : a.SamePersisted b) :
    (beginStep cfg current last a).SamePersisted (beginStep cfg current last b)
      ∧ (beginStep cfg current last b).currentStepId = (beginStep cfg current last a).currentStepId
      ∧ b.Grown (beginStep cfg current last b) := by
  have hstep := h.setCurrentStepId current
  have hgrown : b.Grown (b.setCurrentStepId current) := .of_insert rfl rfl
  unfold beginStep
  split
  · exact ⟨(hstep.set rfl _ _).set rfl _ _, rfl,
      hgrown.trans ((grown_set _ _ _).trans (grown_set _ _ _))⟩
  · exact ⟨hstep, rfl, hgrown⟩

/-- Beyond an edge the runner follows again: a way into a cleanup step is on record. -/
theorem follows_edge (hwf : ValidGraph cfg.workflowType) {r' : Runner} {next : String}
    {counts : List (String × UInt32)}
    (hnext : v.nextStep cfg outcome = some next)
    (hrow : Registered cfg (beginningFailure cfg input v.current outcome (some next) r) r'.db.runs)
    (hcontext : context.SamePersisted r.context) (hgrown : (buildStepContext cfg).Grown r.context)
    (hsame : r'.context = r.context) (hleases : r'.db.leases = leases)
    (hsaved : SavedUntil cfg t r'.db.checkpoints) (howned : r'.terminalOwnershipFailure = false) :
    FollowsRun cfg t r' (v.follow outcome next context counts leases) := by
  refine ⟨hsame ▸ hcontext, hsame ▸ hgrown, hleases, howned, hsaved, _, hrow, ?_⟩
  unfold Provenance beginningFailure
  show if isFailureCleanupStep cfg.workflowType next then _ else _
  rw [Option.bind_some, hsame]
  by_cases hcleanup : isFailureCleanupStep cfg.workflowType next = true
  · obtain ⟨step, hstep, hid, htype⟩ := cleanup_declared hcleanup
    have hresolved : resolveTransitionSchema v.current outcome cfg.workflowType.transitions =
        some next := by
      unfold PlainRun.nextStep at hnext
      split at hnext
      · cases hnext
      · exact hnext
    obtain ⟨t, hfound, hto⟩ := Option.map_eq_some_iff.mp hresolved
    obtain ⟨houtcome, -⟩ := hwf.cleanup_entry hstep htype
      (u := ⟨v.current, outcome, next⟩) hfound (hto.trans hid.symm)
    have hfails : failsInto cfg.workflowType outcome (some next) = true := by
      show (outcome != .success && isFailureCleanupStep cfg.workflowType next) = true
      rw [hcleanup, Bool.and_true, bne_iff_ne]
      rintro rfl
      simp at houtcome
    rw [if_pos hcleanup, if_pos hfails]
    exact ⟨⟨v.current, outcome, next⟩, _, List.getLast?_concat, rfl, rfl, rfl, rfl, rfl, rfl, rfl,
      r.context, rfl, hgrown, .refl _⟩
  · have hfails : failsInto cfg.workflowType outcome (some next) = false := by
      show (outcome != .success && isFailureCleanupStep cfg.workflowType next) = false
      rw [(Bool.not_eq_true _).mp hcleanup, Bool.and_false]
    rw [if_neg hcleanup, hfails, if_neg Bool.false_ne_true]

/-- A pass ends where the workspace is found not to be the run's. -/
theorem denied_alike
    (hdenied : (verifyFailureCleanupWorkspace cfg input outcome nextStep).isSome)
    (howned : r.terminalOwnershipFailure) (hpending : r.pendingFailureCleanup = some f)
    (hnamed : f.failedStep = v.current) :
    PassAlike cfg t v (followOutcome cfg input outcome nextStep r)
      (v.settle cfg input outcome nextStep context leases) := by
  unfold followOutcome PlainRun.settle
  rw [hdenied, howned, hpending, if_pos rfl, if_pos rfl, ← hnamed]
  exact .ended rfl

/-- What comes after the result of a step is alike, when it is written down. -/
theorem written_alike (hwf : ValidGraph cfg.workflowType) (hpersist : cfg.persistRegistry)
    {begun : StepContext} (hfailure : Provenance cfg v begun failure)
    (hcurrent : r.currentState = v.current)
    (hcounts : isFailureCleanupStep cfg.workflowType v.current = false →
      r.edgeLoopCounts = v.counts)
    (hrow : Registered cfg (((endingFailure cfg input v.current outcome failure).or
      (beginningFailure cfg input v.current outcome (v.nextStep cfg outcome) r)).or failure)
      r.db.runs)
    (hcontext : context.SamePersisted r.context) (hgrown : (buildStepContext cfg).Grown r.context)
    (hleases : r.db.leases = leases) (hsaved : SavedUntil cfg t r.db.checkpoints)
    (howned : r.terminalOwnershipFailure = false)
    (hverify : (verifyFailureCleanupWorkspace cfg input outcome (v.nextStep cfg outcome)).isSome =
      false) :
    PassAlike cfg t v (followOutcome cfg input outcome (v.nextStep cfg outcome) r)
      (v.settle cfg input outcome (v.nextStep cfg outcome) context leases) := by
  refine followOutcome_alike hpersist hcurrent hcounts howned ?_
    (fun hcleanup => cleanup_last hwf hcleanup outcome) (fun habandon => if_pos habandon) hverify ?_
  · intro hcleanup
    obtain ⟨u, f, hlast, -, rfl, hrecorded⟩ := hfailure.recorded hcleanup
    obtain ⟨g, hending, hsame⟩ := endingFailure_some input outcome hcleanup f
    rw [hending, Option.some_or, Option.some_or] at hrow
    exact ⟨u, g, hlast, hrow.failedWork, hsame.trans hrecorded.failedStep⟩
  · intro next counts hgoes
    have hother : ¬ isFailureCleanupStep cfg.workflowType v.current = true := by
      intro hcleanup
      rw [cleanup_last hwf hcleanup] at hgoes
      cases hgoes
    have hending : endingFailure cfg input v.current outcome failure = none := if_neg hother
    rw [hending, hfailure.eq_none hother, Option.none_or, Option.or_none, hgoes] at hrow
    exact follows_edge hwf hgoes hrow hcontext hgrown rfl hleases hsaved howned

/-- **A pass of a runner is the pass of the plain run that it follows.** -/
theorem loopPass_alike (hwf : ValidGraph cfg.workflowType) (hpersist : cfg.persistRegistry)
    (hreplay : Replayable input.execute) (hbefore : input.interruptedBefore = false)
    (hafter : input.interruptedAfter = false) (hcurrent : r.currentState = v.current)
    (hcounts : isFailureCleanupStep cfg.workflowType v.current = false →
      r.edgeLoopCounts = v.counts) (h : FollowsRun cfg t r v) (ht : t < input.now) :
    PassAlike cfg input.now v (loopPass cfg input r) (v.pass cfg input) := by
  obtain ⟨failure, hrow, hfailure⟩ := h.record
  obtain ⟨runs, hprepared, hrow₁⟩ := prepareStepStart_eq input.now hpersist hrow hfailure
  obtain ⟨hbegun, hstepId, hgrown⟩ := beginStep_same cfg v.current v.traversals.getLast? h.context
  have hexecuted := executeCurrentStep_replayed cfg hreplay hbegun hstepId v.current
  unfold loopPass PlainRun.pass
  rw [hbefore, if_neg Bool.false_ne_true, hcurrent, hprepared]
  dsimp only
  rw [hcurrent]
  rcases hx : executeCurrentStep cfg input v.current
    (beginStep cfg v.current v.traversals.getLast? v.context) with ⟨answer, context⟩
  rcases hy : executeCurrentStep cfg input v.current
    (beginStep cfg v.current v.traversals.getLast? r.context) with ⟨answer', context'⟩
  rw [hx, hy] at hexecuted
  obtain rfl : answer' = answer := hexecuted.answer
  cases answer' with
  | error e => exact .ended rfl
  | ok outcome =>
    dsimp only
    have hnext : (if outcome = StepOutcome.abandon then none
      else resolveTransitionSchema v.current outcome cfg.workflowType.transitions) =
        v.nextStep cfg outcome := rfl
    rw [hafter, if_neg Bool.false_ne_true, hnext]
    have hpersisted := persistStepResult_eq input outcome (v.nextStep cfg outcome) (r := { r with
        context := context'
        db := { r.db with leases := beatLeases cfg input.now r.db.leases, runs := runs } })
      hpersist hrow₁ fun (hcleanup : isFailureCleanupStep cfg.workflowType v.current = true) => by
        obtain ⟨u, f, -, -, rfl, -⟩ := hfailure.recorded hcleanup
        rfl
    dsimp only at hpersisted
    rw [hcurrent, h.leases] at hpersisted
    rw [h.leases]
    cases hsettled : settleLeases cfg input v.current outcome (v.nextStep cfg outcome)
        (beatLeases cfg input.now v.leases) with
    | error e =>
      rw [hsettled] at hpersisted
      rw [hpersisted]
      exact .ended rfl
    | ok leases =>
      rw [hsettled] at hpersisted
      obtain ⟨runs', pending, hwritten, hrecord⟩ := hpersisted
      rw [hwritten]
      dsimp only
      by_cases hdenied : (verifyFailureCleanupWorkspace cfg input outcome
          (v.nextStep cfg outcome)).isSome = true
      · rw [if_pos hdenied] at hrecord
        obtain ⟨f, rfl, hnamed⟩ := hrecord
        refine denied_alike hdenied ?_ rfl hnamed
        dsimp only
        rw [hdenied, Bool.true_or]
      · rw [if_neg hdenied] at hrecord
        have hverify := (Bool.not_eq_true _).mp hdenied
        refine written_alike hwf hpersist hfailure rfl hcounts hrecord hexecuted.context
          (h.grown.trans (hgrown.trans hexecuted.grown)) rfl (h.saved.save ht) ?_ hverify
        dsimp only
        rw [hverify, h.owned]
        rfl

/-! ### Going on -/

theorem keys_buildStepContext :
    (buildStepContext cfg).checkpointableKeys = defaultCheckpointableContextKeys :=
  (grown_setAll cfg.seeds (StepContext.build cfg.workDir cfg.runId)).keys

theorem keyedOnce_buildStepContext : (buildStepContext cfg).KeyedOnce := by
  have hempty : (([] : List (String × String)).map Prod.fst).Nodup := List.nodup_nil
  exact (grown_setAll cfg.seeds (StepContext.build cfg.workDir cfg.runId)).keyedOnce
    (Assoc.nodup_keys_insert (Assoc.nodup_keys_insert hempty))

/-- What an interrupt leaves in the database. -/
theorem interruptAtStep_db (input : LoopInput) (current : String) (hpersist : cfg.persistRegistry)
    (h : Registered cfg failure r.db.runs) :
    (interruptAtStep cfg input current r).2.db.checkpoints =
        saveCheckpoint (createCheckpoint cfg input.now current "interrupted" r) r.db.checkpoints
      ∧ (interruptAtStep cfg input current r).2.db.leases = r.db.leases
      ∧ Registered cfg failure (interruptAtStep cfg input current r).2.db.runs := by
  obtain ⟨md, hmd, -⟩ := id h
  have hleaves : LeavesFailure fun md =>
      RunMetadata.setCurrentStep input.now current { md with status := .paused } :=
    ⟨fun _ => rfl, fun _ => rfl, fun _ => rfl, fun _ => rfl⟩
  have hrow := h.persist hleaves hmd
  unfold interruptAtStep recordRunCompletion Runner.loadMetadata RunnerDb.save
  dsimp only
  rw [hpersist, Bool.not_true, if_neg Bool.false_ne_true, hmd]
  exact ⟨rfl, rfl, hrow⟩

/-- A context is restored into the seeds. -/
theorem restored_eq {snapshot : StateSnapshot} (hgrown : (buildStepContext cfg).Grown old)
    (hcontext : r.context = buildStepContext cfg)
    (hsnapshot : r.context.restoreCheckpointValues snapshot.context =
      r.context.restoreCheckpointValues old.checkpointValues) :
    r.restored stepId snapshot = .ok { r with
      context := joined old (buildStepContext cfg)
      currentState := stepId
      retryCount := snapshot.retryCount
      edgeLoopCounts := snapshot.edgeLoopCounts } := by
  unfold Runner.restored
  rw [hsnapshot, hcontext, restore_checkpointValues hgrown.keys.symm]
  rfl

theorem unfinishedCleanup_eq (h : Registered cfg failure r.db.runs) :
    unfinishedCleanup cfg r = failure.filter fun f => !f.cleanupSucceeded := by
  obtain ⟨md, hmd, -, -, rfl⟩ := h
  unfold unfinishedCleanup Runner.loadMetadata
  rw [hmd]
  rfl

/-- The newest checkpoint is the one of the interrupt. -/
theorem loadCheckpoint_newest
    (h : ∀ row ∈ checkpoints, row.runId = checkpoint.runId → row.timestamp < checkpoint.timestamp) :
    loadCheckpoint (saveCheckpoint checkpoint checkpoints) checkpoint.runId =
      some checkpoint.withCounts := by
  have hlatest : (saveCheckpoint checkpoint checkpoints).latest?
      (fun row => row.runId == checkpoint.runId) CheckpointRow.timestamp =
        some checkpoint.toRow := by
    refine Table.latest?_eq_of_lt (mem_saveCheckpoint.mpr (Or.inl rfl))
      (beq_self_eq_true checkpoint.runId) fun row hrow hrun hne => ?_
    rcases mem_saveCheckpoint.mp hrow with rfl | ⟨hold, -⟩
    · exact absurd rfl hne
    · exact h row hold (by simpa using hrun)
  unfold loadCheckpoint
  rw [hlatest, Option.map_some, toCheckpoint_toRow]

/-- The runner of a process, when the row of the run is there. -/
theorem withDbPathAndContext_eq (hpersist : cfg.persistRegistry)
    (h : Registered cfg failure db.runs) :
    ∃ retryCount counts, withDbPathAndContext cfg db =
      { currentState := firstStep cfg
        retryCount := retryCount
        edgeLoopCounts := counts
        context := buildStepContext cfg
        pendingFailureCleanup := none
        terminalOwnershipFailure := false
        db := db } := by
  obtain ⟨md, hmd, -⟩ := h
  unfold withDbPathAndContext persistInitialRun Runner.loadMetadata
  rw [hpersist, Bool.not_true, if_neg Bool.false_ne_true]
  dsimp only
  rw [hmd]
  exact ⟨_, _, rfl⟩

theorem markRunStarted_follows (now : Timestamp) (hpersist : cfg.persistRegistry)
    (hrow : Registered cfg failure r.db.runs)
    (hcontext : r.context = joined old (buildStepContext cfg)) (hleases : r.db.leases = v.leases)
    (howned : r.terminalOwnershipFailure = false) (hsaved : SavedUntil cfg t r.db.checkpoints)
    (hgrown : (buildStepContext cfg).Grown old) (hsame : v.context.SamePersisted old)
    (hfailure : ∀ context, old.SamePersisted context → Provenance cfg v context failure) :
    ∃ runs, markRunStarted cfg now r = { r with db := { r.db with runs := runs } }
      ∧ FollowsRun cfg t { r with db := { r.db with runs := runs } } v := by
  obtain ⟨runs, hmarked, hrow'⟩ := hrow.update (f := RunMetadata.markStarted now) hpersist
    ⟨fun _ => rfl, fun _ => rfl, fun _ => rfl, fun _ => rfl⟩
  have hold := hgrown.keyedOnce keyedOnce_buildStepContext
  have hjoined : old.SamePersisted r.context := hcontext ▸ samePersisted_joined hgrown hold
  refine ⟨runs, hmarked, hsame.trans hjoined, ?_, hleases, howned, hsaved, failure, hrow',
    hfailure _ hjoined⟩
  show (buildStepContext cfg).Grown r.context
  rw [hcontext]
  exact grown_joined hgrown.keys.symm hold

/-- An unfinished cleanup is gone on with from the failure on record. -/
theorem resumeFromCheckpoint_cleanup {u : Traversal} (hrow : Registered cfg (some f) r.db.runs)
    (hcontext : r.context = buildStepContext cfg) (hrecorded : FailureRecorded cfg u context f)
    (hsnapshot : f.failedStateSnapshot.context = old.checkpointValues)
    (hgrown : (buildStepContext cfg).Grown old) :
    resumeFromCheckpoint cfg r = .ok { r with
      context := joined old (buildStepContext cfg)
      currentState := f.cleanupStep
      retryCount := f.failedStateSnapshot.retryCount
      edgeLoopCounts := f.failedStateSnapshot.edgeLoopCounts
      pendingFailureCleanup := some f } := by
  have hunfinished : (some f).filter (fun f => !f.cleanupSucceeded) = some f := by
    simp [Option.filter, hrecorded.unfinished]
  unfold resumeFromCheckpoint
  rw [unfinishedCleanup_eq hrow, hunfinished]
  dsimp only
  rw [hrecorded.owned, if_neg Bool.false_ne_true, restored_eq hgrown hcontext (by rw [hsnapshot])]
  rfl

/-- Without one, a run is gone on with from its newest checkpoint. -/
theorem resumeFromCheckpoint_newest
    (hrow : Registered cfg none r.db.runs) (hcontext : r.context = buildStepContext cfg)
    (hloaded : loadCheckpoint r.db.checkpoints cfg.runId = some checkpoint.withCounts)
    (hvalues : checkpoint.stateSnapshot.context = old.checkpointValues)
    (hgrown : (buildStepContext cfg).Grown old) :
    resumeFromCheckpoint cfg r = .ok { r with
      context := joined old (buildStepContext cfg)
      currentState := checkpoint.stepId
      retryCount := checkpoint.stateSnapshot.retryCount
      edgeLoopCounts := checkpoint.stateSnapshot.edgeLoopCounts } := by
  have hkey : edgeLoopCountsKey ∉ (buildStepContext cfg).checkpointableKeys := by
    rw [keys_buildStepContext]
    decide
  unfold resumeFromCheckpoint
  rw [unfinishedCleanup_eq hrow, Option.filter_none]
  dsimp only
  rw [hloaded]
  dsimp only
  refine restored_eq hgrown hcontext ?_
  rw [hcontext, ← hvalues]
  exact restore_insert hkey (by decide) _ _

/-- **A process that goes on stands where the interrupted one stood.** -/
theorem startProcess_follows (input : LoopInput) (now : Timestamp) (hpersist : cfg.persistRegistry)
    (hcurrent : r.currentState = v.current)
    (hcounts : isFailureCleanupStep cfg.workflowType v.current = false →
      r.edgeLoopCounts = v.counts) (h : FollowsRun cfg t r v) (ht : t < input.now) :
    ∃ r', startProcess cfg now (interruptAtStep cfg input r.currentState r).2.db = .ok r'
      ∧ r'.currentState = v.current
      ∧ (isFailureCleanupStep cfg.workflowType v.current = false → r'.edgeLoopCounts = v.counts)
      ∧ FollowsRun cfg input.now r' v := by
  obtain ⟨failure, hrow, hfailure⟩ := h.record
  obtain ⟨hcheckpoints, hleases, hrow₁⟩ := interruptAtStep_db input v.current hpersist hrow
  rw [hcurrent]
  generalize (interruptAtStep cfg input v.current r).2.db = db at hcheckpoints hleases hrow₁
  have hsaved : SavedUntil cfg input.now db.checkpoints := by
    rw [hcheckpoints]
    exact h.saved.save ht
  obtain ⟨retryCount, counts, hbuilt⟩ := withDbPathAndContext_eq hpersist hrow₁
  unfold startProcess
  rw [hbuilt]
  by_cases hcleanup : isFailureCleanupStep cfg.workflowType v.current = true
  · obtain ⟨u, f, hlast, hto, rfl, hrecorded⟩ := hfailure.recorded hcleanup
    obtain ⟨old, hsnapshot, hgrown, hsame⟩ := hrecorded.snapshot
    obtain ⟨runs, hmarked, hfollows⟩ := markRunStarted_follows now (v := v) hpersist
      (t := input.now) (r := ⟨f.cleanupStep, f.failedStateSnapshot.retryCount, f.failedStateSnapshot.edgeLoopCounts,
        joined old (buildStepContext cfg), some f, false, db⟩) hrow₁ rfl (hleases.trans h.leases)
      rfl hsaved hgrown (h.context.trans hsame.symm) fun context hcontext => by
        rw [Provenance, if_pos hcleanup]
        exact ⟨u, f, hlast, hto, rfl,
          { hrecorded with snapshot := ⟨old, hsnapshot, hgrown, hcontext⟩ }⟩
    rw [resumeFromCheckpoint_cleanup hrow₁ rfl hrecorded hsnapshot hgrown]
    exact ⟨_, congrArg Except.ok hmarked, hrecorded.cleanupStep.trans hto,
      fun hother => absurd hcleanup (hother ▸ Bool.false_ne_true), hfollows⟩
  · obtain rfl := hfailure.eq_none hcleanup
    have hloaded : loadCheckpoint db.checkpoints cfg.runId = some (createCheckpoint cfg input.now
        v.current "interrupted" r).withCounts := by
      rw [hcheckpoints]
      exact loadCheckpoint_newest fun row hrow hrun => Int.lt_of_le_of_lt (h.saved row hrow hrun) ht
    obtain ⟨runs, hmarked, hfollows⟩ := markRunStarted_follows now (v := v) hpersist
      (t := input.now) (r := ⟨v.current, r.retryCount, r.edgeLoopCounts,
        joined r.context (buildStepContext cfg), none, false, db⟩) hrow₁ rfl
      (hleases.trans h.leases) rfl hsaved h.grown h.context fun context _ => by
        rw [Provenance, if_neg hcleanup]
    rw [resumeFromCheckpoint_newest hrow₁ rfl hloaded rfl h.grown]
    exact ⟨_, congrArg Except.ok hmarked, rfl, hcounts, hfollows⟩

/-! ### Sessions -/

/-- A session that has come as far as a plain run. -/
structure Refines (cfg : RunnerConfig) (t : Timestamp) (s : LoopState) (v : PlainRun) : Prop where
  executed : s.executed = v.executed
  traversals : s.traversals = v.traversals
  current : s.runner.currentState = v.current
  counts : isFailureCleanupStep cfg.workflowType v.current = false →
    s.runner.edgeLoopCounts = v.counts
  ended : s.ended.map PassResult.bare = v.ended
  follows : s.ended = none → FollowsRun cfg t s.runner v

variable {s : LoopState}

theorem PassEffect.edgeLoopCounts {r' : Runner} {result : PassResult}
    (h : PassEffect cfg r result r') (hlast : result.result?.isSome) :
    r'.edgeLoopCounts = r.edgeLoopCounts := by
  cases h with
  | returned hsame => exact hsame.edgeLoopCounts
  | exceeded _ _ _ hsame => exact hsame.edgeLoopCounts
  | counted | free => simp [PassResult.result?] at hlast

/-- What has ended stays as it is. -/
theorem Refines.over (h : Refines cfg t s v) (hended : s.ended.isSome)
    (t' : Timestamp) : Refines cfg t' s v :=
  ⟨h.executed, h.traversals, h.current, h.counts, h.ended, fun hnone => by
    rw [hnone] at hended
    cases hended⟩

/-- A pass of a session is a pass of the plain run. -/
theorem loopStep_refines (input : LoopInput) (hwf : ValidGraph cfg.workflowType) (hpersist : cfg.persistRegistry)
    (hreplay : Replayable input.execute) (hbefore : input.interruptedBefore = false)
    (hafter : input.interruptedAfter = false) (h : Refines cfg t s v) (ht : t < input.now) :
    Refines cfg input.now (loopStep cfg s input) ((PlainRun.machine cfg).next v input) := by
  show Refines cfg input.now _ (if v.ended.isSome then v
    else { v.pass cfg input with executed := v.executed ++ [v.current] })
  have hboth : v.ended.isSome = s.ended.isSome := by rw [← h.ended, Option.isSome_map]
  by_cases hended : s.ended.isSome = true
  · rw [loopStep_ended hended, if_pos (hboth.trans hended)]
    exact h.over hended _
  · have hnone := Option.not_isSome_iff_eq_none.mp hended
    have heffect := loopPass_effect cfg input s.runner
    have halike := loopPass_alike hwf hpersist hreplay hbefore hafter h.current h.counts
      (h.follows hnone) ht
    unfold loopStep
    rw [if_neg hended, if_neg (hboth ▸ hended), hbefore]
    rcases hpass : loopPass cfg input s.runner with ⟨result, r'⟩
    rw [hpass] at heffect halike
    generalize v.pass cfg input = v' at halike
    have hexecuted : s.executed ++ [s.runner.currentState] = v.executed ++ [v.current] := by
      rw [h.executed, h.current]
    cases halike with
    | ended hlast =>
      have hcurrent := (heffect.currentState hlast).trans h.current
      have hcounts := heffect.edgeLoopCounts hlast
      have hlasts : ∀ last : PassResult, last = result → Refines cfg input.now
          { s with
            runner := r'
            executed := s.executed ++ [s.runner.currentState]
            ended := some last }
          { v.endWith result.bare with executed := v.executed ++ [v.current] } := by
        rintro last rfl
        exact ⟨hexecuted, h.traversals, hcurrent, fun hother => hcounts.trans (h.counts hother),
          rfl, fun hc => by cases hc⟩
      cases result with
      | returned result | exceeded next limit outcome => exact hlasts _ rfl
      | advanced outcome => cases hlast
    | advanced hcurrent hcounts hfollows =>
      refine ⟨hexecuted, ?_, hcurrent, fun _ => hcounts, h.ended, fun _ => ?_⟩
      · show s.traversals ++ [⟨s.runner.currentState, _, r'.currentState⟩] = _
        rw [h.traversals, h.current, hcurrent]
        rfl
      · exact ⟨hfollows.context, hfollows.grown, hfollows.leases, hfollows.owned, hfollows.saved,
          hfollows.record⟩

/-- An interrupt, and a process that goes on, are nothing to the plain run. -/
theorem interrupted_refines (hpersist : cfg.persistRegistry) (h : Refines cfg t s v)
    (ht : t < input.now) (resumedAt : Timestamp) :
    Refines cfg input.now (sessionStep cfg s (.interruptAndResume input resumedAt)) v := by
  unfold sessionStep
  by_cases hended : s.ended.isSome = true
  · dsimp only
    rw [if_pos hended]
    exact h.over hended _
  · have hnone := Option.not_isSome_iff_eq_none.mp hended
    have hinterrupted : loopStep cfg s { input with interruptedBefore := true } =
        { s with
          runner := (interruptAtStep cfg { input with interruptedBefore := true }
            s.runner.currentState s.runner).2
          ended := some (.returned (.ok (.interrupted s.runner.currentState))) } := by
      unfold loopStep loopPass
      rw [if_neg hended]
      rfl
    obtain ⟨r', hstarted, hcurrent, hcounts, hfollows⟩ := startProcess_follows
      { input with interruptedBefore := true } resumedAt hpersist h.current h.counts
      (h.follows hnone) ht
    dsimp only
    rw [if_neg hended, hinterrupted, hstarted]
    exact ⟨h.executed, h.traversals, hcurrent, hcounts, by rw [← h.ended, hnone],
      fun _ => hfollows⟩

/-- The calls that are to come, after a time. -/
structure Ahead (t : Timestamp) (calls : List SessionCall) : Prop where
  later : ∀ call ∈ calls, t < call.input.now
  ordered : calls.Pairwise fun a b => a.input.now < b.input.now
  replayable : ∀ call ∈ calls, Replayable call.input.execute

variable {calls : List SessionCall}

theorem Ahead.next {call : SessionCall} (h : Ahead t (call :: calls)) :
    Ahead call.input.now calls :=
  ⟨(List.pairwise_cons.mp h.ordered).1, (List.pairwise_cons.mp h.ordered).2,
    fun other hother => h.replayable other (List.mem_cons_of_mem _ hother)⟩

theorem first_not_cleanup (hwf : ValidGraph cfg.workflowType)
    (hsteps : cfg.workflowType.steps ≠ []) :
    isFailureCleanupStep cfg.workflowType (firstStep cfg) = false := by
  by_contra hc
  obtain ⟨step, hstep, hid, htype⟩ := cleanup_declared ((Bool.not_eq_false _).mp hc)
  obtain ⟨-, hfirst, -⟩ := failureCleanupErrors_nil (hwf.cleanup step hstep htype)
  obtain ⟨first, rest, hcons⟩ := List.exists_cons_of_ne_nil hsteps
  unfold firstStep at hid
  rw [hcons] at hid hfirst
  exact hfirst (congrArg some hid.symm)

/-- The first process of a run, on a database that has nothing of it. -/
theorem startProcess_fresh (now : Timestamp) (hpersist : cfg.persistRegistry)
    (hfresh : db.Fresh cfg.runId) :
    ∃ runs, startProcess cfg now db = .ok ⟨firstStep cfg, 0, [], buildStepContext cfg, none, false,
      { db with runs := runs }⟩ ∧ Registered cfg none runs := by
  have hload : loadCheckpoint db.checkpoints cfg.runId = none := by
    unfold loadCheckpoint
    rw [Option.map_eq_none_iff]
    cases hlatest : db.checkpoints.latest? (fun row => row.runId == cfg.runId)
        CheckpointRow.timestamp with
    | none => rfl
    | some row =>
      obtain ⟨hrow, hrun, -⟩ := Table.latest?_some hlatest
      exact absurd (by simpa using hrun) (hfresh.checkpoints row hrow)
  have hrow : getRun db.runs cfg.runId = none :=
    Table.find?_none.mpr fun md hmd => by
      unfold RunMetadata.isRun
      exact beq_eq_false_iff_ne.mpr (hfresh.runs md hmd)
  obtain ⟨runs, hbuilt, hregistered⟩ : ∃ runs, withDbPathAndContext cfg db = ⟨firstStep cfg, 0, [],
      buildStepContext cfg, none, false, { db with runs := runs }⟩ ∧ Registered cfg none runs := by
    unfold withDbPathAndContext persistInitialRun Runner.loadMetadata
    rw [hpersist, Bool.not_true, if_neg Bool.false_ne_true]
    dsimp only
    rw [hload, hrow]
    exact ⟨_, rfl, _, getRun_persistRun_of_id rfl, rfl, rfl, rfl⟩
  obtain ⟨runs', hmarked, hrow'⟩ := Registered.update (f := RunMetadata.markStarted now)
    (r := ⟨firstStep cfg, 0, [], buildStepContext cfg, none, false, { db with runs := runs }⟩)
    hpersist hregistered ⟨fun _ => rfl, fun _ => rfl, fun _ => rfl, fun _ => rfl⟩
  refine ⟨runs', ?_, hrow'⟩
  unfold startProcess resumeFromCheckpoint
  rw [hbuilt, unfinishedCleanup_eq hregistered, Option.filter_none]
  dsimp only
  rw [hload]
  exact congrArg Except.ok hmarked

theorem session_starts (cfg : RunnerConfig) (hpersist : cfg.persistRegistry) :
    ∃ s, (sessionMachine cfg).start s := by
  have hfresh : RunnerDb.Fresh cfg.runId ⟨Table.empty, Table.empty, Table.empty⟩ :=
    ⟨fun row hrow => absurd hrow (Table.not_mem_empty row),
      fun md hmd => absurd hmd (Table.not_mem_empty md)⟩
  obtain ⟨runs, hstarted, -⟩ := startProcess_fresh 0 hpersist hfresh
  exact ⟨_, _, 0, _, hfresh, hstarted, rfl⟩

/-- A session begins as the plain run does, whatever is in the database of other runs. -/
theorem start_refines (hwf : ValidGraph cfg.workflowType) (hsteps : cfg.workflowType.steps ≠ [])
    (hpersist : cfg.persistRegistry) (h : (sessionMachine cfg).start s) (t : Timestamp) :
    Refines cfg t s (PlainRun.first cfg s.runner.db.leases) := by
  obtain ⟨db, now, r, hfresh, hstarted, rfl⟩ := h
  obtain ⟨runs, hfirst, hrow⟩ := startProcess_fresh now hpersist hfresh
  obtain rfl := Except.ok.inj (hfirst.symm.trans hstarted)
  refine ⟨rfl, rfl, rfl, fun _ => rfl, rfl, fun _ => ⟨.refl _, .refl _, rfl, rfl,
    fun row hmem hrun => absurd hrun (hfresh.checkpoints row hmem), none, hrow, ?_⟩⟩
  unfold Provenance PlainRun.first
  rw [first_not_cleanup hwf hsteps, if_neg Bool.false_ne_true]

/-- **Every session is a plain run**, whatever interrupts come between its passes. -/
theorem session_refines (hwf : ValidGraph cfg.workflowType) (hsteps : cfg.workflowType.steps ≠ [])
    (hpersist : cfg.persistRegistry) (h : (sessionMachine cfg).start s)
    (hordered : calls.Pairwise fun a b => a.input.now < b.input.now)
    (hreplay : ∀ call ∈ calls, Replayable call.input.execute) :
    ∃ t, Refines cfg t ((sessionMachine cfg).run s calls) ((PlainRun.machine cfg).run
      (.first cfg s.runner.db.leases) (calls.filterMap SessionCall.pass?)) := by
  have hahead : ∃ t, Ahead t calls := by
    cases calls with
    | nil => exact ⟨0, fun _ hc => absurd hc List.not_mem_nil, hordered, hreplay⟩
    | cons call rest =>
      refine ⟨call.input.now - 1, fun other hother => ?_, hordered, hreplay⟩
      rcases List.mem_cons.mp hother with rfl | hrest
      · exact Int.sub_lt_self _ Int.one_pos
      · exact Int.lt_trans (Int.sub_lt_self _ Int.one_pos)
          ((List.pairwise_cons.mp hordered).1 other hrest)
  obtain ⟨t, hahead⟩ := hahead
  have hrun := StateMachine.run_followed (m := sessionMachine cfg) (a := PlainRun.machine cfg)
    (f := SessionCall.pass?)
    (R := fun rest s v => ∃ t, Refines cfg t s v ∧ Ahead t rest) ?_ ?_
    ⟨t, start_refines hwf hsteps hpersist h t, hahead⟩
  · obtain ⟨t', hrefines, -⟩ := hrun
    exact ⟨t', hrefines⟩
  · rintro call input rest s v hseen ⟨t, hrefines, hahead⟩
    refine ⟨call.input.now, ?_, hahead.next⟩
    have hcall := hahead.replayable call List.mem_cons_self
    have ht := hahead.later call List.mem_cons_self
    cases call with
    | pass passed =>
      obtain rfl := Option.some.inj hseen
      exact loopStep_refines { passed with interruptedBefore := false, interruptedAfter := false }
        hwf hpersist hcall rfl rfl hrefines ht
    | interruptAndResume => cases hseen
  · rintro call rest s v hpassed ⟨t, hrefines, hahead⟩
    refine ⟨call.input.now, ?_, hahead.next⟩
    cases call with
    | pass => cases hpassed
    | interruptAndResume interrupted resumedAt =>
      exact interrupted_refines hpersist hrefines (hahead.later _ List.mem_cons_self) resumedAt

/-! ### What interruptions leave no trace in -/

/-- What two sessions have in common: their ways, their ends but for the reasons, and the counts
where no failure is cleaned up after. -/
structure SameWay (cfg : RunnerConfig) (s s' : LoopState) : Prop where
  executed : s'.executed = s.executed
  traversals : s'.traversals = s.traversals
  current : s'.runner.currentState = s.runner.currentState
  counts : isFailureCleanupStep cfg.workflowType s.runner.currentState = false →
    s'.runner.edgeLoopCounts = s.runner.edgeLoopCounts
  ended : s'.ended.map PassResult.bare = s.ended.map PassResult.bare

/-- The session without its interrupts is a loop. -/
theorem run_passes (s : LoopState) (calls : List SessionCall) :
    (sessionMachine cfg).run s (calls.filter SessionCall.isPass) =
      (loopMachine cfg).run s (calls.filterMap SessionCall.pass?) := by
  induction calls generalizing s with
  | nil => rfl
  | cons call rest ih =>
    cases call with
    | pass input => exact ih _
    | interruptAndResume input resumedAt => exact ih s

theorem session_same_way (hwf : ValidGraph cfg.workflowType) (hsteps : cfg.workflowType.steps ≠ [])
    (hpersist : cfg.persistRegistry) (h : (sessionMachine cfg).start s)
    (hordered : calls.Pairwise fun a b => a.input.now < b.input.now)
    (hreplay : ∀ call ∈ calls, Replayable call.input.execute) :
    SameWay cfg ((loopMachine cfg).run s (calls.filterMap SessionCall.pass?))
      ((sessionMachine cfg).run s calls) := by
  have hpasses : (calls.filter SessionCall.isPass).filterMap SessionCall.pass? =
      calls.filterMap SessionCall.pass? := by
    rw [List.filterMap_filter]
    refine List.filterMap_congr fun call _ => ?_
    unfold SessionCall.isPass
    cases call with
    | pass input => rfl
    | interruptAndResume input resumedAt => rfl
  obtain ⟨t, hinterrupted⟩ := session_refines hwf hsteps hpersist h hordered hreplay
  obtain ⟨t', hplain⟩ := session_refines hwf hsteps hpersist h
    (hordered.filter SessionCall.isPass)
    fun call hcall => hreplay call (List.mem_of_mem_filter hcall)
  rw [hpasses, run_passes] at hplain
  refine ⟨hinterrupted.executed.trans hplain.executed.symm,
    hinterrupted.traversals.trans hplain.traversals.symm,
    hinterrupted.current.trans hplain.current.symm, fun hother => ?_,
    hinterrupted.ended.trans hplain.ended.symm⟩
  rw [hplain.current] at hother
  exact (hinterrupted.counts hother).trans (hplain.counts hother).symm

/-- **A run that is interrupted goes the way of the run that is not**: it executes the same steps,
goes over the same edges and ends alike, wherever and however often it is interrupted. -/
theorem interrupted_run_goes_same_way (haccepted : validateWorkflowGraph cfg.workflowType = .ok ())
    (hsteps : cfg.workflowType.steps ≠ []) (hpersist : cfg.persistRegistry = true)
    (h : (sessionMachine cfg).start s) (calls : List SessionCall)
    (hordered : calls.Pairwise fun a b => a.input.now < b.input.now)
    (hreplay : ∀ call ∈ calls, Replayable call.input.execute) :
    SameWay cfg ((sessionMachine cfg).run s (calls.filter SessionCall.isPass))
      ((sessionMachine cfg).run s calls) := by
  rw [run_passes]
  exact session_same_way (validateWorkflowGraph_ok haccepted) hsteps hpersist h hordered hreplay

end Sessions

/-! ### A failure, interrupted -/

/-- One step, and the step that cleans up after it. -/
def cleanedUp : WorkflowType where
  workflowTypeId := "cleaned-up"
  steps := [⟨"work", "shell", none, none, none⟩,
    ⟨"clean", "failure_cleanup", none, some true, none⟩]
  transitions := [⟨"work", "clean", some "fatal", some 3⟩]

/-- A run of it, of which the registry is kept. -/
def cleanedUpConfig : RunnerConfig := { bareConfig cleanedUp with persistRegistry := true }

/-- The step fails; the run is interrupted before the cleanup, which another process makes. -/
def failingCalls : List SessionCall :=
  [.pass { answering .fatal with now := 1 },
    .interruptAndResume { answering .fatal with now := 2 } 3,
    .pass { answering .success with now := 4 }]

theorem failingCalls_replayable : ∀ call ∈ failingCalls, Replayable call.input.execute := by
  have hanswering : ∀ outcome, Replayable (answering outcome).execute :=
    fun outcome => ⟨fun _ _ => ⟨[], rfl⟩, fun _ _ _ h _ => ⟨rfl, h⟩⟩
  intro call hcall
  rcases List.mem_cons.mp hcall with rfl | hcall
  · exact hanswering .fatal
  · rcases List.mem_cons.mp hcall with rfl | hcall
    · exact hanswering .fatal
    · obtain rfl := List.mem_singleton.mp hcall
      exact hanswering .success

/-- The way of the failure is the same. -/
theorem interrupted_run_goes_same_way_cleanedUp :
    ∃ s, (sessionMachine cleanedUpConfig).start s ∧ SameWay cleanedUpConfig
      ((sessionMachine cleanedUpConfig).run s (failingCalls.filter SessionCall.isPass))
      ((sessionMachine cleanedUpConfig).run s failingCalls) := by
  obtain ⟨s, hs⟩ := session_starts cleanedUpConfig rfl
  exact ⟨s, hs, interrupted_run_goes_same_way (by decide +kernel) (by decide) rfl hs failingCalls
    (by decide) failingCalls_replayable⟩

/-- The count of the edge into the cleanup is not carried over. -/
example : ((startProcess cleanedUpConfig 0 ⟨Table.empty, Table.empty, Table.empty⟩).toOption.map
      fun r => (((sessionMachine cleanedUpConfig).run { runner := r }
          (failingCalls.take 1)).runner.edgeLoopCounts,
        ((sessionMachine cleanedUpConfig).run { runner := r }
          (failingCalls.take 2)).runner.edgeLoopCounts)) =
    some ([("work:clean", 1)], []) := by
  decide +kernel

end Luther
