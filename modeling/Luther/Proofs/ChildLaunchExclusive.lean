/-
When a launch of a child is exclusive, and when it is undone.

Two things go wrong.  Between the takeover of its lease and the call of the runner a launch does
not look at the table again, so a lease that went stale meanwhile, and has a new run, is dispatched
beside it.  And the statement that puts a lease back keeps the run id where it is given none: a
lease that had no run is left with the run that never came to be.
-/
import Luther.Proofs.ChildLaunchLedger

namespace Luther

open Sql

/-- The step goes on with a launch that stands at this stage. -/
def StepOf (world : LaunchWorld) (step : LaunchStep) (launch : ChildLaunch)
    (stage : ChildLaunchStage) : Prop :=
  ∃ index answers, step = .advance index answers ∧ world.launches[index]? = some launch
    ∧ launch.stage = stage

/-- **One claim, one child; no child beside another run; and a failed launch undone.** -/
structure ExclusiveStep (world : LaunchWorld) (step : LaunchStep) : Prop where
  /-- There are never more launched children than claims, nor more starts of claimed leases by
  whomever, nor more resumed children than takeovers for it. -/
  claims : ∀ leaseId, let ledger := (launchMachine.next world step).ledger
    ledger.launchedChildren.count leaseId ≤ ledger.started.count leaseId
      ∧ ledger.started.count leaseId ≤ ledger.claimed.count leaseId
      ∧ ledger.resumedChildren.count leaseId ≤ ledger.resumed.count leaseId
  /-- A child is dispatched only where no other run owns its lease in a status that protects it. -/
  dispatched : ∀ launch takeover, StepOf world step launch (.holding takeover .dispatching) →
    ∀ row ∈ world.leases, row.covers launch.selection.repo launch.selection.child = true →
    ∀ other, row.runId = some other → other ≠ takeover.runId → row.status ∈ LeaseStatus.reclaimable
  /-- A failed launch leaves its lease with the status and the run that it had before. -/
  restored : ∀ launch takeover text suffix,
    StepOf world step launch (.holding takeover (.compensating text suffix)) →
    launch.changed = false →
    ownership (launchMachine.next world step).leases takeover.lease.leaseId
      = some (takeover.lease.status, takeover.lease.runId)
  /-- A failed launch whose lease another process has changed leaves the table alone. -/
  left : ∀ launch takeover text suffix,
    StepOf world step launch (.holding takeover (.compensating text suffix)) →
    launch.changed = true → (launchMachine.next world step).leases = world.leases

/-- **The condition on a launch that goes on**: nobody has changed its lease when it is dispatched;
and where it failed, the lease had a run when it was taken over, or another process has changed it
and has not set it back to running under the same run. -/
def ChildLaunchStage.undisturbed (db : LeaseTable) (changed : Bool) : ChildLaunchStage → Bool
  | .holding _ .dispatching => !changed
  | .holding takeover (.compensating _ _) =>
    if changed then ownership db takeover.lease.leaseId != some (.running, some takeover.runId)
    else takeover.lease.runId.isSome
  | _ => true

def undisturbedStep (world : LaunchWorld) : LaunchStep → Bool
  | .advance index _ =>
    (world.launches[index]?).all fun launch =>
      launch.stage.undisturbed world.leases launch.changed
  | _ => true

variable {launch : ChildLaunch} {step : LaunchStep} {world : LaunchWorld}

variable {stage : ChildLaunchStage} {now : Timestamp} {lease : IssueLease} {status : LeaseStatus}
  {runId : Option String} {expected : String} {db : LeaseTable}

theorem undisturbed_of_stepOf (h : undisturbedStep world step)
    (hof : StepOf world step launch stage) :
    stage.undisturbed world.leases launch.changed = true := by
  obtain ⟨index, answers, rfl, hindex, rfl⟩ := hof
  unfold undisturbedStep at h
  dsimp only at h
  rw [hindex] at h
  exact h

theorem StepOf.sound (h : LaunchInvariant world) (hof : StepOf world step launch stage) :
    stage.Sound launch.selection world.leases launch.changed := by
  obtain ⟨index, answers, -, hindex, rfl⟩ := hof
  exact h.sound launch (List.mem_of_getElem? hindex)

/-! ### Putting a lease back -/

/-- **A lease that is owned is put back**, and keeps its run where it is given none. -/
theorem ownership_restored
    (h : ownership db lease.leaseId = some (.running, some expected)) (hne : runId ≠ some "") :
    ownership (restoreChildLeaseAfterRunnerError now lease status runId expected db).2
      lease.leaseId = some (status, runId.or (some expected)) := by
  obtain ⟨row, hrow, hid, hstatus, hrun⟩ := ownership_some h
  have hok : ∃ db', updateLeaseStatusConditional now lease.leaseId status [.running] runId
      (some expected) db = .ok (true, db') := by
    unfold updateLeaseStatusConditional conditionalTransition
    rw [if_neg hne, if_neg (by simp)]
    refine ⟨_, congrArg Except.ok (Prod.mk.injEq _ _ _ _ |>.mpr ⟨?_, rfl⟩)⟩
    rw [decide_eq_true_iff]
    exact Table.count_pos_iff.mpr ⟨row, hrow, by simp [hid, hstatus, hrun]⟩
  obtain ⟨db', hok⟩ := hok
  have hrestore : restoreChildLeaseAfterRunnerError now lease status runId expected db
      = (.ok (), db') := by
    unfold restoreChildLeaseAfterRunnerError
    rw [atomically_ok.mpr hok]
  rw [hrestore]
  unfold updateLeaseStatusConditional at hok
  obtain ⟨before, -, -, -, hguard, hownership⟩ := ownership_of_applied hok
  rw [hownership, show before.runId = some expected by simpa using hguard]

/-- **A lease that is not owned is left alone**, and so is the table. -/
theorem restore_left (h : ownership db lease.leaseId ≠ some (.running, some expected)) :
    (restoreChildLeaseAfterRunnerError now lease status runId expected db).2 = db := by
  have hnone : ∀ row ∈ db, movable (· == some expected) lease.leaseId [.running] row = false := by
    intro row hrow
    by_contra hmovable
    rw [Bool.not_eq_false] at hmovable
    simp only [movable, Bool.and_eq_true, beq_iff_eq, List.contains_iff_mem,
      List.mem_singleton] at hmovable
    refine h ?_
    have hfind : db.find? (fun row => row.leaseId == lease.leaseId) = some row := by
      refine Table.find?_eq_some_of_key ?_ hrow (by simp [hmovable.1.1])
      intro a b ha hb
      rw [beq_iff_eq] at ha hb
      exact Or.inl (ha.trans hb.symm)
    unfold ownership
    rw [hfind]
    simp [hmovable.1.2, hmovable.2]
  unfold restoreChildLeaseAfterRunnerError
  cases hrun : atomically (updateLeaseStatusConditional now lease.leaseId status [.running] runId
      (some expected)) db with
  | mk answer db' =>
    have hsame : db' = db := by
      cases answer with
      | error e => exact atomically_error hrun
      | ok applied =>
        have hrows := (updateLeaseStatusConditional_ok (atomically_ok.mp hrun)).1
        rw [List.map_congr_left fun row hrow => Table.set_neg (hnone row hrow),
          List.map_id'] at hrows
        cases db'
        cases db
        cases hrows
        rfl
    cases answer with
    | error e => exact hsame
    | ok applied => cases applied <;> exact hsame

/-! ### Runs that nothing disturbs -/

theorem leases_of_compensating {takeover : Takeover} {text suffix : String}
    (h : StepOf world step launch (.holding takeover (.compensating text suffix))) :
    ∃ now, (launchMachine.next world step).leases
      = (restoreChildLeaseAfterRunnerError now takeover.lease takeover.lease.status
          takeover.lease.runId takeover.runId world.leases).2 := by
  obtain ⟨index, answers, rfl, hindex, hstage⟩ := h
  refine ⟨answers.now, ?_⟩
  rw [← (restoreForCompensation_step answers.now takeover text suffix world.leases).1]
  show (launchStep world (.advance index answers)).leases = _
  simp only [launchStep, hindex, hstage]
  rfl

/-- **A step that is not disturbed is exclusive.** -/
theorem ExclusiveStep.of_undisturbed (h : LaunchInvariant world)
    (hstep : undisturbedStep world step) :
    ExclusiveStep world step := by
  refine ⟨?_, ?_, ?_, ?_⟩
  · intro leaseId
    have hnext := h.next step
    have hlaunched := hnext.launched leaseId
    have hstarted := hnext.started leaseId
    have hresumed := hnext.resumed leaseId
    dsimp only
    omega
  · intro launch takeover hof row hrow hcovers other hother hne
    have hunchanged : launch.changed = false := by
      simpa [ChildLaunchStage.undisturbed] using undisturbed_of_stepOf hstep hof
    obtain ⟨hlease, -, howns⟩ := hof.sound h
    obtain ⟨own, hmem, hid, -, hrun⟩ := ownership_some (howns hunchanged)
    -- The lease of the child is the one that was taken over.
    obtain ⟨hrepo, hnumber⟩ := (h.named own hmem).issue_eq hlease.named hid
    obtain ⟨hrepo', hnumber'⟩ := IssueLease.covers_iff.mp hlease.covers
    obtain rfl := Table.eq_of_clash hrow hmem (IssueLease.clash_of_covers row own hcovers
      (IssueLease.covers_iff.mpr ⟨hrepo.trans hrepo', hnumber.trans hnumber'⟩))
    rw [hrun] at hother
    exact absurd (Option.some.inj hother).symm hne
  · intro launch takeover text suffix hof hunchanged
    have hrun : takeover.lease.runId.isSome = true := by
      simpa [ChildLaunchStage.undisturbed, hunchanged] using undisturbed_of_stepOf hstep hof
    obtain ⟨-, hne, howns⟩ := hof.sound h
    obtain ⟨now, hleases⟩ := leases_of_compensating hof
    rw [hleases, ownership_restored (howns hunchanged) hne]
    obtain ⟨runId, hrunId⟩ := Option.isSome_iff_exists.mp hrun
    rw [hrunId]
    rfl
  · intro launch takeover text suffix hof hchanged
    have hlost : ownership world.leases takeover.lease.leaseId
        ≠ some (.running, some takeover.runId) := by
      simpa [ChildLaunchStage.undisturbed, hchanged] using undisturbed_of_stepOf hstep hof
    obtain ⟨now, hleases⟩ := leases_of_compensating hof
    rw [hleases, restore_left hlost]

/-- **Launches are exclusive, and undone where they fail**, in every run that nothing disturbs. -/
theorem child_launch_exclusive (steps : List LaunchStep)
    (h : launchMachine.Along (fun world step => undisturbedStep world step = true) {} steps)
    (past : List LaunchStep) (step : LaunchStep) (rest : List LaunchStep)
    (hsplit : steps = past ++ step :: rest) :
    ExclusiveStep (launchMachine.run {} past) step := by
  subst hsplit
  obtain ⟨-, hstep, -⟩ := StateMachine.along_append.mp h
  have hinv : LaunchInvariant (launchMachine.run {} past) :=
    StateMachine.run_keeps (fun _ step hworld => hworld.next step) launchInvariant_start past
  exact ExclusiveStep.of_undisturbed hinv hstep

def childSelection : ChildSelection where
  repo := "o/r"
  parentIssueNumber := 1
  childConfigId := "child"
  child := 2

def takenOverLaunch : List LaunchStep :=
  .begin childSelection :: List.replicate 4 (.advance 0 {})

def calledRunner : List LaunchStep := [.advance 0 {}, .advance 0 {}]

theorem child_launch_exclusive_example :
    ExclusiveStep (launchMachine.run {} (takenOverLaunch ++ [.advance 0 {}])) (.advance 0 {}) := by
  have halong : launchMachine.Along (fun world step => undisturbedStep world step = true) {}
      (takenOverLaunch ++ calledRunner) := by decide +kernel
  exact child_launch_exclusive (takenOverLaunch ++ calledRunner) halong
    (takenOverLaunch ++ [.advance 0 {}]) (.advance 0 {}) [] rfl

def labelFails : LaunchStep := .advance 0 { label := .error "rate limited" }

/-- The takeover of a launch that finds no lease. -/
def firstTakeover : Takeover where
  lease := claimedLease 0 "o/r" 2 "child"
  runId := "parent1-child2-0"
  resumed := false

/-- **A failed launch leaves its run behind**: the lease was claimed and had no run. -/
theorem child_launch_keeps_run :
    ¬ ExclusiveStep (launchMachine.run {} (takenOverLaunch ++ [labelFails])) (.advance 0 {}) := by
  intro h
  have hlaunch : (launchMachine.run {} (takenOverLaunch ++ [labelFails])).launches[0]?
      = some ⟨childSelection, .holding firstTakeover
          (.compensating "rate limited" " after label add failure"), false⟩ := by decide +kernel
  have hrestored := h.restored _ firstTakeover _ _ ⟨0, {}, rfl, hlaunch, rfl⟩ rfl
  have hkept : ownership (launchMachine.next (launchMachine.run {} (takenOverLaunch ++ [labelFails]))
      (.advance 0 {})).leases firstTakeover.lease.leaseId
        = some (.claimed, some "parent1-child2-0") := by decide +kernel
  rw [hkept] at hrestored
  cases hrestored

end Luther
