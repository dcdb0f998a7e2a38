/-
One claim, one child.

Every child that is launched has used up a start, every start has used up a claimed lease without
a run, and only a claim makes one; and every child that is resumed has used up a takeover of its
own.  So at no point are there more children than claims.
-/
import Luther.Proofs.ChildLaunch

namespace Luther

open Sql

/-! ### Claims are used up by starts -/

/-- Whether the lease is claimed and has no run, as a number. -/
def unstartedCount (db : LeaseTable) (leaseId : String) : Nat :=
  db.count fun row => row.leaseId == leaseId && row.unstarted

theorem unstartedCount_le_one (db : LeaseTable) (leaseId : String) :
    unstartedCount db leaseId ≤ 1 := by
  refine Table.count_le_one_of_key ?_
  intro a b ha hb
  simp only [Bool.and_eq_true, beq_iff_eq] at ha hb
  exact Or.inl (ha.1.trans hb.1.symm)

variable {db db' : LeaseTable} {leaseId : String} {selection : ChildSelection}
  {stage : ChildLaunchStage} {launch : ChildLaunch} {world : LaunchWorld}

theorem mem_startedBy :
    leaseId ∈ startedBy db db' ↔ ∃ row ∈ db, row.leaseId = leaseId ∧ row.unstarted = true
      ∧ ∃ after ∈ db', after.leaseId = leaseId ∧ after.status = .running
        ∧ after.runId.isSome = true := by
  unfold startedBy
  rw [List.mem_map]
  constructor
  · rintro ⟨row, hrow, rfl⟩
    obtain ⟨hmem, hselected⟩ := Table.mem_select.mp hrow
    rw [Bool.and_eq_true, List.any_eq_true] at hselected
    obtain ⟨hunstarted, after, hafter, hrunning⟩ := hselected
    simp only [Bool.and_eq_true, beq_iff_eq] at hrunning
    exact ⟨row, hmem, rfl, hunstarted, after, hafter, hrunning.1.1, hrunning.1.2, hrunning.2⟩
  · rintro ⟨row, hmem, rfl, hunstarted, after, hafter, hid, hstatus, hrun⟩
    refine ⟨row, Table.mem_select.mpr ⟨hmem, ?_⟩, rfl⟩
    rw [Bool.and_eq_true, List.any_eq_true]
    refine ⟨hunstarted, after, hafter, ?_⟩
    simp [hid, hstatus, hrun]

theorem count_startedBy_le (db db' : LeaseTable) (leaseId : String) :
    (startedBy db db').count leaseId ≤ unstartedCount db leaseId := by
  unfold startedBy unstartedCount
  rw [List.count_eq_countP, List.countP_map, Table.count_eq_countP, Table.select,
    List.countP_filter]
  refine List.countP_mono_left ?_
  intro row _ hrow
  simp only [Function.comp_apply, Bool.and_eq_true, beq_iff_eq] at hrow ⊢
  exact ⟨hrow.1, hrow.2.1⟩

/-- **A step starts or leaves what was claimed before, and what it claims.** -/
theorem TableStep.count_le {claims : List String} (h : TableStep claims db db') (leaseId : String) :
    (startedBy db db').count leaseId + unstartedCount db' leaseId
      ≤ unstartedCount db leaseId + claims.count leaseId := by
  by_cases hafter : unstartedCount db' leaseId = 0
  · have hstarted := count_startedBy_le db db' leaseId
    omega
  · obtain ⟨row, hrow, hselected⟩ := Table.count_pos_iff.mp (Nat.pos_of_ne_zero hafter)
    simp only [Bool.and_eq_true, beq_iff_eq] at hselected
    obtain ⟨hid, hunstarted⟩ := hselected
    -- What is still waiting was not started.
    have hnone : (startedBy db db').count leaseId = 0 := by
      refine List.count_eq_zero.mpr ?_
      intro hmem
      obtain ⟨-, -, -, -, after, hmem', hid', hstatus, -⟩ := mem_startedBy.mp hmem
      obtain rfl := Table.eq_of_clash hmem' hrow (Or.inl (hid'.trans hid.symm))
      simp [IssueLease.unstarted, hstatus] at hunstarted
    have hone := unstartedCount_le_one db' leaseId
    have hbefore : 1 ≤ unstartedCount db leaseId + claims.count leaseId := by
      rcases h.unstarted row hrow hunstarted with ⟨before, hbefore, hid', hunstarted'⟩ | hclaim
      · have hpos : 0 < unstartedCount db leaseId :=
          Table.count_pos_iff.mpr ⟨before, hbefore, by simp [hid', hid, hunstarted']⟩
        omega
      · rw [hid] at hclaim
        have hpos := List.count_pos_iff.mpr hclaim
        omega
    omega

/-! ### Starts are used up by children -/

/-- The launch has taken the lease over, and has not yet called the runner. -/
def ChildLaunchStage.pending (resumed : Bool) (leaseId : String) : ChildLaunchStage → Bool
  | .holding takeover .labelling | .holding takeover .dispatching =>
    takeover.resumed == resumed && takeover.lease.leaseId == leaseId
  | _ => false

theorem afterTakeover_holding {takeover held : Takeover} {stage next : DispatchStage}
    {result : Except Error Bool × LeaseTable}
    (h : (afterTakeover takeover stage result).1 = .holding held next) :
    held = takeover ∧ next = stage ∧ result = (.ok true, result.2) := by
  obtain ⟨answer, db⟩ := result
  cases answer with
  | error e => cases h
  | ok applied =>
    cases applied with
    | false => cases h
    | true =>
      obtain ⟨rfl, rfl⟩ := ChildLaunchStage.holding.inj h
      exact ⟨rfl, rfl, rfl⟩

theorem takeover?_preparation (selection : ChildSelection) (answers : LaunchAnswers)
    (db : LeaseTable) (lease : IssueLease) :
    (selectChildLaunch selection answers db).takeover? = none
      ∧ (prepareChildLease selection db).takeover? = none
      ∧ (prepareResume answers.runs lease).takeover? = none
      ∧ (claimChildLease selection answers.now db).1.takeover? = none
      ∧ (prepareRelaunchableChild answers.now lease db).1.takeover? = none := by
  refine ⟨?_, ?_, ?_, ?_, ?_⟩
  · unfold selectChildLaunch
    repeat' split
    all_goals rfl
  · unfold prepareChildLease
    repeat' split
    all_goals rfl
  · unfold prepareResume
    split <;> rfl
  · unfold claimChildLease
    split <;> rfl
  · unfold prepareRelaunchableChild
    repeat' split
    all_goals rfl

/-- **How a launch comes to hold a lease.** -/
theorem advanceLaunch_holding {answers : LaunchAnswers} {takeover : Takeover} {next : DispatchStage}
    (h : (advanceLaunch selection answers db stage).1 = .holding takeover next) :
    (stage = .launching takeover.lease ∧ takeover.resumed = false
        ∧ claimRunningLeaseCas answers.now takeover.lease [.claimed] takeover.lease.runId
            takeover.runId db = (.ok true, (advanceLaunch selection answers db stage).2))
      ∨ (stage = .resuming takeover.lease ∧ takeover.resumed = true)
      ∨ ∃ before, stage = .holding takeover before := by
  have hsome := congrArg ChildLaunchStage.takeover? h
  have hnone := takeover?_preparation selection answers db
  cases stage with
  | selected => cases (hnone takeover.lease).1.symm.trans hsome
  | preparing => cases (hnone takeover.lease).2.1.symm.trans hsome
  | readyToResume lease => cases (hnone lease).2.2.1.symm.trans hsome
  | unleased => cases (hnone takeover.lease).2.2.2.1.symm.trans hsome
  | relaunchable lease => cases (hnone lease).2.2.2.2.symm.trans hsome
  | waiting lease reason => cases hsome
  | launching lease =>
    obtain ⟨rfl, -, hresult⟩ := afterTakeover_holding h
    refine Or.inl ⟨rfl, rfl, ?_⟩
    show _ = (Except.ok true, (afterTakeover _ _ _).2)
    rw [afterTakeover_snd]
    exact hresult
  | resuming lease =>
    have hresume : (resumeChildWorkflow selection answers.now lease db).1
        = .holding takeover next := h
    unfold resumeChildWorkflow at hresume
    cases hrun : lease.runId with
    | none =>
      rw [hrun] at hresume
      obtain ⟨outcome, hover⟩ :=
        (missingResumeRunIdOutcome_step selection answers.now lease db).2
      cases hover.symm.trans hresume
    | some runId =>
      rw [hrun] at hresume
      obtain ⟨rfl, -, -⟩ := afterTakeover_holding hresume
      exact Or.inr (Or.inl ⟨rfl, rfl⟩)
  | holding held before =>
    obtain ⟨-, ⟨⟨stage, hstage⟩, -⟩ | ⟨outcome, hover⟩⟩ :=
      advanceDispatch_step held answers db before
    · obtain ⟨rfl, rfl⟩ := ChildLaunchStage.holding.inj (hstage.symm.trans h)
      exact Or.inr (Or.inr ⟨before, rfl⟩)
    · cases hover.symm.trans h
  | «over» outcome => cases h

theorem advanceDispatch_pending (takeover : Takeover) (answers : LaunchAnswers) (db : LeaseTable)
    (stage : DispatchStage) (resumed : Bool) (leaseId : String) :
    let before := ChildLaunchStage.holding takeover stage
    let after := (advanceDispatch takeover answers db stage).1
    (before.dispatchedBy resumed).count leaseId + (after.pending resumed leaseId).toNat
      ≤ (before.pending resumed leaseId).toNat := by
  dsimp only
  cases stage with
  | labelling =>
    unfold advanceDispatch
    cases answers.label with
    | ok u => exact Nat.le_of_eq (Nat.zero_add _)
    | error text => exact Nat.zero_le _
  | dispatching =>
    show (if takeover.resumed = resumed then [takeover.lease.leaseId] else []).count leaseId + 0
      ≤ (takeover.resumed == resumed && takeover.lease.leaseId == leaseId).toNat
    by_cases hkind : takeover.resumed = resumed
    · rw [if_pos hkind, List.count_singleton, hkind]
      by_cases hid : takeover.lease.leaseId = leaseId <;> simp [hid]
    · rw [if_neg hkind]
      exact Nat.zero_le _
  | running =>
    unfold advanceDispatch
    cases answers.runner with
    | ok result | error text => exact Nat.zero_le _
  | collecting result =>
    have hquiet : (ChildLaunchStage.holding takeover
        (postLaunchMetadata takeover result answers)).pending resumed leaseId = false := by
      unfold postLaunchMetadata
      repeat' split
      all_goals rfl
    show 0 + (ChildLaunchStage.pending resumed leaseId (.holding takeover
      (postLaunchMetadata takeover result answers))).toNat ≤ _
    rw [hquiet]
    exact Nat.zero_le _
  | compensating text suffix =>
    obtain ⟨outcome, hover⟩ := (restoreForCompensation_step answers.now takeover text suffix db).2
    unfold advanceDispatch
    rw [hover]
    exact Nat.zero_le _
  | finishing result =>
    obtain ⟨outcome, hover⟩ := (finishChildLaunch_step takeover result answers db).2
    unfold advanceDispatch
    rw [hover]
    exact Nat.zero_le _

theorem ownership_some {status : LeaseStatus} {runId : Option String}
    (h : ownership db leaseId = some (status, runId)) :
    ∃ row ∈ db, row.leaseId = leaseId ∧ row.status = status ∧ row.runId = runId := by
  unfold ownership at h
  obtain ⟨row, hfind, hrow⟩ := Option.map_eq_some_iff.mp h
  obtain ⟨hmem, hid⟩ := Table.find?_some hfind
  obtain ⟨hstatus, hrun⟩ := Prod.mk.inj hrow
  exact ⟨row, hmem, by simpa using hid, hstatus, hrun⟩

theorem mem_startedBy_of_takeover {now : Timestamp} {lease : IssueLease} {runId : String}
    (hunstarted : lease.unstarted)
    (h : claimRunningLeaseCas now lease [.claimed] lease.runId runId db = (.ok true, db')) :
    lease.leaseId ∈ startedBy db db' := by
  obtain ⟨⟨row, hrow, hid, hstatus, hrun⟩, hownership⟩ := claimRunningLeaseCas_applied h
  obtain ⟨after, hafter, hid', hstatus', hrun'⟩ := ownership_some hownership
  unfold IssueLease.unstarted at hunstarted
  rw [Bool.and_eq_true, beq_iff_eq, beq_iff_eq] at hunstarted
  refine mem_startedBy.mpr ⟨row, hrow, hid, ?_, after, hafter, hid', hstatus', by rw [hrun']; rfl⟩
  unfold IssueLease.unstarted
  rw [hrun, hunstarted.2, List.mem_singleton.mp hstatus]
  rfl

theorem pending_of_takeover {answers : LaunchAnswers} {resumed : Bool}
    (hheld : ∀ takeover before, stage ≠ .holding takeover before)
    (h : (advanceLaunch selection answers db stage).1.pending resumed leaseId) :
    ∃ takeover next, (advanceLaunch selection answers db stage).1 = .holding takeover next
      ∧ takeover.resumed = resumed ∧ takeover.lease.leaseId = leaseId
      ∧ (stage = .launching takeover.lease ∧ takeover.resumed = false
          ∧ claimRunningLeaseCas answers.now takeover.lease [.claimed] takeover.lease.runId
              takeover.runId db = (.ok true, (advanceLaunch selection answers db stage).2)
        ∨ stage = .resuming takeover.lease ∧ takeover.resumed = true) := by
  cases hafter : (advanceLaunch selection answers db stage).1 with
  | holding takeover next =>
    have hkey : takeover.resumed = resumed ∧ takeover.lease.leaseId = leaseId := by
      rw [hafter] at h
      unfold ChildLaunchStage.pending at h
      split at h
      · rename_i heq
        obtain ⟨rfl, -⟩ := ChildLaunchStage.holding.inj heq
        simpa using h
      · rename_i heq
        obtain ⟨rfl, -⟩ := ChildLaunchStage.holding.inj heq
        simpa using h
      · cases h
    refine ⟨takeover, next, rfl, hkey.1, hkey.2, ?_⟩
    rcases advanceLaunch_holding hafter with hlaunching | hresuming | ⟨before, hbefore⟩
    · exact Or.inl hlaunching
    · exact Or.inr hresuming
    · exact absurd hbefore (hheld takeover before)
  | _ =>
    rw [hafter] at h
    cases h

theorem dispatchedBy_of_not_holding (resumed : Bool)
    (hheld : ∀ takeover before, stage ≠ .holding takeover before) :
    stage.dispatchedBy resumed = [] := by
  cases stage with
  | holding takeover before => exact absurd rfl (hheld takeover before)
  | _ => rfl

/-- **A launched child uses up a start.** -/
theorem advanceLaunch_launched (answers : LaunchAnswers) {changed : Bool}
    (h : stage.Sound selection db changed) (leaseId : String) :
    let after := advanceLaunch selection answers db stage
    (stage.dispatchedBy false).count leaseId + (after.1.pending false leaseId).toNat
      ≤ (stage.pending false leaseId).toNat + (startedBy db after.2).count leaseId := by
  dsimp only
  by_cases hheld : ∀ takeover before, stage ≠ .holding takeover before
  · rw [dispatchedBy_of_not_holding false hheld]
    cases hpending : (advanceLaunch selection answers db stage).1.pending false leaseId with
    | false => exact Nat.zero_le _
    | true =>
      obtain ⟨takeover, next, -, hkind, rfl, ⟨rfl, -, hcas⟩ | ⟨-, hresumed⟩⟩ :=
        pending_of_takeover hheld hpending
      · have hpos := List.count_pos_iff.mpr (mem_startedBy_of_takeover h.2 hcas)
        rw [List.count_nil, Bool.toNat_true]
        omega
      · rw [hkind] at hresumed
        cases hresumed
  · simp only [ne_eq, not_forall, not_not] at hheld
    obtain ⟨takeover, before, rfl⟩ := hheld
    exact Nat.le_trans (advanceDispatch_pending takeover answers db before false leaseId)
      (Nat.le_add_right _ _)

/-- **A resumed child uses up a takeover.** -/
theorem advanceLaunch_resumed (selection : ChildSelection) (answers : LaunchAnswers)
    (db : LeaseTable) (stage : ChildLaunchStage) (leaseId : String) :
    let after := advanceLaunch selection answers db stage
    (stage.dispatchedBy true).count leaseId + (after.1.pending true leaseId).toNat
      ≤ (stage.pending true leaseId).toNat + (stage.resumedBy after.1).count leaseId := by
  dsimp only
  by_cases hheld : ∀ takeover before, stage ≠ .holding takeover before
  · rw [dispatchedBy_of_not_holding true hheld]
    cases hpending : (advanceLaunch selection answers db stage).1.pending true leaseId with
    | false => exact Nat.zero_le _
    | true =>
      obtain ⟨takeover, next, hafter, hkind, rfl, ⟨-, hlaunched, -⟩ | ⟨rfl, -⟩⟩ :=
        pending_of_takeover hheld hpending
      · rw [hkind] at hlaunched
        cases hlaunched
      · rw [hafter]
        show 0 + 1 ≤ 0 + [takeover.lease.leaseId].count takeover.lease.leaseId
        rw [List.count_singleton_self]
  · simp only [ne_eq, not_forall, not_not] at hheld
    obtain ⟨takeover, before, rfl⟩ := hheld
    exact Nat.le_trans (advanceDispatch_pending takeover answers db before true leaseId)
      (Nat.le_add_right _ _)

/-! ### The launches of all orchestrators -/

@[simp] theorem watch_stage (db db' : LeaseTable) (launch : ChildLaunch) :
    (launch.watch db db').stage = launch.stage := by
  unfold ChildLaunch.watch
  cases launch.stage.takeover? <;> rfl

@[simp] theorem watch_selection (db db' : LeaseTable) (launch : ChildLaunch) :
    (launch.watch db db').selection = launch.selection := by
  unfold ChildLaunch.watch
  cases launch.stage.takeover? <;> rfl

/-- **A launch that nothing has changed behind its back still owns its lease.** -/
theorem watch_sound (h : launch.stage.Sound launch.selection db launch.changed) :
    (launch.watch db db').stage.Sound (launch.watch db db').selection db'
      (launch.watch db db').changed := by
  rw [watch_stage, watch_selection]
  cases hstage : launch.stage with
  | holding takeover stage =>
    rw [hstage] at h
    refine ⟨h.1, h.2.1, ?_⟩
    intro hunchanged
    have hwatch : (launch.watch db db').changed = (launch.changed
        || ownership db takeover.lease.leaseId != ownership db' takeover.lease.leaseId) := by
      simp [ChildLaunch.watch, hstage, ChildLaunchStage.takeover?]
    rw [hwatch, Bool.or_eq_false_iff, bne_eq_false_iff_eq] at hunchanged
    rw [← hunchanged.2]
    exact h.2.2 hunchanged.1
  | _ =>
    rw [hstage] at h
    exact h

/-- How many launches have taken the lease over, and have not yet called the runner. -/
def pendingCount (resumed : Bool) (leaseId : String) (launches : List ChildLaunch) : Nat :=
  launches.countP fun launch => launch.stage.pending resumed leaseId

theorem pendingCount_watch (resumed : Bool) (leaseId : String) (db db' : LeaseTable)
    (launches : List ChildLaunch) :
    pendingCount resumed leaseId (launches.map (ChildLaunch.watch db db'))
      = pendingCount resumed leaseId launches := by
  unfold pendingCount
  rw [List.countP_map]
  refine List.countP_congr ?_
  intro launch _
  simp

theorem countP_pos_of_getElem? {α : Type} {p : α → Bool} {xs : List α} {i : Nat} {a : α}
    (h : xs[i]? = some a) : (p a).toNat ≤ xs.countP p := by
  cases hp : p a with
  | false => exact Nat.zero_le _
  | true => exact List.countP_pos_iff.mpr ⟨a, List.mem_of_getElem? h, hp⟩

/-- **One launch goes on, the others are watched.** -/
theorem pendingCount_set (resumed : Bool) (leaseId : String) (db db' : LeaseTable)
    {launches : List ChildLaunch} {index : Nat} (hindex : launches[index]? = some launch)
    (stage : ChildLaunchStage) :
    pendingCount resumed leaseId
        ((launches.map (ChildLaunch.watch db db')).set index (launch.moved stage))
        + (launch.stage.pending resumed leaseId).toNat
      = pendingCount resumed leaseId launches + (stage.pending resumed leaseId).toNat := by
  obtain ⟨hlt, hget⟩ := List.getElem?_eq_some_iff.mp hindex
  have hle : (launch.stage.pending resumed leaseId).toNat
      ≤ pendingCount resumed leaseId launches := countP_pos_of_getElem?
    (p := fun launch : ChildLaunch => launch.stage.pending resumed leaseId) hindex
  have hcount := pendingCount_watch resumed leaseId db db' launches
  unfold pendingCount at hcount hle ⊢
  rw [List.countP_set (by rw [List.length_map]; exact hlt), hcount, List.getElem_map, hget,
    watch_stage]
  have hmoved : (launch.moved stage).stage = stage := rfl
  rw [hmoved]
  cases hbefore : launch.stage.pending resumed leaseId <;>
    cases hafter : stage.pending resumed leaseId <;>
    simp only [hbefore, Bool.toNat_true, Bool.toNat_false, if_true, if_false,
      Bool.false_eq_true] at hle ⊢ <;> omega

/-- **What holds of the table, the launches and the ledger.** -/
structure LaunchInvariant (world : LaunchWorld) : Prop where
  named : ∀ row ∈ world.leases, NamedForIssue row
  sound : ∀ launch ∈ world.launches,
    launch.stage.Sound launch.selection world.leases launch.changed
  started : ∀ leaseId, world.ledger.started.count leaseId + unstartedCount world.leases leaseId
    ≤ world.ledger.claimed.count leaseId
  launched : ∀ leaseId, world.ledger.launchedChildren.count leaseId
    + pendingCount false leaseId world.launches ≤ world.ledger.started.count leaseId
  resumed : ∀ leaseId, world.ledger.resumedChildren.count leaseId
    + pendingCount true leaseId world.launches ≤ world.ledger.resumed.count leaseId

theorem launchInvariant_start : LaunchInvariant {} where
  named row hrow := absurd hrow (Table.not_mem_empty row)
  sound launch hlaunch := by cases hlaunch
  started leaseId := Nat.le_refl 0
  launched leaseId := Nat.le_refl 0
  resumed leaseId := Nat.le_refl 0

theorem pendingCount_begin (resumed : Bool) (leaseId : String) (launches : List ChildLaunch)
    (selection : ChildSelection) :
    pendingCount resumed leaseId (launches ++ [⟨selection, .selected, false⟩])
      = pendingCount resumed leaseId launches := by
  unfold pendingCount
  rw [List.countP_append, List.countP_singleton]
  rfl

theorem LaunchInvariant.begin (h : LaunchInvariant world) (selection : ChildSelection) :
    LaunchInvariant (launchStep world (.begin selection)) := by
  have hnext : launchStep world (.begin selection)
      = { world with launches := world.launches ++ [⟨selection, .selected, false⟩] } := rfl
  rw [hnext]
  refine ⟨h.named, ?_, h.started, ?_, ?_⟩
  · intro launch hlaunch
    rcases List.mem_append.mp hlaunch with hold | hnew
    · exact h.sound launch hold
    · rw [List.mem_singleton.mp hnew]
      trivial
  · intro leaseId
    dsimp only
    rw [pendingCount_begin]
    exact h.launched leaseId
  · intro leaseId
    dsimp only
    rw [pendingCount_begin]
    exact h.resumed leaseId

theorem LaunchInvariant.daemon (h : LaunchInvariant world) (call : DaemonCall) :
    LaunchInvariant (launchStep world (.daemon call)) := by
  have hstep := tableStep_daemonCall world.leases call
  have hnext : launchStep world (.daemon call) = {
      leases := (leaseStep world.leases call.call).2
      launches := world.launches.map
        (ChildLaunch.watch world.leases (leaseStep world.leases call.call).2)
      ledger := { world.ledger with
        claimed := world.ledger.claimed ++ (leaseStep world.leases call.call).1.claimed
        started := world.ledger.started
          ++ startedBy world.leases (leaseStep world.leases call.call).2 } } := rfl
  rw [hnext]
  refine ⟨hstep.named h.named, ?_, ?_, ?_, ?_⟩
  · intro launch hlaunch
    obtain ⟨before, hbefore, rfl⟩ := List.mem_map.mp hlaunch
    exact watch_sound (h.sound before hbefore)
  · intro leaseId
    have hcount := hstep.count_le leaseId
    have hold := h.started leaseId
    dsimp only
    rw [List.count_append, List.count_append]
    omega
  · intro leaseId
    dsimp only
    rw [pendingCount_watch, List.count_append]
    exact Nat.le_trans (h.launched leaseId) (Nat.le_add_right _ _)
  · intro leaseId
    dsimp only
    rw [pendingCount_watch]
    exact h.resumed leaseId

theorem LaunchInvariant.advance (h : LaunchInvariant world) {index : Nat}
    (hindex : world.launches[index]? = some launch) (answers : LaunchAnswers) :
    LaunchInvariant (launchStep world (.advance index answers)) := by
  have hmem := List.mem_of_getElem? hindex
  obtain ⟨hstep, hsound⟩ :=
    advanceLaunch_sound answers h.named (h.sound launch hmem)
  have hlaunched := advanceLaunch_launched answers (h.sound launch hmem)
  have hresumed := advanceLaunch_resumed launch.selection answers world.leases launch.stage
  generalize hafter : advanceLaunch launch.selection answers world.leases launch.stage = after
    at hstep hsound hlaunched hresumed
  obtain ⟨stage, leases⟩ := after
  have hnext : launchStep world (.advance index answers) = {
      leases
      launches := (world.launches.map (ChildLaunch.watch world.leases leases)).set index
        (launch.moved stage)
      ledger := world.ledger.record world.leases leases launch.stage stage } := by
    simp only [launchStep, hindex, hafter]
  rw [hnext]
  refine ⟨hstep.named h.named, ?_, ?_, ?_, ?_⟩
  · intro other hother
    rcases List.mem_or_eq_of_mem_set hother with hold | rfl
    · obtain ⟨before, hbefore, rfl⟩ := List.mem_map.mp hold
      exact watch_sound (h.sound before hbefore)
    · exact hsound
  · intro leaseId
    have hcount := hstep.count_le leaseId
    have hold := h.started leaseId
    show (world.ledger.started ++ startedBy world.leases leases).count leaseId + _
      ≤ (world.ledger.claimed ++ _).count leaseId
    rw [List.count_append, List.count_append]
    dsimp only at hcount ⊢
    omega
  · intro leaseId
    have hold := h.launched leaseId
    have hcount := hlaunched leaseId
    have hset := pendingCount_set false leaseId world.leases leases hindex stage
    show (world.ledger.launchedChildren ++ launch.stage.dispatchedBy false).count leaseId + _
      ≤ (world.ledger.started ++ startedBy world.leases leases).count leaseId
    rw [List.count_append, List.count_append]
    dsimp only at hcount ⊢
    omega
  · intro leaseId
    have hold := h.resumed leaseId
    have hcount := hresumed leaseId
    have hset := pendingCount_set true leaseId world.leases leases hindex stage
    show (world.ledger.resumedChildren ++ launch.stage.dispatchedBy true).count leaseId + _
      ≤ (world.ledger.resumed ++ launch.stage.resumedBy stage).count leaseId
    rw [List.count_append, List.count_append]
    dsimp only at hcount ⊢
    omega

theorem LaunchInvariant.next (h : LaunchInvariant world) (step : LaunchStep) :
    LaunchInvariant (launchMachine.next world step) := by
  show LaunchInvariant (launchStep world step)
  cases step with
  | begin selection => exact h.begin selection
  | daemon call => exact h.daemon call
  | advance index answers =>
    cases hindex : world.launches[index]? with
    | some launch => exact h.advance hindex answers
    | none =>
      have hsame : launchStep world (.advance index answers) = world := by
        simp only [launchStep, hindex]
      rw [hsame]
      exact h

end Luther
