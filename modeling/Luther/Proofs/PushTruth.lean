/-
What a run of pushes says of itself.

A push that answers with success has seen the remote branch at its own head, whatever was lost
on the way.  It does not know a push of its own again, though: where the commit is on the
remote branch and nothing is left to do, it says that nothing has changed.  And the count of
its failures is as good as the last artifact: an execution that stops before it has looked at
the worktree writes the first index over the one that was there.

Where no such artifact is written over a count, the count is kept.  The heads of a run have an
order, since a commit is only ever added; the records of a run go forward in it, and their
indices with them.  What a head may still be tried is a stock, and every failure that is to be
tried again uses up one of it.
-/
import Luther.Proofs.PushStep

namespace Luther

/-! ### Runs -/

/-- What happens to the world of a push. -/
inductive PushCall where
  | push (run : PushRun)
  /-- Another producer writes an artifact of its own. -/
  | write (call : WriteCall)

/-- The executions of a push, for one plan and one result. -/
def pushMachine (validate : FamilyInvariants) (step : PushStep)
    (setup : PushRunSetup) :
    StateMachine PushWorld PushCall (Option (Except String StepOutcome)) where
  start world := PushReady validate step setup world.store ∧
    world.store.pushRecord step setup = none ∧ world.repository.remoteHead = 0
  step world call :=
    match call with
    | .push run =>
      let (answer, after) := (pushRemediationChanges validate step run).ends
        { world with commands := [] }
      (some answer, after)
    | .write call =>
      (none, { world with
        store := (writeJsonArtifactLocked validate call.order call.request
          call.publication world.store).2 })

/-- What the other producers may write: no plan, no result, and no push. -/
def PushCall.Permitted (step : PushStep) : PushCall → Prop
  | .push _ => True
  | .write call => WellFormed step.binding call.request ∧
      call.request.artifactFamily ∉ [planFamily, resultFamily, pushFamily]

/-- An execution that stops before it has looked at the worktree writes over no artifact of one
that had. -/
def KeepsCount (validate : FamilyInvariants) (step : PushStep)
    (setup : PushRunSetup) (world : PushWorld) : PushCall → Prop
  | .push run => (∃ record ∈ world.store.pushRecord step setup, record.inspected = true) →
      stopsEarly validate step setup world run = false
  | .write _ => True

section Runs

variable {validate : FamilyInvariants} {step : PushStep} {setup : PushRunSetup}
  {world : PushWorld} {run : PushRun}

/-- **An execution of a run ends in one of the three ways.** -/
theorem pushMachine_push (h : PushReady validate step setup world.store)
    (run : PushRun) :
    ∃ answer, (pushMachine validate step setup).answer world (.push run) =
        some answer ∧
      PushEnd validate step setup { world with commands := [] } run answer
        ((pushMachine validate step setup).next world (.push run)) := by
  have hready : PushReady validate step setup
      ({ world with commands := [] } : PushWorld).store := h
  exact ⟨_, rfl, pushRemediationChanges_meets hready⟩

/-- What holds in every state of a run. -/
structure PushInvariant (validate : FamilyInvariants) (step : PushStep)
    (setup : PushRunSetup) (world : PushWorld) : Prop where
  ready : PushReady validate step setup world.store
  /-- A record is of a head that the branch has. -/
  placed : ∀ record ∈ world.store.pushRecord step setup, record.inspected = true →
    ∃ k ≤ world.repository.localHead, record.head = step.names.name k
  /-- One of an execution that had not looked at the worktree has the first index. -/
  first : ∀ record ∈ world.store.pushRecord step setup, record.inspected = false →
    record.index = 0
  /-- What is on the remote branch is all there is. -/
  pushed : world.repository.remoteHead ≠ 0 →
    world.repository.remoteHead = world.repository.localHead ∧
      world.repository.includedPaths = []

/-- A record is followed by one that is not before it. -/
def Precedes (step : PushStep) (before after : Option PushRecord) : Prop :=
  ∀ record ∈ before, record.inspected = true → ∃ later ∈ after, later.inspected = true ∧
    ∃ k k', record.head = step.names.name k ∧ later.head = step.names.name k' ∧
      (k < k' ∨ k = k' ∧ record.index ≤ later.index)

/-- How often the `n`-th head may still be tried again. -/
def allowance (step : PushStep) (setup : PushRunSetup) (n : Nat) (world : PushWorld) : Nat :=
  if n < world.repository.localHead then 0
  else
    match world.store.pushRecord step setup with
    | none => setup.maxPushRetries
    | some record =>
      if record.inspected = true ∧ record.head = step.names.name n then
        setup.maxPushRetries - (record.index + 1)
      else setup.maxPushRetries

/-- Whether an execution is to be tried again, for the `n`-th head. -/
def retries (validate : FamilyInvariants) (step : PushStep)
    (setup : PushRunSetup) (n : Nat) (world : PushWorld) : PushCall → Bool
  | .push run =>
    let machine := pushMachine validate step setup
    machine.answer world (.push run) == some (.ok .retryable) &&
      ((machine.next world (.push run)).store.pushRecord step setup).map (·.head) ==
        some (step.names.name n)
  | .write _ => false

theorem Precedes.refl (h : PushInvariant validate step setup world) :
    Precedes step (world.store.pushRecord step setup) (world.store.pushRecord step setup) := by
  intro record hrecord hinspected
  obtain ⟨k, -, hk⟩ := h.placed record hrecord hinspected
  exact ⟨record, hrecord, hinspected, k, k, hk, hk, Or.inr ⟨rfl, Nat.le_refl _⟩⟩

theorem Precedes.trans {first second third : Option PushRecord} (h : Precedes step first second)
    (h' : Precedes step second third) : Precedes step first third := by
  intro record hrecord hinspected
  obtain ⟨later, hlater, hlooked, k, k', hk, hk', horder⟩ := h record hrecord hinspected
  obtain ⟨last, hlast, hlastLooked, m, m', hm, hm', horder'⟩ := h' later hlater hlooked
  have hsame : k' = m := step.names.injective (hk'.symm.trans hm)
  refine ⟨last, hlast, hlastLooked, k, m', hk, hm', ?_⟩
  omega

/-- What a call does: what follows the invariant, the record, and the stock of every head. -/
structure Steps (validate : FamilyInvariants) (step : PushStep)
    (setup : PushRunSetup) (before after : PushWorld) (retried : Nat → Bool) : Prop where
  invariant : PushInvariant validate step setup after
  precedes : Precedes step (before.store.pushRecord step setup)
    (after.store.pushRecord step setup)
  allowance_le : ∀ n, allowance step setup n after + (if retried n then 1 else 0) ≤
    allowance step setup n before

variable {after : PushWorld} {retried : Nat → Bool}

theorem allowance_le_of_same {before : PushWorld}
    (hrecord : after.store.pushRecord step setup = before.store.pushRecord step setup)
    (hlocal : before.repository.localHead ≤ after.repository.localHead) (n : Nat) :
    allowance step setup n after ≤ allowance step setup n before := by
  unfold allowance
  rw [hrecord]
  by_cases hpast : n < after.repository.localHead
  · rw [if_pos hpast]
    exact Nat.zero_le _
  · rw [if_neg hpast, if_neg (by omega)]

theorem Moved.pushed {before after : Repository} (h : Moved before after)
    (hpushed : before.remoteHead ≠ 0 →
      before.remoteHead = before.localHead ∧ before.includedPaths = []) :
    after.remoteHead ≠ 0 → after.remoteHead = after.localHead ∧ after.includedPaths = [] := by
  intro hremote
  rcases h.remote with hsame | hdone
  · obtain ⟨hequal, hclean⟩ := hpushed (hsame ▸ hremote)
    rcases h.head with ⟨hlocal, hpaths⟩ | ⟨hincluded, -⟩
    · refine ⟨by omega, ?_⟩
      unfold Repository.includedPaths
      rw [hpaths]
      exact hclean
    · exact absurd hclean hincluded
  · exact hdone

section

variable (h : PushInvariant validate step setup world)

include h

section

variable (hready : PushReady validate step setup after.store)

include hready

section

variable (hmoved : Moved world.repository after.repository)

include hmoved

theorem steps_of_same
    (hrecord : after.store.pushRecord step setup = world.store.pushRecord step setup)
    (hretried : ∀ n, retried n = false) : Steps validate step setup world after retried where
  invariant :=
    { ready := hready
      placed := fun record hmem hinspected => by
        obtain ⟨k, hk, hhead⟩ := h.placed record (hrecord ▸ hmem) hinspected
        exact ⟨k, Nat.le_trans hk hmoved.local_le, hhead⟩
      first := fun record hmem => h.first record (hrecord ▸ hmem)
      pushed := hmoved.pushed h.pushed }
  precedes := by
    rw [hrecord]
    exact Precedes.refl h
  allowance_le := fun n => by
    rw [hretried n]
    exact allowance_le_of_same hrecord hmoved.local_le n

theorem steps_of_stopped {head state : String}
    (hrecord : after.store.pushRecord step setup = some ⟨head, 0, false, state⟩)
    (hkept : ¬∃ record ∈ world.store.pushRecord step setup, record.inspected = true)
    (hretried : ∀ n, retried n = false) : Steps validate step setup world after retried where
  invariant :=
    { ready := hready
      placed := fun record hmem hinspected => by
        rw [hrecord, Option.mem_def, Option.some.injEq] at hmem
        simp [← hmem] at hinspected
      first := fun record hmem _ => by
        rw [hrecord, Option.mem_def, Option.some.injEq] at hmem
        rw [← hmem]
      pushed := hmoved.pushed h.pushed }
  precedes := fun record hmem hinspected => absurd ⟨record, hmem, hinspected⟩ hkept
  allowance_le := fun n => by
    have hbefore : allowance step setup n world =
        if n < world.repository.localHead then 0 else setup.maxPushRetries := by
      unfold allowance
      cases hworld : world.store.pushRecord step setup with
      | none => rfl
      | some record =>
        have hnot : record.inspected ≠ true := fun hinspected =>
          hkept ⟨record, hworld, hinspected⟩
        simp [hnot]
    have hafter : allowance step setup n after =
        if n < after.repository.localHead then 0 else setup.maxPushRetries := by
      unfold allowance
      rw [hrecord]
      simp
    have hlocal := hmoved.local_le
    rw [hretried n, hbefore, hafter]
    by_cases hpast : n < after.repository.localHead
    · simp [hpast]
    · have hnot : ¬n < world.repository.localHead := by omega
      simp [hpast, hnot]

theorem steps_of_decided {m : Nat} {record : PushRecord} {outcome : StepOutcome}
    (hdecided : Decided validate step setup { world with commands := [] } run after
      m record outcome)
    (hretried : ∀ n, retried n = true → outcome = .retryable ∧ record.head = step.names.name n) :
    Steps validate step setup world after retried := by
  have hindex : record.index = nextIndex (world.store.pushRecord step setup) record.head :=
    hdecided.index
  have hlower : world.repository.localHead ≤ m := hdecided.lower
  have hupper := hdecided.upper
  refine ⟨⟨hready, ?_, ?_, hmoved.pushed h.pushed⟩, ?_, ?_⟩
  · intro other hmem _
    rw [hdecided.recorded, Option.mem_def, Option.some.injEq] at hmem
    exact ⟨m, hupper, hmem ▸ hdecided.head⟩
  · intro other hmem hnot
    rw [hdecided.recorded, Option.mem_def, Option.some.injEq] at hmem
    rw [← hmem, hdecided.inspected] at hnot
    simp at hnot
  · intro earlier hmem hinspected
    obtain ⟨k, hk, hhead⟩ := h.placed earlier hmem hinspected
    refine ⟨record, hdecided.recorded, hdecided.inspected, k, m, hhead, hdecided.head, ?_⟩
    by_cases hsame : k = m
    · refine Or.inr ⟨hsame, ?_⟩
      have hheads : earlier.head = record.head := by rw [hhead, hdecided.head, hsame]
      rw [hindex, Option.mem_def.mp hmem, nextIndex, if_pos hheads]
      exact Nat.le_succ _
    · exact Or.inl (by omega)
  · intro n
    have hlocal := hmoved.local_le
    by_cases hn : n = m
    · subst hn
      have hafter : allowance step setup n after =
          if n < after.repository.localHead then 0 else setup.maxPushRetries - (record.index + 1) := by
        unfold allowance
        rw [hdecided.recorded]
        simp only [hdecided.inspected, hdecided.head, and_self, if_true]
      have hbefore : setup.maxPushRetries - record.index ≤ allowance step setup n world := by
        unfold allowance
        rw [if_neg (by omega)]
        cases hworld : world.store.pushRecord step setup with
        | none => exact Nat.sub_le _ _
        | some earlier =>
          by_cases hsame : earlier.inspected = true ∧ earlier.head = step.names.name n
          · simp only [if_pos hsame]
            rw [hindex, hworld, nextIndex, if_pos (hsame.2.trans hdecided.head.symm)]
          · simp only [if_neg hsame]
            exact Nat.sub_le _ _
      rw [hafter]
      by_cases htried : retried n = true
      · have hsmall := hdecided.retryable (hretried n htried).1
        rw [if_pos htried]
        split <;> omega
      · rw [if_neg htried]
        split <;> omega
    · have htried : retried n = false := by
        rw [Bool.eq_false_iff]
        intro htried
        exact hn (step.names.injective ((hretried n htried).2.symm.trans hdecided.head))
      have hafter : allowance step setup n after =
          if n < after.repository.localHead then 0 else setup.maxPushRetries := by
        unfold allowance
        rw [hdecided.recorded]
        have hother : record.head ≠ step.names.name n := by
          rw [hdecided.head]
          exact fun hsame => hn (step.names.injective hsame).symm
        simp [hother]
      rw [htried, hafter]
      by_cases hpast : n < after.repository.localHead
      · simp [hpast]
      · have hbefore : allowance step setup n world = setup.maxPushRetries := by
          unfold allowance
          rw [if_neg (by omega)]
          cases hworld : world.store.pushRecord step setup with
          | none => rfl
          | some earlier =>
            have hother : ¬(earlier.inspected = true ∧ earlier.head = step.names.name n) := by
              rintro ⟨hinspected, hhead⟩
              obtain ⟨k, hk, hk'⟩ := h.placed earlier hworld hinspected
              have hkn := step.names.injective (hk'.symm.trans hhead)
              omega
            simp only [if_neg hother]
        simp [hpast, hbefore]

end

end

/-- **What one call does.** -/
theorem PushInvariant.steps {call : PushCall} (hpermitted : call.Permitted step)
    (hkeeps : KeepsCount validate step setup world call) :
    Steps validate step setup world
      ((pushMachine validate step setup).next world call)
      fun n => retries validate step setup n world call := by
  cases call with
  | write call =>
    obtain ⟨hready, hrecord⟩ := h.ready.write_other hpermitted.1 hpermitted.2
    have hmoved : Moved world.repository ((pushMachine validate step
      setup).next world (.write call)).repository := Moved.refl _
    exact steps_of_same h hready hmoved hrecord fun _ => rfl
  | push run =>
    obtain ⟨answer, hanswer, hend⟩ := pushMachine_push h.ready run
    generalize hafter : (pushMachine validate step setup).next world
      (.push run) = after at hend
    have hretries : ∀ n, retries validate step setup n world (.push run) =
        (answer == .ok .retryable &&
          (after.store.pushRecord step setup).map (·.head) == some (step.names.name n)) := by
      intro n
      show ((pushMachine validate step setup).answer world (.push run) ==
        some (.ok .retryable) && _) = _
      rw [hanswer, hafter]
      rfl
    have hmoved : Moved world.repository after.repository := hend.moved
    cases hend.outcome with
    | unrecorded answer hsame hbarred =>
      refine steps_of_same h hend.ready hmoved hsame fun n => ?_
      rw [hretries n, Bool.and_eq_false_iff]
      refine Or.inl (beq_eq_false_iff_ne.mpr fun hretry => ?_)
      exact absurd (hbarred _ hretry) (by simp)
    | stopped head hstops hrecorded =>
      refine steps_of_stopped h hend.ready hmoved hrecorded (fun hkept => ?_) fun n => ?_
      · have hnot := hkeeps hkept
        exact absurd (hstops.symm.trans hnot) (by simp)
      · rw [hretries n]
        rfl
    | decided m record outcome hdecided =>
      refine steps_of_decided h hend.ready hmoved hdecided fun n hretried => ?_
      rw [hretries n, hdecided.recorded, Bool.and_eq_true, beq_iff_eq, beq_iff_eq] at hretried
      exact ⟨Except.ok.inj hretried.1, Option.some.inj hretried.2⟩

end

end Runs

/-! ### The step is truthful, as long as its count is kept -/

/-- What a success says: the remote branch was looked at last, and is at the head that the
record is about. -/
structure Verified (step : PushStep) (setup : PushRunSetup) (after : PushWorld) : Prop where
  equal : after.repository.remoteHead = after.repository.localHead
  observed : after.commands.getLast? = some (.remoteHead step.remoteName step.remoteRef)
  recorded : (after.store.pushRecord step setup).map (·.head) =
    some (step.names.name after.repository.localHead)

/-- What an execution answers where the commit is on the remote branch: success where it finds
the worktree clean, and never that nothing has changed. -/
structure KnowsPushed (validate : FamilyInvariants) (step : PushStep)
    (setup : PushRunSetup) (world : PushWorld) (run : PushRun) : Prop where
  success : reachesCleanWorktree validate step setup world run = true →
    (pushMachine validate step setup).answer world (.push run) =
      some (.ok .success)
  outcome : (pushMachine validate step setup).answer world (.push run) ≠
    some (.ok .fixable)
  recorded : ∀ record ∈ ((pushMachine validate step setup).next world
    (.push run)).store.pushRecord step setup, record.state ∈ noChangeStates →
      some record = world.store.pushRecord step setup

section Truth

variable {validate : FamilyInvariants} {step : PushStep} {setup : PushRunSetup}
  {world : PushWorld}

section

variable (h : PushInvariant validate step setup world)

include h

theorem PushInvariant.verified {run : PushRun}
    (hsuccess : (pushMachine validate step setup).answer world (.push run) =
      some (.ok .success)) :
    Verified step setup
      ((pushMachine validate step setup).next world (.push run)) := by
  obtain ⟨answer, hanswer, hend⟩ := pushMachine_push h.ready run
  rw [hanswer, Option.some.injEq] at hsuccess
  subst hsuccess
  cases hend.outcome with
  | unrecorded _ _ hbarred => exact absurd (hbarred _ rfl) (by simp)
  | decided n record outcome hdecided =>
    obtain ⟨hequal, hhead, hlast⟩ := hdecided.success rfl
    refine ⟨hequal, hlast, ?_⟩
    rw [hdecided.recorded, Option.map_some, hdecided.head, hhead]

/-- **Where the commit is on the remote branch, an execution knows it if and only if it does not
get to see the worktree.** -/
theorem PushInvariant.knowsPushed_iff (hremote : world.repository.remoteHead ≠ 0) (run : PushRun) :
    KnowsPushed validate step setup world run ↔
      reachesCleanWorktree validate step setup world run = false := by
  obtain ⟨hequal, hclean⟩ := h.pushed hremote
  obtain ⟨answer, hanswer, hend⟩ := pushMachine_push h.ready run
  generalize hafter : (pushMachine validate step setup).next world (.push run) =
    after at hend
  constructor
  · intro hknows
    rw [Bool.eq_false_iff]
    intro hreaches
    have hsuccess := hknows.success hreaches
    rw [hanswer, Option.some.injEq] at hsuccess
    subst hsuccess
    cases hend.outcome with
    | unrecorded _ _ hbarred => exact absurd (hbarred _ rfl) (by simp)
    | decided n record outcome hdecided =>
      have hfixable := hdecided.clean hclean hequal
      simp at hfixable
  · intro hreaches
    have hunlooked : looksAtWorktree validate step setup
        { world with commands := [] } run ≠ true := by
      intro hlooked
      have hlooked' : looksAtWorktree validate step setup world run = true := hlooked
      unfold reachesCleanWorktree at hreaches
      rw [hlooked', hclean] at hreaches
      simp at hreaches
    refine ⟨fun htrue => absurd (htrue.symm.trans hreaches) (by simp), ?_, ?_⟩
    · rw [hanswer]
      intro hfixable
      obtain rfl := Option.some.inj hfixable
      cases hend.outcome with
      | unrecorded _ _ hbarred => exact absurd (hbarred _ rfl) (by simp)
      | decided n record outcome hdecided => exact hunlooked hdecided.looked
    · rw [hafter]
      intro record hmem hstate
      cases hend.outcome with
      | unrecorded _ hsame _ => exact hmem.symm.trans hsame
      | stopped head _ hrecorded =>
        rw [hrecorded, Option.mem_def, Option.some.injEq] at hmem
        rw [← hmem] at hstate
        simp [noChangeStates] at hstate
      | decided n record' outcome hdecided => exact absurd hdecided.looked hunlooked

theorem Precedes.index_le {after : Option PushRecord}
    (hafter : Precedes step (world.store.pushRecord step setup) after) {record later : PushRecord}
    (hrecord : record ∈ world.store.pushRecord step setup) (hlater : later ∈ after)
    (hsame : record.head = later.head) : record.index ≤ later.index := by
  cases hinspected : record.inspected with
  | false => exact (h.first record hrecord hinspected).symm ▸ Nat.zero_le _
  | true =>
    obtain ⟨found, hfound, -, k, k', hk, hk', horder⟩ := hafter record hrecord hinspected
    obtain rfl : found = later := Option.mem_unique hfound hlater
    have hplace : k = k' := step.names.injective (hk.symm.trans (hsame.trans hk'))
    omega

end

/-- **A run of pushes is truthful.**  A success has seen its own head on the remote branch.  No
head is tried again more often than is configured, and its index never goes down, as long as no
execution that stops early writes over the count.  Where the commit is on the remote branch, an
execution knows it exactly as long as it does not get to see the worktree. -/
theorem push_truthful {calls : List PushCall}
    (hstart : (pushMachine validate step setup).start world)
    (hcalls : (pushMachine validate step setup).Along
      (fun world call => call.Permitted step ∧
        KeepsCount validate step setup world call) world calls) :
    let machine := pushMachine validate step setup
    let next := machine.run world calls
    (∀ run, machine.answer next (.push run) = some (.ok .success) →
      Verified step setup (machine.next next (.push run))) ∧
    (next.repository.remoteHead ≠ 0 → ∀ run,
      (KnowsPushed validate step setup next run ↔
        reachesCleanWorktree validate step setup next run = false)) ∧
    (∀ n, machine.tally (retries validate step setup n) world calls ≤
      setup.maxPushRetries) ∧
    ∀ earlier later, calls = earlier ++ later →
      ∀ record ∈ (machine.run world earlier).store.pushRecord step setup,
      ∀ last ∈ next.store.pushRecord step setup,
        record.head = last.head → record.index ≤ last.index := by
  intro machine next
  have hinvariant : PushInvariant validate step setup world := by
    obtain ⟨hready, hrecord, hremote⟩ := hstart
    exact ⟨hready, by simp [hrecord], by simp [hrecord], fun hnot => absurd hremote hnot⟩
  have hkeeps : ∀ (world : PushWorld) (call : PushCall),
      (call.Permitted step ∧ KeepsCount validate step setup world call) →
      PushInvariant validate step setup world →
      PushInvariant validate step setup (machine.next world call) :=
    fun world call hcall h => (h.steps hcall.1 hcall.2).invariant
  have hnext : PushInvariant validate step setup next :=
    hcalls.invariant hkeeps hinvariant
  refine ⟨fun run => hnext.verified, fun hremote run => hnext.knowsPushed_iff hremote run,
    fun n => ?_, ?_⟩
  · have htally : machine.tally (retries validate step setup n) world calls ≤
        allowance step setup n world :=
      hcalls.tally_le (fun world call hcall h =>
        ⟨(h.steps hcall.1 hcall.2).invariant, (h.steps hcall.1 hcall.2).allowance_le n⟩) hinvariant
    refine Nat.le_trans htally ?_
    unfold allowance
    rw [hstart.2.1]
    split <;> simp
  · intro earlier later hsplit record hrecord last hlast hsame
    rw [hsplit, StateMachine.along_append] at hcalls
    have hmiddle := hcalls.1.invariant hkeeps hinvariant
    have hprecedes : PushInvariant validate step setup
          (machine.run (machine.run world earlier) later) ∧
        Precedes step ((machine.run world earlier).store.pushRecord step setup)
          ((machine.run (machine.run world earlier) later).store.pushRecord step setup) :=
      hcalls.2.invariant (P := fun world' =>
        PushInvariant validate step setup world' ∧
          Precedes step ((machine.run world earlier).store.pushRecord step setup)
            (world'.store.pushRecord step setup))
        (fun world' call hcall h => ⟨hkeeps world' call hcall h.1,
          h.2.trans (h.1.steps hcall.1 hcall.2).precedes⟩) ⟨hmiddle, Precedes.refl hmiddle⟩
    refine Precedes.index_le hmiddle hprecedes.2 hrecord ?_ hsame
    rw [← StateMachine.run_append, ← hsplit]
    exact hlast

end Truth

/-! ### A push that is not known again, and a count that is lost -/

/-- Names of commits: `a`, `aa`, and so on. -/
def exampleNames : CommitNames where
  name n := String.ofList (List.replicate (n + 1) 'a')
  injective := by
    intro n k h
    have hlength := congrArg String.length h
    simp only [String.length_ofList, List.length_replicate] at hlength
    omega
  named := by
    intro n h
    have hlength := congrArg String.length h
    simp at hlength
  known := by
    intro n h
    have hchars := congrArg String.toList h
    rw [String.toList_ofList, List.replicate_succ] at hchars
    have hhead := congrArg List.head? hchars
    simp at hhead

def shortBinding : PrFollowupBinding where
  schemaVersion := 1
  runId := "r"
  repositoryOwner := "o"
  repositoryName := "n"
  prNumber := 7
  headRef := "f"
  headSha := "h"
  baseRef := "b"
  baseSha := none

def exampleStep : PushStep where
  names := exampleNames
  binding := shortBinding
  params := .obj []
  stepId := "p"
  identified := by decide
  workingDirectory := "w"
  remoteRef := "m"
  workflowPaths := .ok fun _ => false

def shortCall (artifactFamily : String) (payload : List (String × Json)) : WriteCall :=
  exampleCall
    { binding := shortBinding
      artifactFamily := artifactFamily
      producerStepId := "s"
      stepOrderIndex := 0
      writtenAt := 0
      producedAt := 0
      payload := .obj payload } .published

/-- What has to be fixed, and what was done about it. -/
def exampleItem (more : List (String × Json)) : Json :=
  .obj ([("source_type", .str "ci_failure"), ("source_id", .str "build")] ++ more)

/-- A plan with one item, a result for it, and a local verification that has passed. -/
def exampleArtifacts : List WriteCall :=
  [shortCall planFamily [("must_fix", .arr [exampleItem []])],
   shortCall resultFamily
    [("results", .arr [exampleItem
      [("status", .str "fixed"), ("evidence", .arr [.str "src/lib.rs"])]])],
   shortCall testFamily
    [("test_state", .str "passed"),
     ("plan_artifact_sequence", .num 1),
     ("remediation_result_artifact_sequence", .num 2),
     ("retry_scope", .obj
      [("run_id", .str "r"),
       ("repository_owner", .str "o"),
       ("repository_name", .str "n"),
       ("pr_number", .num 7),
       ("head_sha", .str "h"),
       ("plan_artifact_sequence", .num 1),
       ("remediation_result_artifact_sequence", .num 2)]),
     ("commands", .arr [.obj [("command_id", .str "test"), ("status", .str "passed")]])]]

theorem exampleArtifacts_wellFormed :
    ∀ call ∈ exampleArtifacts, WellFormed shortBinding call.request := by
  intro call hcall
  simp only [exampleArtifacts, List.mem_cons, List.not_mem_nil, or_false] at hcall
  rcases hcall with rfl | rfl | rfl
  all_goals
    constructor
    case binding => decide
    case producer => decide
    case unnamed => rfl
    case successful => exact fun _ => rfl
    case shallow => decide
    case details => simp [shortCall, exampleCall]

theorem exampleStore_ledger {calls : List WriteCall}
    (hcalls : ∀ call ∈ calls, WellFormed shortBinding call.request) {store : ArtifactStore}
    (h : Ledger exampleInvariants shortBinding store) :
    Ledger exampleInvariants shortBinding ((artifactMachine exampleInvariants).run store calls) := by
  induction calls generalizing store with
  | nil => exact h
  | cons call rest ih =>
    exact ih (fun other hother => hcalls other (List.mem_cons_of_mem _ hother))
      (h.next (hcalls call (List.mem_cons_self ..)))

def examplePushWorld : PushWorld where
  store := (artifactMachine exampleInvariants).run { root := "" } exampleArtifacts
  repository := { localHead := 0, remoteHead := 0, changedPaths := ["src/lib.rs"] }

def exampleSetup : PushRunSetup :=
  match loadPushRunSetup exampleInvariants exampleStep examplePushWorld.store with
  | .ok setup => setup
  | .error _ => ⟨.null, .null, 0, 0⟩

def exampleMachine : StateMachine PushWorld PushCall (Option (Except String StepOutcome)) :=
  pushMachine exampleInvariants exampleStep exampleSetup

def exampleRun : PushRun where
  order := ⟨id, fun files => List.Perm.refl files⟩
  pushedAt := 0
  writtenAt := 0

/-- A push that lands, and is reported to have failed. -/
def lostPush : PushRun := { exampleRun with push := { fate := .failed true false } }

def failedPush : PushRun := { exampleRun with push := { fate := .failed false false } }

/-- An execution that cannot read the local head. -/
def blindPush : PushRun := { exampleRun with localHead := { fate := .failed false false } }

def landedWorld : PushWorld := exampleMachine.next examplePushWorld (.push lostPush)

theorem examplePush_evaluated :
    loadPushRunSetup exampleInvariants exampleStep examplePushWorld.store = .ok exampleSetup ∧
      examplePushWorld.store.pushRecord exampleStep exampleSetup = none ∧
      exampleSetup.maxPushRetries = 1 ∧
      exampleMachine.answer examplePushWorld (.push lostPush) = some (.ok .retryable) ∧
      landedWorld.repository.localHead = 1 ∧ landedWorld.repository.remoteHead = 1 ∧
      reachesCleanWorktree exampleInvariants exampleStep exampleSetup landedWorld exampleRun =
        true ∧
      exampleMachine.answer landedWorld (.push exampleRun) = some (.ok .fixable) ∧
      exampleMachine.tally (retries exampleInvariants exampleStep exampleSetup 1) examplePushWorld
        [.push failedPush, .push blindPush, .push failedPush] = 2 := by
  decide +kernel

theorem exampleMachine_start : exampleMachine.start examplePushWorld := by
  obtain ⟨hloaded, hrecord, -⟩ := examplePush_evaluated
  exact ⟨⟨by decide, exampleStore_ledger exampleArtifacts_wellFormed (ledger_of_empty rfl rfl),
    hloaded⟩, hrecord, rfl⟩

/-- A push that fails is tried again no more often than is configured. -/
theorem push_truthful_example :
    exampleMachine.tally (retries exampleInvariants exampleStep exampleSetup 1) examplePushWorld
      [.push failedPush] ≤ 1 := by
  have hrecord := examplePush_evaluated.2.1
  have hkeeps : KeepsCount exampleInvariants exampleStep exampleSetup examplePushWorld
      (.push failedPush) := by
    rintro ⟨record, hmem, -⟩
    rw [hrecord] at hmem
    simp at hmem
  have hcalls : exampleMachine.Along
      (fun world call => call.Permitted exampleStep ∧
        KeepsCount exampleInvariants exampleStep exampleSetup world call) examplePushWorld
      [.push failedPush] := ⟨⟨trivial, hkeeps⟩, trivial⟩
  have htally := (push_truthful exampleMachine_start hcalls).2.2.1 1
  rw [examplePush_evaluated.2.2.1] at htally
  exact htally

/-- A push that has landed is not known again: the execution after it sees the worktree clean,
and says that nothing has changed.  And a failure to read the local head takes the count back, so
that a head is tried again more often than is configured. -/
theorem push_not_truthful :
    (exampleMachine.start examplePushWorld ∧ exampleSetup.maxPushRetries = 1) ∧
      (exampleMachine.answer examplePushWorld (.push lostPush) = some (.ok .retryable) ∧
        landedWorld.repository.localHead = 1 ∧ landedWorld.repository.remoteHead = 1 ∧
        reachesCleanWorktree exampleInvariants exampleStep exampleSetup landedWorld exampleRun =
          true ∧
        exampleMachine.answer landedWorld (.push exampleRun) = some (.ok .fixable)) ∧
      exampleMachine.tally (retries exampleInvariants exampleStep exampleSetup 1) examplePushWorld
        [.push failedPush, .push blindPush, .push failedPush] = 2 := by
  obtain ⟨-, -, hretries, hlost, hlocal, hremote, hreaches, hfixable, htally⟩ :=
    examplePush_evaluated
  exact ⟨⟨exampleMachine_start, hretries⟩, ⟨hlost, hlocal, hremote, hreaches, hfixable⟩, htally⟩

end Luther
