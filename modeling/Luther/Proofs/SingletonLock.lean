/-
The lock of one path, whatever its processes do between two operations.

`LockInvariant` ties a holder to the file: a process that holds the guard, or that is writing its
id, has created the file that is there.  It survives every operation but three: the removal of a
file that was judged stale and has been replaced since, the second removal of a guard that was
released, where another process has the lock by then, and the end of a process that has created
the file and not yet written its id.  `Careful` is the absence of these three.
-/
import Luther.Monitor.SingletonLock

namespace Luther

/-! ### Calls that meet nothing unexpected -/

def LockCall.pid : LockCall → UInt32
  | .start pid | .acquire pid _ | .advance pid _ | .drop pid _ | .release pid _ | .crash pid => pid

/-- A removal of a file that was judged stale finds one that a dead process has left; a removal
after a release, or after a failed write, finds no file of another process, and the latter does
not fail; and no process ends between creating the file and having written its id. -/
def LockCall.Careful (state : LockState) : LockCall → Prop
  | .advance pid io =>
    (state.phase pid = .removing → ∀ file ∈ state.file, state.phase file.creator = .gone) ∧
    (state.phase pid = .releasing → ∀ file ∈ state.file, file.creator = pid) ∧
    ∀ error, state.phase pid = .cleaning error →
      io.error = none ∧ ∀ file ∈ state.file, file.creator = pid
  | .crash pid => state.phase pid ≠ .writing ∧ ∀ error, state.phase pid ≠ .cleaning error
  | _ => True

/-- What is asked of a failed write can be looked at. -/
instance decidableCleaning {P : String → Prop} [DecidablePred P] :
    (phase : LockPhase) → Decidable (∀ error, phase = .cleaning error → P error)
  | .cleaning error => decidable_of_iff (P error)
      ⟨fun h _ heq => LockPhase.cleaning.inj heq ▸ h, fun h => h error rfl⟩
  | .unborn | .gone | .idle | .reading | .removing | .creating | .rereading _ | .writing
  | .holding | .releasing => isTrue fun _ heq => by simp at heq

instance decidableCareful (state : LockState) :
    (call : LockCall) → Decidable (call.Careful state)
  | .advance pid io =>
    have := decidableCleaning
      (P := fun _ => io.error = none ∧ ∀ file ∈ state.file, file.creator = pid)
      (state.phase pid)
    inferInstanceAs (Decidable (_ ∧ _ ∧ _))
  | .crash pid =>
    have := decidableCleaning (P := fun _ => False) (state.phase pid)
    inferInstanceAs (Decidable (_ ∧ ∀ error, state.phase pid = .cleaning error → False))
  | .start _ | .acquire _ _ | .drop _ _ | .release _ _ => isTrue trivial

/-! ### What a call can do -/

/-- A process has no file of its own to answer for. -/
def LockPhase.Quiet (phase : LockPhase) : Prop :=
  phase ≠ .holding ∧ phase ≠ .writing ∧ ∀ error, phase ≠ .cleaning error

theorem quiet_of_ne {phase : LockPhase} (hholding : phase ≠ .holding) (hwriting : phase ≠ .writing)
    (hcleaning : ∀ error, phase ≠ .cleaning error) : phase.Quiet :=
  ⟨hholding, hwriting, hcleaning⟩

/-- A process that holds the guard or writes its id has created the file that is there. -/
structure LockInvariant (state : LockState) : Prop where
  holder : ∀ pid, state.phase pid = .holding →
    ∃ file ∈ state.file, file.creator = pid ∧ file.content = pidText pid
  writer : ∀ pid, state.phase pid = .writing → ∃ file ∈ state.file, file.creator = pid

/-- The file holds the id of its creator, where the creator is not about to see to it. -/
def LockState.Complete (state : LockState) : Prop :=
  ∀ file ∈ state.file, file.content = pidText file.creator ∨
    state.phase file.creator = .writing ∨ ∃ error, state.phase file.creator = .cleaning error

/-- What a careful call of a process makes of the state. -/
inductive LockChange (pid : UInt32) (state : LockState) : LockState → Prop where
  | stays : LockChange pid state state
  | moves (phase : LockPhase) (hquiet : phase.Quiet) (hwriting : state.phase pid ≠ .writing)
      (hcleaning : ∀ error, state.phase pid ≠ .cleaning error) :
      LockChange pid state (state.enter pid phase)
  | removes (phase : LockPhase) (hquiet : phase.Quiet) (hwriting : state.phase pid ≠ .writing)
      (hfile : ∀ file ∈ state.file, file.creator = pid ∨ state.phase file.creator = .gone) :
      LockChange pid state ({ state with file := none }.enter pid phase)
  | creates (hfree : state.file = none) :
      LockChange pid state ({ state with file := some ⟨"", pid⟩ }.enter pid .writing)
  | writes (content : String) (phase : LockPhase) (hwriting : state.phase pid = .writing)
      (hphase : phase = .holding ∧ content = pidText pid ∨ ∃ error, phase = .cleaning error) :
      LockChange pid state ((writeContent pid content state).enter pid phase)

section Step

variable {state : LockState} {call : LockCall} {pid : UInt32} {io : FileIo}

@[simp] theorem LockState.enter_file (phase : LockPhase) :
    (state.enter pid phase).file = state.file := rfl

@[simp] theorem LockState.enter_self (phase : LockPhase) :
    (state.enter pid phase).phase pid = phase := Function.update_self ..

theorem LockState.enter_ne {other : UInt32} (h : other ≠ pid) (phase : LockPhase) :
    (state.enter pid phase).phase other = state.phase other := Function.update_of_ne h ..

theorem lockChange_removeFile {phase : LockPhase} (hquiet : phase.Quiet)
    (hwriting : state.phase pid ≠ .writing)
    (hcleaning : io.error ≠ none → ∀ error, state.phase pid ≠ .cleaning error)
    (hfile : ∀ file ∈ state.file, file.creator = pid ∨ state.phase file.creator = .gone) :
    LockChange pid state ((removeFile io state).2.enter pid phase) := by
  unfold removeFile
  cases herror : io.error with
  | none => exact .removes phase hquiet hwriting hfile
  | some error => exact .moves phase hquiet hwriting (hcleaning (by simp [herror]))

theorem LockInvariant.giveUp_change (h : LockInvariant state) {after : LockPhase}
    (hafter : after.Quiet) : LockChange pid state (giveUp pid io after state).2 := by
  unfold giveUp
  by_cases hholding : state.phase pid = .holding
  · rw [if_pos hholding]
    refine lockChange_removeFile hafter (by simp [hholding]) (by simp [hholding]) ?_
    intro file hfile
    obtain ⟨own, hown, hcreator, -⟩ := h.holder pid hholding
    exact Or.inl (Option.mem_unique hfile hown ▸ hcreator)
  · rw [if_neg hholding]
    exact .stays

theorem advanceLock_change (hcall : (LockCall.advance pid io).Careful state) :
    LockChange pid state (advanceLock pid io state).2 := by
  obtain ⟨hremoving, hreleasing, hcleaning⟩ := hcall
  have hidle : LockPhase.idle.Quiet := quiet_of_ne (by simp) (by simp) (by simp)
  unfold advanceLock
  cases hphase : state.phase pid with
  | unborn | gone | idle | holding => exact .stays
  | reading =>
    have hmoves : ∀ phase : LockPhase, phase.Quiet →
        LockChange pid state (state.enter pid phase) := fun phase hquiet =>
      .moves phase hquiet (by simp [hphase]) (by simp [hphase])
    cases readLockPid io state with
    | error error => exact hmoves _ hidle
    | ok owner =>
      dsimp only
      split_ifs
      · exact hmoves _ hidle
      · exact hmoves _ (quiet_of_ne (by simp) (by simp) (by simp))
  | removing =>
    have hfile : ∀ file ∈ state.file, file.creator = pid ∨ state.phase file.creator = .gone :=
      fun file hfile => Or.inr (hremoving hphase file hfile)
    unfold removeFile
    cases io.error with
    | some error => exact .moves _ hidle (by simp [hphase]) (by simp [hphase])
    | none => exact .removes _ (quiet_of_ne (by simp) (by simp) (by simp)) (by simp [hphase]) hfile
  | creating =>
    cases io.error with
    | some error => exact .moves _ hidle (by simp [hphase]) (by simp [hphase])
    | none =>
      cases hfile : state.file with
      | some file =>
        exact .moves _ (quiet_of_ne (by simp) (by simp) (by simp)) (by simp [hphase])
          (by simp [hphase])
      | none => exact .creates hfile
  | rereading left =>
    have hmoves : ∀ phase : LockPhase, phase.Quiet →
        LockChange pid state (state.enter pid phase) := fun phase hquiet =>
      .moves phase hquiet (by simp [hphase]) (by simp [hphase])
    cases readLockPid io state with
    | ok owner => exact hmoves _ hidle
    | error error =>
      dsimp only
      split_ifs
      · exact hmoves _ hidle
      · exact hmoves _ (quiet_of_ne (by simp) (by simp) (by simp))
  | writing =>
    cases io.error with
    | none => exact .writes _ _ hphase (Or.inl ⟨rfl, rfl⟩)
    | some error => exact .writes _ _ hphase (Or.inr ⟨error, rfl⟩)
  | cleaning error =>
    obtain ⟨hio, hown⟩ := hcleaning error hphase
    exact lockChange_removeFile hidle (by simp [hphase]) (by simp [hio])
      fun file hfile => Or.inl (hown file hfile)
  | releasing =>
    exact lockChange_removeFile hidle (by simp [hphase]) (by simp [hphase])
      fun file hfile => Or.inl (hreleasing hphase file hfile)

/-- **What a careful call can do.** -/
theorem LockInvariant.change (h : LockInvariant state) (hcall : call.Careful state) :
    LockChange call.pid state (lockMachine.next state call) := by
  have hidle : LockPhase.idle.Quiet := quiet_of_ne (by simp) (by simp) (by simp)
  unfold StateMachine.next lockMachine
  cases call with
  | start pid =>
    show LockChange pid state (if state.phase pid = .unborn then _ else _ :
      LockAnswer × LockState).2
    by_cases hunborn : state.phase pid = .unborn
    · rw [if_pos hunborn]
      exact .moves _ hidle (by simp [hunborn]) (by simp [hunborn])
    · rw [if_neg hunborn]
      exact .stays
  | acquire pid io =>
    show LockChange pid state (beginAcquire pid io state).2
    unfold beginAcquire
    by_cases hphase : state.phase pid = .idle
    · rw [if_pos hphase]
      split_ifs
      all_goals
        exact .moves _ (quiet_of_ne (by simp) (by simp) (by simp)) (by simp [hphase])
          (by simp [hphase])
    · rw [if_neg hphase]
      exact .stays
  | advance pid io => exact advanceLock_change hcall
  | drop pid io => exact h.giveUp_change hidle
  | release pid io => exact h.giveUp_change (quiet_of_ne (by simp) (by simp) (by simp))
  | crash pid =>
    show LockChange pid state (if state.isProcessAlive pid = true then _ else _ :
      LockAnswer × LockState).2
    by_cases halive : state.isProcessAlive pid = true
    · rw [if_pos halive]
      exact .moves _ (quiet_of_ne (by simp) (by simp) (by simp)) hcall.1 hcall.2
    · rw [if_neg halive]
      exact .stays

/-! ### The invariant -/

theorem mem_writeContent {content : String} {file : LockFile} :
    file ∈ (writeContent pid content state).file ↔ ∃ before ∈ state.file,
      file = if before.creator = pid then { before with content := content } else before := by
  unfold writeContent
  rw [Option.mem_def, Option.map_eq_some_iff]
  exact exists_congr fun before => and_congr_right fun _ => eq_comm

theorem LockInvariant.of_change (h : LockInvariant state) {next : LockState}
    (hchange : LockChange pid state next) : LockInvariant next := by
  cases hchange with
  | stays => exact h
  | moves phase hquiet hwriting hcleaning =>
    constructor
    · intro other hother
      have hne : other ≠ pid := by
        rintro rfl
        exact hquiet.1 (by simpa using hother)
      rw [LockState.enter_ne hne] at hother
      exact h.holder other hother
    · intro other hother
      have hne : other ≠ pid := by
        rintro rfl
        exact hquiet.2.1 (by simpa using hother)
      rw [LockState.enter_ne hne] at hother
      exact h.writer other hother
  | removes phase hquiet hwriting hfile =>
    -- Another process that holds or writes would have created the file that is removed.
    have hnone : ∀ other, other ≠ pid → ∀ file ∈ state.file, file.creator = other →
        state.phase other = .gone := by
      rintro other hne file hmem rfl
      exact (hfile file hmem).resolve_left hne
    constructor
    · intro other hother
      have hne : other ≠ pid := by
        rintro rfl
        exact hquiet.1 (by simpa using hother)
      rw [LockState.enter_ne hne] at hother
      obtain ⟨file, hmem, hcreator, -⟩ := h.holder other hother
      have hgone := hnone other hne file hmem hcreator
      have hholding : state.phase other = .holding := hother
      simp [hgone] at hholding
    · intro other hother
      have hne : other ≠ pid := by
        rintro rfl
        exact hquiet.2.1 (by simpa using hother)
      rw [LockState.enter_ne hne] at hother
      obtain ⟨file, hmem, hcreator⟩ := h.writer other hother
      have hgone := hnone other hne file hmem hcreator
      have hwriting' : state.phase other = .writing := hother
      simp [hgone] at hwriting'
  | creates hfree =>
    constructor
    · intro other hother
      have hne : other ≠ pid := by
        rintro rfl
        simp at hother
      rw [LockState.enter_ne hne] at hother
      obtain ⟨file, hmem, -⟩ := h.holder other hother
      simp [hfree] at hmem
    · intro other hother
      by_cases hne : other = pid
      · exact ⟨⟨"", pid⟩, rfl, hne.symm⟩
      · rw [LockState.enter_ne hne] at hother
        obtain ⟨file, hmem, -⟩ := h.writer other hother
        simp [hfree] at hmem
  | writes content phase hwriting hphase =>
    obtain ⟨own, hown, hcreator⟩ := h.writer pid hwriting
    have hwritten : { own with content := content } ∈ (writeContent pid content state).file :=
      mem_writeContent.mpr ⟨own, hown, by rw [if_pos hcreator]⟩
    have honly : ∀ other, other ≠ pid → ∀ file ∈ state.file, file.creator ≠ other := by
      rintro other hne file hmem rfl
      exact hne (Option.mem_unique hmem hown ▸ hcreator)
    constructor
    · intro other hother
      by_cases hne : other = pid
      · subst hne
        rw [LockState.enter_self] at hother
        rcases hphase with ⟨-, hcontent⟩ | ⟨error, hcleaning⟩
        · exact ⟨_, hwritten, hcreator, hcontent⟩
        · simp [hcleaning] at hother
      · rw [LockState.enter_ne hne] at hother
        obtain ⟨file, hmem, hfile, -⟩ := h.holder other hother
        exact absurd hfile (honly other hne file hmem)
    · intro other hother
      by_cases hne : other = pid
      · exact ⟨_, hwritten, hcreator.trans hne.symm⟩
      · rw [LockState.enter_ne hne] at hother
        obtain ⟨file, hmem, hfile⟩ := h.writer other hother
        exact absurd hfile (honly other hne file hmem)

theorem LockState.Complete.of_change (h : state.Complete) {next : LockState}
    (hchange : LockChange pid state next) : next.Complete := by
  cases hchange with
  | stays => exact h
  | moves phase hquiet hwriting hcleaning =>
    intro file hfile
    refine (h file hfile).imp_right fun hbusy => ?_
    have hne : file.creator ≠ pid := by
      rintro rfl
      exact hbusy.elim hwriting fun ⟨error, herror⟩ => hcleaning error herror
    rw [LockState.enter_ne hne]
    exact hbusy
  | removes phase hquiet hwriting hfile =>
    intro file hmem
    simp at hmem
  | creates hfree =>
    intro file hmem
    obtain rfl : (⟨"", pid⟩ : LockFile) = file := Option.some.inj hmem
    exact Or.inr (Or.inl (LockState.enter_self _))
  | writes content phase hwriting hphase =>
    intro file hmem
    obtain ⟨before, hbefore, rfl⟩ := mem_writeContent.mp hmem
    by_cases hcreator : before.creator = pid
    · rw [if_pos hcreator]
      rcases hphase with ⟨-, hcontent⟩ | ⟨error, hcleaning⟩
      · exact Or.inl (hcontent.trans (congrArg pidText hcreator.symm))
      · refine Or.inr (Or.inr ⟨error, ?_⟩)
        show (LockState.enter pid phase _).phase before.creator = _
        rw [hcreator, LockState.enter_self, hcleaning]
    · rw [if_neg hcreator, LockState.enter_ne hcreator]
      exact h before hbefore

theorem lockInvariant_start (h : lockMachine.start state) : LockInvariant state := by
  have hphase : ∀ pid, state.phase pid ≠ .holding ∧ state.phase pid ≠ .writing := by
    intro pid
    rcases h.1 pid with hpid | hpid | hpid <;> simp [hpid]
  exact ⟨fun pid hpid => absurd hpid (hphase pid).1, fun pid hpid => absurd hpid (hphase pid).2⟩

end Step

/-! ### An acquisition that nobody disturbs -/

theorem parseU32_pidText (pid : UInt32) : parseU32 (trim (pidText pid)) = some pid := by
  have hblank : ∀ c ∈ (pidText pid).toList, isWhitespace c = false := fun c hc =>
    isWhitespace_of_isDigit (isDigit_of_mem_repr hc)
  rw [trim_of_no_blank hblank]
  exact parseU32_repr pid

/-- The operations of an acquisition, none of which fails. -/
def acquisition (pid : UInt32) : List LockCall :=
  .acquire pid {} :: List.replicate 4 (.advance pid {})

section Acquisition

variable {state : LockState} {pid : UInt32}

theorem next_advance : lockMachine.next state (.advance pid {}) = (advanceLock pid {} state).2 :=
  rfl

theorem run_holding (hphase : state.phase pid = .holding) (n : Nat) :
    lockMachine.run state (List.replicate n (.advance pid {})) = state := by
  induction n with
  | zero => rfl
  | succ n ih =>
    have hstays : lockMachine.next state (.advance pid {}) = state := by
      rw [next_advance]
      unfold advanceLock
      simp only [hphase]
    rw [List.replicate_succ, StateMachine.run_cons, hstays, ih]

theorem creating_holding (hphase : state.phase pid = .creating) (hfree : state.file = none) :
    (lockMachine.run state (List.replicate 2 (.advance pid {}))).phase pid = .holding := by
  have hcreate : lockMachine.next state (.advance pid {}) =
      { state with file := some ⟨"", pid⟩ }.enter pid .writing := by
    rw [next_advance]
    unfold advanceLock
    simp only [hphase, hfree]
  show (lockMachine.next (lockMachine.next state _) _).phase pid = _
  rw [hcreate, next_advance]
  unfold advanceLock
  simp only [LockState.enter_self]

theorem reading_creating {file : LockFile} (hphase : state.phase pid = .reading)
    (hfile : state.file = some file) (hcontent : file.content = pidText file.creator)
    (hgone : state.phase file.creator = .gone) :
    (lockMachine.run state (List.replicate 2 (.advance pid {}))).phase pid = .creating ∧
      (lockMachine.run state (List.replicate 2 (.advance pid {}))).file = none := by
  have hne : file.creator ≠ pid := by
    intro heq
    rw [heq, hphase] at hgone
    simp at hgone
  have hread : lockMachine.next state (.advance pid {}) = state.enter pid .removing := by
    rw [next_advance]
    unfold advanceLock readLockPid LockState.isProcessAlive
    simp only [hphase, hfile, hcontent, parseU32_pidText, hgone]
    rw [if_neg (by simp [hne])]
  show (lockMachine.next (lockMachine.next state _) _).phase pid = _ ∧
    (lockMachine.next (lockMachine.next state _) _).file = _
  rw [hread, next_advance]
  unfold advanceLock
  simp only [LockState.enter_self]
  exact ⟨LockState.enter_self _, rfl⟩

/-- **A process that nobody disturbs gets the lock, where the file is not there, or names the
process that has left it behind.** -/
theorem acquisition_holding (hphase : state.phase pid = .idle) (hcomplete : state.Complete)
    (hgone : ∀ file ∈ state.file, state.phase file.creator = .gone) :
    (lockMachine.run state (acquisition pid)).phase pid = .holding := by
  have hsplit : acquisition pid = .acquire pid {} :: (List.replicate 2 (.advance pid {}) ++
      List.replicate 2 (.advance pid {})) := rfl
  rw [hsplit, StateMachine.run_cons, StateMachine.run_append]
  cases hfile : state.file with
  | none =>
    have hbegin : lockMachine.next state (.acquire pid {}) = state.enter pid .creating := by
      show (beginAcquire pid {} state).2 = _
      unfold beginAcquire
      rw [if_pos hphase, if_neg (by simp [hfile])]
    have hheld : (lockMachine.run (state.enter pid .creating)
        (List.replicate 2 (.advance pid {}))).phase pid = .holding :=
      creating_holding (LockState.enter_self _) hfile
    rw [hbegin, run_holding hheld]
    exact hheld
  | some file =>
    have hleft : state.phase file.creator = .gone := hgone file hfile
    have hbegin : lockMachine.next state (.acquire pid {}) = state.enter pid .reading := by
      show (beginAcquire pid {} state).2 = _
      unfold beginAcquire
      rw [if_pos hphase, if_pos (by simp [hfile])]
    have hne : file.creator ≠ pid := by
      intro heq
      rw [heq, hphase] at hleft
      simp at hleft
    have hcontent : file.content = pidText file.creator := by
      refine (hcomplete file hfile).resolve_right fun hbusy => ?_
      rw [hleft] at hbusy
      simp at hbusy
    have hreading : (state.enter pid .reading).phase pid = .reading := LockState.enter_self _
    have hstale : (state.enter pid .reading).phase file.creator = .gone :=
      (LockState.enter_ne hne _).trans hleft
    obtain ⟨hcreating, hfree⟩ := reading_creating hreading hfile hcontent hstale
    rw [hbegin]
    exact creating_holding hcreating hfree

end Acquisition

/-! ### The three laws -/

/-- The call is one that gives the guard of the process up. -/
def LockCall.GivesUp (pid : UInt32) (state : LockState) (call : LockCall) : Prop :=
  ∃ io, call = .drop pid io ∨ call = .release pid io ∨
    call = .advance pid io ∧ state.phase pid = .releasing

theorem mem_of_mem_removedFile {io : FileIo} {state : LockState} {file : LockFile}
    (h : file ∈ removedFile io state) : file ∈ state.file := by
  unfold removedFile removeFile at h
  cases herror : io.error with
  | some error => simp [herror, Except.toOption] at h
  | none => simpa [herror, Except.toOption] using h

/-- **A guard that is given up takes the own file away, and no other.** -/
theorem LockInvariant.givesUp {state : LockState} (h : LockInvariant state) {call : LockCall}
    {pid : UInt32} (hgives : call.GivesUp pid state) (hcareful : call.Careful state)
    {file : LockFile} (hremoved : file ∈ (lockMachine.answer state call).removed) :
    file.creator = pid := by
  have hgiveUp : ∀ io after, file ∈ (giveUp pid io after state).1.removed → file.creator = pid := by
    intro io after hremoved
    unfold giveUp at hremoved
    by_cases hholding : state.phase pid = .holding
    · rw [if_pos hholding] at hremoved
      have hfile := mem_of_mem_removedFile hremoved
      obtain ⟨own, hown, hcreator, -⟩ := h.holder pid hholding
      exact Option.mem_unique hfile hown ▸ hcreator
    · rw [if_neg hholding] at hremoved
      simp at hremoved
  obtain ⟨io, rfl | rfl | ⟨rfl, hreleasing⟩⟩ := hgives
  · exact hgiveUp io .idle hremoved
  · exact hgiveUp io .releasing hremoved
  · have hfile : file ∈ (advanceLock pid io state).1.removed := hremoved
    unfold advanceLock at hfile
    simp only [hreleasing] at hfile
    exact hcareful.2.1 hreleasing file (mem_of_mem_removedFile hfile)

/-- **Along a run of careful calls one process holds the guard at most, a guard that is given up
takes no file of another process away, and a process that nobody disturbs gets the lock after its
holder has crashed, where the file that the run starts with names the process that left it.** -/
theorem singleton_lock_laws {start : LockState} {calls : List LockCall}
    (hstart : lockMachine.start start)
    (hcalls : lockMachine.Along (fun state call => call.Careful state) start calls) :
    let state := lockMachine.run start calls
    (∀ pid other, state.phase pid = .holding → state.phase other = .holding → pid = other) ∧
      (∀ pid call, call.GivesUp pid state → call.Careful state →
        ∀ file ∈ (lockMachine.answer state call).removed, file.creator = pid) ∧
      ((∀ file ∈ start.file, file.content = pidText file.creator) → ∀ pid,
        state.phase pid = .idle →
        (∀ file ∈ state.file, state.phase file.creator = .gone) →
        (lockMachine.run state (acquisition pid)).phase pid = .holding) := by
  intro state
  have hinvariant : LockInvariant state :=
    hcalls.invariant (fun _ _ hcareful h => h.of_change (h.change hcareful))
      (lockInvariant_start hstart)
  refine ⟨fun pid other hpid hother => ?_, fun pid call hgives hcareful file hremoved =>
    hinvariant.givesUp hgives hcareful hremoved, fun hnamed pid hidle hgone => ?_⟩
  · obtain ⟨file, hfile, hcreator, -⟩ := hinvariant.holder pid hpid
    obtain ⟨file', hfile', hcreator', -⟩ := hinvariant.holder other hother
    obtain rfl := Option.mem_unique hfile hfile'
    exact hcreator.symm.trans hcreator'
  · have hboth : LockInvariant state ∧ state.Complete :=
      hcalls.invariant (P := fun s => LockInvariant s ∧ s.Complete)
        (fun _ _ hcareful h =>
          ⟨h.1.of_change (h.1.change hcareful), h.2.of_change (h.1.change hcareful)⟩)
        ⟨lockInvariant_start hstart, fun file hfile => Or.inl (hnamed file hfile)⟩
    exact acquisition_holding hidle hboth.2 hgone

/-! ### Contenders -/

/-- Two processes, and the file that a third has left behind. -/
def staleLock : LockState where
  file := some ⟨"9", 9⟩
  phase pid := if pid = 9 then .gone else .idle

/-- The first process takes the lock over, and releases it; then the second takes it. -/
def handOver : List LockCall :=
  acquisition 1 ++ [.release 1 {}, .advance 1 {}] ++ acquisition 2

theorem staleLock_start : lockMachine.start staleLock := by
  refine ⟨fun pid => ?_, fun file hfile => ?_⟩
  · by_cases hpid : pid = 9
    · exact Or.inr (Or.inl (if_pos hpid))
    · exact Or.inr (Or.inr (if_neg hpid))
  · obtain rfl : (⟨"9", 9⟩ : LockFile) = file := Option.some.inj hfile
    rfl

/-- Two processes that want the lock one after the other. -/
theorem singleton_lock_handed_over :
    (lockMachine.run staleLock handOver).phase 1 = .idle ∧
      (lockMachine.run staleLock handOver).phase 2 = .holding ∧
      ∀ other, (lockMachine.run staleLock handOver).phase other = .holding → other = 2 := by
  have hcareful : lockMachine.Along (fun state call => call.Careful state) staleLock handOver := by
    decide +kernel
  have hends : (lockMachine.run staleLock handOver).phase 1 = .idle ∧
      (lockMachine.run staleLock handOver).phase 2 = .holding := by decide +kernel
  obtain ⟨honce, -, -⟩ := singleton_lock_laws staleLock_start hcareful
  exact ⟨hends.1, hends.2, fun other hother => honce other 2 hother hends.2⟩

/-- The id that a process has not yet written, where it crashes. -/
def halfWrittenLock : LockState :=
  lockMachine.run { staleLock with file := none } [.acquire 1 {}, .advance 1 {}, .crash 1]

/-- Both look at the file that the third has left, and both judge it stale; the first removes it,
takes the lock, and the second removes the file of the first. -/
def staleRace : List LockCall :=
  [.acquire 1 {}, .acquire 2 {}, .advance 1 {}, .advance 2 {}, .advance 1 {}, .advance 1 {},
    .advance 1 {}, .advance 2 {}, .advance 2 {}, .advance 2 {}]

/-- The first releases its guard, and before it drops it the second takes the lock. -/
def lateDrop : List LockCall :=
  acquisition 1 ++ [.release 1 {}] ++ acquisition 2

/-- **Two processes hold the guard at once; a guard that is dropped after its release takes the
file of another process away; and a process that crashes before it has written its id leaves a
file that no process gets past.** -/
theorem singleton_lock_broken :
    ((lockMachine.run staleLock staleRace).phase 1 = .holding ∧
      (lockMachine.run staleLock staleRace).phase 2 = .holding) ∧
    (lockMachine.answer (lockMachine.run staleLock lateDrop) (.advance 1 {})).removed =
      some ⟨"2", 2⟩ ∧
    halfWrittenLock.file = some ⟨"", 1⟩ ∧ halfWrittenLock.phase 1 = .gone ∧
    (lockMachine.run halfWrittenLock (acquisition 2)).phase 2 = .idle ∧
    (lockMachine.log halfWrittenLock (acquisition 2)).map (fun entry => entry.2.result) =
      [none, some (.error (.lockError "Existing lock file contains invalid PID")),
        none, none, none] := by
  decide +kernel

end Luther
