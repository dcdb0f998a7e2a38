/-
The lock that lets one process of an installation run, and the processes that want it.

The lock is a file that holds the process id of its owner.  A process that wants the lock looks
whether the file is there, reads it, removes it where its owner is gone, creates it, and writes
its own id into it; it gives the lock up by removing the file.  Each of these is one operation on
a path, and the other processes may do anything between two of them.
-/
import Luther.Lib.StateMachine
import Luther.Lib.Text

namespace Luther

/-- `MonitorError`, of the errors of the lock. -/
inductive MonitorError where
  | lockError (message : String)
  | lockHeld (pid : UInt32)
  deriving DecidableEq

/-- The lock file.  Who has created it is known to nobody. -/
structure LockFile where
  content : String
  creator : UInt32
  deriving DecidableEq

/-- Where a process stands. -/
inductive LockPhase where
  /-- It has not been started. -/
  | unborn
  /-- It has ended, or crashed. -/
  | gone
  | idle
  /-- The file is there, and will be read. -/
  | reading
  /-- The file has named a process that is gone, and will be removed. -/
  | removing
  /-- The file will be created. -/
  | creating
  /-- The file was there already, and will be read as often as is left. -/
  | rereading (left : Nat)
  /-- The file is created, and the id will be written. -/
  | writing
  /-- The id could not be written, and the file will be removed. -/
  | cleaning (error : String)
  /-- It holds the guard. -/
  | holding
  /-- The file of the guard is removed, and the guard will be dropped. -/
  | releasing
  deriving DecidableEq

/-- The lock path, and the processes by their ids. -/
structure LockState where
  file : Option LockFile
  phase : UInt32 → LockPhase

/-- How an operation on the file system ends: with an error of its own, and a write that fails
after some characters. -/
structure FileIo where
  error : Option String := none
  written : Nat := 0

/-- What a process does next. -/
inductive LockCall where
  | start (pid : UInt32)
  /-- `acquire_singleton_lock` is called, and looks whether the file is there. -/
  | acquire (pid : UInt32) (io : FileIo)
  /-- The next operation of the call that the process is in. -/
  | advance (pid : UInt32) (io : FileIo)
  /-- The guard is dropped. -/
  | drop (pid : UInt32) (io : FileIo)
  /-- `release_singleton_lock` is called, and removes the file. -/
  | release (pid : UInt32) (io : FileIo)
  | crash (pid : UInt32)

/-- What comes of it: the result of a call that ends, and the file that is removed. -/
structure LockAnswer where
  result : Option (Except MonitorError Unit) := none
  removed : Option LockFile := none

namespace LockState

def enter (pid : UInt32) (phase : LockPhase) (state : LockState) : LockState :=
  { state with phase := Function.update state.phase pid phase }

def refuse (pid : UInt32) (error : MonitorError) (state : LockState) : LockAnswer × LockState :=
  ({ result := some (.error error) }, state.enter pid .idle)

def isProcessAlive (pid : UInt32) (state : LockState) : Bool :=
  state.phase pid != .unborn && state.phase pid != .gone

end LockState

/-- `std::process::id()`, as it is written into the file. -/
def pidText (pid : UInt32) : String := pid.toNat.repr

def readLockPid (io : FileIo) (state : LockState) : Except MonitorError UInt32 :=
  match io.error, state.file with
  | some error, _ => .error (.lockError ("Failed to read existing lock file: " ++ error))
  | none, none => .error (.lockError ("Failed to read existing lock file: "
      ++ "No such file or directory (os error 2)"))
  | none, some file =>
    match parseU32 (trim file.content) with
    | some pid => .ok pid
    | none => .error (.lockError "Existing lock file contains invalid PID")

/-- `fs::remove_file`: the error, or the file that was there. -/
def removeFile (io : FileIo) (state : LockState) : Except String (Option LockFile) × LockState :=
  match io.error with
  | some error => (.error error, state)
  | none => (.ok state.file, { state with file := none })

def removedFile (io : FileIo) (state : LockState) : Option LockFile :=
  (removeFile io state).1.toOption.join

/-- The file, with the id of its creator as far as it is written. -/
def writeContent (pid : UInt32) (content : String) (state : LockState) : LockState :=
  { state with
    file := state.file.map fun file =>
      if file.creator = pid then { file with content := content } else file }

/-- The first operation of `acquire_singleton_lock`: `exists`, which is no for a file that cannot
be looked at. -/
def beginAcquire (pid : UInt32) (io : FileIo) (state : LockState) : LockAnswer × LockState :=
  if state.phase pid = .idle then
    if state.file.isSome && io.error.isNone then ({}, state.enter pid .reading)
    else ({}, state.enter pid .creating)
  else ({}, state)

def advanceLock (pid : UInt32) (io : FileIo) (state : LockState) : LockAnswer × LockState :=
  match state.phase pid with
  | .reading =>
    match readLockPid io state with
    | .error error => state.refuse pid error
    | .ok owner =>
      if state.isProcessAlive owner || owner == pid then state.refuse pid (.lockHeld owner)
      else ({}, state.enter pid .removing)
  | .removing =>
    match removeFile io state with
    | (.error error, state) =>
      state.refuse pid (.lockError ("Failed to remove stale lock file: " ++ error))
    | (.ok removed, state) => ({ removed := removed }, state.enter pid .creating)
  | .creating =>
    match io.error, state.file with
    | some error, _ => state.refuse pid (.lockError ("Failed to create lock file: " ++ error))
    | none, some _ => ({}, state.enter pid (.rereading 3))
    | none, none => ({}, { state with file := some ⟨"", pid⟩ }.enter pid .writing)
  | .rereading left =>
    match readLockPid io state with
    | .ok owner => state.refuse pid (.lockHeld owner)
    | .error error =>
      if left ≤ 1 then state.refuse pid error
      else ({}, state.enter pid (.rereading (left - 1)))
  | .writing =>
    match io.error with
    | none =>
      ({ result := some (.ok ()) },
        (writeContent pid (pidText pid) state).enter pid .holding)
    | some error =>
      let part := String.ofList ((pidText pid).toList.take io.written)
      ({}, (writeContent pid part state).enter pid (.cleaning error))
  | .cleaning error =>
    ({ result := some (.error (.lockError ("Failed to write lock file: " ++ error)))
       removed := removedFile io state },
      (removeFile io state).2.enter pid .idle)
  | .releasing => ({ removed := removedFile io state }, (removeFile io state).2.enter pid .idle)
  | .unborn | .gone | .idle | .holding => ({}, state)

/-- The removal of the file of a guard, by its process. -/
def giveUp (pid : UInt32) (io : FileIo) (after : LockPhase) (state : LockState) :
    LockAnswer × LockState :=
  if state.phase pid = .holding then
    ({ removed := removedFile io state }, (removeFile io state).2.enter pid after)
  else ({}, state)

def lockMachine : StateMachine LockState LockCall LockAnswer where
  start state :=
    (∀ pid, state.phase pid = .unborn ∨ state.phase pid = .gone ∨ state.phase pid = .idle) ∧
      ∀ file ∈ state.file, state.phase file.creator = .gone
  step state call :=
    match call with
    | .start pid => if state.phase pid = .unborn then ({}, state.enter pid .idle) else ({}, state)
    | .acquire pid io => beginAcquire pid io state
    | .advance pid io => advanceLock pid io state
    | .drop pid io => giveUp pid io .idle state
    | .release pid io => giveUp pid io .releasing state
    | .crash pid => if state.isProcessAlive pid then ({}, state.enter pid .gone) else ({}, state)

end Luther
