/-
Loading a retry state from the history it was written to.

The history is what counts.  The files of one scope form a chain, each naming the one before
it, and a state is the last of its chain.  The canonical file holds the state that was written
or read last, of whichever scope, and is put right where it is behind, or of another scope.
-/
import Luther.Followup.Reading
import Luther.Lib.Text
import Luther.Remediation.RetryPolicy

namespace Luther

def retryStateFamily : String := "pr-remediation-retry-state"

/-! ### The history of a scope -/

def historyFilenameArtifactSequence (path : FilePath) : Nat :=
  (parseU64 (path.fileStem.toList.takeWhile (· ≠ '-'))).getD 0

/-- A file of the history, with its state. -/
structure CompactRetryCandidate where
  path : FilePath
  validationError : Option String
  state : Except String RetryState

/-- `CompactRetryHistory`.  The map is a list in the order of its keys. -/
structure CompactRetryHistory where
  candidateCount : Nat := 0
  «scoped» : List (Nat × CompactRetryCandidate) := []
  unscoped : List (Nat × FilePath × String) := []
  latestValue : Option (Nat × Json) := none
  duplicate : Option (Nat × FilePath) := none

def deserializeRetryState (parse : Rfc3339Parser) (value : Json) : Except String RetryState := do
  let state ← (RetryState.fromJson value).mapError fun error =>
    s!"invalid remediation retry state: {error}"
  validateStateInvariants parse state
  .ok state

def candidateScope (value : Json) : Option RetryScopeKey :=
  (value.get? "scope").bind fun scope => (RetryScopeKey.fromJson scope).toOption

def insertScoped (sequence : Nat) (candidate : CompactRetryCandidate)
    («scoped» : List (Nat × CompactRetryCandidate)) : List (Nat × CompactRetryCandidate) :=
  «scoped».orderedInsert (fun a b => a.1 ≤ b.1) (sequence, candidate)

/-- What `scan_retry_history` does with one candidate. -/
def CompactRetryHistory.visit (parse : Rfc3339Parser) (scope : RetryScopeKey)
    (history : CompactRetryHistory) (candidate : RecoverableHistoryCandidate) :
    CompactRetryHistory :=
  let history := { history with candidateCount := history.candidateCount + 1 }
  let sequence := historyFilenameArtifactSequence candidate.path
  match candidate.value with
  | none =>
    { history with
      unscoped := history.unscoped ++
        [(sequence, candidate.path,
          candidate.validationError.getD "artifact JSON is unavailable")] }
  | some value =>
    if candidateScope value ≠ some scope then
      if candidateScope value = none then
        { history with
          unscoped := history.unscoped ++
            [(sequence, candidate.path, candidate.validationError.getD
              "scope is unavailable in an otherwise valid artifact envelope")] }
      else history
    else if sequence ∈ history.«scoped».map Prod.fst then
      { history with duplicate := some (sequence, candidate.path) }
    else
      { history with
        «scoped» := insertScoped sequence
          ⟨candidate.path, candidate.validationError, deserializeRetryState parse value⟩
          history.«scoped»
        latestValue :=
          if (history.latestValue.map Prod.fst).all (· < sequence) then some (sequence, value)
          else history.latestValue }

def scanRetryHistory (validate : FamilyInvariants) (parse : Rfc3339Parser)
    (order : ListingOrder) (binding : PrFollowupBinding) (scope : RetryScopeKey)
    (store : ArtifactStore) : Except String CompactRetryHistory := do
  let candidates ←
    recoverableHistoryCandidates validate order binding retryStateFamily store
  .ok (candidates.foldl (CompactRetryHistory.visit parse scope) {})

/-- Whether a candidate starts the chain of its scope anew. -/
def CompactRetryCandidate.isReset (candidate : CompactRetryCandidate) : Bool :=
  candidate.validationError.isNone &&
    match candidate.state with
    | .ok state => state.historyChainReset && state.transitionType == "terminal_tombstone"
    | .error _ => false

def sinceReset (reset : Option Nat) (sequence : Nat) : Bool := reset.all (· ≤ sequence)

def debugSequence (sequence : Option Nat) : String :=
  match sequence with
  | none => "None"
  | some n => s!"Some({n})"

/-- The loop of `latest_compact_retry_snapshot` over the chain. -/
def validateRetryChain :
    List (Nat × CompactRetryCandidate) → Option (Nat × RetryState) →
      Except String (Option (Nat × RetryState))
  | [], latest => .ok latest
  | (sequence, candidate) :: rest, latest =>
    match candidate.validationError with
    | some error => .error s!"invalid exact-scope retry history {candidate.path.text}: {error}"
    | none =>
      match candidate.state with
      | .error error => .error s!"invalid exact-scope retry history {candidate.path.text}: {error}"
      | .ok state =>
        let expected := latest.map Prod.fst
        let found := state.predecessorArtifactSequence.map UInt64.toNat
        if found ≠ expected then
          .error (s!"broken exact-scope retry history chain at {candidate.path.text}: "
            ++ s!"expected predecessor {debugSequence expected}, "
            ++ s!"found {debugSequence found}")
        else validateRetryChain rest (some (sequence, state))

def latestCompactRetrySnapshot (history : CompactRetryHistory) :
    Except String (Option (Nat × Json × RetryState)) := do
  match history.duplicate with
  | some (sequence, path) =>
    .error s!"duplicate exact-scope retry history sequence {sequence} at {path.text}"
  | none => .ok ()
  let reset := (history.«scoped».reverse.find? fun entry => entry.2.isReset).map Prod.fst
  match history.unscoped.find? fun entry => sinceReset reset entry.1 with
  | some (_, path, error) =>
    .error (s!"retry history {path.text} has missing or corrupt scope after the latest "
      ++ s!"authenticated exact-scope reset: {error}")
  | none => .ok ()
  let latest ← validateRetryChain
    (history.«scoped».filter fun entry => sinceReset reset entry.1) none
  match latest with
  | none => .ok none
  | some (sequence, state) =>
    match history.latestValue with
    | none => .error "latest exact-scope retry history payload is unavailable"
    | some (valueSequence, value) =>
      if valueSequence ≠ sequence then
        .error "latest exact-scope retry history payload does not match validated chain"
      else .ok (some (sequence, value, state))

/-! ### Loading -/

def artifactSequence (value : Json) : Except String Nat :=
  match ((value.get? "artifact_sequence").bind Json.asU64?).filter (0 < ·) with
  | some n => .ok n
  | none => .error "retry state is missing a positive artifact_sequence"

/-- Why a scope is not loaded. -/
inductive RetryStateLoadError where
  | corruption (detail : String)
  | storage (error : String)

/-- `into_engine_error`. -/
def RetryStateLoadError.text : RetryStateLoadError → String
  | corruption detail => detail
  | storage error => error

def recoverLatestRetrySnapshot (binding : PrFollowupBinding)
    (latest : Option (Nat × Json × RetryState)) (store : ArtifactStore) :
    Except RetryStateLoadError (Option RetryState) × ArtifactStore :=
  match latest with
  | none => (.ok none, store)
  | some (_, value, state) =>
    match restoreCanonicalFromHistoryLocked binding retryStateFamily value store with
    | .error error => (.error (.storage error), store)
    | .ok store => (.ok (some state), store)

/-- What `load_matching_state_classified_locked` does where the canonical file is valid. -/
def loadFromCanonical (parse : Rfc3339Parser) (binding : PrFollowupBinding)
    (scope : RetryScopeKey) (latest : Option (Nat × Json × RetryState)) (value : Json)
    (store : ArtifactStore) : Except RetryStateLoadError (Option RetryState) × ArtifactStore :=
  let read := do
    let sequence ← artifactSequence value
    let canonical ← deserializeRetryState parse value
    .ok (sequence, canonical)
  match read with
  | .error error => (.error (.corruption error), store)
  | .ok (canonicalSequence, canonical) =>
    if canonical.scope ≠ scope then recoverLatestRetrySnapshot binding latest store
    else
      match latest with
      | none => (.ok (some canonical), store)
      | some (latestSequence, latestValue, _) =>
        if latestSequence < canonicalSequence then
          (.error (.corruption "retry-state canonical is ahead of immutable history"), store)
        else if canonicalSequence < latestSequence ∨ latestValue ≠ value then
          recoverLatestRetrySnapshot binding latest store
        else (.ok (some canonical), store)

/-- The number that the canonical file names, where it can be read at all. -/
def rawCanonicalSequence (binding : PrFollowupBinding) (store : ArtifactStore) : Nat :=
  match store.currentFile binding retryStateFamily with
  | none => 0
  | some file =>
    match Json.fromText file.content with
    | .error _ => 0
    | .ok value => ((value.get? "artifact_sequence").bind Json.asU64?).getD 0

section

variable (validate : FamilyInvariants)

def loadMatchingStateClassifiedLocked (parse : Rfc3339Parser) (order : ListingOrder)
    (binding : PrFollowupBinding) (scope : RetryScopeKey) (store : ArtifactStore) :
    Except RetryStateLoadError (Option RetryState) × ArtifactStore :=
  match scanRetryHistory validate parse order binding scope store with
  | .error error => (.error (.storage error), store)
  | .ok history =>
    match latestCompactRetrySnapshot history with
    | .error detail => (.error (.corruption detail), store)
    | .ok latest =>
      match readRecoverableCurrentJson validate binding retryStateFamily
          store with
      | .valid value => loadFromCanonical parse binding scope latest value store
      | .missing =>
        if latest.isNone ∧ history.candidateCount ≠ 0 then
          (.error (.corruption ("retry-state canonical is missing and latest immutable "
            ++ "history has no valid exact scope")), store)
        else recoverLatestRetrySnapshot binding latest store
      | .corrupt =>
        if (latest.map Prod.fst).getD 0 < rawCanonicalSequence binding store then
          (.error (.corruption ("retry-state canonical is corrupt and ahead of "
            ++ "exact-scope immutable history")), store)
        else if latest.isNone then
          (.error (.corruption ("retry-state canonical is corrupt and exact-scope "
            ++ "immutable history is unavailable")), store)
        else recoverLatestRetrySnapshot binding latest store

def loadMatchingStateLocked (parse : Rfc3339Parser) (order : ListingOrder)
    (binding : PrFollowupBinding) (scope : RetryScopeKey) (store : ArtifactStore) :
    Except String (Option RetryState) × ArtifactStore :=
  let (loaded, store) := loadMatchingStateClassifiedLocked validate parse order
    binding scope store
  (loaded.mapError RetryStateLoadError.text, store)

section

variable (binding : PrFollowupBinding)

def stateSequenceLocked (store : ArtifactStore) : Except String (Option UInt64) :=
  match readRecoverableCurrentJson validate binding retryStateFamily store with
  | .missing => .ok none
  | .corrupt => .error "retry-state canonical is corrupt while deriving predecessor"
  | .valid value => (artifactSequence value).map fun n => some (UInt64.ofNat n)

/-! ### Writing -/

/-- Who writes a retry state, and when. -/
structure RetryWriter where
  order : ListingOrder
  producerStepId : String
  stepOrder : UInt64
  now : Timestamp

/-- The request of `persist`. -/
def persistRequest (writer : RetryWriter) (state : RetryState) : JsonArtifactWriteRequest where
  binding := binding
  artifactFamily := retryStateFamily
  producerStepId := writer.producerStepId
  stepOrderIndex := writer.stepOrder
  writtenAt := writer.now
  producedAt := writer.now
  payload := state.toJson

def persist (writer : RetryWriter) (publication : Publication)
    (state : RetryState) (store : ArtifactStore) : Except String Unit × ArtifactStore :=
  let (written, store) := writeJsonArtifactLocked validate writer.order
    (persistRequest binding writer state) publication store
  (written.map fun _ => (), store)

/-- A state is put behind the one before it in its scope, and persisted.  The caller holds the
lock, and has loaded the scope, so that the canonical file is the one before. -/
def persistLinked
    (writer : RetryWriter) (publication : Publication) (hasPrevious : Bool) (state : RetryState)
    (store : ArtifactStore) : Except String RetryState × ArtifactStore :=
  let predecessor :=
    if hasPrevious then stateSequenceLocked validate binding store else .ok none
  match predecessor with
  | .error error => (.error error, store)
  | .ok predecessor =>
    let state := { state with predecessorArtifactSequence := predecessor }
    let (written, store) :=
      persist validate binding writer publication state store
    (written.map fun () => state, store)

end

/-! ### Any number of persists -/

/-- What a process does to the retry states of a binding.  A process that persists several
states under one lock has the same effect as one that persists them one by one: the state it
would load in between is the one it has written. -/
inductive RetryCall where
  | load (order : ListingOrder) (scope : RetryScopeKey)
  /-- Loads the scope of a state, and persists the state in it. -/
  | persist (writer : RetryWriter) (state : RetryState) (publication : Publication)
  /-- Writes an artifact of another family. -/
  | write (call : WriteCall)

/-- The processes that keep retry states of one binding; the lock puts their calls one after the
other. -/
def retryMachine (parse : Rfc3339Parser) (binding : PrFollowupBinding) :
    StateMachine ArtifactStore RetryCall (Except String (Option RetryState)) where
  start store := store.history = [] ∧ store.current = []
  step store
    | .load order scope => loadMatchingStateLocked validate parse order binding scope store
    | .persist writer state publication =>
      match loadMatchingStateLocked validate parse writer.order binding
          state.scope store with
      | (.error error, store) => (.error error, store)
      | (.ok previous, store) =>
        let (persisted, store) := persistLinked validate binding writer
          publication previous.isSome state store
        (persisted.map some, store)
    | .write call =>
      let (written, store) := writeJsonArtifactLocked validate call.order
        call.request call.publication store
      (written.map fun _ => none, store)

end

end Luther
