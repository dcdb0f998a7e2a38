/-
The artifact store: immutable history, canonical files, and the numbers of both.

A write is published under the lock of its pull request.  It reads the whole history of the
pull request first, to know which numbers are taken, and then puts the same document in two
places: a new file of the history, and the canonical file of its family, which it replaces.
Between the two the process can be gone.
-/
import Luther.Followup.Envelope
import Luther.Lib.StateMachine
import Mathlib.Data.List.Sort

namespace Luther

/-- A file of a directory that was listed. -/
structure ContainedFile where
  path : FilePath
  content : Json
  deriving DecidableEq

/-- The files of one pull request: its history, and its canonical files. -/
structure ArtifactStore where
  root : String
  history : List ContainedFile := []
  current : List ContainedFile := []

/-- An order in which a directory is listed. -/
structure ListingOrder where
  list : List ContainedFile → List ContainedFile
  perm : ∀ files, (list files).Perm files

def maxArtifactScanFiles : Nat := 100000

/-! ### Paths -/

def bindingRoot (root collection : String) (binding : PrFollowupBinding) : String :=
  let run := sanitizePathSegment binding.runId
  let owner := sanitizePathSegment binding.repositoryOwner
  let name := sanitizePathSegment binding.repositoryName
  s!"{root}/pr-followup/{collection}/{run}/{owner}/{name}/{binding.prNumber}"

def canonicalPath (root : String) (binding : PrFollowupBinding) (artifactFamily : String) :
    FilePath :=
  ⟨bindingRoot root "current" binding, sanitizePathSegment artifactFamily, "json"⟩

def historyRootForFamily (root : String) (binding : PrFollowupBinding)
    (artifactFamily : String) : String :=
  bindingRoot root "history" binding ++ "/" ++ sanitizePathSegment artifactFamily

def historyPath (root : String) (binding : PrFollowupBinding) (artifactFamily : String)
    (sequence : ArtifactSequenceMetadata) : FilePath :=
  ⟨historyRootForFamily root binding artifactFamily, historyStem sequence none, "json"⟩

/-! ### The numbers that are taken -/

/-- `RecoveredSequenceState`.  A set of numbers is a list in their order. -/
structure RecoveredSequenceState where
  maxArtifactSequence : Nat := 0
  maxFailureSequence : Nat := 0
  maxWriteSequenceByFamily : List (String × Nat) := []
  seenArtifactSequences : List Nat := []
  seenFailureSequences : List Nat := []
  seenFamilyWrites : List (String × Nat) := []
  seenWritesByFamily : List (String × List Nat) := []

namespace RecoveredSequenceState

section

variable (artifactFamily : String)

def maxWriteSequence (state : RecoveredSequenceState) : Nat :=
  (state.maxWriteSequenceByFamily.lookup artifactFamily).getD 0

def seenWrites (state : RecoveredSequenceState) : List Nat :=
  (state.seenWritesByFamily.lookup artifactFamily).getD []

/-- What `accept_snapshot` makes of a failure number, where there is one. -/
def acceptFailure (failureSequence : Option Nat) (path : String)
    (state : RecoveredSequenceState) : Except String RecoveredSequenceState :=
  match failureSequence with
  | none => .ok state
  | some n =>
    if n = 0 ∨ n ∈ state.seenFailureSequences then
      .error s!"duplicate or zero failure_sequence {n} in {path}"
    else .ok
      { state with
        seenFailureSequences := state.seenFailureSequences.orderedInsert (· ≤ ·) n
        maxFailureSequence := max state.maxFailureSequence n }

def acceptSnapshot (value : Json) (path : String)
    (state : RecoveredSequenceState) : Except String RecoveredSequenceState := do
  let artifactSequence ← requireU64 "artifact_sequence" value
  let writeSequence ← requireU64 "write_sequence" value
  if artifactSequence = 0 ∨ writeSequence = 0 then
    .error s!"sequence values must start at one in {path}"
  if artifactSequence ∈ state.seenArtifactSequences then
    .error s!"duplicate artifact_sequence {artifactSequence} in {path}"
  if (artifactFamily, writeSequence) ∈ state.seenFamilyWrites then
    .error s!"duplicate write_sequence {writeSequence} for {artifactFamily} in {path}"
  let state ← state.acceptFailure ((value.get? "failure_sequence").bind Json.asU64?) path
  .ok
    { state with
      seenArtifactSequences :=
        state.seenArtifactSequences.orderedInsert (· ≤ ·) artifactSequence
      seenFamilyWrites := (artifactFamily, writeSequence) :: state.seenFamilyWrites
      maxArtifactSequence := max state.maxArtifactSequence artifactSequence
      maxWriteSequenceByFamily :=
        Assoc.insert artifactFamily (max (state.maxWriteSequence artifactFamily) writeSequence)
          state.maxWriteSequenceByFamily
      seenWritesByFamily :=
        Assoc.insert artifactFamily
          ((state.seenWrites artifactFamily).orderedInsert (· ≤ ·) writeSequence)
          state.seenWritesByFamily }

end

end RecoveredSequenceState

/-- The loop of `require_contiguous_sequence`. -/
def requireContiguousFrom (sequenceName path : String) (maxSequence : Nat) :
    Nat → List Nat → Except String Unit
  | _, [] => .ok ()
  | expected, sequence :: rest =>
    if sequence ≠ expected then
      .error (s!"non-monotonic {sequenceName}: missing sequence {expected} before "
        ++ s!"{maxSequence} in {path}")
    else if 2 ^ 64 ≤ expected + 1 then
      .error s!"{sequenceName} validation overflow in {path}"
    else requireContiguousFrom sequenceName path maxSequence (expected + 1) rest

def requireContiguousSequence (sequenceName : String) (seenSequences : List Nat)
    (maxSequence : Nat) (path : String) : Except String Unit := do
  requireContiguousFrom sequenceName path maxSequence 1 seenSequences
  if seenSequences.getLastD 0 ≠ maxSequence then
    .error s!"non-monotonic {sequenceName}: maximum mismatch before {maxSequence} in {path}"

def RecoveredSequenceState.validateMonotonicSequenceContiguity (path : String)
    (state : RecoveredSequenceState) : Except String Unit := do
  requireContiguousSequence "artifact_sequence" state.seenArtifactSequences
    state.maxArtifactSequence path
  state.seenWritesByFamily.forM fun (artifactFamily, writeSequences) =>
    requireContiguousSequence s!"write_sequence for {artifactFamily}" writeSequences
      (state.maxWriteSequence artifactFamily) path
  requireContiguousSequence "failure_sequence" state.seenFailureSequences
    state.maxFailureSequence path

/-! ### Recovery -/

section

variable (validate : FamilyInvariants)

/-- The checks of one file of the history, and the numbers it takes. -/
def recoverHistoryFile (binding : PrFollowupBinding) (state : RecoveredSequenceState)
    (file : ContainedFile) : Except String RecoveredSequenceState := do
  let path := file.path.text
  let value ← (Json.fromText file.content).mapError fun error => s!"parse {path}: {error}"
  match artifactFamilyFromValue value with
  | none => .error s!"missing history_metadata.artifact_family in {path}"
  | some family =>
    validateSequenceArtifactValue binding family value
    validateHistorySnapshot validate family value file.path
    validateHistoryFilename family value file.path
    validateHistoryEmbeddedPath value file.path
    state.acceptSnapshot family value path

/-- The loop of `recover_strict_history`, and the file it has seen last. -/
def recoverHistoryFiles (validate : FamilyInvariants)
    (binding : PrFollowupBinding) :
    List ContainedFile → RecoveredSequenceState → Option FilePath →
      Except String (RecoveredSequenceState × Option FilePath)
  | [], state, lastPath => .ok (state, lastPath)
  | file :: rest, state, _ => do
    let state ← recoverHistoryFile validate binding state file
    recoverHistoryFiles validate binding rest state (some file.path)

def recoverStrictHistory (order : ListingOrder) (binding : PrFollowupBinding)
    (store : ArtifactStore) : Except String (RecoveredSequenceState × Option FilePath) :=
  if maxArtifactScanFiles < store.history.length then
    .error s!"artifact scan exceeds {maxArtifactScanFiles} matching files"
  else
    recoverHistoryFiles validate binding (order.list store.history) {} none

def prepareCanonicalHistoryBackfill (root : String) (binding : PrFollowupBinding)
    (artifactFamily : String) (value : Json) : Except String ContainedFile := do
  match metadataString "history_path" value with
  | none => .error "canonical artifact is missing immutable history path"
  | some text =>
    let path := FilePath.ofText text
    if path.parent ≠ historyRootForFamily root binding artifactFamily then
      .error s!"canonical-only history path is outside the exact family root: {text}"
    validateHistorySnapshot validate artifactFamily value path
    validateHistoryFilename artifactFamily value path
    .ok ⟨path, value⟩

def reconcileCanonical (root : String) (binding : PrFollowupBinding) (artifactFamily : String)
    (value : Json) (path : FilePath) (state : RecoveredSequenceState) :
    Except String (RecoveredSequenceState × Option ContainedFile) := do
  let artifactSequence ← requireU64 "artifact_sequence" value
  let writeSequence ← requireU64 "write_sequence" value
  let artifactSeen := decide (artifactSequence ∈ state.seenArtifactSequences)
  let writeSeen := decide ((artifactFamily, writeSequence) ∈ state.seenFamilyWrites)
  match artifactSeen, writeSeen with
  | true, true => .ok (state, none)
  | false, false => do
    let backfill ←
      prepareCanonicalHistoryBackfill validate root binding artifactFamily value
    let state ← state.acceptSnapshot artifactFamily value path.text
    .ok (state, some backfill)
  | _, _ =>
    .error ("canonical sequence identity is inconsistent with immutable history in "
      ++ path.text)

/-- What recovery knows while it looks at the canonical files. -/
structure CurrentRecovery where
  state : RecoveredSequenceState
  lastPath : Option FilePath
  backfills : List ContainedFile := []

/-- One canonical file, in the loop of `recover_sequence_state`: one that is stale, or not the
store's, is passed over. -/
def recoverCurrentFile (root : String)
    (binding : PrFollowupBinding) (consumedFamily : Option String) (file : ContainedFile)
    (recovery : CurrentRecovery) : Except String CurrentRecovery :=
  let currentFamily := file.path.fileStem
  match Json.fromText file.content with
  | .error error =>
    if consumedFamily = some currentFamily then .ok recovery
    else .error s!"parse {file.path.text}: {error}"
  | .ok value =>
    if consumedFamily = some currentFamily
        ∧ (validateArtifactValue binding currentFamily value).isOk = false then .ok recovery
    else
      match artifactFamilyFromValue value with
      | none => .ok recovery
      | some family =>
        let checked := do
          validateSequenceArtifactValue binding family value
          validateCanonicalEmbeddedPath value file.path
        if family ≠ currentFamily ∨ checked.isOk = false then .ok recovery
        else do
          let actualBinding ← bindingFromValue value
          let (state, backfill) ← reconcileCanonical validate root
            actualBinding family value file.path recovery.state
          .ok
            { state := state
              lastPath := some file.path
              backfills := recovery.backfills ++ backfill.toList }

end

/-- The loop of `recover_sequence_state`. -/
def recoverCurrentFiles (validate : FamilyInvariants) (root : String)
    (binding : PrFollowupBinding) (consumedFamily : Option String) :
    List ContainedFile → CurrentRecovery → Except String CurrentRecovery
  | [], recovery => .ok recovery
  | file :: rest, recovery => do
    let recovery ← recoverCurrentFile validate root binding consumedFamily file
      recovery
    recoverCurrentFiles validate root binding consumedFamily rest recovery

/-- `durable_create_new`: a file that is there is never replaced. -/
def ArtifactStore.createHistory (file : ContainedFile) (store : ArtifactStore) :
    Except String ArtifactStore :=
  if store.history.any fun existing => existing.path == file.path then
    .error s!"create immutable artifact {file.path.text}: File exists"
  else .ok { store with history := store.history ++ [file] }

/-- The backfills that are left, in the order of their numbers. -/
def createBackfills : List ContainedFile → ArtifactStore → Except String Unit × ArtifactStore
  | [], store => (.ok (), store)
  | backfill :: rest, store =>
    match store.createHistory backfill with
    | .error error => (.error error, store)
    | .ok store => createBackfills rest store

def ContainedFile.artifactSequence (file : ContainedFile) : Nat :=
  ((file.content.get? "artifact_sequence").bind Json.asU64?).getD 0

/-- What `recover_sequence_state` finds, before it writes. -/
def recoverSequences (validate : FamilyInvariants) (order : ListingOrder)
    (binding : PrFollowupBinding) (consumedFamily : Option String) (store : ArtifactStore) :
    Except String CurrentRecovery := do
  let (state, lastPath) ← recoverStrictHistory validate order binding store
  if maxArtifactScanFiles < store.current.length then
    .error s!"artifact scan exceeds {maxArtifactScanFiles} matching files"
  match lastPath with
  | some path => state.validateMonotonicSequenceContiguity path.text
  | none => .ok ()
  let currentFiles :=
    store.current.insertionSort fun left right => left.path.text ≤ right.path.text
  let recovery ← recoverCurrentFiles validate store.root binding consumedFamily
    currentFiles { state := state, lastPath := lastPath }
  match recovery.lastPath with
  | some path => recovery.state.validateMonotonicSequenceContiguity path.text
  | none => .ok ()
  .ok recovery

def recoverSequenceState (validate : FamilyInvariants) (order : ListingOrder)
    (binding : PrFollowupBinding) (consumedFamily : Option String) (store : ArtifactStore) :
    Except String RecoveredSequenceState × ArtifactStore :=
  match recoverSequences validate order binding consumedFamily store with
  | .error error => (.error error, store)
  | .ok recovery =>
    let backfills :=
      recovery.backfills.insertionSort fun a b => a.artifactSequence ≤ b.artifactSequence
    match createBackfills backfills store with
    | (.ok (), store) => (.ok recovery.state, store)
    | (.error error, store) => (.error error, store)

/-! ### Writing -/

/-- How far a publication gets. -/
inductive Publication where
  /-- An error before the history is written: the document is too large, or the disk full. -/
  | failed (error : String)
  /-- The process is gone when the history is written. -/
  | crashed
  | published

def ArtifactStore.replaceCurrent (file : ContainedFile) (store : ArtifactStore) :
    ArtifactStore :=
  { store with
    current := store.current.filter (fun existing => existing.path != file.path) ++ [file] }

def publishArtifact (historyPath canonicalPath : FilePath) (value : Json)
    (publication : Publication) (store : ArtifactStore) : Except String Unit × ArtifactStore :=
  match publication with
  | .failed error => (.error error, store)
  | .crashed =>
    match store.createHistory ⟨historyPath, value⟩ with
    | .error error => (.error error, store)
    | .ok store => (.error "the process is gone", store)
  | .published =>
    match store.createHistory ⟨historyPath, value⟩ with
    | .error error => (.error error, store)
    | .ok store => (.ok (), store.replaceCurrent ⟨canonicalPath, value⟩)

/-- What a step asks the store to write. -/
structure JsonArtifactWriteRequest where
  binding : PrFollowupBinding
  artifactFamily : String
  producerStepId : String
  stepOrderIndex : UInt64
  writtenAt : Timestamp
  producedAt : Timestamp
  payload : Json
  failure : Option ArtifactFailure := none

/-- What a write answers. -/
structure ArtifactWriteRecord where
  sequence : ArtifactSequenceMetadata
  canonicalPath : FilePath
  historyPath : FilePath
  failureSequence : Option Nat

/-- The numbers that a request gets, the failure's where it is one. -/
def nextSequences (request : JsonArtifactWriteRequest) (state : RecoveredSequenceState) :
    Except String (ArtifactSequenceMetadata × Option (Nat × ArtifactFailure)) := do
  let artifactSequence ← checkedNextSequence state.maxArtifactSequence "artifact_sequence"
  let writeSequence ←
    checkedNextSequence (state.maxWriteSequence request.artifactFamily) "write_sequence"
  let sequence := ⟨artifactSequence, writeSequence, request.producerStepId⟩
  match request.failure with
  | none => .ok (sequence, none)
  | some failure => do
    let failureSequence ← checkedNextSequence state.maxFailureSequence "failure_sequence"
    .ok (sequence, some (failureSequence, failure))

def envelope (root : String) (request : JsonArtifactWriteRequest)
    (sequence : ArtifactSequenceMetadata) (failure : Option (Nat × ArtifactFailure)) :
    Except String Json :=
  injectStoreFields
    { binding := request.binding
      artifactFamily := request.artifactFamily
      stepOrderIndex := request.stepOrderIndex
      writtenAt := request.writtenAt
      producedAt := request.producedAt
      sequence := sequence
      canonicalPath := canonicalPath root request.binding request.artifactFamily
      historyPath := historyPath root request.binding request.artifactFamily sequence
      failure := failure } request.payload

def writeJsonArtifactLocked (validate : FamilyInvariants) (order : ListingOrder)
    (request : JsonArtifactWriteRequest) (publication : Publication) (store : ArtifactStore) :
    Except String ArtifactWriteRecord × ArtifactStore :=
  match recoverSequenceState validate order request.binding
      (some request.artifactFamily) store with
  | (.error error, store) => (.error error, store)
  | (.ok state, store) =>
    let prepared := do
      let (sequence, failure) ← nextSequences request state
      let value ← envelope store.root request sequence failure
      validate request.artifactFamily value
      .ok (sequence, failure.map Prod.fst, value)
    match prepared with
    | .error error => (.error error, store)
    | .ok (sequence, failureSequence, value) =>
      let canonical := canonicalPath store.root request.binding request.artifactFamily
      let history := historyPath store.root request.binding request.artifactFamily sequence
      match publishArtifact history canonical value publication store with
      | (.error error, store) => (.error error, store)
      | (.ok (), store) => (.ok ⟨sequence, canonical, history, failureSequence⟩, store)

/-! ### Any number of writes -/

/-- One write of some process. -/
structure WriteCall where
  order : ListingOrder
  request : JsonArtifactWriteRequest
  publication : Publication

/-- The processes that write to the store of one pull request; the lock puts their writes one
after the other. -/
def artifactMachine (validate : FamilyInvariants) :
    StateMachine ArtifactStore WriteCall (Except String ArtifactWriteRecord) where
  start store := store.history = [] ∧ store.current = []
  step store call :=
    writeJsonArtifactLocked validate call.order call.request call.publication store

end Luther
