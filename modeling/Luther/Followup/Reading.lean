/-
Reading the artifacts of a pull request back.

A family is read in two ways.  Its history is every document that was written to it, each
checked by itself; its canonical file is the last one, and counts only where it is a copy of a
document of the history.  A document names the head it is about.  One of an earlier head of the
same pull request is no mistake, but says nothing about this head.
-/
import Luther.Followup.ArtifactStore
import Luther.Lib.Effect

namespace Luther

/-! ### Candidates of a history -/

/-- A file of the history, read or not. -/
structure RecoverableHistoryCandidate where
  path : FilePath
  value : Option Json
  validationError : Option String

section

variable (validate : FamilyInvariants)

section

variable (binding : PrFollowupBinding)

section

variable (artifactFamily : String)

def recoverableHistoryCandidate (file : ContainedFile) : RecoverableHistoryCandidate :=
  match Json.fromText file.content with
  | .error error => ⟨file.path, none, some s!"parse {file.path.text}: {error}"⟩
  | .ok value =>
    let checked := do
      validateArtifactValue binding artifactFamily value
      validateHistorySnapshot validate artifactFamily value file.path
      validateHistoryFilename artifactFamily value file.path
      validateHistoryEmbeddedPath value file.path
    match checked with
    | .ok () => ⟨file.path, some value, none⟩
    | .error error => ⟨file.path, some value, some error⟩

/-- The files that `visit_recoverable_history_candidates` visits, as they are listed. -/
def familyFiles (order : ListingOrder) (binding : PrFollowupBinding) (artifactFamily : String)
    (store : ArtifactStore) : List ContainedFile :=
  (order.list store.history).filter fun file =>
    file.path.parent == historyRootForFamily store.root binding artifactFamily

/-- `visit_recoverable_history_candidates`. -/
def recoverableHistoryCandidates
    (order : ListingOrder) (binding : PrFollowupBinding) (artifactFamily : String)
    (store : ArtifactStore) : Except String (List RecoverableHistoryCandidate) :=
  let files := familyFiles order binding artifactFamily store
  if maxArtifactScanFiles < files.length then
    .error s!"artifact scan exceeds {maxArtifactScanFiles} matching files"
  else .ok (files.map (recoverableHistoryCandidate validate binding artifactFamily))

/-- One candidate of `read_pr_identity_history_candidates`: the heads may differ. -/
def prIdentityCandidate (candidate : RecoverableHistoryCandidate) : RecoverableHistoryCandidate :=
  match candidate.value with
  | none => candidate
  | some value =>
    let checked := do
      let actual ← bindingFromValue value
      if !binding.prIdentityMatches actual then
        .error "history artifact has a different PR identity"
      validateArtifactMetadata artifactFamily value
      validateHistorySnapshot validate artifactFamily value candidate.path
      validateHistoryFilename artifactFamily value candidate.path
      validateHistoryEmbeddedPath value candidate.path
    match checked with
    | .ok () => { candidate with validationError := none }
    | .error error => { candidate with validationError := some error }

def readPrIdentityHistoryCandidates
    (order : ListingOrder) (binding : PrFollowupBinding) (artifactFamily : String)
    (store : ArtifactStore) : Except String (List RecoverableHistoryCandidate) := do
  let candidates ←
    recoverableHistoryCandidates validate order binding artifactFamily store
  let sorted := candidates.insertionSort fun left right => left.path.text ≤ right.path.text
  .ok (sorted.map (prIdentityCandidate validate binding artifactFamily))

/-! ### The canonical file -/

/-- What the canonical file is found to be. -/
inductive RecoverableCurrentArtifact where
  | missing
  | corrupt
  | valid (value : Json)

def validateCanonicalMatchesImmutableHistory
    (canonical : Json) (store : ArtifactStore) : Except String Unit := do
  match metadataString "history_path" canonical with
  | none => .error "canonical artifact is missing immutable history path"
  | some text =>
    let path := FilePath.ofText text
    if path.parent ≠ historyRootForFamily store.root binding artifactFamily then
      .error s!"canonical immutable history is outside the exact family root: {text}"
    match store.history.find? fun file => file.path == path with
    | none => .error s!"read {text}: No such file or directory"
    | some file =>
      let history ← (Json.fromText file.content).mapError fun error =>
        s!"parse {text}: {error}"
      validateArtifactValue binding artifactFamily history
      validateHistorySnapshot validate artifactFamily history path
      validateHistoryFilename artifactFamily history path
      validateHistoryEmbeddedPath history path
      if history ≠ canonical then
        .error (s!"canonical artifact differs from its immutable history snapshot at "
          ++ text)

/-- The canonical file of a family, where there is one. -/
def ArtifactStore.currentFile (store : ArtifactStore) : Option ContainedFile :=
  store.current.find? fun file =>
    file.path == canonicalPath store.root binding artifactFamily

def readRecoverableCurrentJson (store : ArtifactStore) : RecoverableCurrentArtifact :=
  match store.currentFile binding artifactFamily with
  | none => .missing
  | some file =>
    match Json.fromText file.content with
    | .error _ => .corrupt
    | .ok value =>
      let validation := do
        validateArtifactValue binding artifactFamily value
        validateCanonicalEmbeddedPath value
          (canonicalPath store.root binding artifactFamily)
        validate artifactFamily value
        validateCanonicalMatchesImmutableHistory validate binding
          artifactFamily value store
      match validation with
      | .ok () => .valid value
      | .error _ => .corrupt

/-- `read_current_json`: the canonical file has to be there, and about the reader's head. -/
def readCurrentJson (store : ArtifactStore) : Except String Json :=
  let path := canonicalPath store.root binding artifactFamily
  match store.currentFile binding artifactFamily with
  | none => .error s!"read {path.text}: No such file or directory"
  | some file => do
    let value ← (Json.fromText file.content).mapError fun error =>
      s!"parse {path.text}: {error}"
    validateArtifactValue binding artifactFamily value
    validateCanonicalEmbeddedPath value path
    validate artifactFamily value
    validateCanonicalMatchesImmutableHistory validate binding artifactFamily
      value store
    .ok value

def restoreCanonicalFromHistoryLocked
    (value : Json) (store : ArtifactStore) : Except String ArtifactStore := do
  validateArtifactValue binding artifactFamily value
  match metadataString "history_path" value with
  | none => .error "missing history path for canonical restoration"
  | some text =>
    validateHistoryEmbeddedPath value (FilePath.ofText text)
    match metadataString "canonical_path" value with
    | none => .error "missing canonical path for restoration"
    | some embedded =>
      let canonical := canonicalPath store.root binding artifactFamily
      if embedded ≠ canonical.text then .error "canonical restoration path mismatch"
      .ok (store.replaceCurrent ⟨canonical, value⟩)

def PrFollowupBinding.headRevisionMatches (other self : PrFollowupBinding) : Bool :=
  self.headSha != "" && self.headSha == other.headSha && self.baseSha != some ""
    && other.baseSha != some "" && self.baseSha == other.baseSha

def PrFollowupBinding.isStalePriorHeadOf (other self : PrFollowupBinding) : Bool :=
  other.prIdentityMatches self && !other.headRevisionMatches self

/-- The checks of `read_optional_current_json_for_head` that the head has no part in. -/
def checkCurrentDocument (value : Json)
    (store : ArtifactStore) : Except String PrFollowupBinding := do
  let actual ← bindingFromValue value
  validateArtifactMetadata artifactFamily value
  validateCanonicalEmbeddedPath value (canonicalPath store.root binding artifactFamily)
  validate artifactFamily value
  validateCanonicalMatchesImmutableHistory validate actual artifactFamily value
    store
  .ok actual

/-- `read_optional_current_json_for_head`: what is about an earlier head is not there. -/
def readOptionalCurrentJsonForHead (store : ArtifactStore) : Except String (Option Json) :=
  match store.currentFile binding artifactFamily with
  | none => .ok none
  | some file => do
    let value ← (Json.fromText file.content).mapError fun error =>
      s!"parse {file.path.text}: {error}"
    let actual ← checkCurrentDocument validate binding artifactFamily value store
    if binding.isStalePriorHeadOf actual then .ok none
    else do
      validateArtifactValue binding artifactFamily value
      .ok (some value)

end

end

end

end Luther

/-
The history as evidence.

A reader that has moved on to another head does not ask the canonical file of a family, which may
be about any head.  It asks the history, for the one document that was made between two heads, or
for the one with the numbers that it was told.  Every document of the family has to be in order
before one of them is believed, and two that fit are as bad as none.
-/

namespace Luther

/-- `ValidatedHistoryLedger`: the history was found in order, for one binding. -/
structure ValidatedHistoryLedger where
  binding : PrFollowupBinding

/-- The document that is looked for in a history. -/
structure HistoryEvidenceQuery where
  artifactFamily : String
  sourceHeadSha : String
  outputHeadSha : Option String
  evidenceSequence : Option ArtifactSequenceMetadata

namespace HistoryEvidenceQuery

section

variable (query : HistoryEvidenceQuery)

def sequenceMatches (value : Json) : Bool :=
  query.evidenceSequence.all fun sequence =>
    (value.get? "artifact_sequence").bind Json.asU64? == some sequence.artifactSequence
      && (value.get? "write_sequence").bind Json.asU64? == some sequence.writeSequence
      && ((value.get? "producer_step_id").bind Json.asStr?).getD "" == sequence.producerStepId

def «matches» (value : Json) : Bool :=
  query.sequenceMatches value
    && ((value.get? "input_head_sha").bind Json.asStr?).getD "" == query.sourceHeadSha
    && query.outputHeadSha.all fun expected =>
      ((value.get? "output_head_sha").bind Json.asStr?).getD "" == expected

def identityDescription : String :=
  match query.evidenceSequence with
  | some sequence =>
    s!"artifact_sequence={sequence.artifactSequence} write_sequence={sequence.writeSequence} "
      ++ s!"producer={sequence.producerStepId}"
  | none =>
    let outputHead := (query.outputHeadSha.map fun head => s!"Some({head.quote})").getD "None"
    s!"source_head_sha={query.sourceHeadSha} output_head_sha={outputHead}"

end

end HistoryEvidenceQuery

section

variable (validate : FamilyInvariants)

/-- One file of `validated_history_candidates`. -/
def validatedHistoryCandidate (binding : PrFollowupBinding) (artifactFamily : String)
    (file : ContainedFile) : Except String Json := do
  let value ← (Json.fromText file.content).mapError fun error =>
    s!"parse {file.path.text}: {error}"
  let actual ← bindingFromValue value
  if !binding.prIdentityMatches actual then
    .error s!"history artifact binding mismatch under PR-keyed directory: {file.path.text}"
  validateHistorySnapshot validate artifactFamily value file.path
  validateHistoryFilename artifactFamily value file.path
  validateHistoryEmbeddedPath value file.path
  .ok value

def validatedHistoryCandidates (order : ListingOrder) (binding : PrFollowupBinding)
    (artifactFamily : String) (store : ArtifactStore) : Except String (List Json) :=
  let files := familyFiles order binding artifactFamily store
  if maxArtifactScanFiles < files.length then
    .error s!"artifact scan exceeds {maxArtifactScanFiles} matching files"
  else
    (files.insertionSort fun left right => left.path.text ≤ right.path.text).mapM
      (validatedHistoryCandidate validate binding artifactFamily)

def resolveHistoryEvidence (query : HistoryEvidenceQuery) (familyRoot : String) :
    List Json → Except String (Option Json)
  | [] => .ok none
  | [value] => .ok (some value)
  | found =>
    .error (s!"ambiguous history evidence for {query.artifactFamily}: "
      ++ query.identityDescription ++ s!" matched {found.length} candidates in {familyRoot}")

def readHistoryEvidence (order : ListingOrder)
    (binding : PrFollowupBinding) (ledger : ValidatedHistoryLedger)
    (query : HistoryEvidenceQuery) (store : ArtifactStore) : Except String (Option Json) :=
  if ledger.binding ≠ binding then
    .error "validated history ledger binding does not match evidence query binding"
  else do
    let validated ← validatedHistoryCandidates validate order binding
      query.artifactFamily store
    resolveHistoryEvidence query (historyRootForFamily store.root binding query.artifactFamily)
      (validated.filter query.matches)

def validateHistoryLedger (order : ListingOrder) (binding : PrFollowupBinding)
    (store : ArtifactStore) : Except String ValidatedHistoryLedger × ArtifactStore :=
  match recoverSequenceState validate order binding none store with
  | (.error error, store) => (.error error, store)
  | (.ok _, store) => (.ok ⟨binding⟩, store)

end

end Luther

/-
The artifacts of all pull requests under one root, and the pull request of a run among them.

The store is used through one pull request at a time, whose files lie in directories of their
own.  Which pull request a run is about is not always known: where a step is not told, the
directory of the run is searched for the artifacts that identify one, and one that was only
made up for a test harness does not count.
-/

namespace Luther

/-- The files under one root. -/
structure ArtifactTree where
  root : String
  history : List ContainedFile := []
  current : List ContainedFile := []

/-- Whether a file lies in a directory, or below it. -/
def FilePath.isBelow (directory : String) (path : FilePath) : Bool :=
  path.parent == directory || (directory ++ "/").toList.isPrefixOf path.parent.toList

namespace ArtifactTree

def pullRequest (binding : PrFollowupBinding) (tree : ArtifactTree) : ArtifactStore where
  root := tree.root
  history := tree.history.filter fun file =>
    file.path.isBelow (bindingRoot tree.root "history" binding)
  current := tree.current.filter fun file =>
    file.path.isBelow (bindingRoot tree.root "current" binding)

/-- The tree, with the files of one pull request as the store has them. -/
def withPullRequest (binding : PrFollowupBinding) (store : ArtifactStore)
    (tree : ArtifactTree) : ArtifactTree where
  root := tree.root
  history := (tree.history.filter fun file =>
    !file.path.isBelow (bindingRoot tree.root "history" binding)) ++ store.history
  current := (tree.current.filter fun file =>
    !file.path.isBelow (bindingRoot tree.root "current" binding)) ++ store.current

end ArtifactTree

/-- A computation on the files of one pull request. -/
def onPullRequest {α : Type} (binding : PrFollowupBinding) (m : Effect ArtifactStore α) :
    Effect ArtifactTree α :=
  Effect.onPart (ArtifactTree.pullRequest binding) (ArtifactTree.withPullRequest binding) m

/-! ### The pull request of a run -/

def maxPrArtifactDiscoveryDepth : Nat := 8

def maxPrArtifactDiscoveryFiles : Nat := 10000

/-- What a search of the tree meets with. -/
structure DiscoveryRun where
  order : ListingOrder
  /-- What the file system says, or the budget of what is read. -/
  fault : Option String := none

def currentRootOfRun (root runId : String) : String :=
  s!"{root}/pr-followup/current/{sanitizePathSegment runId}"

/-- How many directories a file lies below another one. -/
def FilePath.nesting (directory : String) (path : FilePath) : Nat :=
  (path.parent.toList.drop directory.toList.length).count '/'

def fieldText (field : String) (value : Json) : Option String :=
  (value.get? field).bind Json.asStr?

/-- The source that an artifact of the test harness names. -/
def legacyHarness : String := "legacy_harness"

/-- `parse_current_pr_artifact`: what the harness has made up is no identity. -/
def parseCurrentPrArtifact (expectedRunId : String) (file : ContainedFile) :
    Except String (Option ContainedFile) := do
  let path := file.path.text
  let value ← (Json.fromText file.content).mapError fun error =>
    s!"parse exact-run PR identity candidate {path}: {error}"
  if fieldText "run_id" value ≠ some expectedRunId then
    let found :=
      ((fieldText "run_id" value).map fun text => s!"Some({Json.quote text})").getD "None"
    .error (s!"exact-run PR identity candidate {path} carries run_id {found}, "
      ++ s!"expected {expectedRunId}")
  let _ ← (bindingFromValue value).mapError fun error =>
    s!"malformed exact-run PR identity candidate {path}: {error}"
  .ok (if fieldText "source" value = some legacyHarness then none else some file)

def discoverCurrentPrArtifacts (run : DiscoveryRun) (runId : String) (tree : ArtifactTree) :
    Except String (List ContainedFile) := do
  let root := currentRootOfRun tree.root runId
  let below := tree.current.filter fun file => file.path.isBelow root
  if below.any fun file => decide (maxPrArtifactDiscoveryDepth < file.path.nesting root) then
    .error s!"artifact directory nesting exceeds {maxPrArtifactDiscoveryDepth} at {root}"
  let named := below.filter fun file => file.path.fileStem == "pr" && file.path.extension == "json"
  if maxPrArtifactDiscoveryFiles < named.length then
    .error s!"artifact scan exceeds {maxPrArtifactDiscoveryFiles} matching files under {root}"
  let found ← (run.order.list named).mapM (parseCurrentPrArtifact runId)
  .ok (found.reduceOption.insertionSort fun left right => left.path.text ≤ right.path.text)

section Finding

variable (validate : FamilyInvariants)

/-- `validate_discovered_pr_artifact_with_budget`. -/
def validateDiscoveredPrArtifact (path : FilePath) (value : Json) (tree : ArtifactTree) :
    Except String PrFollowupBinding := do
  let actual ← bindingFromValue value
  validateArtifactValue actual "pr" value
  validateCanonicalEmbeddedPath value path
  validate "pr" value
  validateCanonicalMatchesImmutableHistory validate actual "pr" value
    (tree.pullRequest actual)
  .ok actual

def isCurrentPrIdentity (value : Json) : Bool :=
  fieldText "source" value != some legacyHarness && (bindingFromValue value).isOk

def readRequestedPrArtifact (runId : String) (requested : PrFollowupBinding)
    (tree : ArtifactTree) : Except String (Option Json) :=
  match (tree.pullRequest requested).currentFile requested "pr" with
  | none => .ok none
  | some file => do
    let value ← (Json.fromText file.content).mapError fun error =>
      s!"parse {file.path.text}: {error}"
    let actual ← validateDiscoveredPrArtifact validate file.path value tree
    if fieldText "run_id" value ≠ some runId ∨ requested.prIdentityMatches actual = false then
      .error "requested PR binding identity does not match the direct PR artifact"
    .ok (if isCurrentPrIdentity value then some value else none)

/-- `find_current_pr_artifact_for_run`: the artifact of the number that is asked for, and for
number 0 the only one of the run. -/
def findCurrentPrArtifactForRun (run : DiscoveryRun) (runId : String)
    (requested : PrFollowupBinding) (tree : ArtifactTree) : Except String (Option Json) :=
  if requested.runId ≠ runId then .error "requested PR binding run_id mismatch"
  else
    match run.fault with
    | some error => .error error
    | none =>
      if requested.prNumber ≠ 0 then
        readRequestedPrArtifact validate runId requested tree
      else do
        let discovered ← discoverCurrentPrArtifacts run runId tree
        discovered.forM fun file => do
          let _ ← validateDiscoveredPrArtifact validate file.path file.content
            tree
        match discovered with
        | [] => .ok none
        | [file] => .ok (some file.content)
        | files =>
          let paths := ", ".intercalate (files.map fun file => file.path.text)
          .error (s!"multiple PR identity artifacts found for run {runId}; provide "
            ++ "repository_owner, repository_name, and pr_number parameters; "
            ++ s!"conflicting artifacts: {paths}")

end Finding

end Luther
