/-
Typed verified merges.

A run that has to be merged is merged when there is an artifact that proves the
merge and its status says so.  Both are written in one transaction, after the
evidence has been computed from probes of the repository and the remote.  The
caller proposes the artifact; nothing in it is believed that the probes or the
run's own row do not say.
-/
import Luther.Lib.StateMachine
import Luther.Persistence.RunMetadata
import Luther.Recovery.Capsule

namespace Luther

open Sql

/-- Strategy-specific evidence that a merge is reachable. -/
inductive MergeReachabilityProof where
  | mergeCommit (headSha baseSha mergeCommitSha : String)
  | squash (baseSha squashCommitSha expectedContentDigest observedContentDigest : String)
  | rebase (baseSha finalHeadSha expectedPatchId observedPatchId : String)
  deriving DecidableEq

def MergeReachabilityProof.resultSha : MergeReachabilityProof → String
  | mergeCommit _ _ mergeCommitSha => mergeCommitSha
  | squash _ squashCommitSha _ _ => squashCommitSha
  | rebase _ finalHeadSha _ _ => finalHeadSha

/-- Immutable proof that a run's pull request was merged. -/
structure TypedMergeArtifact where
  runId : String
  prNumber : Int
  resultSha : String
  repo : String
  headSha : String
  baseSha : String
  capsuleEnvelopeDigest : String
  reachabilityProof : MergeReachabilityProof
  recordedAt : Timestamp

/-- `run_id TEXT PRIMARY KEY`. -/
def TypedMergeArtifact.Clash (a b : TypedMergeArtifact) : Prop := a.runId = b.runId

instance : DecidableRel TypedMergeArtifact.Clash := fun a b =>
  inferInstanceAs (Decidable (a.runId = b.runId))

/-- The `merge_artifacts` table. -/
abbrev ArtifactTable := Table TypedMergeArtifact TypedMergeArtifact.Clash

/-- How a pull request is merged. -/
inductive MergeStrategy where
  | mergeCommit
  | squash
  | rebase

/-- What the remote probe saw. -/
structure MergeObservation where
  merged : Bool
  strategy : MergeStrategy
  resultSha : String

/-- Errors of the typed merge component. -/
inductive MergeError where
  | notMerged
  | strategyMismatch (expected : MergeStrategy) (structural : String)
  | reachabilityFailed (text : String)
  | contentMismatch
  | patchMismatch
  | preconditionFailed (currentStatus : String) (expectedPredecessor : RunStatus)
  | alreadyTerminal
  | artifactConflict
  | capsuleBindingMismatch
  | identityIncomplete (field : String)
  | identityMismatch (field persisted artifact : String)
  | database (text : String)

/-- What is asked of the Git repository: whatever it answers. -/
structure MergeGitProbe where
  isAncestor (workDir ancestor descendant : String) : Except MergeError Unit
  computeTreeContentDigest (workDir commit : String) : Except MergeError String
  computePatchId (workDir base head : String) : Except MergeError String

/-- What is asked of the remote: whatever it answers. -/
structure MergeRemoteProbe where
  observeMerge (repo : String) (prNumber : Int) : Except MergeError MergeObservation

/-- The probes and the identity they are asked about. -/
structure MergeVerifier where
  gitProbe : MergeGitProbe
  remoteProbe : MergeRemoteProbe
  workDir : String
  repo : String
  prNumber : Int
  baseSha : String
  headSha : String

/-! ### Evidence -/

/-- `compute_pr_diff_content_digest`: a squash should have the tree of the head commit. -/
def computePrDiffContentDigest (verifier : MergeVerifier) : Except MergeError String :=
  verifier.gitProbe.computeTreeContentDigest verifier.workDir verifier.headSha

/-- `build_reachability_proof`: the evidence of the strategy that was observed. -/
def buildReachabilityProof (verifier : MergeVerifier) :
    Except MergeError MergeReachabilityProof := do
  let git := verifier.gitProbe
  let obs ← verifier.remoteProbe.observeMerge verifier.repo verifier.prNumber
  if !obs.merged then .error .notMerged
  else
    match obs.strategy with
    | .mergeCommit => do
      git.isAncestor verifier.workDir verifier.headSha obs.resultSha
      git.isAncestor verifier.workDir verifier.baseSha obs.resultSha
      .ok (.mergeCommit verifier.headSha verifier.baseSha obs.resultSha)
    | .squash => do
      git.isAncestor verifier.workDir verifier.baseSha obs.resultSha
      let expected ← computePrDiffContentDigest verifier
      let observed ← git.computeTreeContentDigest verifier.workDir obs.resultSha
      if expected ≠ observed then .error .contentMismatch
      else .ok (.squash verifier.baseSha obs.resultSha expected observed)
    | .rebase => do
      git.isAncestor verifier.workDir verifier.baseSha obs.resultSha
      let expected ← git.computePatchId verifier.workDir verifier.baseSha verifier.headSha
      let observed ← git.computePatchId verifier.workDir verifier.baseSha obs.resultSha
      if expected ≠ observed then .error .patchMismatch
      else .ok (.rebase verifier.baseSha obs.resultSha expected observed)

/-! ### Completion -/

/-- The tables a completion reads and writes. -/
structure MergeDb where
  runs : RunTable
  artifacts : ArtifactTable
  capsules : CapsuleTable

/-- The only status from which a run may become merged. -/
def allowedMergePredecessor : RunStatus := .reviewReady

/-- `load_capsule_v1` under a prefix for its errors, compared with the artifact. -/
def requireCapsule (sha : Sha256Hex) (context : String) (db : MergeDb)
    (artifact : TypedMergeArtifact) : Except MergeError Unit :=
  match loadCapsuleV1 sha db.capsules artifact.runId with
  | .error e => .error (.database s!"{context}: {e.text}")
  | .ok capsule =>
    if capsule.envelopeDigest ≠ artifact.capsuleEnvelopeDigest then
      .error .capsuleBindingMismatch
    else .ok ()

def verifyCapsuleBinding (sha : Sha256Hex) (db : MergeDb) (artifact : TypedMergeArtifact) :
    Except MergeError Unit :=
  requireCapsule sha "capsule load failed" db artifact

def requireIdentity (field persisted artifact : String) : Except MergeError Unit :=
  if persisted = artifact then .ok () else .error (.identityMismatch field persisted artifact)

/-- `revalidate_merge_bindings`: the run's own row, under the transaction.  An absent column is
compared as the empty text, or as zero. -/
def revalidateMergeBindings (sha : Sha256Hex) (db : MergeDb) (artifact : TypedMergeArtifact) :
    Except MergeError Unit :=
  match getRun db.runs artifact.runId with
  | none => .error (.database s!"run not found: {artifact.runId}")
  | some metadata => do
    requireIdentity "repository" (metadata.repository.getD "") artifact.repo
    requireIdentity "pr_number" (toString (metadata.prNumber.getD 0))
      (toString artifact.prNumber)
    requireIdentity "head_sha" (metadata.headSha.getD "") artifact.headSha
    requireCapsule sha "capsule revalidation failed" db artifact

/-- `artifact_exact_equal`: every field but the time of recording. -/
def artifactExactEqual (a b : TypedMergeArtifact) : Bool :=
  a.runId == b.runId && a.prNumber == b.prNumber && a.resultSha == b.resultSha
    && a.repo == b.repo && a.headSha == b.headSha && a.baseSha == b.baseSha
    && a.capsuleEnvelopeDigest == b.capsuleEnvelopeDigest
    && a.reachabilityProof == b.reachabilityProof

/-- `load_merge_artifact_conn`. -/
def loadMergeArtifact (artifacts : ArtifactTable) (runId : String) : Option TypedMergeArtifact :=
  artifacts.find? (fun row => row.runId == runId)

/-- `insert_merge_artifact`: `INSERT … ON CONFLICT(run_id) DO NOTHING`, and on a conflict the
row that is there has to be the same.  Answers the number of rows inserted. -/
def insertMergeArtifact (artifact : TypedMergeArtifact) (proof : MergeReachabilityProof)
    (db : MergeDb) : Except MergeError (Nat × MergeDb) :=
  match db.artifacts.insert { artifact with reachabilityProof := proof } with
  | some artifacts => .ok (1, { db with artifacts := artifacts })
  | none =>
    match loadMergeArtifact db.artifacts artifact.runId with
    | none => .error (.database "artifact conflict without existing row")
    | some existing =>
      if !artifactExactEqual existing artifact then .error .artifactConflict
      else .ok (0, db)

/-- `transition_to_merged`: a compare-and-swap on status and head, or a retry that finds the
run merged already. -/
def transitionToMerged (now : Timestamp) (artifact : TypedMergeArtifact)
    (artifactAffected : Nat) (db : MergeDb) : Except MergeError (Unit × MergeDb) :=
  let selected (md : RunMetadata) : Bool :=
    md.runId == artifact.runId && md.status == allowedMergePredecessor
      && md.headSha == some artifact.headSha
  if db.runs.count selected = 1 then
    let runs := db.runs.update selected
      (fun md => { md with status := .merged, updatedAt := some now }) (fun _ _ h => h)
    .ok ((), { db with runs := runs })
  else
    let currentStatus : RunStatus :=
      match getRun db.runs artifact.runId with
      | some metadata => metadata.status
      | none => .initialized
    if currentStatus = .merged ∧ artifactAffected = 0 then .ok ((), db)
    else .error (.preconditionFailed currentStatus.toText allowedMergePredecessor)

/-- The transaction of `complete_typed_merge`. -/
def completeTypedMergeTx (sha : Sha256Hex) (now : Timestamp) (artifact : TypedMergeArtifact)
    (proof : MergeReachabilityProof) (db : MergeDb) : Except MergeError (Unit × MergeDb) := do
  revalidateMergeBindings sha db artifact
  let (artifactAffected, db) ← insertMergeArtifact artifact proof db
  transitionToMerged now artifact artifactAffected db

/-- `complete_typed_merge`: verification outside, then the artifact and the status in one
transaction. -/
def completeTypedMerge (sha : Sha256Hex) (now : Timestamp) (artifact : TypedMergeArtifact)
    (verifier : MergeVerifier) (db : MergeDb) : Except MergeError Unit × MergeDb :=
  match buildReachabilityProof verifier with
  | .error e => (.error e, db)
  | .ok proof =>
    if proof.resultSha ≠ artifact.resultSha ∨ proof ≠ artifact.reachabilityProof
        ∨ verifier.repo ≠ artifact.repo ∨ verifier.prNumber ≠ artifact.prNumber
        ∨ verifier.headSha ≠ artifact.headSha ∨ verifier.baseSha ≠ artifact.baseSha then
      (.error .artifactConflict, db)
    else
      match verifyCapsuleBinding sha db artifact with
      | .error e => (.error e, db)
      | .ok () => atomically (completeTypedMergeTx sha now artifact proof) db

/-! ### Any sequence of completions -/

/-- One call of `complete_typed_merge`. -/
structure MergeCall where
  now : Timestamp
  artifact : TypedMergeArtifact
  verifier : MergeVerifier

/-- Completions on one database, starting without artifacts and without merged runs. -/
def mergeMachine (sha : Sha256Hex) : StateMachine MergeDb MergeCall (Except MergeError Unit) where
  start db := db.artifacts.rows = [] ∧ ∀ md ∈ db.runs, md.status ≠ .merged
  step db call := completeTypedMerge sha call.now call.artifact call.verifier db

end Luther
