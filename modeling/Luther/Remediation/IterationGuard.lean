/-
The guard that ends a remediation which goes round and round.

Each time the head of the pull request has changed, a round of remediation is over, and the
guard counts it.  It counts twice: every round, and the rounds that only a reviewer asked for,
because no check had failed.  Both counts are kept in the guard's own artifact, and each
artifact is made from the one before it.  Whether a check had failed in the round that is over
is read from the `ci-failures` artifact.
-/
import Luther.Engine.Transition
import Luther.Followup.Reading

/-- A `u64` of an object. -/
def Json.u64? (key : String) (value : Json) : Option Nat := (value.get? key).bind Json.asU64?

namespace Luther

def guardFamily : String := "post-pr-iteration-guard"

def ciFailuresFamily : String := "ci-failures"

def u64Param (params : Json) (key : String) (default : Nat) : Nat :=
  (params.u64? key).getD default

/-! ### The guard before -/

def validateGuardSnapshot (value : Json) (path : FilePath) : Except String Unit :=
  let guardState := (value.get? "guard_state").bind Json.asStr?
  if ¬ (guardState = some "proceed" ∨ guardState = some "max_iterations_exceeded")
      ∨ value.u64? "iteration_index" = none
      ∨ value.u64? "max_post_pr_remediation_iterations" = none
      ∨ (value.get? "head_sha").bind Json.asStr? = none then
    .error s!"malformed post-PR iteration guard snapshot {path.text}"
  else .ok ()

def debugU64 (sequence : Option Nat) : String :=
  match sequence with
  | none => "None"
  | some n => s!"Some({n})"

/-- The loop of `latest_guard_for_current_run`. -/
def latestGuardFrom : List RecoverableHistoryCandidate → Option Json → List Nat →
    Except String (Option Json)
  | [], latest, _ => .ok latest
  | candidate :: rest, latest, sequences => do
    let value ← match candidate.value with
      | some value => Except.ok value
      | none =>
        .error (s!"malformed post-PR iteration guard history {candidate.path.text}: "
          ++ candidate.validationError.getD "JSON payload unavailable")
    match candidate.validationError with
    | some error =>
      .error s!"invalid post-PR iteration guard history {candidate.path.text}: {error}"
    | none => .ok ()
    let sequence ← match (value.u64? "artifact_sequence").filter (0 < ·) with
      | some sequence => Except.ok sequence
      | none =>
        .error (s!"post-PR iteration guard history {candidate.path.text} "
          ++ "has no positive artifact_sequence")
    if sequence ∈ sequences then
      .error s!"duplicate post-PR iteration guard history sequence {sequence}"
    validateGuardSnapshot value candidate.path
    let expected := latest.bind (Json.u64? "artifact_sequence")
    let found := value.u64? "predecessor_artifact_sequence"
    if expected.isSome ∧ found ≠ expected then
      .error (s!"broken post-PR iteration guard history chain at {candidate.path.text}: "
        ++ s!"expected predecessor {debugU64 expected}, found {debugU64 found}")
    latestGuardFrom rest (some value) (sequence :: sequences)

def RecoverableHistoryCandidate.artifactSequence (candidate : RecoverableHistoryCandidate) : Nat :=
  (candidate.value.bind (Json.u64? "artifact_sequence")).getD 0

section

variable (validate : FamilyInvariants)

def latestGuardForCurrentRun (order : ListingOrder) (binding : PrFollowupBinding)
    (store : ArtifactStore) : Except String (Option Json) := do
  let candidates ←
    readPrIdentityHistoryCandidates validate order binding guardFamily store
  latestGuardFrom
    (candidates.insertionSort fun a b => a.artifactSequence ≤ b.artifactSequence) none []

/-! ### The rounds that only a reviewer asked for -/

section

variable (binding : PrFollowupBinding)

/-- `previous_round_had_ci_failures`: what cannot be read counts as failures. -/
def previousRoundHadCiFailures (store : ArtifactStore) : Except String Bool := do
  match ← readOptionalCurrentJsonForHead validate binding ciFailuresFamily
      store with
  | none => .ok true
  | some ciFailures =>
    match ciFailures.get? "failures" with
    | some (.arr failures) => .ok (!failures.isEmpty)
    | _ => .ok true

def reviewIterationIndex (previous : Option Json)
    (iterationIndex : Nat) (store : ArtifactStore) : Except String Nat :=
  match previous with
  | none => .ok 0
  | some previous =>
    let carried := (previous.u64? "review_iteration_index").getD 0
    if iterationIndex = (previous.u64? "iteration_index").getD 0 then .ok carried
    else do
      let hadCiFailures ← previousRoundHadCiFailures validate binding store
      .ok (if hadCiFailures then carried else min (carried + 1) (2 ^ 64 - 1))

/-! ### The budget -/

/-- What is left of the rounds. -/
structure RemediationBudget where
  reviewIterationIndex : Nat
  reviewExceeded : Bool
  exceeded : Bool

def RemediationBudget.evaluate (previous : Option Json)
    (iterationIndex maxIterations maxReviewIterations : Nat) (store : ArtifactStore) :
    Except String RemediationBudget := do
  let review ←
    Luther.reviewIterationIndex validate binding previous iterationIndex store
  let reviewExceeded := decide (maxReviewIterations < review)
  .ok
    { reviewIterationIndex := review
      reviewExceeded := reviewExceeded
      exceeded := decide (maxIterations < iterationIndex) || reviewExceeded }

end

end

def RemediationBudget.guardState (budget : RemediationBudget) : String :=
  if budget.exceeded then "max_iterations_exceeded" else "proceed"

def RemediationBudget.exceededReason (budget : RemediationBudget) : String :=
  if budget.reviewExceeded then "max_review_iterations_exceeded" else "max_iterations_exceeded"

def RemediationBudget.failure (iterationIndex maxIterations maxReviewIterations : Nat)
    (budget : RemediationBudget) : Option ArtifactFailure :=
  if budget.exceeded then
    some
      { semanticState := "fatal"
        reason := budget.exceededReason
        details := .obj
          [("iteration_index", .num iterationIndex),
           ("max_post_pr_remediation_iterations", .num maxIterations),
           ("review_iteration_index", .num budget.reviewIterationIndex),
           ("max_review_remediation_iterations", .num maxReviewIterations)] }
  else none

/-! ### One execution -/

/-- An execution of the guard. -/
structure GuardCall where
  order : ListingOrder
  binding : PrFollowupBinding
  params : Json
  /-- What `scope_review_gate` says; where scope control is disabled, it permits. -/
  scopeReviewGate : Except String Bool := .ok true
  updatedAt : Timestamp
  writtenAt : Timestamp
  publication : Publication

/-- The round that an execution finds itself in: its number, the head before it, and why. -/
def nextIteration (binding : PrFollowupBinding) (previous : Option Json) : Nat × Json × String :=
  match previous with
  | none => (0, .null, "initial_entry")
  | some guard =>
    let iterationIndex := (guard.u64? "iteration_index").getD 0
    if (guard.get? "head_sha").bind Json.asStr? = some binding.headSha then
      (iterationIndex, .str binding.headSha, "same_head_reentry")
    else
      (iterationIndex + 1, (guard.get? "head_sha").getD .null,
        "head_sha_changed_after_remediation_push")

/-- The number of a document, or `null`. -/
def jsonOfSequence (sequence : Option Nat) : Json :=
  match sequence with
  | none => .null
  | some n => .num n

def guardRequest (call : GuardCall) (previous : Option Json) (budget : RemediationBudget) :
    JsonArtifactWriteRequest :=
  let maxIterations := u64Param call.params "max_post_pr_remediation_iterations" 3
  let maxReviewIterations := u64Param call.params "max_review_remediation_iterations" 2
  let (iterationIndex, previousHeadSha, reason) := nextIteration call.binding previous
  { binding := call.binding
    artifactFamily := guardFamily
    producerStepId := "post_pr_iteration_guard"
    stepOrderIndex := UInt64.ofNat (u64Param call.params "step_order_index" 2)
    writtenAt := call.writtenAt
    producedAt := call.writtenAt
    payload := .obj
      [("guard_state", .str budget.guardState),
       ("iteration_index", .num iterationIndex),
       ("max_post_pr_remediation_iterations", .num maxIterations),
       ("review_iteration_index", .num budget.reviewIterationIndex),
       ("max_review_remediation_iterations", .num maxReviewIterations),
       ("previous_head_sha", previousHeadSha),
       ("predecessor_artifact_sequence",
        jsonOfSequence (previous.bind (Json.u64? "artifact_sequence"))),
       ("reason", .str (if budget.exceeded then budget.exceededReason else reason)),
       ("ignored_stale_artifacts", .arr []),
       ("updated_at", .str call.updatedAt.toRfc3339)]
    failure := budget.failure iterationIndex maxIterations maxReviewIterations }

def guardReading (validate : FamilyInvariants) (call : GuardCall)
    (store : ArtifactStore) : Except String (Option Json × RemediationBudget) := do
  let previous ← latestGuardForCurrentRun validate call.order call.binding store
  let budget ← RemediationBudget.evaluate validate call.binding previous
    (nextIteration call.binding previous).1
    (u64Param call.params "max_post_pr_remediation_iterations" 3)
    (u64Param call.params "max_review_remediation_iterations" 2) store
  .ok (previous, budget)

/-- `PostPrIterationGuardExecutor::execute`. -/
def executeGuard (validate : FamilyInvariants) (call : GuardCall)
    (store : ArtifactStore) : Except String StepOutcome × ArtifactStore :=
  match call.scopeReviewGate with
  | .error error => (.error error, store)
  | .ok false => (.ok .fatal, store)
  | .ok true =>
    match guardReading validate call store with
    | .error error => (.error error, store)
    | .ok (previous, budget) =>
      let (written, store) := writeJsonArtifactLocked validate call.order
        (guardRequest call previous budget) call.publication store
      (written.map fun _ => if budget.exceeded then .fatal else .success, store)

/-- What happens to the store of a pull request. -/
inductive GuardStep where
  | guard (call : GuardCall)
  /-- Another producer writes an artifact of its own, such as the failures it has collected. -/
  | write (call : WriteCall)

end Luther
