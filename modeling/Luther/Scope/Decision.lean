/-
The decision over a patch that exceeds its charter.

The barrier stands before every mutation.  It measures the patch afresh; where the patch exceeds
the charter it looks for a request and the resolution of an operator, and writes a request where
none applies.  Each measurement has its own file of a request, which is never written twice, and
the request that counts is the one whose file was modified last.  There is one resolution, which
the next one replaces.
-/
import Luther.Daemon.Poller
import Luther.Scope.Evaluation

namespace Luther

/-! ### Requests and resolutions -/

/-- What an operator decides of a patch that is too large. -/
inductive ScopeExpansionDecision where
  | approveExpandedScope
  | splitFollowUpIssue
  | returnToMinimalImplementation
  deriving DecidableEq

namespace ScopeExpansionDecision

def authorizesExpansion : ScopeExpansionDecision → Bool
  | approveExpandedScope => true
  | splitFollowUpIssue | returnToMinimalImplementation => false

def text : ScopeExpansionDecision → String
  | approveExpandedScope => "approve_expanded_scope"
  | splitFollowUpIssue => "split_follow_up_issue"
  | returnToMinimalImplementation => "return_to_minimal_implementation"

end ScopeExpansionDecision

/-- The question to the operator. -/
structure ScopeExpansionRequest where
  runId : String
  charterId : String
  charterDigest : String
  measurementDigest : String
  measurement : PatchMeasurement
  evaluation : ScopeEvaluation
  violations : List Violation
  createdAt : Timestamp
  deriving DecidableEq

/-- The answer. -/
structure ScopeExpansionResolution where
  runId : String
  measurementDigest : String
  decision : ScopeExpansionDecision
  rationale : String
  resolvedAt : Timestamp

/-- `measurement_digest`: the digest of the measurement as JSON, both of which crates compute. -/
abbrev MeasurementDigest := PatchMeasurement → String

/-! ### Timeouts -/

/-- Which limit of time was passed. -/
inductive TimeoutKind where
  | timeout
  | idleTimeout

/-- A changed path, and its subsystem. -/
structure MappedChange where
  path : String
  subsystem : Option String

/-- How the process ended. -/
structure ProcessEvidence where
  exitCode : Option Int
  wallClockTimeout : Bool
  processKilled : Bool

/-- What is kept of a patch at a timeout. -/
structure TimeoutSnapshot where
  runId : String
  charterId : String
  charterDigest : String
  timeoutKind : TimeoutKind
  measurement : PatchMeasurement
  mappedChanges : List MappedChange
  partialCompileConfigured : Bool
  partialCompilePassed : Option Bool
  processEvidence : ProcessEvidence
  recoveryRequired : Bool
  createdAt : Timestamp

/-! ### The files of a run -/

/-- A file of a request, with the time it was modified. -/
structure Generation where
  name : String
  mtime : Timestamp
  request : ScopeExpansionRequest
  deriving DecidableEq

/-- The scope-control directory of a run.  The directory of the generations may not be there. -/
structure ScopeArtifacts where
  charter : Option CanonicalTaskCharter := none
  legacyRequest : Option ScopeExpansionRequest := none
  generations : Option (List Generation) := none
  resolution : Option ScopeExpansionResolution := none
  timeoutSnapshot : Option TimeoutSnapshot := none

/-- `PersistenceError`, as far as it comes from what is found. -/
inductive ScopePersistenceError where
  | conflict (path message : String)

def ScopePersistenceError.text : ScopePersistenceError → String
  | conflict path message => s!"conflict at {path}: {message}"

def generationFileName (digest : String) : String := digest ++ ".json"

def writeExpansionRequest (now : Timestamp) (request : ScopeExpansionRequest)
    (artifacts : ScopeArtifacts) : Except ScopePersistenceError Unit × ScopeArtifacts :=
  let generations := artifacts.generations.getD []
  let name := generationFileName request.measurementDigest
  match generations.find? (·.name == name) with
  | some existing =>
    let artifacts := { artifacts with generations := some generations }
    if existing.request.measurementDigest = request.measurementDigest then
      (.ok (), artifacts)
    else (.error (.conflict name "generation file digest mismatch"), artifacts)
  | none => (.ok (), { artifacts with generations := some (generations ++ [⟨name, now, request⟩]) })

/-- The file that comes first: the one modified last, then the one with the larger name. -/
def Generation.newerFirst (a b : Generation) : Prop :=
  b.mtime < a.mtime ∨ (a.mtime = b.mtime ∧ b.name ≤ a.name)

instance : DecidableRel Generation.newerFirst := fun a b =>
  inferInstanceAs (Decidable (b.mtime < a.mtime ∨ (a.mtime = b.mtime ∧ b.name ≤ a.name)))

def readLatestGeneration (generations : List Generation) : Option ScopeExpansionRequest :=
  (generations.insertionSort Generation.newerFirst).head?.map (·.request)

def readExpansionRequest (artifacts : ScopeArtifacts) : Option ScopeExpansionRequest :=
  match artifacts.generations with
  | some generations => readLatestGeneration generations
  | none => artifacts.legacyRequest

def writeExpansionResolution (resolution : ScopeExpansionResolution)
    (artifacts : ScopeArtifacts) : ScopeArtifacts :=
  { artifacts with resolution := some resolution }

/-! ### The gate -/

/-- What the gate says of a patch. -/
inductive ScopeGateOutcome where
  | noScopeControl
  | withinBudget
  | withinBudgetWithPriorResolution
  | overBudgetNeedsRequest
  | pendingResolution
  | denied (decision : ScopeExpansionDecision)
  deriving DecidableEq

def ScopeGateOutcome.allowsMutation : ScopeGateOutcome → Bool
  | noScopeControl | withinBudget | withinBudgetWithPriorResolution => true
  | _ => false

section

variable (measurementDigest : MeasurementDigest)

def checkScopeGate (charter : CanonicalTaskCharter) (measurement : PatchMeasurement)
    (evaluation : ScopeEvaluation) (artifacts : ScopeArtifacts) : ScopeGateOutcome :=
  if evaluation.withinBudget = true ∧ evaluation.violations = [] then
    if (readExpansionRequest artifacts).isSome then .withinBudgetWithPriorResolution
    else .withinBudget
  else
    let digest := measurementDigest measurement
    match readExpansionRequest artifacts with
    | none => .overBudgetNeedsRequest
    | some request =>
      match artifacts.resolution with
      | none => .pendingResolution
      | some resolution =>
        if request.charterDigest ≠ charter.digest
            ∨ resolution.measurementDigest ≠ digest
            ∨ request.measurementDigest ≠ digest then .overBudgetNeedsRequest
        else if resolution.decision.authorizesExpansion then
          .withinBudgetWithPriorResolution
        else .denied resolution.decision

/-! ### The barrier -/

def buildExpansionRequest (now : Timestamp) (runId : String) (charter : CanonicalTaskCharter)
    (measurement : PatchMeasurement) (evaluation : ScopeEvaluation) : ScopeExpansionRequest where
  runId := runId
  charterId := charter.charterId
  charterDigest := charter.digest
  measurementDigest := measurementDigest measurement
  measurement := measurement
  evaluation := evaluation
  violations := evaluation.violations
  createdAt := now

/-- What a step is told. -/
inductive ScopeBarrierResult where
  | allow
  | blocked
  | denied (decision : ScopeExpansionDecision)
  deriving DecidableEq

/-- `enforce_scope_barrier`.  The patch is what Git reports and `compute_measurement` makes of
it, or why it could not be measured. -/
def enforceScopeBarrier (runId : String)
    (now : Timestamp) (patch : Except String PatchMeasurement) (artifacts : ScopeArtifacts) :
    Except String ScopeBarrierResult × ScopeArtifacts :=
  match artifacts.charter with
  | none => (.error "scope charter unavailable: IO error: No such file or directory", artifacts)
  | some charter =>
    match patch with
    | .error error => (.error error, artifacts)
    | .ok measurement =>
      let evaluation := evaluate measurement charter
      let outcome := checkScopeGate measurementDigest charter measurement evaluation artifacts
      if outcome.allowsMutation then (.ok .allow, artifacts)
      else
        match outcome with
        | .overBudgetNeedsRequest | .pendingResolution =>
          let request := buildExpansionRequest measurementDigest now runId charter
            measurement evaluation
          match writeExpansionRequest now request artifacts with
          | (.error error, artifacts) => (.error error.text, artifacts)
          | (.ok (), artifacts) => (.ok .blocked, artifacts)
        | .denied decision => (.ok (.denied decision), artifacts)
        | _ => (.ok .allow, artifacts)

/-! ### The poller -/

/-- `poll_scope_decision`, on the directory that the wait names. -/
def pollScopeDecision (now : Timestamp) (record : WaitStateRecord)
    (artifacts : ScopeArtifacts) : PollDecision :=
  let stillWaiting (fields : List (String × Json)) : PollDecision :=
    ⟨record.runId, .stillWaiting, some (nextPollTimeAt record.pollIntervalSeconds now),
      .obj (("classification", .str "still_waiting") :: fields)⟩
  let waitKind : String × Json := ("wait_kind", .str record.waitKind.toText)
  match (record.waitCondition.get? "artifact_root").bind Json.asStr? with
  | none => stillWaiting [("reason", .str "missing_artifact_root"), waitKind]
  | some _ =>
    match readExpansionRequest artifacts, artifacts.resolution with
    | some request, some resolution =>
      if resolution.measurementDigest = request.measurementDigest then
        ⟨record.runId, .readyToResume, none,
          .obj
            [("classification", .str "resolved"), waitKind,
              ("decision", .str resolution.decision.text),
              ("measurement_digest", .str resolution.measurementDigest)]⟩
      else
        stillWaiting
          [("reason", .str "stale_resolution_digest"), waitKind,
            ("request_digest", .str request.measurementDigest),
            ("resolution_digest", .str resolution.measurementDigest)]
    | some _, none => stillWaiting [("reason", .str "pending_resolution"), waitKind]
    | none, _ => stillWaiting [("reason", .str "no_expansion_request"), waitKind]

/-! ### A run -/

/-- What happens to the scope control of a run. -/
inductive ScopeCall where
  | barrier (now : Timestamp) (patch : Except String PatchMeasurement)
  | resolve (now : Timestamp) (resolution : ScopeExpansionResolution)

/-- The scope control of a run, from its charter on. -/
def scopeMachine (runId : String) :
    StateMachine ScopeArtifacts ScopeCall (Option (Except String ScopeBarrierResult)) where
  start artifacts := artifacts.generations = none ∧ artifacts.resolution = none
  step artifacts
    | .barrier now patch =>
      let (answer, artifacts) := enforceScopeBarrier measurementDigest runId now patch artifacts
      (some answer, artifacts)
    | .resolve _ resolution => (none, writeExpansionResolution resolution artifacts)

end

end Luther

/-
What is frozen after a timeout, and what the status of a run shows.

A timeout that leaves a partial patch freezes it: its measurement is kept in a snapshot, and the
run waits for a decision.  The status of a run is read from the same files as the gate, and tells
what became of the decision.
-/

namespace Luther

/-! ### Timeouts -/

/-- The subsystems that a path is in, with the lengths of their prefixes. -/
def subsystemMatches (path : String) (charter : CanonicalTaskCharter) : List (Nat × String) :=
  charter.subsystems.flatMap fun (subsystem, prefixes) =>
    (prefixes.filter fun pathPrefix => pathPrefix ≠ "" ∧ isPathWithin path pathPrefix).map
      fun pathPrefix => (pathPrefix.utf8ByteSize, subsystem)

/-- `find_subsystem`: the last of the longest. -/
def findSubsystem (path : String) (charter : CanonicalTaskCharter) : Option String :=
  ((subsystemMatches path charter).foldl (fun (best : Option (Nat × String)) candidate =>
    if best.all fun b => b.1 ≤ candidate.1 then some candidate else best) none).map Prod.snd

def mapChangesToSubsystems (changedPaths : List String) (charter : CanonicalTaskCharter) :
    List MappedChange :=
  changedPaths.map fun path => ⟨path, findSubsystem path charter⟩

def handleTimeoutRecovery (runId : String) (now : Timestamp) (charter : CanonicalTaskCharter)
    (measurement : PatchMeasurement) (timeoutKind : TimeoutKind)
    (partialCompileConfigured : Bool) (processEvidence : ProcessEvidence)
    (artifacts : ScopeArtifacts) : TimeoutSnapshot × ScopeArtifacts :=
  let snapshot : TimeoutSnapshot :=
    { runId := runId
      charterId := charter.charterId
      charterDigest := charter.digest
      timeoutKind := timeoutKind
      measurement := measurement
      mappedChanges := mapChangesToSubsystems measurement.changedPaths charter
      partialCompileConfigured := partialCompileConfigured
      partialCompilePassed := none
      processEvidence := processEvidence
      recoveryRequired := true
      createdAt := now }
  (snapshot, { artifacts with timeoutSnapshot := some snapshot })

def waitKindForStep : String → WaitKind
  | "watch_pr_checks" => .prChecks
  | "collect_coderabbit_feedback" => .coderabbitReview
  | "merge_pr" | "wait_for_merge" => .prMerge
  | "launch_or_resume_child_workflow" | "dependency_child_workflow" => .dependencyChildWorkflow
  | "dependency_child_merge" | "wait_for_child_merge" => .dependencyChildMerge
  | "rate_limit_backoff" | "github_rate_limit_backoff" => .rateLimitBackoff
  | "scope_measure" | "scope_measure_pre_push" => .scopeDecision
  | _ => .humanReview

def resolveWaitKind (stepId : String) (scopeBarrierWait scopeTimeoutRecoveryRequired : Bool) :
    WaitKind :=
  if scopeBarrierWait || scopeTimeoutRecoveryRequired then .scopeDecision
  else waitKindForStep stepId

/-! ### The status -/

/-- `ScopeStatus`, as far as the projection of the decision reads it. -/
structure ScopeStatus where
  charterId : String
  runId : String
  digest : String
  mergeBase : String
  createdAt : Timestamp
  measurement : Option PatchMeasurement := none
  evaluation : Option ScopeEvaluation := none
  measuredAt : Option Timestamp := none

/-- Where the decision stands. -/
inductive ScopeDecisionState where
  | withinBudget
  | pendingResolution
  | approvedExpandedScope
  | frozen
  deriving DecidableEq

structure ScopeResolutionProjection where
  decision : String
  authorizesExpansion : Bool
  rationale : String

structure ScopeDecisionProjection where
  state : ScopeDecisionState
  withinBudget : Bool
  violations : List String
  resolution : Option ScopeResolutionProjection

def resolutionProjection (resolution : ScopeExpansionResolution) : ScopeResolutionProjection where
  decision := resolution.decision.text
  authorizesExpansion := resolution.decision.authorizesExpansion
  rationale := resolution.rationale

/-- The state of a patch that exceeds its charter. -/
def overBudgetState (hasRequest : Bool) (resolution : Option ScopeExpansionResolution) :
    ScopeDecisionState :=
  match hasRequest, resolution with
  | false, _ => .pendingResolution
  | true, none => .pendingResolution
  | true, some r => if r.decision.authorizesExpansion then .approvedExpandedScope else .frozen

def buildDecisionProjection (status : ScopeStatus)
    (expansionRequest : Option ScopeExpansionRequest)
    (expansionResolution : Option ScopeExpansionResolution) : ScopeDecisionProjection :=
  let withinBudget := status.evaluation.any fun e => e.withinBudget && e.violations.isEmpty
  let violations := (status.evaluation.map fun e => e.violations.map (·.code.text)).getD []
  if status.measurement = none then ⟨.withinBudget, true, violations, none⟩
  else if withinBudget then
    ⟨.withinBudget, true, violations, expansionResolution.map resolutionProjection⟩
  else
    ⟨overBudgetState expansionRequest.isSome expansionResolution, false, violations,
      expansionResolution.map resolutionProjection⟩

end Luther
