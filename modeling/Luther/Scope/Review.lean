/-
The rounds of review that a charter allows.

A run has one initial review of all that was changed, then reviews of what changed since, and
at last the acceptance against the charter.  The gate is asked before a round is launched: it
records the round, or says that the head was reviewed already, or which cap is exhausted.
-/
import Luther.Lib.StateMachine
import Mathlib.Algebra.Group.Nat.Defs
import Mathlib.Data.List.Basic

namespace Luther

/-- How many reviews there may be. -/
structure CanonicalReviewCaps where
  initialFullReviews : UInt32
  maxDeltaReviews : UInt32
  finalAcceptanceReviews : UInt32
  maxMutatingRemediationRounds : UInt32

/-- What a review looks at. -/
inductive ReviewKind where
  | initialFull
  | delta
  | finalAcceptance
  deriving DecidableEq

structure ReviewScope where
  reviewKind : ReviewKind
  mergeBase : String
  fromSha : String
  toSha : String
  changedFiles : List String
  changedTests : List String
  contextualFiles : List String
  charterDigest : String

structure ReviewHistory where
  runId : String
  reviews : List ReviewScope := []
  mutatingRemediationRounds : UInt32 := 0

/-- Whether a review may be made. -/
inductive ReviewCheckOutcome where
  | allowed
  | sameHeadReplay
  | initialAlreadyRecorded
  | deltaCapExhausted (used cap : UInt32)
  | finalAlreadyRecorded
  | initialRequiredFirst
  | blockedAfterFinal
  | mutatingRemediationExhausted (used cap : UInt32)
  deriving DecidableEq

/-! ### The checks -/

def ReviewHistory.ofKind (kind : ReviewKind) (history : ReviewHistory) : List ReviewScope :=
  history.reviews.filter (·.reviewKind == kind)

section

variable (history : ReviewHistory)

def countByKind (kind : ReviewKind) : UInt32 :=
  UInt32.ofNat (history.ofKind kind).length

def checkInitial (headSha : String) : ReviewCheckOutcome :=
  match history.reviews.find? (·.reviewKind == .initialFull) with
  | some review => if review.toSha = headSha then .sameHeadReplay else .initialAlreadyRecorded
  | none => .allowed

def checkDelta (headSha : String) (caps : CanonicalReviewCaps) : ReviewCheckOutcome :=
  if countByKind history .initialFull = 0 then .initialRequiredFirst
  else if 0 < countByKind history .finalAcceptance then .blockedAfterFinal
  else if history.reviews.any fun r => r.reviewKind == .delta && r.toSha == headSha then
    .sameHeadReplay
  else
    let used := countByKind history .delta
    if caps.maxDeltaReviews ≤ used then .deltaCapExhausted used caps.maxDeltaReviews
    else .allowed

def checkFinal (caps : CanonicalReviewCaps) : ReviewCheckOutcome :=
  if countByKind history .initialFull = 0 then .initialRequiredFirst
  else
    let used := countByKind history .finalAcceptance
    if caps.finalAcceptanceReviews ≤ used then .finalAlreadyRecorded else .allowed

def lastReviewedHead : Option String :=
  (history.reviews.reverse.find? fun r =>
    r.reviewKind == .initialFull || r.reviewKind == .delta).map (·.toSha)

end

/-! ### The artifacts of a run -/

/-- Which cap is used up. -/
inductive ReviewExhaustionRouting where
  | deltaCapExhausted
  | mutatingRemediationExhausted
  | blockedAfterFinal

/-- What is kept of it. -/
structure ReviewExhaustionSummary where
  routing : ReviewExhaustionRouting
  runId : String
  headSha : String
  initialReviews : UInt32
  deltaReviews : UInt32
  finalReviews : UInt32
  mutatingRemediationRounds : UInt32
  caps : CanonicalReviewCaps
  charterDigest : String
  writtenAt : String

/-- The files of a run that reviews are recorded in. -/
structure ReviewArtifacts where
  history : Option ReviewHistory := none
  exhaustion : Option ReviewExhaustionSummary := none

def readReviewHistory (runId : String) (artifacts : ReviewArtifacts) : ReviewHistory :=
  artifacts.history.getD { runId := runId }

def writeReviewHistory (history : ReviewHistory) (artifacts : ReviewArtifacts) :
    ReviewArtifacts :=
  { artifacts with history := some history }

def writeExhaustionSummary (summary : ReviewExhaustionSummary) (artifacts : ReviewArtifacts) :
    ReviewArtifacts :=
  { artifacts with exhaustion := some summary }

/-! ### The gate -/

/-- A review that is to be launched. -/
structure PreLaunchReviewRequest where
  runId : String
  headSha : String
  mergeBase : String
  changedFiles : List String
  changedTests : List String
  charterDigest : String
  caps : CanonicalReviewCaps
  nowRfc3339 : String

def buildExhaustionSummary (history : ReviewHistory) (request : PreLaunchReviewRequest)
    (routing : ReviewExhaustionRouting) (deltaReviews : UInt32) : ReviewExhaustionSummary where
  routing := routing
  runId := request.runId
  headSha := request.headSha
  initialReviews := countByKind history .initialFull
  deltaReviews := deltaReviews
  finalReviews := countByKind history .finalAcceptance
  mutatingRemediationRounds := history.mutatingRemediationRounds
  caps := request.caps
  charterDigest := request.charterDigest
  writtenAt := request.nowRfc3339

def buildReviewScope (reviewKind : ReviewKind) (request : PreLaunchReviewRequest)
    (fromSha : String) : ReviewScope where
  reviewKind := reviewKind
  mergeBase := request.mergeBase
  fromSha := fromSha
  toSha := request.headSha
  changedFiles := request.changedFiles
  changedTests := request.changedTests
  contextualFiles := []
  charterDigest := request.charterDigest

def handleDeltaExhaustion (history : ReviewHistory) (request : PreLaunchReviewRequest)
    (deltaOutcome : ReviewCheckOutcome) (artifacts : ReviewArtifacts) :
    ReviewCheckOutcome × ReviewArtifacts :=
  match deltaOutcome with
  | .deltaCapExhausted used cap =>
    (.deltaCapExhausted used cap,
      writeExhaustionSummary (buildExhaustionSummary history request .deltaCapExhausted used)
        artifacts)
  | other => (other, artifacts)

def evaluateDelta (history : ReviewHistory) (request : PreLaunchReviewRequest)
    (artifacts : ReviewArtifacts) : ReviewCheckOutcome × ReviewArtifacts :=
  let priorHead := lastReviewedHead history
  if priorHead = some request.headSha then (.sameHeadReplay, artifacts)
  -- A head that changed is a round of remediation, before it is looked for among the deltas.
  else if request.caps.maxMutatingRemediationRounds ≤ history.mutatingRemediationRounds then
    (.mutatingRemediationExhausted history.mutatingRemediationRounds
        request.caps.maxMutatingRemediationRounds,
      writeExhaustionSummary (buildExhaustionSummary history request
        .mutatingRemediationExhausted (countByKind history .delta)) artifacts)
  else
    match checkDelta history request.headSha request.caps with
    | .allowed =>
      let scope := buildReviewScope .delta request (priorHead.getD request.mergeBase)
      (.allowed, writeReviewHistory
        { runId := request.runId
          reviews := history.reviews ++ [scope]
          mutatingRemediationRounds := history.mutatingRemediationRounds + 1 } artifacts)
    | .sameHeadReplay => (.sameHeadReplay, artifacts)
    | other => handleDeltaExhaustion history request other artifacts

def preLaunchReviewGate (request : PreLaunchReviewRequest) (artifacts : ReviewArtifacts) :
    ReviewCheckOutcome × ReviewArtifacts :=
  let history := readReviewHistory request.runId artifacts
  if 0 < countByKind history .finalAcceptance then
    (.blockedAfterFinal, writeExhaustionSummary (buildExhaustionSummary history request
      .blockedAfterFinal (countByKind history .delta)) artifacts)
  else if 0 < countByKind history .initialFull then evaluateDelta history request artifacts
  else
    match checkInitial history request.headSha with
    | .allowed =>
      (.allowed, writeReviewHistory
        { history with
          runId := request.runId
          reviews := history.reviews ++
            [buildReviewScope .initialFull request request.mergeBase] } artifacts)
    | other => (other, artifacts)

def recordReview (runId : String) (scope : ReviewScope) (caps : CanonicalReviewCaps)
    (artifacts : ReviewArtifacts) : ReviewCheckOutcome × ReviewArtifacts :=
  let history := readReviewHistory runId artifacts
  let outcome :=
    match scope.reviewKind with
    | .initialFull => checkInitial history scope.toSha
    | .delta => checkDelta history scope.toSha caps
    | .finalAcceptance => checkFinal history caps
  if outcome = .allowed then
    (outcome, writeReviewHistory
      { history with runId := runId, reviews := history.reviews ++ [scope] } artifacts)
  else (outcome, artifacts)

def recordFinalAcceptance (runId headSha mergeBase charterDigest : String)
    (caps : CanonicalReviewCaps) (artifacts : ReviewArtifacts) :
    ReviewCheckOutcome × ReviewArtifacts :=
  recordReview runId
    { reviewKind := .finalAcceptance
      mergeBase := mergeBase
      fromSha := mergeBase
      toSha := headSha
      changedFiles := []
      changedTests := []
      contextualFiles := []
      charterDigest := charterDigest } caps artifacts

/-! ### The rounds of a run -/

/-- What is asked of the review state of a run. -/
inductive ReviewCall where
  | gate (request : PreLaunchReviewRequest)
  | recordFinal (headSha mergeBase charterDigest : String)

/-- The review state of a run under fixed caps: the gate is asked for the run and its caps. -/
def reviewMachine (runId : String) (caps : CanonicalReviewCaps) :
    StateMachine ReviewArtifacts ReviewCall ReviewCheckOutcome where
  start artifacts := artifacts.history = none
  step artifacts
    | .gate request => preLaunchReviewGate { request with runId := runId, caps := caps } artifacts
    | .recordFinal headSha mergeBase charterDigest =>
      recordFinalAcceptance runId headSha mergeBase charterDigest caps artifacts

end Luther
