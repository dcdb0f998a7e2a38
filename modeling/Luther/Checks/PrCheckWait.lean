/-
The checks of a pull request, and what they come to.

A check is told apart by its identity, and looked for by its name or by that of its workflow.
Checks of another head are set aside; checks that a policy ignores are left out by their
identity; what is left is held against the required and the optional definitions, and what no
definition matches is judged by the policy's defaults.
-/
import Luther.Lib.Text

namespace Luther

/-! ### The data -/

/-- What all the checks of a head come to. -/
inductive OverallState where
  | passed
  | failed
  | unknown
  | fatal
  | pendingTimeout
  deriving DecidableEq

/-- How the name of a check is matched. -/
inductive PrCheckMatchMode where
  | exact
  | prefixed
  | regex
  deriving DecidableEq

/-- A check that the configuration names. -/
structure PrCheckDefinition where
  mode : PrCheckMatchMode := .exact
  pattern : String
  allowSkipped : Option Bool := none
  deriving DecidableEq

/-- `PrCheckWaitConfig`, as far as it classifies. -/
structure PrCheckWaitConfig where
  required : List PrCheckDefinition := []
  optional : List PrCheckDefinition := []
  ignored : List PrCheckDefinition := []
  allowUnmatchedSuccess : Bool := true
  defaultAllowSkipped : Bool := false
  blockOptionalFailures : Bool := false
  missingRetryAttempts : UInt32 := 3

structure PrCheckWaitCounters where
  missingAttempts : UInt32 := 0
  apiErrorAttempts : UInt32 := 0
  pollAttempts : UInt32 := 0
  deriving DecidableEq

/-- A check, as GitHub reports it. -/
structure PrCheckObservation where
  checkId : String
  name : String
  status : Option String := none
  conclusion : Option String := none
  state : String
  bucket : String
  url : Option String := none
  workflowName : Option String := none
  runId : Option Nat := none
  jobId : Option Nat := none
  startedAt : Option String := none
  completedAt : Option String := none
  headSha : Option String := none
  appSlug : Option String := none
  source : String
  deriving DecidableEq

/-- The checks that a definition matches. -/
structure PrCheckMatchResult where
  definition : PrCheckDefinition
  matchedCheckIds : List String
  state : String
  deriving DecidableEq

/-- The `terminal_counts`. -/
structure TerminalCounts where
  passed : Nat
  failed : Nat
  pending : Nat
  unknown : Nat
  missing : Nat
  ignored : Nat
  deriving DecidableEq

/-- What a look at the checks says. -/
structure PrCheckWaitClassification where
  overallState : OverallState
  currentChecks : List PrCheckObservation
  staleChecks : List PrCheckObservation
  required : List PrCheckMatchResult
  optional : List PrCheckMatchResult
  ignoredCheckIds : List String
  missingRequired : List String
  terminalCounts : TerminalCounts
  reason : String
  counters : PrCheckWaitCounters
  deriving DecidableEq

/-- `u32::saturating_add` of one. -/
def saturatingIncrement (n : UInt32) : UInt32 := if n = 4294967295 then n else n + 1

/-! ### Buckets -/

def checkBucket (status conclusion : Option String) (bucket state : String) : String :=
  let status := toAsciiLowercase (status.getD "")
  let conclusion := toAsciiLowercase (conclusion.getD "")
  let bucket := toAsciiLowercase bucket
  let state := toAsciiLowercase state
  if bucket ∈ ["pass", "passed"] ∨ conclusion ∈ ["success", "neutral"]
      ∨ state ∈ ["success", "neutral"] then "passed"
  else if conclusion = "skipped" ∨ state = "skipped" then "skipped"
  else if conclusion ∈ ["failure", "startup_failure", "timed_out", "action_required", "cancelled",
        "stale"]
      ∨ state ∈ ["failure", "failed", "startup_failure", "timed_out", "action_required",
        "cancelled", "stale"]
      ∨ bucket ∈ ["fail", "failed"] then "failed"
  else if status ∈ ["queued", "requested", "waiting", "pending", "in_progress"]
      ∨ state ∈ ["queued", "requested", "waiting", "pending", "in_progress"]
      ∨ bucket = "pending" then "pending"
  else "unknown"

def classifyCheck (check : PrCheckObservation) (allowSkipped : Bool) : String :=
  if check.bucket = "skipped" then if allowSkipped then "passed" else "failed"
  else check.bucket

/-! ### Definitions -/

section

variable (regex : RegexEngine)

def checkValueMatches (definition : PrCheckDefinition) (value : String) : Bool :=
  match definition.mode with
  | .exact => value == definition.pattern
  | .prefixed => startsWith value definition.pattern
  | .regex => (regex definition.pattern).any fun isMatch => isMatch value

def definitionMatches (definition : PrCheckDefinition) (check : PrCheckObservation) : Bool :=
  checkValueMatches regex definition check.name
    || check.workflowName.any (checkValueMatches regex definition)

def PrCheckDefinition.allowsSkipped (defaultAllowSkipped : Bool) (definition : PrCheckDefinition) :
    Bool :=
  definition.allowSkipped.getD defaultAllowSkipped

section

variable (checks : List PrCheckObservation)

def aggregateMatchState (definition : PrCheckDefinition) (defaultAllowSkipped : Bool) : String :=
  if checks.isEmpty then "missing"
  else
    let buckets := checks.map fun check =>
      classifyCheck check (definition.allowsSkipped defaultAllowSkipped)
    if buckets.any (· == "failed") then "failed"
    else if buckets.any (· == "pending") then "pending"
    else if buckets.any (· == "unknown") then "unknown"
    else "passed"

/-- What `match_definitions` does with one definition. -/
def matchDefinition
    (defaultAllowSkipped : Bool) (definition : PrCheckDefinition) : PrCheckMatchResult :=
  let matched := checks.filter (definitionMatches regex definition)
  { definition := definition
    matchedCheckIds := matched.map (·.checkId)
    state := aggregateMatchState matched definition defaultAllowSkipped }

def matchDefinitions (definitions : List PrCheckDefinition)
    (defaultAllowSkipped : Bool) : List PrCheckMatchResult :=
  definitions.map (matchDefinition regex checks defaultAllowSkipped)

end

def ignoredCheckIds (currentChecks staleChecks : List PrCheckObservation)
    (ignored : List PrCheckDefinition) : List String :=
  ((currentChecks ++ staleChecks).filter fun check =>
    ignored.any fun definition => definitionMatches regex definition check).map (·.checkId)

end

def matchedCheckIds (required optional : List PrCheckMatchResult) : List String :=
  (required ++ optional).flatMap (·.matchedCheckIds)

def terminalCounts (checks : List PrCheckObservation) (missingRequired ignoredCheckIds : List String) :
    TerminalCounts where
  passed := checks.countP (·.bucket == "passed")
  failed := checks.countP fun check => check.bucket == "failed" || check.bucket == "skipped"
  pending := checks.countP (·.bucket == "pending")
  unknown := checks.countP (·.bucket == "unknown")
  missing := missingRequired.length
  ignored := ignoredCheckIds.length

/-! ### The verdict -/

def missingState (config : PrCheckWaitConfig) (counters : PrCheckWaitCounters) :
    OverallState × String :=
  if counters.missingAttempts ≤ config.missingRetryAttempts then
    (.pendingTimeout, "required_check_missing")
  else (.fatal, "required_check_missing_exhausted")

def classifyState (required optional : List PrCheckMatchResult)
    (unmatched : List PrCheckObservation) (missingRequired : List String)
    (config : PrCheckWaitConfig) (counters : PrCheckWaitCounters) : OverallState × String :=
  if required.any (·.state == "failed") then (.failed, "required_check_failed")
  else if !missingRequired.isEmpty then missingState config counters
  else if required.any (·.state == "pending") then (.pendingTimeout, "required_check_pending")
  else if config.blockOptionalFailures && optional.any (·.state == "failed") then
    (.failed, "optional_check_failed")
  else if unmatched.any (·.bucket == "pending") then (.pendingTimeout, "unmatched_check_pending")
  else if required.any (·.state == "unknown") then (.unknown, "required_check_unknown")
  else if unmatched.any (fun check => classifyCheck check config.defaultAllowSkipped == "failed")
  then (.failed, "unmatched_check_failed")
  else if unmatched.any (·.bucket == "unknown") then (.unknown, "unmatched_check_unknown")
  else if required.isEmpty && !config.allowUnmatchedSuccess then
    (.unknown, "no_required_checks_configured")
  else (.passed, "configured_checks_passed")

def isCurrent (headSha : String) (check : PrCheckObservation) : Bool :=
  check.headSha.getD headSha == headSha

/-- The checks that a policy judges: those of the head whose identities it does not ignore. -/
def consideredChecks (regex : RegexEngine) (headSha : String) (checks : List PrCheckObservation)
    (config : PrCheckWaitConfig) : List PrCheckObservation :=
  let (currentChecks, staleChecks) := checks.partition (isCurrent headSha)
  let ignored := ignoredCheckIds regex currentChecks staleChecks config.ignored
  currentChecks.filter fun check => decide (check.checkId ∉ ignored)

def classifyPrChecks (regex : RegexEngine) (headSha : String) (checks : List PrCheckObservation)
    (config : PrCheckWaitConfig) (counters : PrCheckWaitCounters) : PrCheckWaitClassification :=
  let (currentChecks, staleChecks) := checks.partition (isCurrent headSha)
  let ignored := ignoredCheckIds regex currentChecks staleChecks config.ignored
  let considered := consideredChecks regex headSha checks config
  let required := matchDefinitions regex considered config.required config.defaultAllowSkipped
  let optional := matchDefinitions regex considered config.optional config.defaultAllowSkipped
  let matched := matchedCheckIds required optional
  let unmatched := considered.filter fun check => decide (check.checkId ∉ matched)
  let missingRequired :=
    (required.filter (·.matchedCheckIds.isEmpty)).map (·.definition.pattern)
  let counters : PrCheckWaitCounters :=
    { pollAttempts := saturatingIncrement counters.pollAttempts
      apiErrorAttempts := 0
      missingAttempts :=
        if missingRequired.isEmpty then 0 else saturatingIncrement counters.missingAttempts }
  let (overallState, reason) :=
    classifyState required optional unmatched missingRequired config counters
  { overallState := overallState
    currentChecks := currentChecks
    staleChecks := staleChecks
    required := required
    optional := optional
    ignoredCheckIds := ignored
    missingRequired := missingRequired
    terminalCounts := terminalCounts considered missingRequired ignored
    reason := reason
    counters := counters }

end Luther
