/-
The retry accounting of a remediation, and the document it is kept in.

A state says how much of its budget a remediation has used, and who owns the launch that is
under way.  A budget may be made tighter and never wider; where it is made tighter than what
has been used already, it stays at what has been used.
-/
import Luther.Followup.ArtifactStore

namespace Json

/-- A `u64` as JSON. -/
def ofU64 (n : UInt64) : Json := num n.toNat

/-- A `u64` of JSON. -/
def asUInt64? (value : Json) : Option UInt64 := (asU64? value).map UInt64.ofNat

@[simp] theorem asUInt64?_ofU64 (n : UInt64) : asUInt64? (ofU64 n) = some n := by
  unfold asUInt64? ofU64
  rw [asU64?_natCast n.toNat_lt]
  simp

def required {α : Type} (field : String) (read : Json → Option α) (value : Json) :
    Except String α :=
  match value.get? field with
  | none => .error s!"missing field {field}"
  | some v =>
    match read v with
    | some a => .ok a
    | none => .error s!"invalid value of {field}"

/-- A field that has a value where it is missing. -/
def defaulted {α : Type} (field : String) (default : α) (read : Json → Option α) (value : Json) :
    Except String α :=
  match value.get? field with
  | none => .ok default
  | some v =>
    match read v with
    | some a => .ok a
    | none => .error s!"invalid value of {field}"

/-- A field that may be missing, or `null`. -/
def optional {α : Type} (field : String) (read : Json → Option α) (value : Json) :
    Except String (Option α) :=
  match value.get? field with
  | none => .ok none
  | some .null => .ok none
  | some v =>
    match read v with
    | some a => .ok (some a)
    | none => .error s!"invalid value of {field}"

end Json

namespace Luther

/-! ### The data -/

/-- The plan whose retries are counted. -/
structure RetryScopeKey where
  runId : String
  repositoryOwner : String
  repositoryName : String
  prNumber : UInt64
  inputHeadSha : String
  remediationPlanSequence : UInt64
  deriving DecidableEq

structure RetryBudget where
  maxRemediationAttempts : UInt64
  maxValidationRetries : UInt64
  maxStaleArtifactRetries : UInt64
  deriving DecidableEq

structure RetryCounters where
  remediationAttemptIndex : UInt64 := 0
  validationRetryIndex : UInt64 := 0
  staleArtifactRetryIndex : UInt64 := 0
  deriving DecidableEq

/-- How far a launch has come. -/
inductive LaunchPhase where
  | reserved
  | launched
  | completed
  deriving DecidableEq

/-- Which budget is used up. -/
inductive RetryExhaustionReason where
  | remediationAttempts
  | validationRetries
  | staleArtifactRetries
  deriving DecidableEq

structure RetryState where
  scope : RetryScopeKey
  budget : RetryBudget
  counters : RetryCounters
  transitionId : String
  launchTransitionId : String
  transitionType : String
  launchPhase : LaunchPhase
  launchOrdinal : UInt64
  remediationStepOrderIndex : UInt64
  predecessorArtifactSequence : Option UInt64
  historyChainReset : Bool
  validationSourceId : Option String
  launchResultPromoted : Bool
  ownerToken : String
  leaseExpiry : Option String
  invocationTimeoutSeconds : UInt64
  exhaustionReason : Option RetryExhaustionReason
  deriving DecidableEq

/-! ### The document -/

def RetryScopeKey.toJson (scope : RetryScopeKey) : Json :=
  .obj
    [("run_id", .str scope.runId),
     ("repository_owner", .str scope.repositoryOwner),
     ("repository_name", .str scope.repositoryName),
     ("pr_number", .ofU64 scope.prNumber),
     ("input_head_sha", .str scope.inputHeadSha),
     ("remediation_plan_sequence", .ofU64 scope.remediationPlanSequence)]

def RetryScopeKey.fromJson (value : Json) : Except String RetryScopeKey := do
  let runId ← value.required "run_id" Json.asStr?
  let repositoryOwner ← value.required "repository_owner" Json.asStr?
  let repositoryName ← value.required "repository_name" Json.asStr?
  let prNumber ← value.required "pr_number" Json.asUInt64?
  let inputHeadSha ← value.required "input_head_sha" Json.asStr?
  let remediationPlanSequence ← value.required "remediation_plan_sequence" Json.asUInt64?
  .ok
    { runId := runId
      repositoryOwner := repositoryOwner
      repositoryName := repositoryName
      prNumber := prNumber
      inputHeadSha := inputHeadSha
      remediationPlanSequence := remediationPlanSequence }

def RetryBudget.toJson (budget : RetryBudget) : Json :=
  .obj
    [("max_remediation_attempts", .ofU64 budget.maxRemediationAttempts),
     ("max_validation_retries", .ofU64 budget.maxValidationRetries),
     ("max_stale_artifact_retries", .ofU64 budget.maxStaleArtifactRetries)]

def RetryBudget.fromJson (value : Json) : Except String RetryBudget := do
  let maxRemediationAttempts ← value.required "max_remediation_attempts" Json.asUInt64?
  let maxValidationRetries ← value.required "max_validation_retries" Json.asUInt64?
  let maxStaleArtifactRetries ← value.required "max_stale_artifact_retries" Json.asUInt64?
  .ok
    { maxRemediationAttempts := maxRemediationAttempts
      maxValidationRetries := maxValidationRetries
      maxStaleArtifactRetries := maxStaleArtifactRetries }

def RetryCounters.toJson (counters : RetryCounters) : Json :=
  .obj
    [("remediation_attempt_index", .ofU64 counters.remediationAttemptIndex),
     ("validation_retry_index", .ofU64 counters.validationRetryIndex),
     ("stale_artifact_retry_index", .ofU64 counters.staleArtifactRetryIndex)]

def RetryCounters.fromJson (value : Json) : Except String RetryCounters := do
  let remediationAttemptIndex ← value.required "remediation_attempt_index" Json.asUInt64?
  let validationRetryIndex ← value.required "validation_retry_index" Json.asUInt64?
  let staleArtifactRetryIndex ← value.required "stale_artifact_retry_index" Json.asUInt64?
  .ok
    { remediationAttemptIndex := remediationAttemptIndex
      validationRetryIndex := validationRetryIndex
      staleArtifactRetryIndex := staleArtifactRetryIndex }

def LaunchPhase.text : LaunchPhase → String
  | reserved => "reserved"
  | launched => "launched"
  | completed => "completed"

def LaunchPhase.fromJson? (value : Json) : Option LaunchPhase :=
  match value.asStr? with
  | some "reserved" => some reserved
  | some "launched" => some launched
  | some "completed" => some completed
  | _ => none

def RetryExhaustionReason.text : RetryExhaustionReason → String
  | remediationAttempts => "remediation_attempts"
  | validationRetries => "validation_retries"
  | staleArtifactRetries => "stale_artifact_retries"

def RetryExhaustionReason.fromJson? (value : Json) : Option RetryExhaustionReason :=
  match value.asStr? with
  | some "remediation_attempts" => some remediationAttempts
  | some "validation_retries" => some validationRetries
  | some "stale_artifact_retries" => some staleArtifactRetries
  | _ => none

/-- The fields of a state, those left out that have nothing to say. -/
def RetryState.fields (state : RetryState) : List (String × Json) :=
  [("scope", state.scope.toJson),
   ("budget", state.budget.toJson),
   ("counters", state.counters.toJson),
   ("transition_id", .str state.transitionId),
   ("launch_transition_id", .str state.launchTransitionId),
   ("transition_type", .str state.transitionType),
   ("launch_phase", .str state.launchPhase.text),
   ("launch_ordinal", .ofU64 state.launchOrdinal),
   ("remediation_step_order_index", .ofU64 state.remediationStepOrderIndex),
   ("predecessor_artifact_sequence", state.predecessorArtifactSequence.elim .null .ofU64)] ++
  (if state.historyChainReset then [("history_chain_reset", .bool true)] else []) ++
  (state.validationSourceId.toList.map fun id => ("validation_source_id", .str id)) ++
  (if state.launchResultPromoted then [("launch_result_promoted", .bool true)] else []) ++
  [("owner_token", .str state.ownerToken)] ++
  (state.leaseExpiry.toList.map fun expiry => ("lease_expiry", .str expiry)) ++
  [("invocation_timeout_seconds", .ofU64 state.invocationTimeoutSeconds)] ++
  (state.exhaustionReason.toList.map fun reason => ("exhaustion_reason", .str reason.text))

def RetryState.toJson (state : RetryState) : Json := .obj state.fields

/-- The state of JSON; what it does not know it passes over. -/
def RetryState.fromJson (value : Json) : Except String RetryState := do
  let scope ← value.required "scope" fun v => (RetryScopeKey.fromJson v).toOption
  let budget ← value.required "budget" fun v => (RetryBudget.fromJson v).toOption
  let counters ← value.required "counters" fun v => (RetryCounters.fromJson v).toOption
  let transitionId ← value.required "transition_id" Json.asStr?
  let launchTransitionId ← value.defaulted "launch_transition_id" "" Json.asStr?
  let transitionType ← value.required "transition_type" Json.asStr?
  let launchPhase ← value.required "launch_phase" LaunchPhase.fromJson?
  let launchOrdinal ← value.required "launch_ordinal" Json.asUInt64?
  let remediationStepOrderIndex ← value.defaulted "remediation_step_order_index" 0 Json.asUInt64?
  let predecessorArtifactSequence ←
    value.optional "predecessor_artifact_sequence" Json.asUInt64?
  let historyChainReset ← value.defaulted "history_chain_reset" false Json.asBool?
  let validationSourceId ← value.optional "validation_source_id" Json.asStr?
  let launchResultPromoted ← value.defaulted "launch_result_promoted" false Json.asBool?
  let ownerToken ← value.defaulted "owner_token" "" Json.asStr?
  let leaseExpiry ← value.optional "lease_expiry" Json.asStr?
  let invocationTimeoutSeconds ← value.defaulted "invocation_timeout_seconds" 0 Json.asUInt64?
  let exhaustionReason ← value.optional "exhaustion_reason" RetryExhaustionReason.fromJson?
  .ok
    { scope := scope
      budget := budget
      counters := counters
      transitionId := transitionId
      launchTransitionId := launchTransitionId
      transitionType := transitionType
      launchPhase := launchPhase
      launchOrdinal := launchOrdinal
      remediationStepOrderIndex := remediationStepOrderIndex
      predecessorArtifactSequence := predecessorArtifactSequence
      historyChainReset := historyChainReset
      validationSourceId := validationSourceId
      launchResultPromoted := launchResultPromoted
      ownerToken := ownerToken
      leaseExpiry := leaseExpiry
      invocationTimeoutSeconds := invocationTimeoutSeconds
      exhaustionReason := exhaustionReason }

end Luther
