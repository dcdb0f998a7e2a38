/-
The policy of the retry accounting: budgets, leases, and what a state must satisfy.

A budget that is configured anew may only be tighter than the one on record.  A lease outlives
the time that its invocation may take by a grace period, and a lease that cannot be read has
not expired.
-/
import Luther.Remediation.RetryState

namespace Luther

/-- `DateTime::parse_from_rfc3339`. -/
abbrev Rfc3339Parser := String → Except String Timestamp

/-! ### Parameters -/

def defaultMaxRemediationAttempts : UInt64 := 2
def defaultMaxValidationRetries : UInt64 := 2
def defaultMaxStaleArtifactRetries : UInt64 := 2

def parameter (params : Json) (name : String) (default : UInt64) : Except String UInt64 :=
  match params.asObject? with
  | none => .error "remediation retry parameters must be a JSON object"
  | some _ =>
    match params.get? name with
    | none => .ok default
    | some value =>
      match value.asUInt64? with
      | some n => .ok n
      | none => .error s!"remediation retry parameter {name} must be an unsigned integer"

/-! ### Budgets -/

namespace RetryBudget

def fromParams (params : Json) : Except String RetryBudget := do
  let maxRemediationAttempts ←
    parameter params "max_remediation_attempts" defaultMaxRemediationAttempts
  let maxValidationRetries ←
    parameter params "max_validation_retries" defaultMaxValidationRetries
  let maxStaleArtifactRetries ←
    parameter params "max_stale_artifact_retries" defaultMaxStaleArtifactRetries
  if maxRemediationAttempts = 0 ∨ maxValidationRetries = 0 ∨ maxStaleArtifactRetries = 0 then
    .error "remediation retry budgets must be greater than zero"
  .ok ⟨maxRemediationAttempts, maxValidationRetries, maxStaleArtifactRetries⟩

def tightenedWith (self configured : RetryBudget) : RetryBudget where
  maxRemediationAttempts := min self.maxRemediationAttempts configured.maxRemediationAttempts
  maxValidationRetries := min self.maxValidationRetries configured.maxValidationRetries
  maxStaleArtifactRetries := min self.maxStaleArtifactRetries configured.maxStaleArtifactRetries

/-- What `reject_expansion` asks of one maximum. -/
def rejectExpansionOf (name : String) (persisted configured : UInt64) : Except String Unit :=
  if persisted < configured then
    .error (s!"remediation budget expansion rejected: {name} persisted={persisted} "
      ++ s!"configured={configured}")
  else .ok ()

def rejectExpansion (self configured : RetryBudget) : Except String Unit := do
  rejectExpansionOf "max_remediation_attempts" self.maxRemediationAttempts
    configured.maxRemediationAttempts
  rejectExpansionOf "max_validation_retries" self.maxValidationRetries
    configured.maxValidationRetries
  rejectExpansionOf "max_stale_artifact_retries" self.maxStaleArtifactRetries
    configured.maxStaleArtifactRetries

end RetryBudget

def RetryCounters.exhaustionReasonAgainst (budget : RetryBudget) (self : RetryCounters) :
    Option RetryExhaustionReason :=
  if budget.maxValidationRetries ≤ self.validationRetryIndex then some .validationRetries
  else if budget.maxStaleArtifactRetries ≤ self.staleArtifactRetryIndex then
    some .staleArtifactRetries
  else none

/-- `reconcile`: the budget and the reason that are put on record. -/
def RetryBudget.reconcile (self configured : RetryBudget) (counters : RetryCounters)
    (priorReason : Option RetryExhaustionReason) :
    Except String (RetryBudget × Option RetryExhaustionReason) := do
  self.rejectExpansion configured
  let requested := self.tightenedWith configured
  let reason := priorReason.or (counters.exhaustionReasonAgainst requested)
  .ok
    ({ maxRemediationAttempts :=
        max requested.maxRemediationAttempts counters.remediationAttemptIndex
       maxValidationRetries := max requested.maxValidationRetries counters.validationRetryIndex
       maxStaleArtifactRetries :=
        max requested.maxStaleArtifactRetries counters.staleArtifactRetryIndex }, reason)

/-- What `validate_against_budget` asks of one counter. -/
def validateCounter (name bound : String) (counter maximum : UInt64) : Except String Unit :=
  if maximum < counter then .error s!"{name} {counter} exceeds {bound} {maximum}" else .ok ()

def RetryCounters.validateAgainstBudget (budget : RetryBudget) (self : RetryCounters) :
    Except String Unit := do
  validateCounter "remediation_attempt_index" "max_remediation_attempts"
    self.remediationAttemptIndex budget.maxRemediationAttempts
  validateCounter "validation_retry_index" "max_validation_retries"
    self.validationRetryIndex budget.maxValidationRetries
  validateCounter "stale_artifact_retry_index" "max_stale_artifact_retries"
    self.staleArtifactRetryIndex budget.maxStaleArtifactRetries

/-! ### What a state must satisfy -/

def LaunchPhase.isActive : LaunchPhase → Bool
  | reserved | launched => true
  | completed => false

def validateStateInvariants (parse : Rfc3339Parser) (state : RetryState) :
    Except String Unit := do
  state.counters.validateAgainstBudget state.budget
  if state.budget.maxRemediationAttempts < state.launchOrdinal then
    .error (s!"launch_ordinal {state.launchOrdinal} exceeds max_remediation_attempts "
      ++ s!"{state.budget.maxRemediationAttempts}")
  if state.historyChainReset = true ∧ (state.transitionType ≠ "terminal_tombstone"
      ∨ state.predecessorArtifactSequence.isSome = true) then
    .error "retry history reset requires a predecessor-free terminal tombstone"
  if state.transitionType = "terminal_tombstone" ∧ state.historyChainReset = false then
    .error "terminal retry tombstone must reset its history chain"
  if state.launchOrdinal ≠ state.counters.remediationAttemptIndex then
    .error (s!"launch_ordinal {state.launchOrdinal} differs from remediation_attempt_index "
      ++ s!"{state.counters.remediationAttemptIndex}")
  if state.launchPhase.isActive = true then
    match state.leaseExpiry with
    | none => .error "active retry state requires owner token, lease expiry, and invocation timeout"
    | some expiry =>
      if state.ownerToken = "" ∨ state.invocationTimeoutSeconds = 0 then
        .error "active retry state requires owner token, lease expiry, and invocation timeout"
      let _ ← (parse expiry).mapError fun error =>
        s!"retry lease expiry is not RFC3339: {error}"

def RetryExhaustionReason.debugText : RetryExhaustionReason → String
  | remediationAttempts => "RemediationAttempts"
  | validationRetries => "ValidationRetries"
  | staleArtifactRetries => "StaleArtifactRetries"

def exhaustedError (state : RetryState) : Option String :=
  state.exhaustionReason.map fun reason =>
    s!"remediation retry budget exhausted: RetryExhaustionView \x7b reason: {reason.debugText}, "
      ++ s!"remediation_attempt_index: {state.counters.remediationAttemptIndex}, "
      ++ s!"validation_retry_index: {state.counters.validationRetryIndex}, "
      ++ s!"stale_artifact_retry_index: {state.counters.staleArtifactRetryIndex}, "
      ++ s!"max_remediation_attempts: {state.budget.maxRemediationAttempts}, "
      ++ s!"max_validation_retries: {state.budget.maxValidationRetries}, "
      ++ s!"max_stale_artifact_retries: {state.budget.maxStaleArtifactRetries} \x7d"

def LaunchPhase.debugText : LaunchPhase → String
  | reserved => "Reserved"
  | launched => "Launched"
  | completed => "Completed"

def verifyOwnership (persisted : Option RetryState) (expectedToken : String)
    (expectedPhase : LaunchPhase) (expectedOrdinal : UInt64) : Except String Unit :=
  match persisted with
  | none => .error "retry state vanished between reserve and phase transition"
  | some state =>
    if state.ownerToken ≠ expectedToken then
      .error (s!"retry state ownership changed: expected token {expectedToken}, "
        ++ s!"persisted token {state.ownerToken}")
    else if state.launchPhase ≠ expectedPhase then
      .error (s!"retry state phase diverged: expected {expectedPhase.debugText}, "
        ++ s!"persisted {state.launchPhase.debugText}")
    else if state.launchOrdinal ≠ expectedOrdinal then
      .error (s!"retry state ordinal diverged: expected {expectedOrdinal}, "
        ++ s!"persisted {state.launchOrdinal}")
    else .ok ()

/-! ### Identities -/

def fnv64 (bytes : List UInt8) : UInt64 :=
  bytes.foldl (fun hash byte => (hash ^^^ byte.toUInt64) * 0x100000001b3) 0xcbf29ce484222325

/-- `format!("fnv64:{:016x}", …)`. -/
def fnv64Text (identity : String) : String :=
  let digits := String.ofList (Nat.toDigits 16 (fnv64 identity.toUTF8.toList).toNat)
  "fnv64:" ++ String.ofList (List.replicate (16 - digits.length) '0') ++ digits

def durableLaunchTransitionId (state : RetryState) : String :=
  if state.launchTransitionId = "" then state.transitionId else state.launchTransitionId

end Luther
