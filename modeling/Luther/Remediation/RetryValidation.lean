/-
The outcome of a validation, put on record in the retry state.

A validation advances the counters of the launch it belongs to by at most one each, and names
its source, by which a second recording of the same validation is recognised: it must find the
counters and the transition that the first one left.  Before that the budget on record is
brought in line with the budget configured now, which is a transition of its own.
-/
import Luther.Remediation.RetryHistory

namespace Luther

/-! ### The transition -/

/-- A validation that is to be counted. -/
structure ValidationTransition where
  sourceId : String
  validationRetryIndex : UInt64
  staleArtifactRetryIndex : UInt64
  transitionType : String

/-- Who owns the launch. -/
structure RetryOwnership where
  scope : RetryScopeKey
  token : String
  phase : LaunchPhase
  ordinal : UInt64

def RetryOwnership.fromState (state : RetryState) : RetryOwnership where
  scope := state.scope
  token := state.ownerToken
  phase := state.launchPhase
  ordinal := state.launchOrdinal

def RetryOwnership.verify (ownership : RetryOwnership) (state : Option RetryState) :
    Except String Unit :=
  match state with
  | none => .error "retry state vanished between reserve and validation transition"
  | some state =>
    if state.scope ≠ ownership.scope then
      .error "retry state scope changed before validation transition"
    else verifyOwnership (some state) ownership.token ownership.phase ownership.ordinal

/-- Which counters a validation moves. -/
structure ValidationAdvancement where
  validationRetry : Bool
  staleArtifactRetry : Bool

def advanceCounter (current : UInt64) (advances : Bool) (name : String) : Except String UInt64 :=
  let advanced := current.toNat + advances.toNat
  if advanced < 2 ^ 64 then .ok (UInt64.ofNat advanced)
  else .error s!"{name} counter overflowed"

def exhaustionReasonForTransition (transitionType : String) : Option RetryExhaustionReason :=
  match transitionType with
  | "malformed_cap_exhausted" => some .validationRetries
  | "unsuccessful_remediation_cap_exhausted" => some .remediationAttempts
  | "stale_artifact_cap_exhausted" => some .staleArtifactRetries
  | _ => none

def causalExhaustion (state : RetryState) : Option String :=
  match state.exhaustionReason with
  | some .remediationAttempts => some "remediation_attempts_exhausted"
  | some .validationRetries => some "validation_retries_exhausted"
  | some .staleArtifactRetries => some "stale_artifact_retries_exhausted"
  | none => none

namespace ValidationTransition

section

variable (self : ValidationTransition)

section

variable (state : RetryState)

def isIdempotentReplay : Except String Bool :=
  if state.validationSourceId ≠ some self.sourceId then .ok false
  else if self.validationRetryIndex = state.counters.validationRetryIndex ∧
      self.staleArtifactRetryIndex = state.counters.staleArtifactRetryIndex ∧
      self.transitionType = state.transitionType then .ok true
  else .error "replayed remediation validation source has divergent counters"

/-- The counters of a state, with the retries of the transition. -/
def countersAfter : RetryCounters where
  remediationAttemptIndex := state.counters.remediationAttemptIndex
  validationRetryIndex := self.validationRetryIndex
  staleArtifactRetryIndex := self.staleArtifactRetryIndex

def validateAgainst : Except String Unit :=
  if self.validationRetryIndex < state.counters.validationRetryIndex ∨
      self.staleArtifactRetryIndex < state.counters.staleArtifactRetryIndex then
    .error "remediation validation counters cannot decrease"
  else (self.countersAfter state).validateAgainstBudget state.budget

def advancementFrom : ValidationAdvancement where
  validationRetry := decide (state.counters.validationRetryIndex < self.validationRetryIndex)
  staleArtifactRetry :=
    decide (state.counters.staleArtifactRetryIndex < self.staleArtifactRetryIndex)

def apply (advancement : ValidationAdvancement) : Except String RetryState := do
  let validationRetryIndex ← advanceCounter state.counters.validationRetryIndex
    advancement.validationRetry "validation retry"
  let staleArtifactRetryIndex ← advanceCounter state.counters.staleArtifactRetryIndex
    advancement.staleArtifactRetry "stale artifact retry"
  let counters : RetryCounters :=
    { remediationAttemptIndex := state.counters.remediationAttemptIndex
      validationRetryIndex := validationRetryIndex
      staleArtifactRetryIndex := staleArtifactRetryIndex }
  if counters.validationRetryIndex ≠ self.validationRetryIndex ∨
      counters.staleArtifactRetryIndex ≠ self.staleArtifactRetryIndex then
    .error "remediation validation counter transition must advance by at most one"
  counters.validateAgainstBudget state.budget
  .ok
    { state with
      counters := counters
      validationSourceId := some self.sourceId
      transitionId := fnv64Text self.sourceId
      transitionType := self.transitionType
      exhaustionReason :=
        (exhaustionReasonForTransition self.transitionType).or state.exhaustionReason }

end

end

end ValidationTransition

/-! ### The policy -/

/-- Who makes one persist, and what becomes of it. -/
structure RetryPersist where
  writer : RetryWriter
  publication : Publication

def policyTransitionType (reason : Option RetryExhaustionReason) : String :=
  if reason.isSome then "policy_tightened_exhausted" else "policy_tightened"

def RetryState.withPolicy (budget : RetryBudget) (reason : Option RetryExhaustionReason)
    (state : RetryState) : RetryState :=
  { state with
    budget := budget
    exhaustionReason := reason
    transitionType := policyTransitionType reason }

section

variable (validate : FamilyInvariants)

section

variable (binding : PrFollowupBinding)

/-- `reconcile_retry_policy_locked`.  The state was loaded under the lock that is held. -/
def reconcileRetryPolicyLocked (write : RetryPersist)
    (state : RetryState) (configured : RetryBudget) (store : ArtifactStore) :
    Except String RetryState × ArtifactStore :=
  match state.budget.reconcile configured state.counters state.exhaustionReason with
  | .error error => (.error error, store)
  | .ok (budget, reason) =>
    if state.budget = budget ∧ state.exhaustionReason = reason then (.ok state, store)
    else
      persistLinked validate binding write.writer write.publication true
        (state.withPolicy budget reason) store

/-! ### Recording -/

/-- `RecordValidationContext`, with what becomes of its persists. -/
structure RecordValidationContext where
  order : ListingOrder
  params : Json
  policy : RetryPersist
  validation : RetryPersist

/-- What `advance_validation_locked` does where the validation is not on record. -/
def advanceFreshValidation (write : RetryPersist)
    (transition : ValidationTransition) (state next : RetryState) (store : ArtifactStore) :
    (Except String Unit × RetryState) × ArtifactStore :=
  match exhaustedError next with
  | some error => ((.error error, next), store)
  | none =>
    let applied := do
      transition.validateAgainst next
      transition.apply next (transition.advancementFrom next)
    match applied with
    | .error error => ((.error error, state), store)
    | .ok applied =>
      match persistLinked validate binding write.writer write.publication
          true applied store with
      | (.error error, store) => ((.error error, state), store)
      | (.ok persisted, store) => ((.ok (), persisted), store)

/-- What `advance_validation_locked` does with the state that it has loaded, and that is its
caller's own. -/
def advanceOwnedValidation (context : RecordValidationContext)
    (transition : ValidationTransition) (state next : RetryState) (store : ArtifactStore) :
    (Except String Unit × RetryState) × ArtifactStore :=
  let prepared := do
    let replay ← transition.isIdempotentReplay next
    let configured ← RetryBudget.fromParams context.params
    .ok (replay, configured)
  match prepared with
  | .error error => ((.error error, state), store)
  | .ok (replay, configured) =>
    match reconcileRetryPolicyLocked validate binding context.policy next
        configured store with
    | (.error error, store) => ((.error error, state), store)
    | (.ok next, store) =>
      if replay then ((.ok (), next), store)
      else
        advanceFreshValidation validate binding context.validation transition
          state next store

end

section

variable (parse : Rfc3339Parser)

/-- `advance_validation_locked`: what is answered, and the state that the caller is left with. -/
def advanceValidationLocked (binding : PrFollowupBinding) (context : RecordValidationContext)
    (ownership : RetryOwnership) (state : RetryState) (transition : ValidationTransition)
    (store : ArtifactStore) : (Except String Unit × RetryState) × ArtifactStore :=
  match loadMatchingStateLocked validate parse context.order binding
      ownership.scope store with
  | (.error error, store) => ((.error error, state), store)
  | (.ok persisted, store) =>
    match ownership.verify persisted, persisted with
    | .error error, _ => ((.error error, state), store)
    | .ok (), none => ((.error "retry state vanished during validation", state), store)
    | .ok (), some next =>
      advanceOwnedValidation validate binding context transition state next
        store

def recordValidation (binding : PrFollowupBinding)
    (context : RecordValidationContext) (state : RetryState) (transition : ValidationTransition)
    (store : ArtifactStore) : (Except String Unit × RetryState) × ArtifactStore :=
  advanceValidationLocked validate parse binding context
    (RetryOwnership.fromState state) state transition store

/-- What a launch and a terminal failure do first: the scope is loaded, and the policy on record
brought in line with the one configured. -/
def reconcilePolicy (binding : PrFollowupBinding) (order : ListingOrder)
    (scope : RetryScopeKey) (params : Json) (write : RetryPersist) (store : ArtifactStore) :
    Except String (Option RetryState) × ArtifactStore :=
  match RetryBudget.fromParams params with
  | .error error => (.error error, store)
  | .ok configured =>
    match loadMatchingStateLocked validate parse order binding scope store with
    | (.error error, store) => (.error error, store)
    | (.ok none, store) => (.ok none, store)
    | (.ok (some state), store) =>
      let (reconciled, store) :=
        reconcileRetryPolicyLocked validate binding write state configured store
      (reconciled.map some, store)

/-! ### Any number of recordings -/

/-- What a process does to the retry states of a binding, its recordings told apart. -/
inductive ValidationCall where
  | record (context : RecordValidationContext) (state : RetryState)
      (transition : ValidationTransition)
  | reconcile (order : ListingOrder) (scope : RetryScopeKey) (params : Json)
      (write : RetryPersist)
  /-- A load, a persist of another kind, or a write of another family. -/
  | other (call : RetryCall)

/-- The processes that keep retry states of one binding, and record validations in them. -/
def validationMachine (binding : PrFollowupBinding) :
    StateMachine ArtifactStore ValidationCall (Except String (Option RetryState)) where
  start store := store.history = [] ∧ store.current = []
  step store
    | .record context state transition =>
      let ((recorded, state), store) := recordValidation validate parse binding
        context state transition store
      (recorded.map fun () => some state, store)
    | .reconcile order scope params write =>
      reconcilePolicy validate parse binding order scope params write store
    | .other call => (retryMachine validate parse binding).step store call

end

end

end Luther
