/-
A validation that was put on record is put on record once.

Between two recordings of one validation other processes may load, write and crash; what the
second recording is compared with is the last state of the scope.  As long as no other policy
was put on record since the first recording, that is the state which the first one left, and
the second succeeds and changes no counter.  A policy that was tightened in between is the last
transition of the scope, and the validation is then no longer recognised as its own.
-/
import Luther.Lib.Sql
import Luther.Proofs.RetryHistory
import Luther.Remediation.RetryValidation

namespace Luther

/-! ### Budgets -/

theorem uInt64_min_eq_right {a b : UInt64} (h : b ≤ a) : min a b = b := by
  show (if a ≤ b then a else b) = b
  by_cases hle : a ≤ b
  · rw [if_pos hle, UInt64.le_antisymm hle h]
  · rw [if_neg hle]

theorem uInt64_le_max_right (a b : UInt64) : b ≤ max a b := by
  show b ≤ if a ≤ b then b else a
  by_cases hle : a ≤ b
  · rw [if_pos hle]
    exact UInt64.le_refl b
  · rw [if_neg hle]
    exact UInt64.le_of_lt (UInt64.not_le.mp hle)

theorem validateCounter_iff (name bound : String) (counter maximum : UInt64) :
    validateCounter name bound counter maximum = .ok () ↔ counter ≤ maximum := by
  unfold validateCounter
  rw [← UInt64.not_lt]
  split <;> simp [*]

/-- Counters fit in a budget. -/
structure RetryCounters.Within (budget : RetryBudget) (counters : RetryCounters) : Prop where
  attempts : counters.remediationAttemptIndex ≤ budget.maxRemediationAttempts
  retries : counters.validationRetryIndex ≤ budget.maxValidationRetries
  stale : counters.staleArtifactRetryIndex ≤ budget.maxStaleArtifactRetries

theorem validateAgainstBudget_iff (budget : RetryBudget) (counters : RetryCounters) :
    counters.validateAgainstBudget budget = .ok () ↔ counters.Within budget := by
  unfold RetryCounters.validateAgainstBudget
  simp only [Sql.checked_ok, validateCounter_iff]
  exact ⟨fun ⟨hattempts, hretries, hstale⟩ => ⟨hattempts, hretries, hstale⟩,
    fun h => ⟨h.attempts, h.retries, h.stale⟩⟩

/-- A budget on record allows one that is configured. -/
structure RetryBudget.Covers (persisted configured : RetryBudget) : Prop where
  attempts : configured.maxRemediationAttempts ≤ persisted.maxRemediationAttempts
  retries : configured.maxValidationRetries ≤ persisted.maxValidationRetries
  stale : configured.maxStaleArtifactRetries ≤ persisted.maxStaleArtifactRetries

theorem rejectExpansionOf_iff (name : String) (persisted configured : UInt64) :
    RetryBudget.rejectExpansionOf name persisted configured = .ok () ↔ configured ≤ persisted := by
  unfold RetryBudget.rejectExpansionOf
  rw [← UInt64.not_lt]
  split <;> simp [*]

theorem rejectExpansion_iff (persisted configured : RetryBudget) :
    persisted.rejectExpansion configured = .ok () ↔ persisted.Covers configured := by
  unfold RetryBudget.rejectExpansion
  simp only [Sql.checked_ok, rejectExpansionOf_iff]
  exact ⟨fun ⟨hattempts, hretries, hstale⟩ => ⟨hattempts, hretries, hstale⟩,
    fun h => ⟨h.attempts, h.retries, h.stale⟩⟩

/-- **What a budget becomes.**  It is the one configured, as far as that was not used up. -/
theorem reconcile_iff {persisted configured : RetryBudget} {counters : RetryCounters}
    {prior : Option RetryExhaustionReason} {policy : RetryBudget × Option RetryExhaustionReason} :
    persisted.reconcile configured counters prior = .ok policy ↔
      persisted.Covers configured ∧ policy =
        (⟨max configured.maxRemediationAttempts counters.remediationAttemptIndex,
          max configured.maxValidationRetries counters.validationRetryIndex,
          max configured.maxStaleArtifactRetries counters.staleArtifactRetryIndex⟩,
        prior.or (counters.exhaustionReasonAgainst configured)) := by
  unfold RetryBudget.reconcile
  simp only [Sql.checked_ok, rejectExpansion_iff, Except.ok.injEq]
  refine and_congr_right fun hcovers => ?_
  have htightened : persisted.tightenedWith configured = configured := by
    unfold RetryBudget.tightenedWith
    rw [uInt64_min_eq_right hcovers.attempts, uInt64_min_eq_right hcovers.retries,
      uInt64_min_eq_right hcovers.stale]
  rw [htightened]
  exact eq_comm

/-! ### Valid states -/

/-- What is asked of the lease of a launch under way. -/
def leaseChecked (parse : Rfc3339Parser) (state : RetryState) : Except String Unit := do
  if state.launchPhase.isActive = true then
    match state.leaseExpiry with
    | none => .error "active retry state requires owner token, lease expiry, and invocation timeout"
    | some expiry =>
      if state.ownerToken = "" ∨ state.invocationTimeoutSeconds = 0 then
        .error "active retry state requires owner token, lease expiry, and invocation timeout"
      let _ ← (parse expiry).mapError fun error =>
        s!"retry lease expiry is not RFC3339: {error}"

/-- What `validate_state_invariants` asks for. -/
structure ValidState (parse : Rfc3339Parser) (state : RetryState) : Prop where
  within : state.counters.Within state.budget
  ordinal : state.launchOrdinal = state.counters.remediationAttemptIndex
  standing : state.transitionType ≠ "terminal_tombstone"
  lease : leaseChecked parse state = .ok ()

variable {state next : RetryState}

variable {parse : Rfc3339Parser}

theorem validateStateInvariants_iff (hunreset : state.historyChainReset = false) :
    validateStateInvariants parse state = .ok () ↔ ValidState parse state := by
  unfold validateStateInvariants
  simp only [hunreset, Sql.checked_ok, Sql.refused_ok, validateAgainstBudget_iff]
  constructor
  · rintro ⟨hwithin, -, -, hstanding, hordinal, hlease⟩
    exact ⟨hwithin, not_not.mp hordinal, fun heq => hstanding ⟨heq, trivial⟩, hlease⟩
  · intro h
    refine ⟨h.within, ?_, by simp, fun heq => h.standing heq.1, not_not_intro h.ordinal, h.lease⟩
    rw [h.ordinal]
    exact UInt64.not_lt.mpr h.within.attempts

theorem leaseChecked_congr (hphase : next.launchPhase = state.launchPhase)
    (hexpiry : next.leaseExpiry = state.leaseExpiry) (htoken : next.ownerToken = state.ownerToken)
    (htimeout : next.invocationTimeoutSeconds = state.invocationTimeoutSeconds) :
    leaseChecked parse next = leaseChecked parse state := by
  unfold leaseChecked
  rw [hphase, hexpiry, htoken, htimeout]

theorem ValidState.withPolicy (h : ValidState parse state)
    {configured budget : RetryBudget} {reason : Option RetryExhaustionReason}
    (hpolicy : state.budget.reconcile configured state.counters state.exhaustionReason =
      .ok (budget, reason)) :
    ValidState parse (state.withPolicy budget reason) where
  within := by
    obtain ⟨-, hpolicy⟩ := reconcile_iff.mp hpolicy
    obtain ⟨rfl, -⟩ := Prod.mk.inj hpolicy
    exact ⟨uInt64_le_max_right _ _, uInt64_le_max_right _ _, uInt64_le_max_right _ _⟩
  ordinal := h.ordinal
  standing := by
    show policyTransitionType reason ≠ "terminal_tombstone"
    unfold policyTransitionType
    split <;> decide
  lease := (leaseChecked_congr rfl rfl rfl rfl).trans h.lease

variable {advancement : ValidationAdvancement}

theorem apply_iff {transition : ValidationTransition}
    (h : transition.apply state advancement = .ok next) :
    (transition.countersAfter state).Within state.budget ∧
      next =
        { state with
          counters := transition.countersAfter state
          validationSourceId := some transition.sourceId
          transitionId := fnv64Text transition.sourceId
          transitionType := transition.transitionType
          exhaustionReason :=
            (exhaustionReasonForTransition transition.transitionType).or
              state.exhaustionReason } := by
  unfold ValidationTransition.apply at h
  obtain ⟨retries, -, h⟩ := Sql.bind_ok.mp h
  obtain ⟨stale, -, h⟩ := Sql.bind_ok.mp h
  simp only [Sql.refused_ok, Sql.checked_ok, validateAgainstBudget_iff, Except.ok.injEq, not_or,
    not_not] at h
  obtain ⟨⟨hretries, hstale⟩, hwithin, hnext⟩ := h
  subst hretries hstale
  exact ⟨hwithin, hnext.symm⟩

theorem ValidState.apply {transition : ValidationTransition} (h : ValidState parse state)
    (hstanding : transition.transitionType ≠ "terminal_tombstone")
    (happly : transition.apply state advancement = .ok next) : ValidState parse next := by
  obtain ⟨hwithin, rfl⟩ := apply_iff happly
  exact ⟨hwithin, h.ordinal, hstanding, (leaseChecked_congr rfl rfl rfl rfl).trans h.lease⟩

/-! ### The last state of a scope -/

section Store

variable {validate : FamilyInvariants} {parse : Rfc3339Parser}
  {binding : PrFollowupBinding} {store : ArtifactStore} {scope : RetryScopeKey}

/-- The states on record in a scope, without the numbers that link them. -/
def statesOf (scope : RetryScopeKey) (store : ArtifactStore) : List RetryState :=
  (retryEntries scope store).map (·.2.unlinked)

/-- A state is the last of its scope, and the canonical file is its document. -/
structure Standing (validate : FamilyInvariants) (parse : Rfc3339Parser)
    (binding : PrFollowupBinding) (scope : RetryScopeKey) (state : RetryState)
    (store : ArtifactStore) : Prop where
  record : RetryRecord validate parse binding store
  last : lastState scope store = some state
  sequence : ∀ entry, (retryEntries scope store).getLast? = some entry →
    stateSequenceLocked validate binding store = .ok (some (UInt64.ofNat entry.1))

theorem lastState_unlinked (scope : RetryScopeKey) (store : ArtifactStore) :
    (lastState scope store).map RetryState.unlinked = (statesOf scope store).getLast? := by
  unfold lastState statesOf
  rw [List.getLast?_map, Option.map_map]
  rfl

theorem RetryRecord.entry (h : RetryRecord validate parse binding store)
    {entry : Nat × RetryState} (hentry : entry ∈ retryEntries scope store) :
    entry.2.scope = scope ∧ entry.2.historyChainReset = false ∧ ValidState parse entry.2 := by
  have hvalid := h.valid scope entry hentry
  obtain ⟨file, hfile, hread⟩ := List.mem_filterMap.mp hentry
  obtain ⟨hretry, hscope⟩ := List.mem_filter.mp hfile
  obtain ⟨hmem, hfamily⟩ := mem_retryFiles.mp hretry
  obtain ⟨state, hdocument⟩ := h.ledger.documents file hmem hfamily
  rw [hdocument.entry] at hread
  obtain rfl := Option.some.inj hread
  rw [hdocument.scope] at hscope
  exact ⟨by simpa using hscope, hdocument.unreset,
    (validateStateInvariants_iff hdocument.unreset).mp hvalid⟩

variable {state : RetryState} {write : RetryPersist} {params : Json}
  {transition : ValidationTransition}

theorem RetryRecord.last (h : RetryRecord validate parse binding store)
    (hlast : lastState scope store = some state) :
    state.scope = scope ∧ state.historyChainReset = false ∧ ValidState parse state := by
  unfold lastState at hlast
  obtain ⟨entry, hentry, rfl⟩ := Option.map_eq_some_iff.mp hlast
  exact h.entry (List.mem_of_getLast? hentry)

/-- **A scope that is loaded has its last state standing.** -/
theorem RetryRecord.load_standing (h : RetryRecord validate parse binding store)
    (hbinding : binding.Complete) (order : ListingOrder) (scope : RetryScopeKey) :
    let loaded := loadMatchingStateLocked validate parse order binding scope store
    RetryRecord validate parse binding loaded.2 ∧
      loaded.2.history = store.history ∧
      (∀ previous, loaded.1 = .ok previous → previous = lastState scope store) ∧
      ∀ state, loaded.1 = .ok (some state) →
        Standing validate parse binding scope state loaded.2 := by
  intro loaded
  obtain ⟨hrecord, hhistory, hloaded⟩ := h.load hbinding order scope
  refine ⟨hrecord, hhistory, fun previous hprevious => (hloaded previous hprevious).1, ?_⟩
  intro state hstate
  obtain ⟨hlast, hsequence⟩ := hloaded (some state) hstate
  have hentries := retryEntries_congr hhistory scope
  refine ⟨hrecord, ?_, ?_⟩
  · unfold lastState at hlast ⊢
    rw [hentries]
    exact hlast.symm
  · rw [hentries]
    exact hsequence

variable {writer : RetryWriter} {publication : Publication} {configured : RetryBudget}
  {context : RecordValidationContext}

/-- **A persist that succeeds has put its document behind the others, and in the canonical
place.** -/
theorem RetryLedger.persist_ok (h : RetryLedger validate binding store)
    (hbinding : binding.Complete) (hproducer : writer.producerStepId ≠ "")
    (hunreset : state.historyChainReset = false)
    (hok : (persist validate binding writer publication state store).1 = .ok ()) :
    let next := (persist validate binding writer publication state store).2
    ∃ file canonical, next.history = store.history ++ [file] ∧
      file.family = retryStateFamily ∧ RetryDocument binding file state ∧
      next.currentFile binding retryStateFamily = some canonical ∧
      canonical.content = file.content := by
  intro next
  have hrequest := persistRequest_wellFormed hbinding hproducer state
  obtain ⟨-, hroot, hcurrent⟩ := h.ledger.write_current writer.order hrequest publication
  have hwritten : (writeJsonArtifactLocked validate writer.order
      (persistRequest binding writer state) publication store).1.isOk = true := by
    unfold Luther.persist at hok
    cases hanswer : (writeJsonArtifactLocked validate writer.order
        (persistRequest binding writer state) publication store).1 with
    | error error => simp [hanswer, Except.map] at hok
    | ok record => rfl
  rcases h.ledger.write_cases writer.order hrequest publication with ⟨-, hrefused⟩ |
    ⟨value, hvalue, hfamily, -, -, -, hhistory⟩
  · rw [hwritten] at hrefused
    exact absurd hrefused (by decide)
  rcases hcurrent with ⟨hrefused, -⟩ | ⟨record, value', -, hvalue', hcurrent⟩
  · rw [hwritten] at hrefused
    exact absurd hrefused (by decide)
  obtain rfl := Except.ok.inj (hvalue.symm.trans hvalue')
  refine ⟨_, ⟨canonicalPath store.root binding retryStateFamily, value⟩, hhistory, hfamily,
    retryDocument_of_envelope hbinding store.root writer hunreset hvalue, ?_, rfl⟩
  show next.current.find? (fun file => file.path == canonicalPath next.root binding _) = _
  have hnextRoot : next.root = store.root := hroot
  have hnextCurrent : next.current = _ := hcurrent
  rw [hnextRoot, hnextCurrent]
  exact currentFile_replaceCurrent value

theorem persistLinked_ok {hasPrevious : Bool} {written : RetryState}
    (h : (persistLinked validate binding writer publication hasPrevious state
      store).1 = .ok written) :
    (persist validate binding writer publication written store).1 = .ok () ∧
      written.unlinked = state.unlinked ∧
      (persist validate binding writer publication written store).2 =
        (persistLinked validate binding writer publication hasPrevious state
          store).2 := by
  unfold persistLinked at h ⊢
  cases hpredecessor : (if hasPrevious then
      stateSequenceLocked validate binding store else .ok none) with
  | error error => simp [hpredecessor] at h
  | ok predecessor =>
    simp only [hpredecessor] at h ⊢
    cases hpersisted : (persist validate binding writer publication
        { state with predecessorArtifactSequence := predecessor } store).1 with
    | error error => simp [hpersisted, Except.map] at h
    | ok _ =>
      simp only [hpersisted, Except.map, Except.ok.injEq] at h
      subst h
      exact ⟨hpersisted, rfl, rfl⟩

/-- **A persist that succeeds leaves its state standing.** -/
theorem Standing.persist (h : Standing validate parse binding scope state store)
    (hbinding : binding.Complete) (write : RetryPersist)
    (hproducer : write.writer.producerStepId ≠ "") (next : RetryState) (hscope : next.scope = scope)
    (hunreset : next.historyChainReset = false) (hvalid : ValidState parse next) :
    let persisted := persistLinked validate binding write.writer write.publication
      true next store
    RetryRecord validate parse binding persisted.2 ∧
      (∀ other, other ≠ scope → statesOf other persisted.2 = statesOf other store) ∧
      ∀ written, persisted.1 = .ok written → written.unlinked = next.unlinked ∧
        Standing validate parse binding scope written persisted.2 := by
  intro persisted
  subst hscope
  have hsome : (lastState next.scope store).isSome = true := by simp [h.last]
  have hinvariants := (validateStateInvariants_iff hunreset).mpr hvalid
  obtain ⟨hrecord, hstates, -⟩ := h.record.persistLinked hbinding hproducer hunreset hinvariants
    write.publication h.sequence
  rw [hsome] at hrecord hstates
  refine ⟨hrecord, fun other hother => ?_, fun written hwritten => ?_⟩
  · have hsame := hstates other
    rw [if_neg (fun hcondition => hother hcondition.1.symm), List.append_nil] at hsame
    exact hsame
  · obtain ⟨hok, hunlinked, hnext⟩ := persistLinked_ok hwritten
    have hkept : written.historyChainReset = false :=
      (congrArg RetryState.historyChainReset hunlinked).trans hunreset
    have hwrittenScope : written.unlinked.scope = next.unlinked.scope := by rw [hunlinked]
    rw [← hnext] at hrecord ⊢
    obtain ⟨file, canonical, hhistory, hfamily, hdocument, hcurrent, hcontent⟩ :=
      h.record.ledger.persist_ok hbinding hproducer hkept hok
    have hmem : file ∈ (Luther.persist validate binding write.writer
        write.publication written store).2.history := by
      rw [hhistory]
      exact List.mem_append_right _ (List.mem_singleton_self file)
    have hlast : (retryEntries next.scope (Luther.persist validate binding
        write.writer write.publication written store).2).getLast? =
        some (file.artifactSequence, written) := by
      have hadded : retryEntries next.scope (store.append file) = _ :=
        retryEntries_append next.scope file
      rw [addedEntries_of_document hdocument hfamily,
        if_pos (show written.scope = next.scope from hwrittenScope)] at hadded
      rw [retryEntries_congr (show _ = (store.append file).history from hhistory), hadded]
      simp
    refine ⟨hunlinked, hrecord, ?_, fun entry hentry => ?_⟩
    · unfold lastState
      rw [hlast]
      rfl
    · rw [hlast] at hentry
      obtain rfl := Option.some.inj hentry
      exact hrecord.ledger.stateSequenceLocked_eq hbinding hcurrent hmem hcontent

theorem Standing.persist_published (h : Standing validate parse binding scope state store)
    (hbinding : binding.Complete) (hproducer : write.writer.producerStepId ≠ "")
    (hpublished : write.publication = .published)
    (hlength : store.history.length ≤ maxArtifactScanFiles)
    (hinvariants : ∀ value, validate retryStateFamily value = .ok ()) (next : RetryState) :
    ∃ written, (persistLinked validate binding write.writer write.publication
      true next store).1 = .ok written := by
  obtain ⟨entry, hentry, -⟩ := Option.map_eq_some_iff.mp h.last
  unfold Luther.persistLinked
  simp only [if_true, h.sequence entry hentry]
  generalize { next with predecessorArtifactSequence := some (UInt64.ofNat entry.1) } = linked
  have hrequest := persistRequest_wellFormed hbinding hproducer linked
  obtain ⟨-, hwritten⟩ := h.record.ledger.ledger.write
    ⟨write.writer.order, persistRequest binding write.writer linked, write.publication⟩ hrequest
    hlength
  have hok := hwritten.published hpublished ⟨_, rfl⟩ fun value _ => hinvariants value
  unfold Luther.persist
  cases hanswer : (writeJsonArtifactLocked validate write.writer.order
      (persistRequest binding write.writer linked) write.publication store).1 with
  | error error =>
    have hrefused : (Except.error error : Except String ArtifactWriteRecord).isOk = true :=
      hanswer ▸ hok
    simp [Except.isOk, Except.toBool] at hrefused
  | ok record =>
    refine ⟨linked, ?_⟩
    show Except.map _ (Except.map _ (writeJsonArtifactLocked _ _ _ _ _).1) = _
    rw [hanswer]
    rfl

/-! ### The policy -/

/-- The state that a policy is put on record with, where it is another. -/
def RetryState.reconciled (policy : RetryBudget × Option RetryExhaustionReason)
    (state : RetryState) : RetryState :=
  if state.budget = policy.1 ∧ state.exhaustionReason = policy.2 then state
  else state.withPolicy policy.1 policy.2

/-- **A reconciliation leaves the state with the policy standing.** -/
theorem Standing.reconcile (h : Standing validate parse binding scope state store)
    (hbinding : binding.Complete) (hproducer : write.writer.producerStepId ≠ "")
    (configured : RetryBudget) :
    let reconciled :=
      reconcileRetryPolicyLocked validate binding write state configured store
    RetryRecord validate parse binding reconciled.2 ∧
      (∀ other, other ≠ scope → statesOf other reconciled.2 = statesOf other store) ∧
      ∀ next, reconciled.1 = .ok next →
        Standing validate parse binding scope next reconciled.2 ∧
        ∃ policy, state.budget.reconcile configured state.counters state.exhaustionReason =
          .ok policy ∧ next.unlinked = (state.reconciled policy).unlinked := by
  intro reconciled
  obtain ⟨hscope, hunreset, hvalid⟩ := h.record.last h.last
  have hreconciled : reconciled =
    reconcileRetryPolicyLocked validate binding write state configured store := rfl
  unfold reconcileRetryPolicyLocked at hreconciled
  cases hpolicy : state.budget.reconcile configured state.counters state.exhaustionReason with
  | error error =>
    rw [hpolicy] at hreconciled
    rw [hreconciled]
    exact ⟨h.record, fun _ _ => rfl, fun next hnext => by simp at hnext⟩
  | ok policy =>
    obtain ⟨budget, reason⟩ := policy
    simp only [hpolicy] at hreconciled
    by_cases hsame : state.budget = budget ∧ state.exhaustionReason = reason
    · rw [if_pos hsame] at hreconciled
      rw [hreconciled]
      refine ⟨h.record, fun _ _ => rfl, fun next hnext => ?_⟩
      obtain rfl := Except.ok.inj hnext
      exact ⟨h, _, rfl, by rw [RetryState.reconciled, if_pos hsame]⟩
    · rw [if_neg hsame] at hreconciled
      rw [hreconciled]
      obtain ⟨hrecord, hothers, hok⟩ := h.persist hbinding write hproducer
        (state.withPolicy budget reason) hscope hunreset (hvalid.withPolicy hpolicy)
      refine ⟨hrecord, hothers, fun next hnext => ?_⟩
      obtain ⟨hunlinked, hstanding⟩ := hok next hnext
      exact ⟨hstanding, _, rfl, by rw [RetryState.reconciled, if_neg hsame, hunlinked]⟩

theorem Standing.reconcile_published (h : Standing validate parse binding scope state store)
    (hbinding : binding.Complete)
    (hproducer : write.writer.producerStepId ≠ "") (hpublished : write.publication = .published)
    (hlength : store.history.length ≤ maxArtifactScanFiles)
    (hinvariants : ∀ value, validate retryStateFamily value = .ok ())
    (hcovers : state.budget.Covers configured) :
    ∃ next, (reconcileRetryPolicyLocked validate binding write state configured
      store).1 = .ok next := by
  unfold reconcileRetryPolicyLocked
  rw [reconcile_iff.mpr ⟨hcovers, rfl⟩]
  simp only
  split
  · exact ⟨state, rfl⟩
  · exact h.persist_published hbinding hproducer hpublished hlength hinvariants _

/-- The policy that a configuration asks for in a state. -/
def configuredPolicy (params : Json) (state : RetryState) :
    Except String (RetryBudget × Option RetryExhaustionReason) := do
  let configured ← RetryBudget.fromParams params
  state.budget.reconcile configured state.counters state.exhaustionReason

/-- What is configured leaves the policy on record as it is, or is refused. -/
def PolicyKept (params : Json) (state : RetryState) : Prop :=
  ∀ policy ∈ (configuredPolicy params state).toOption,
    policy = (state.budget, state.exhaustionReason)

instance (params : Json) (state : RetryState) : Decidable (PolicyKept params state) :=
  inferInstanceAs (Decidable (∀ policy ∈ (configuredPolicy params state).toOption, _ = _))

theorem reconcile_of_kept (validate : FamilyInvariants)
    (binding : PrFollowupBinding) (store : ArtifactStore) (h : PolicyKept params state)
    (hconfigured : RetryBudget.fromParams params = .ok configured)
    (write : RetryPersist) :
    let reconciled :=
      reconcileRetryPolicyLocked validate binding write state configured store
    reconciled.2 = store ∧ ∀ next, reconciled.1 = .ok next → next = state := by
  unfold reconcileRetryPolicyLocked
  cases hpolicy : state.budget.reconcile configured state.counters state.exhaustionReason with
  | error error => exact ⟨rfl, fun next hnext => by simp at hnext⟩
  | ok policy =>
    have hasked : configuredPolicy params state = .ok policy := by
      unfold configuredPolicy
      rw [hconfigured]
      exact hpolicy
    obtain rfl := h policy (by rw [hasked]; rfl)
    simp only [and_self, if_true]
    exact ⟨trivial, fun next hnext => (Except.ok.inj hnext).symm⟩

/-! ### One recording -/

/-- The state is the one that the transition left. -/
structure ValidationTransition.Left (transition : ValidationTransition) (state : RetryState) :
    Prop where
  source : state.validationSourceId = some transition.sourceId
  retries : state.counters.validationRetryIndex = transition.validationRetryIndex
  stale : state.counters.staleArtifactRetryIndex = transition.staleArtifactRetryIndex
  type : state.transitionType = transition.transitionType

theorem unlinked_congr {α : Type} {a b : RetryState} (f : RetryState → α)
    (hf : ∀ state : RetryState, f state.unlinked = f state) (h : a.unlinked = b.unlinked) :
    f a = f b := by
  rw [← hf a, h, hf b]

theorem ValidationTransition.Left.of_unlinked (h : transition.Left state)
    (hnext : next.unlinked = state.unlinked) : transition.Left next where
  source := (unlinked_congr RetryState.validationSourceId (fun _ => rfl) hnext).trans h.source
  retries := (unlinked_congr (·.counters.validationRetryIndex) (fun _ => rfl) hnext).trans h.retries
  stale := (unlinked_congr (·.counters.staleArtifactRetryIndex) (fun _ => rfl) hnext).trans h.stale
  type := (unlinked_congr RetryState.transitionType (fun _ => rfl) hnext).trans h.type

instance (transition : ValidationTransition) (state : RetryState) :
    Decidable (transition.Left state) :=
  decidable_of_iff
    (state.validationSourceId = some transition.sourceId ∧
      state.counters.validationRetryIndex = transition.validationRetryIndex ∧
      state.counters.staleArtifactRetryIndex = transition.staleArtifactRetryIndex ∧
      state.transitionType = transition.transitionType)
    ⟨fun h => ⟨h.1, h.2.1, h.2.2.1, h.2.2.2⟩, fun h => ⟨h.source, h.retries, h.stale, h.type⟩⟩

/-- **A validation is recognised by the state it left.** -/
theorem isIdempotentReplay_iff (transition : ValidationTransition) (state : RetryState) :
    transition.isIdempotentReplay state = .ok true ↔ transition.Left state := by
  unfold ValidationTransition.isIdempotentReplay
  by_cases hsource : state.validationSourceId = some transition.sourceId
  · rw [if_neg (not_not_intro hsource)]
    constructor
    · intro h
      by_cases hsame : transition.validationRetryIndex = state.counters.validationRetryIndex ∧
          transition.staleArtifactRetryIndex = state.counters.staleArtifactRetryIndex ∧
          transition.transitionType = state.transitionType
      · exact ⟨hsource, hsame.1.symm, hsame.2.1.symm, hsame.2.2.symm⟩
      · simp [hsame] at h
    · intro h
      rw [if_pos ⟨h.retries.symm, h.stale.symm, h.type.symm⟩]
  · rw [if_pos hsource]
    exact ⟨fun h => by simp at h, fun h => absurd h.source hsource⟩

theorem isIdempotentReplay_false (h : transition.isIdempotentReplay state = .ok false) :
    state.validationSourceId ≠ some transition.sourceId := by
  unfold ValidationTransition.isIdempotentReplay at h
  intro hsource
  rw [if_neg (not_not_intro hsource)] at h
  split at h <;> simp at h

/-- **A validation that was not on record leaves its own state standing.** -/
theorem Standing.advance (h : Standing validate parse binding scope next store)
    (hbinding : binding.Complete) (hproducer : write.writer.producerStepId ≠ "")
    (htransition : transition.transitionType ≠ "terminal_tombstone") (state : RetryState) :
    let advanced := advanceFreshValidation validate binding write transition state
      next store
    RetryRecord validate parse binding advanced.2 ∧
      (∀ other, other ≠ scope → statesOf other advanced.2 = statesOf other store) ∧
      (advanced.1.1 = .ok () →
        Standing validate parse binding scope advanced.1.2 advanced.2 ∧
        transition.Left advanced.1.2) := by
  intro advanced
  obtain ⟨hscope, hunreset, hvalid⟩ := h.record.last h.last
  have hadvanced : advanced = advanceFreshValidation validate binding write
    transition state next store := rfl
  unfold advanceFreshValidation at hadvanced
  cases hexhausted : exhaustedError next with
  | some error =>
    rw [hexhausted] at hadvanced
    rw [hadvanced]
    exact ⟨h.record, fun _ _ => rfl, fun hok => by simp at hok⟩
  | none =>
    simp only [hexhausted] at hadvanced
    split at hadvanced
    · rw [hadvanced]
      exact ⟨h.record, fun _ _ => rfl, fun hok => by simp at hok⟩
    · rename_i applied happlied
      obtain ⟨-, happly⟩ := Sql.checked_ok.mp happlied
      obtain ⟨-, hfields⟩ := apply_iff happly
      have hkept : applied.scope = scope ∧ applied.historyChainReset = false := by
        rw [hfields]
        exact ⟨hscope, hunreset⟩
      have hleft : transition.Left applied := by
        rw [hfields]
        exact ⟨rfl, rfl, rfl, rfl⟩
      obtain ⟨hrecord, hothers, hok⟩ := h.persist hbinding write hproducer applied hkept.1
        hkept.2 (hvalid.apply htransition happly)
      cases hpersisted : persistLinked validate binding write.writer
          write.publication true applied store with
      | mk answer after =>
        rw [hpersisted] at hrecord hothers hok hadvanced
        cases answer with
        | error error =>
          simp only at hadvanced
          rw [hadvanced]
          exact ⟨hrecord, hothers, fun hanswer => by simp at hanswer⟩
        | ok written =>
          simp only at hadvanced
          rw [hadvanced]
          refine ⟨hrecord, hothers, fun _ => ?_⟩
          obtain ⟨hunlinked, hstanding⟩ := hok written rfl
          exact ⟨hstanding, hleft.of_unlinked hunlinked⟩

/-- What is asked of the writers of a recording, and of its transition. -/
structure RecordPermitted (context : RecordValidationContext) (transition : ValidationTransition) :
    Prop where
  policy : context.policy.writer.producerStepId ≠ ""
  validation : context.validation.writer.producerStepId ≠ ""
  transition : transition.transitionType ≠ "terminal_tombstone"

/-- What a recording does to the record: it stays one, and other scopes stay as they are; where
the validation is on record already, and the policy is kept, so does its own; and where it
succeeds, the state that the validation left is standing. -/
structure Recorded (validate : FamilyInvariants) (parse : Rfc3339Parser)
    (binding : PrFollowupBinding) (params : Json) (scope : RetryScopeKey)
    (transition : ValidationTransition) (store : ArtifactStore)
    (recorded : (Except String Unit × RetryState) × ArtifactStore) : Prop where
  record : RetryRecord validate parse binding recorded.2
  others : ∀ other, other ≠ scope → statesOf other recorded.2 = statesOf other store
  repeated : ∀ last, lastState scope store = some last → transition.Left last →
    PolicyKept params last → statesOf scope recorded.2 = statesOf scope store
  standing : recorded.1.1 = .ok () →
    (∀ last, lastState scope store = some last → transition.Left last → PolicyKept params last) →
      Standing validate parse binding scope recorded.1.2 recorded.2 ∧
        transition.Left recorded.1.2

theorem recorded_of_refused {next : ArtifactStore}
    (hrecord : RetryRecord validate parse binding next)
    (hhistory : next.history = store.history) (error : String) (state : RetryState) :
    Recorded validate parse binding params scope transition store
      ((.error error, state), next) where
  record := hrecord
  others other _ := by
    unfold statesOf
    rw [retryEntries_congr hhistory]
  repeated last _ _ _ := by
    unfold statesOf
    rw [retryEntries_congr hhistory]
  standing hok := by simp at hok

theorem Recorded.of_history {loaded : ArtifactStore}
    {recorded : (Except String Unit × RetryState) × ArtifactStore}
    (h : Recorded validate parse binding params scope transition loaded recorded)
    (hhistory : loaded.history = store.history) :
    Recorded validate parse binding params scope transition store recorded := by
  have hentries := retryEntries_congr hhistory
  have hstates : ∀ other, statesOf other loaded = statesOf other store := by
    intro other
    unfold statesOf
    rw [hentries]
  have hlast : lastState scope loaded = lastState scope store := by
    unfold lastState
    rw [hentries]
  obtain ⟨hrecord, hothers, hrepeated, hstanding⟩ := h
  simp only [hstates, hlast] at hothers hrepeated hstanding
  exact ⟨hrecord, hothers, hrepeated, hstanding⟩

/-- **A recording in a scope that was loaded for its owner.** -/
theorem Standing.advanceOwned {last : RetryState}
    (h : Standing validate parse binding scope last store) (hbinding : binding.Complete)
    (hpermitted : RecordPermitted context transition) (state : RetryState) :
    Recorded validate parse binding context.params scope transition store
      (advanceOwnedValidation validate binding context transition state last
        store) := by
  unfold advanceOwnedValidation
  simp only
  split
  · exact recorded_of_refused h.record rfl _ state
  · rename_i replay configured hprepared
    obtain ⟨replay', hreplay, hprepared⟩ := Sql.bind_ok.mp hprepared
    obtain ⟨configured', hconfigured, hprepared⟩ := Sql.bind_ok.mp hprepared
    obtain ⟨rfl, rfl⟩ := Prod.mk.inj (Except.ok.inj hprepared)
    obtain ⟨hrecord, hothers, hreconciled⟩ := h.reconcile hbinding hpermitted.policy configured'
    have hlast : ∀ other, lastState scope store = some other → other = last :=
      fun other hother => Option.some.inj (hother.symm.trans h.last)
    have hkept := fun (hkept : PolicyKept context.params last) =>
      reconcile_of_kept validate binding store hkept hconfigured context.policy
    cases hanswer : reconcileRetryPolicyLocked validate binding context.policy last
        configured' store with
    | mk answer reconciled =>
      rw [hanswer] at hrecord hothers hreconciled hkept
      simp only at hrecord hothers hreconciled hkept
      cases answer with
      | error error =>
        refine ⟨hrecord, hothers, fun other hother _ hpolicy => ?_, fun hok => by simp at hok⟩
        rw [hlast other hother] at hpolicy
        rw [(hkept hpolicy).1]
      | ok next =>
        obtain ⟨hnext, policy, -, hunlinked⟩ := hreconciled next rfl
        cases replay' with
        | true =>
          have hleft := (isIdempotentReplay_iff transition last).mp hreplay
          refine ⟨hrecord, hothers, fun other hother _ hpolicy => ?_, fun _ hpolicy => ?_⟩
          · rw [hlast other hother] at hpolicy
            show statesOf scope reconciled = statesOf scope store
            rw [(hkept hpolicy).1]
          · obtain ⟨-, hsame⟩ := hkept (hpolicy last h.last hleft)
            obtain rfl := hsame next rfl
            exact ⟨hnext, hleft⟩
        | false =>
          have hsource := isIdempotentReplay_false hreplay
          obtain ⟨hadvanced, hsame, hok⟩ := hnext.advance hbinding hpermitted.validation
            hpermitted.transition state
          refine ⟨hadvanced, fun other hother => ?_, fun other hother hleft _ => ?_,
            fun hanswered _ => hok hanswered⟩
          · exact (hsame other hother).trans (hothers other hother)
          · rw [hlast other hother] at hleft
            exact absurd hleft.source hsource

/-- **One recording.** -/
theorem RetryRecord.recordValidation (h : RetryRecord validate parse binding store)
    (hbinding : binding.Complete)
    (hpermitted : RecordPermitted context transition) (state : RetryState) :
    Recorded validate parse binding context.params state.scope transition store
      (recordValidation validate parse binding context state transition store) := by
  unfold Luther.recordValidation advanceValidationLocked
  have hscope : (RetryOwnership.fromState state).scope = state.scope := rfl
  rw [hscope]
  obtain ⟨hrecord, hhistory, -, hstanding⟩ :=
    h.load_standing hbinding context.order state.scope
  cases hloaded : loadMatchingStateLocked validate parse context.order binding
      state.scope store with
  | mk answer loaded =>
    rw [hloaded] at hrecord hhistory hstanding
    simp only at hrecord hhistory hstanding
    cases answer with
    | error error => exact recorded_of_refused hrecord hhistory error state
    | ok persisted =>
      simp only
      cases hverified : (RetryOwnership.fromState state).verify persisted with
      | error error => exact recorded_of_refused hrecord hhistory error state
      | ok _ =>
        cases persisted with
        | none => exact recorded_of_refused hrecord hhistory _ state
        | some last =>
          exact ((hstanding last rfl).advanceOwned hbinding hpermitted state).of_history
            hhistory

/-- **One reconciliation.** -/
theorem RetryRecord.reconcilePolicy (h : RetryRecord validate parse binding store)
    (hbinding : binding.Complete) (order : ListingOrder)
    (scope : RetryScopeKey) (params : Json) (hproducer : write.writer.producerStepId ≠ "") :
    let next := (reconcilePolicy validate parse binding order scope params write
      store).2
    RetryRecord validate parse binding next ∧
      (∀ other, other ≠ scope → statesOf other next = statesOf other store) ∧
      ∀ last, lastState scope store = some last → PolicyKept params last →
        statesOf scope next = statesOf scope store := by
  intro next
  have hnext : next = (Luther.reconcilePolicy validate parse binding order scope
    params write store).2 := rfl
  unfold Luther.reconcilePolicy at hnext
  obtain ⟨hrecord, hhistory, hprevious, hstanding⟩ := h.load_standing hbinding order scope
  have hsame : ∀ {loaded : ArtifactStore}, loaded.history = store.history →
      ∀ other, statesOf other loaded = statesOf other store := by
    intro loaded hloaded other
    unfold statesOf
    rw [retryEntries_congr hloaded]
  cases hconfigured : RetryBudget.fromParams params with
  | error error =>
    rw [hconfigured] at hnext
    rw [hnext]
    exact ⟨h, fun _ _ => rfl, fun _ _ _ => rfl⟩
  | ok configured =>
    simp only [hconfigured] at hnext
    cases hloaded : loadMatchingStateLocked validate parse order binding scope
        store with
    | mk answer loaded =>
      rw [hloaded] at hrecord hhistory hprevious hstanding hnext
      simp only at hrecord hhistory hprevious hstanding hnext
      have hsame := hsame hhistory
      match answer, hprevious, hstanding, hnext with
      | .error error, _, _, hnext =>
        rw [hnext]
        exact ⟨hrecord, fun other _ => hsame other, fun _ _ _ => hsame scope⟩
      | .ok none, _, _, hnext =>
        rw [hnext]
        exact ⟨hrecord, fun other _ => hsame other, fun _ _ _ => hsame scope⟩
      | .ok (some state), hprevious, hstanding, hnext =>
        obtain ⟨hreconciled, hothers, -⟩ :=
          (hstanding state rfl).reconcile hbinding hproducer configured
        have hnext : next = (reconcileRetryPolicyLocked validate binding
          write state configured loaded).2 := hnext
        rw [hnext]
        refine ⟨hreconciled, fun other hother => (hothers other hother).trans (hsame other),
          fun last hlast hkept => ?_⟩
        obtain rfl := Option.some.inj (hlast.symm.trans (hprevious (some state) rfl).symm)
        rw [(reconcile_of_kept _ _ _ hkept hconfigured write).1, hsame scope]

end Store

/-! ### Runs -/

def ValidationCall.Permitted (parse : Rfc3339Parser) (binding : PrFollowupBinding) :
    ValidationCall → Prop
  | .record context _ transition => RecordPermitted context transition
  | .reconcile _ _ _ write => write.writer.producerStepId ≠ ""
  | .other call => call.Permitted parse binding

/-- What may happen between two recordings of a validation: the recording is repeated, policies
are reconciled, and nothing else is persisted in the scope of the validation. -/
def ValidationCall.Between (scope : RetryScopeKey) (transition : ValidationTransition) :
    ValidationCall → Prop
  | .record _ state repeated => state.scope = scope → repeated = transition
  | .reconcile _ _ _ _ => True
  | .other (.persist _ state _) => state.scope ≠ scope
  | .other _ => True

/-- A call configures no other policy than the one on record in a scope. -/
def ValidationCall.KeepsPolicy (scope : RetryScopeKey) (last : RetryState) :
    ValidationCall → Prop
  | .record context state _ => state.scope = scope → PolicyKept context.params last
  | .reconcile _ asked params _ => asked = scope → PolicyKept params last
  | .other _ => True

instance (scope : RetryScopeKey) (last : RetryState) :
    (call : ValidationCall) → Decidable (call.KeepsPolicy scope last)
  | .record context state _ =>
    inferInstanceAs (Decidable (state.scope = scope → PolicyKept context.params last))
  | .reconcile _ asked params _ =>
    inferInstanceAs (Decidable (asked = scope → PolicyKept params last))
  | .other _ => .isTrue trivial

/-- While the state that a validation left is the last of its scope, no other policy is put on
record. -/
def Untightened (scope : RetryScopeKey) (transition : ValidationTransition)
    (store : ArtifactStore) (call : ValidationCall) : Prop :=
  ∀ last ∈ lastState scope store, transition.Left last → call.KeepsPolicy scope last

instance (scope : RetryScopeKey) (transition : ValidationTransition) (store : ArtifactStore)
    (call : ValidationCall) : Decidable (Untightened scope transition store call) :=
  inferInstanceAs (Decidable (∀ last ∈ lastState scope store, _ → _))

section Runs

variable {validate : FamilyInvariants} {parse : Rfc3339Parser}
  {binding : PrFollowupBinding} {store : ArtifactStore}

/-- **A record stays a record.** -/
theorem RetryRecord.validationNext (h : RetryRecord validate parse binding store)
    (hbinding : binding.Complete) {call : ValidationCall} (hcall : call.Permitted parse binding) :
    RetryRecord validate parse binding
      ((validationMachine validate parse binding).next store call) := by
  cases call with
  | record context state transition => exact (h.recordValidation hbinding hcall state).record
  | reconcile order scope params write =>
    exact (h.reconcilePolicy hbinding order scope params hcall).1
  | other call => exact (h.next hbinding hcall).1.1

variable {transition : ValidationTransition} {recorded : RetryState}

variable {last : RetryState} {calls : List ValidationCall} {context : RecordValidationContext}
  {configured : RetryBudget}

variable {scope : RetryScopeKey}

/-- **The state that a validation left stays the last of its scope.** -/
theorem statesOf_between (h : RetryRecord validate parse binding store)
    (hbinding : binding.Complete) {call : ValidationCall} (hcall : call.Permitted parse binding)
    (hbetween : call.Between scope transition)
    (huntightened : Untightened scope transition store call)
    (hlast : lastState scope store = some last) (hleft : transition.Left last) :
    statesOf scope ((validationMachine validate parse binding).next store call) =
      statesOf scope store := by
  have hkept := huntightened last hlast hleft
  cases call with
  | record context state repeated =>
    have hrecorded := h.recordValidation hbinding hcall state
    by_cases hscope : state.scope = scope
    · obtain rfl : repeated = transition := hbetween hscope
      subst hscope
      exact hrecorded.repeated last hlast hleft (hkept rfl)
    · exact hrecorded.others scope (Ne.symm hscope)
  | reconcile order other params write =>
    obtain ⟨-, hothers, hsame⟩ := h.reconcilePolicy hbinding order other params hcall
    by_cases hscope : other = scope
    · subst hscope
      exact hsame last hlast (hkept rfl)
    · exact hothers scope (Ne.symm hscope)
  | other call =>
    obtain ⟨⟨-, hadded⟩, -⟩ := h.next hbinding hcall
    have hnothing : call.recorded scope store
        ((retryMachine validate parse binding).next store call) = [] := by
      cases call with
      | persist writer state publication => exact if_neg fun hsame => hbetween hsame.1
      | load _ _ => rfl
      | write _ => rfl
    have hstates := hadded scope
    rw [hnothing, List.append_nil] at hstates
    exact hstates

theorem RetryRecord.validationRun (h : RetryRecord validate parse binding store)
    (hbinding : binding.Complete) (hcalls : ∀ call ∈ calls, call.Permitted parse binding) :
    RetryRecord validate parse binding
      ((validationMachine validate parse binding).run store calls) := by
  induction calls generalizing store with
  | nil => exact h
  | cons call rest ih =>
    exact ih (h.validationNext hbinding (hcalls call (by simp)))
      fun other hother => hcalls other (by simp [hother])

/-- A state was put on record in a scope, and is the last there. -/
structure Held (validate : FamilyInvariants) (parse : Rfc3339Parser)
    (binding : PrFollowupBinding) (scope : RetryScopeKey) (recorded : RetryState)
    (store : ArtifactStore) : Prop where
  record : RetryRecord validate parse binding store
  last : ∃ last, lastState scope store = some last ∧ last.unlinked = recorded.unlinked

theorem Held.of_statesOf {next : ArtifactStore}
    (h : Held validate parse binding scope recorded store)
    (hrecord : RetryRecord validate parse binding next)
    (hstates : statesOf scope next = statesOf scope store) :
    Held validate parse binding scope recorded next where
  record := hrecord
  last := by
    obtain ⟨last, hlast, hunlinked⟩ := h.last
    have hsame := lastState_unlinked scope next
    rw [hstates, ← lastState_unlinked, hlast, Option.map_some, hunlinked] at hsame
    exact Option.map_eq_some_iff.mp hsame

/-- **A state that a validation left is held until another policy is.** -/
theorem Held.run (h : Held validate parse binding scope recorded store)
    (hbinding : binding.Complete) (hleft : transition.Left recorded)
    (hcalls : ∀ call ∈ calls, call.Permitted parse binding)
    (hbetween : ∀ call ∈ calls, call.Between scope transition)
    (huntightened : (validationMachine validate parse binding).Along
      (Untightened scope transition) store calls) :
    Held validate parse binding scope recorded
      ((validationMachine validate parse binding).run store calls) := by
  induction calls generalizing store with
  | nil => exact h
  | cons call rest ih =>
    obtain ⟨hstep, hrest⟩ := huntightened
    obtain ⟨last, hlast, hunlinked⟩ := h.last
    have hcall := hcalls call (by simp)
    have hstates := statesOf_between h.record hbinding hcall (hbetween call (by simp)) hstep
      hlast (hleft.of_unlinked hunlinked)
    exact ih (h.of_statesOf (h.record.validationNext hbinding hcall) hstates)
      (fun other hother => hcalls other (by simp [hother]))
      (fun other hother => hbetween other (by simp [hother])) hrest

theorem RetryRecord.held_of_recorded (h : RetryRecord validate parse binding store)
    (hbinding : binding.Complete)
    (hpermitted : RecordPermitted context transition)
    (hrecorded : (validationMachine validate parse binding).answer store
      (.record context state transition) = .ok (some recorded))
    (hkept : ∀ last, lastState state.scope store = some last → transition.Left last →
      PolicyKept context.params last) :
    Held validate parse binding state.scope recorded
        ((validationMachine validate parse binding).next store
          (.record context state transition)) ∧
      transition.Left recorded := by
  have hstep := h.recordValidation hbinding hpermitted state
  unfold StateMachine.answer StateMachine.next validationMachine at *
  simp only at hrecorded ⊢
  cases hanswer : Luther.recordValidation validate parse binding context state
      transition store with
  | mk recorded' next =>
    obtain ⟨answer, state'⟩ := recorded'
    rw [hanswer] at hrecorded hstep
    cases answer with
    | error error => simp [Except.map] at hrecorded
    | ok _ =>
      obtain rfl : state' = recorded := Option.some.inj (Except.ok.inj hrecorded)
      obtain ⟨hstanding, hleft⟩ := hstep.standing rfl hkept
      exact ⟨⟨hstanding.record, state', hstanding.last, rfl⟩, hleft⟩

/-- What a second recording of a validation comes to: it changes no counter, and the decision
only where the budget configured for it is exhausted. -/
structure SameDecision (configured : RetryBudget) (recorded next : RetryState) : Prop where
  counters : next.counters = recorded.counters
  source : next.validationSourceId = recorded.validationSourceId
  transition : next.transitionId = recorded.transitionId
  decision : recorded.counters.exhaustionReasonAgainst configured = none →
    causalExhaustion next = causalExhaustion recorded

theorem sameDecision_reconciled {policy : RetryBudget × Option RetryExhaustionReason}
    (hlast : last.unlinked = recorded.unlinked)
    (hpolicy : last.budget.reconcile configured last.counters last.exhaustionReason = .ok policy)
    (hnext : next.unlinked = (last.reconciled policy).unlinked) :
    SameDecision configured recorded next := by
  obtain ⟨-, rfl⟩ := reconcile_iff.mp hpolicy
  have hcounters := unlinked_congr RetryState.counters (fun _ => rfl) hlast
  have hsource := unlinked_congr RetryState.validationSourceId (fun _ => rfl) hlast
  have htransition := unlinked_congr RetryState.transitionId (fun _ => rfl) hlast
  have hdecision := unlinked_congr causalExhaustion (fun _ => rfl) hlast
  have hreason := unlinked_congr RetryState.exhaustionReason (fun _ => rfl) hnext
  have hkept : next.counters = last.counters ∧
      next.validationSourceId = last.validationSourceId ∧
      next.transitionId = last.transitionId := by
    refine ⟨(unlinked_congr RetryState.counters (fun _ => rfl) hnext).trans ?_,
      (unlinked_congr RetryState.validationSourceId (fun _ => rfl) hnext).trans ?_,
      (unlinked_congr RetryState.transitionId (fun _ => rfl) hnext).trans ?_⟩
    all_goals
      unfold RetryState.reconciled
      split <;> rfl
  refine ⟨hkept.1.trans hcounters, hkept.2.1.trans hsource, hkept.2.2.trans htransition,
    fun hnone => ?_⟩
  have hsame : next.exhaustionReason = last.exhaustionReason := by
    rw [hreason]
    unfold RetryState.reconciled
    split
    · rfl
    · show last.exhaustionReason.or (last.counters.exhaustionReasonAgainst configured) = _
      rw [hcounters, hnone, Option.or_none]
  rw [← hdecision]
  unfold causalExhaustion
  rw [hsame]

/-- **A validation that is held is recorded again.** -/
theorem Held.recordAgain (h : Held validate parse binding scope recorded store)
    (hleft : transition.Left recorded) (hbinding : binding.Complete)
    (hinvariants : ∀ value, validate retryStateFamily value = .ok ())
    (hroom : store.history.length ≤ maxArtifactScanFiles)
    (hpermitted : RecordPermitted context transition)
    (hpublished : context.policy.publication = .published)
    (hstate : RetryOwnership.fromState state = RetryOwnership.fromState recorded)
    (hconfigured : RetryBudget.fromParams context.params = .ok configured)
    (hcovers : recorded.budget.Covers configured) :
    ∃ next after, recordValidation validate parse binding context state transition
        store = ((.ok (), next), after) ∧
      SameDecision configured recorded next := by
  obtain ⟨last, hlast, hunlinked⟩ := h.last
  obtain ⟨hlastScope, -, -⟩ := h.record.last hlast
  have howned : RetryOwnership.fromState last = RetryOwnership.fromState state := by
    rw [hstate]
    exact unlinked_congr RetryOwnership.fromState (fun _ => rfl) hunlinked
  have hscope : state.scope = scope := by
    rw [← hlastScope]
    exact (congrArg RetryOwnership.scope howned).symm
  have hloadable : Loadable parse binding scope store := by
    refine (h.record.loadable_iff scope).mpr ⟨?_, Or.inr (Or.inr ?_)⟩
    · exact Nat.le_trans (List.length_filter_le _ _) hroom
    · intro hempty
      unfold lastState at hlast
      simp [hempty] at hlast
  obtain ⟨-, hhistory, -, hstanding⟩ := h.record.load_standing hbinding context.order scope
  obtain ⟨hload, -⟩ := h.record.ledger.load_eq hbinding parse context.order scope
  obtain ⟨loaded, hloaded, -⟩ := hload hloadable
  rw [hlast] at hloaded
  rw [hloaded] at hhistory hstanding
  have hstanding := hstanding last rfl
  have hverified : (RetryOwnership.fromState state).verify (some last) = .ok () := by
    rw [← howned]
    simp [RetryOwnership.verify, RetryOwnership.fromState, verifyOwnership]
  have hreplay := (isIdempotentReplay_iff transition last).mpr (hleft.of_unlinked hunlinked)
  have hbudget := unlinked_congr RetryState.budget (fun _ => rfl) hunlinked
  obtain ⟨next, hnext⟩ := hstanding.reconcile_published hbinding hpermitted.policy hpublished
    (hhistory ▸ hroom) hinvariants (hbudget ▸ hcovers)
  obtain ⟨-, -, hreconciled⟩ := hstanding.reconcile hbinding hpermitted.policy configured
  obtain ⟨-, policy, hpolicy, hsame⟩ := hreconciled next hnext
  refine ⟨next, (reconcileRetryPolicyLocked validate binding context.policy last
    configured loaded).2, ?_, sameDecision_reconciled hunlinked hpolicy hsame⟩
  unfold recordValidation advanceValidationLocked
  have hown : (RetryOwnership.fromState state).scope = scope := hscope
  rw [hown, hloaded]
  simp only [hverified]
  unfold advanceOwnedValidation
  simp only [hreplay, hconfigured, bind, Except.bind]
  cases hanswer : reconcileRetryPolicyLocked validate binding context.policy last
      configured loaded with
  | mk answer after =>
    rw [hanswer] at hnext
    obtain rfl : answer = .ok next := hnext
    rfl

end Runs

/-- **A validation is recorded once.**  After a recording succeeded, and any crashes and
recordings of the same validation since, a recording of it by the same owner succeeds again and
changes no counter, whatever budget it is configured with that is no wider than the one on
record; and the decision is the same where that budget is not exhausted.  This holds as long as
no other policy was put on record since the validation was, and the store can be written. -/
theorem validation_recording_idempotent (validate : FamilyInvariants)
    (hinvariants : ∀ value, validate retryStateFamily value = .ok ())
    (parse : Rfc3339Parser) {binding : PrFollowupBinding}
    (hbinding : validateSequenceBinding binding binding = true) (empty : ArtifactStore)
    (before between : List ValidationCall) (context again : RecordValidationContext)
    (state caller recorded : RetryState) (transition : ValidationTransition)
    (configured : RetryBudget)
    (hstart : (validationMachine validate parse binding).start empty)
    (hpermitted : ∀ call ∈ before ++ .record context state transition :: between,
      call.Permitted parse binding)
    (hrecorded : (validationMachine validate parse binding).answer
      ((validationMachine validate parse binding).run empty before)
      (.record context state transition) = .ok (some recorded))
    (hbetween : ∀ call ∈ between, call.Between state.scope transition)
    (huntightened : (validationMachine validate parse binding).Along
      (Untightened state.scope transition)
      ((validationMachine validate parse binding).run empty before)
      (.record context state transition :: between))
    (hagain : RecordPermitted again transition)
    (hpublished : again.policy.publication = .published)
    (hcaller : RetryOwnership.fromState caller = RetryOwnership.fromState recorded)
    (hconfigured : RetryBudget.fromParams again.params = .ok configured)
    (hcovers : recorded.budget.rejectExpansion configured = .ok ())
    (hroom : ((validationMachine validate parse binding).run empty
      (before ++ .record context state transition :: between)).history.length ≤
        maxArtifactScanFiles) :
    ∃ next after, recordValidation validate parse binding again caller transition
        ((validationMachine validate parse binding).run empty
          (before ++ .record context state transition :: between)) = ((.ok (), next), after) ∧
      SameDecision configured recorded next := by
  rw [StateMachine.run_append, StateMachine.run_cons] at hroom ⊢
  have hempty : RetryRecord validate parse binding empty :=
    retryRecord_of_empty hstart.1 hstart.2
  have hfirst := hempty.validationRun hbinding fun call (hcall : call ∈ before) =>
    hpermitted call (by simp [hcall])
  generalize (validationMachine validate parse binding).run empty before = store
    at hfirst hrecorded huntightened hroom ⊢
  obtain ⟨hstep, hrest⟩ := huntightened
  obtain ⟨hheld, hleft⟩ := hfirst.held_of_recorded hbinding
    (hpermitted (.record context state transition) (by simp)) hrecorded
    fun last hlast hleft => hstep last hlast hleft rfl
  have hlast := hheld.run hbinding hleft (fun call hcall => hpermitted call (by simp [hcall]))
    hbetween hrest
  exact hlast.recordAgain hleft hbinding hinvariants hroom hagain hpublished hcaller hconfigured
    ((rejectExpansion_iff _ _).mp hcovers)

/-! ### One validation, recorded twice -/

def validatingPersist (publication : Publication) : RetryPersist :=
  ⟨⟨⟨id, fun files => List.Perm.refl files⟩, "validate_remediation_result", 9, 0⟩, publication⟩

section

variable (maxValidationRetries : Int)

def validatingParams : Json :=
  .obj [("max_validation_retries", .num maxValidationRetries)]

def validatingContext : RecordValidationContext where
  order := ⟨id, fun files => List.Perm.refl files⟩
  params := validatingParams maxValidationRetries
  policy := validatingPersist .published
  validation := validatingPersist .published

/-- The validation of a result that is well formed. -/
def exampleTransition : ValidationTransition := ⟨"source", 0, 0, "fixable_malformed"⟩

def exampleValidations : StateMachine ArtifactStore ValidationCall
    (Except String (Option RetryState)) :=
  validationMachine exampleInvariants (fun _ => .ok 0) exampleBinding

/-- A recording of the validation, for the launch that is done. -/
def exampleRecord : ValidationCall :=
  .record (validatingContext maxValidationRetries) (exampleRetryState 1) exampleTransition

end

def exampleRecorded : RetryState :=
  { exampleRetryState 1 with
    transitionId := fnv64Text "source"
    transitionType := "fixable_malformed"
    predecessorArtifactSequence := some 1
    validationSourceId := some "source" }

/-- What happens before the validation is recorded again. -/
def exampleRecordings : List ValidationCall :=
  [.other (examplePersist 1 .published), exampleRecord 2, exampleRecord 2]

/-- A validation that was recorded twice is recorded a third time under a tighter budget. -/
theorem validation_recording_idempotent_tighter :
    ∃ next after, recordValidation exampleInvariants (fun _ => .ok 0) exampleBinding
        (validatingContext 1) exampleRecorded exampleTransition
        (exampleValidations.run { root := "root" } exampleRecordings) = ((.ok (), next), after) ∧
      SameDecision ⟨2, 1, 2⟩ exampleRecorded next := by
  have hrun :
      exampleValidations.answer
          (exampleValidations.run { root := "root" } [.other (examplePersist 1 .published)])
          (exampleRecord 2) = .ok (some exampleRecorded) ∧
        exampleValidations.Along (Untightened (exampleScope 1) exampleTransition)
          (exampleValidations.run { root := "root" } [.other (examplePersist 1 .published)])
          [exampleRecord 2, exampleRecord 2] ∧
        (exampleValidations.run { root := "root" } exampleRecordings).history.length ≤
          maxArtifactScanFiles := by
    decide +kernel
  have hpermitted : ∀ maximum, RecordPermitted (validatingContext maximum) exampleTransition :=
    fun _ => ⟨by simp [validatingContext, validatingPersist],
      by simp [validatingContext, validatingPersist], by decide⟩
  refine validation_recording_idempotent exampleInvariants (fun _ => rfl) (fun _ => .ok 0)
    (by decide) { root := "root" } [.other (examplePersist 1 .published)] [exampleRecord 2]
    (validatingContext 2) (validatingContext 1) (exampleRetryState 1) exampleRecorded
    exampleRecorded exampleTransition ⟨2, 1, 2⟩ ⟨rfl, rfl⟩ ?_ hrun.1 ?_ hrun.2.1 (hpermitted 1) rfl
    rfl (by decide +kernel) (by decide +kernel) hrun.2.2
  · simp only [List.cons_append, List.nil_append, List.forall_mem_cons, List.not_mem_nil,
      IsEmpty.forall_iff, implies_true, and_true]
    exact ⟨⟨by decide, rfl, by decide⟩, hpermitted 2, hpermitted 2⟩
  · simp only [List.forall_mem_cons, List.not_mem_nil, IsEmpty.forall_iff, implies_true, and_true]
    exact fun _ => rfl

/-- Where the budget is tightened in between, and not exhausted, the validation is refused. -/
theorem validation_recording_refused :
    let store := exampleValidations.run { root := "root" } [.other (examplePersist 1 .published)]
    let recorded := exampleValidations.next store (exampleRecord 2)
    let tightened := exampleValidations.next recorded (.reconcile
      ⟨id, fun files => List.Perm.refl files⟩ (exampleScope 1) (validatingParams 1)
      (validatingPersist .published))
    exampleValidations.answer store (exampleRecord 2) = .ok (some exampleRecorded) ∧
      exampleRecorded.counters.exhaustionReasonAgainst ⟨2, 1, 2⟩ = none ∧
      exampleValidations.answer tightened (exampleRecord 1) =
        .error "replayed remediation validation source has divergent counters" := by
  decide +kernel

end Luther
