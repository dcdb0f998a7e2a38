/-
The scope of a result, as its validation and as a fixed action want it.

Both ask that the result is of this run, this pull request and this plan.  The validation lets
pass what is not there, and a counter that has reached its maximum; the evidence of an action has
to have every field, and all counters below.
-/
import Luther.Feedback.MarkerEvidence
import Luther.Proofs.FixedFeedback

namespace Luther

/-- A counter of a scope is below its maximum. -/
def BelowMaximum (scope : Json) (index maximum : String) : Prop :=
  ∃ i m, scope.u64? index = some i ∧ scope.u64? maximum = some m ∧ i < m

theorem retryIndexWithinBound_iff {scope : Json} {index maximum : String} :
    retryIndexWithinBound scope index maximum = true ↔ BelowMaximum scope index maximum := by
  unfold retryIndexWithinBound BelowMaximum
  cases scope.u64? index with
  | none => simp
  | some i =>
    cases scope.u64? maximum with
    | none => simp
    | some m =>
      simp only [Option.any_some, Bool.and_eq_true, decide_eq_true_eq, Option.some.injEq]
      constructor
      · rintro ⟨-, hlt⟩
        exact ⟨i, m, rfl, rfl, hlt⟩
      · rintro ⟨i', m', rfl, rfl, hlt⟩
        exact ⟨by omega, hlt⟩

/-- All counters of a scope are below their maximum. -/
structure CountersBelow (scope : Json) : Prop where
  attempts : BelowMaximum scope "remediation_attempt_index" "max_remediation_attempts"
  validations : BelowMaximum scope "validation_retry_index" "max_validation_retries"
  stale : BelowMaximum scope "stale_artifact_retry_index" "max_stale_artifact_retries"

/-- A scope that names a run, a pull request, a head of it and a plan. -/
structure ScopeNames (scope : Json) (binding : PrFollowupBinding) (planSequence : Nat) : Prop where
  run : scope.text? "run_id" = some binding.runId
  owner : scope.text? "repository_owner" = some binding.repositoryOwner
  name : scope.text? "repository_name" = some binding.repositoryName
  number : scope.u64? "pr_number" = some binding.prNumber.toNat
  head : scope.text? "input_head_sha" = some binding.headSha
  plan : scope.u64? "plan_artifact_sequence" = some planSequence

/-! ### What the validation wants -/

section Stale

variable {binding : PrFollowupBinding} {plan result params : Json}

variable {field : String} {observed : Json}

theorem compareScopeString_iff {expected : String} :
    compareScopeString observed field expected = [] ↔ observed.text? field = some expected := by
  unfold compareScopeString
  dsimp only
  by_cases hsame : observed.text? field = some expected
  · rw [if_pos hsame]
    exact iff_of_true rfl hsame
  · rw [if_neg hsame]
    exact iff_of_false (List.cons_ne_nil _ _) hsame

theorem compareScopeU64_iff {expected : Nat} :
    compareScopeU64 observed field expected = [] ↔ observed.u64? field = some expected := by
  unfold compareScopeU64
  dsimp only
  by_cases hsame : observed.u64? field = some expected
  · rw [if_pos hsame]
    exact iff_of_true rfl hsame
  · rw [if_neg hsame]
    exact iff_of_false (List.cons_ne_nil _ _) hsame

theorem observedRetryScope_obj (result : Json) :
    ∃ entries, observedRetryScope result = .obj entries := by
  unfold observedRetryScope
  split
  · exact ⟨_, rfl⟩
  · exact ⟨_, rfl⟩

theorem get?_observedRetryScope (result : Json) (field : String) :
    (observedRetryScope result).get? field =
      (result.get? "retry_scope").bind (Json.get? field) := by
  unfold observedRetryScope
  split
  · rename_i entries heq
    rw [heq]
    rfl
  · rename_i hother
    cases hscope : result.get? "retry_scope" with
    | none => rfl
    | some scope =>
      cases scope with
      | obj entries => exact absurd hscope (hother entries)
      | null | bool _ | num _ | str _ | arr _ => rfl

theorem retryScopeU64_eq (result : Json) (field : String) :
    retryScopeU64 result field =
      ((observedRetryScope result).u64? field).or (result.u64? field) := by
  unfold retryScopeU64 Json.u64?
  rw [get?_observedRetryScope]
  cases result.get? "retry_scope" with
  | none => rfl
  | some scope => rfl

theorem compareScopeU64IfPresent_own (result : Json) (field : String) (default : Nat) :
    compareScopeU64IfPresent result (observedRetryScope result) field
      ((retryScopeU64 result field).getD default) = [] := by
  unfold compareScopeU64IfPresent scopeOrResult
  dsimp only
  refine if_neg ?_
  rintro ⟨hsome, hne⟩
  obtain ⟨n, hn⟩ := Option.isSome_iff_exists.mp hsome
  refine hne ?_
  rw [hn, retryScopeU64_eq]
  unfold Json.u64?
  cases hobserved : (observedRetryScope result).get? field with
  | none =>
    rw [hobserved, Option.none_or] at hn
    simp [hn]
  | some value =>
    rw [hobserved, Option.some_or, Option.bind_some] at hn
    simp [hn]

/-- **The validation wants the scope to name what it is about.** -/
theorem scopeNames_of_own
    (h : staleScopeErrors result (observedRetryScope result)
      (remediationRetryScope binding plan result params) = []) :
    ScopeNames (observedRetryScope result) binding ((plan.u64? "artifact_sequence").getD 0) := by
  unfold staleScopeErrors at h
  simp only [List.append_eq_nil_iff] at h
  obtain ⟨⟨⟨⟨⟨⟨⟨⟨⟨⟨⟨hrun, howner⟩, hname⟩, hnumber⟩, hhead⟩, hplan⟩, -⟩, -⟩, -⟩, -⟩, -⟩, -⟩ := h
  exact {
    run := compareScopeString_iff.mp hrun
    owner := compareScopeString_iff.mp howner
    name := compareScopeString_iff.mp hname
    number := compareScopeU64_iff.mp hnumber
    head := compareScopeString_iff.mp hhead
    plan := compareScopeU64_iff.mp hplan }

theorem compareScopeStringIfPresent_of_text {expected : String}
    (h : observed.text? field = some expected) :
    compareScopeStringIfPresent result observed field expected = [] := by
  obtain ⟨value, hvalue, htext⟩ := Option.bind_eq_some_iff.mp h
  unfold compareScopeStringIfPresent scopeOrResult
  rw [hvalue, Option.some_or, Option.bind_some, htext]
  simp

/-- **And nothing else of one that is complete.** -/
theorem own_of_scopeNames
    (hnames : ScopeNames (observedRetryScope result) binding
      ((plan.u64? "artifact_sequence").getD 0))
    (hkind : (observedRetryScope result).text? "scope_kind" =
      some "remediation_result_validation")
    (houtput : (observedRetryScope result).text? "output_head_sha" =
      some (stringField result "output_head_sha" binding.headSha)) :
    staleScopeErrors result (observedRetryScope result)
      (remediationRetryScope binding plan result params) = [] := by
  have houtputs : ((remediationRetryScope binding plan result params).outputHeadSha.map
      (compareScopeStringIfPresent result (observedRetryScope result) "output_head_sha")).getD [] =
        [] := by
    show ((result.text? "output_head_sha").map _).getD [] = []
    cases hout : result.text? "output_head_sha" with
    | none => rfl
    | some out =>
      have hsame : stringField result "output_head_sha" binding.headSha = out := by
        show (result.text? "output_head_sha").getD _ = out
        rw [hout]
        rfl
      exact compareScopeStringIfPresent_of_text (hsame ▸ houtput)
  unfold staleScopeErrors
  simp only [List.append_eq_nil_iff]
  refine ⟨⟨⟨⟨⟨⟨⟨⟨⟨⟨⟨?_, ?_⟩, ?_⟩, ?_⟩, ?_⟩, ?_⟩, houtputs⟩, ?_⟩, ?_⟩, ?_⟩, ?_⟩, ?_⟩
  · exact compareScopeString_iff.mpr hnames.run
  · exact compareScopeString_iff.mpr hnames.owner
  · exact compareScopeString_iff.mpr hnames.name
  · exact compareScopeU64_iff.mpr hnames.number
  · exact compareScopeString_iff.mpr hnames.head
  · exact compareScopeU64_iff.mpr hnames.plan
  · exact compareScopeU64IfPresent_own result _ _
  · exact compareScopeU64IfPresent_own result _ _
  · exact compareScopeU64IfPresent_own result _ _
  · exact compareScopeU64IfPresent_own result _ _
  · exact compareScopeStringIfPresent_of_text hkind

end Stale

/-! ### The scope that is published -/

/-- No counter of the retry state has reached its maximum, or none of the scope where there is no
state. -/
def AttemptsLeft (recorded : Option RetryState) (scope : Json) : Prop :=
  match recorded with
  | some state =>
    state.counters.remediationAttemptIndex < state.budget.maxRemediationAttempts ∧
      state.counters.validationRetryIndex < state.budget.maxValidationRetries ∧
      state.counters.staleArtifactRetryIndex < state.budget.maxStaleArtifactRetries
  | none => CountersBelow scope

def publishedScope (recorded : Option RetryState) (scope : Json) : Json :=
  (recorded.map fun state => projectedRetryScope state (some scope)).getD scope

section Projected

variable {recorded : Option RetryState} {result : Json}

theorem nodup_retryCounterFields (state : RetryState) :
    ((retryCounterFields state).map Prod.fst).Nodup := by
  simp [retryCounterFields]

variable {entries : List (String × Json)} {field : String} {state : RetryState}

theorem u64?_insertRetryCounters {n : UInt64}
    (hfield : (field, Json.ofU64 n) ∈ retryCounterFields state) :
    (Json.obj (insertRetryCounters state entries)).u64? field = some n.toNat := by
  have hlookup : (insertRetryCounters state entries).lookup field = some (.ofU64 n) :=
    Assoc.lookup_insertMany_mem (nodup_retryCounterFields state) hfield entries
  show ((insertRetryCounters state entries).lookup field).bind Json.asU64? = _
  rw [hlookup, Option.bind_some]
  exact Json.asU64?_natCast n.toNat_lt

theorem get?_insertRetryCounters (hfield : field ∉ (retryCounterFields state).map Prod.fst) :
    (Json.obj (insertRetryCounters state entries)).get? field = (Json.obj entries).get? field :=
  Assoc.lookup_insertMany_ne hfield entries

theorem publishedScope_obj (recorded : Option RetryState) (result : Json) :
    ∃ entries, publishedScope recorded (observedRetryScope result) = .obj entries := by
  obtain ⟨entries, hentries⟩ := observedRetryScope_obj result
  rw [hentries]
  cases recorded with
  | none => exact ⟨entries, rfl⟩
  | some state => exact ⟨insertRetryCounters state entries, rfl⟩

theorem get?_publishedScope (hfield : field ∉ requiredScopeNumbers) :
    (publishedScope recorded (observedRetryScope result)).get? field =
      (observedRetryScope result).get? field := by
  obtain ⟨entries, hentries⟩ := observedRetryScope_obj result
  rw [hentries]
  cases recorded with
  | none => rfl
  | some state => exact get?_insertRetryCounters hfield

theorem belowMaximum_inserted {index maximum : String} {i m : UInt64}
    (hindex : (index, Json.ofU64 i) ∈ retryCounterFields state)
    (hmaximum : (maximum, Json.ofU64 m) ∈ retryCounterFields state) :
    BelowMaximum (.obj (insertRetryCounters state entries)) index maximum ↔ i < m := by
  unfold BelowMaximum
  rw [u64?_insertRetryCounters hindex, u64?_insertRetryCounters hmaximum]
  constructor
  · rintro ⟨i', m', hi, hm, hlt⟩
    obtain rfl := Option.some.inj hi
    obtain rfl := Option.some.inj hm
    exact UInt64.lt_iff_toNat_lt.mpr hlt
  · intro hlt
    exact ⟨_, _, rfl, rfl, UInt64.lt_iff_toNat_lt.mp hlt⟩

/-- **The counters that are published are below where attempts are left.** -/
theorem countersBelow_published :
    CountersBelow (publishedScope recorded (observedRetryScope result)) ↔
      AttemptsLeft recorded (observedRetryScope result) := by
  obtain ⟨entries, hentries⟩ := observedRetryScope_obj result
  cases recorded with
  | none => exact Iff.rfl
  | some state =>
    rw [hentries]
    have hattempts : BelowMaximum (.obj (insertRetryCounters state entries))
        "remediation_attempt_index" "max_remediation_attempts" ↔ _ :=
      belowMaximum_inserted (.head _) (.tail _ (.head _))
    have hvalidations : BelowMaximum (.obj (insertRetryCounters state entries))
        "validation_retry_index" "max_validation_retries" ↔ _ :=
      belowMaximum_inserted (.tail _ (.tail _ (.head _))) (.tail _ (.tail _ (.tail _ (.head _))))
    have hstale : BelowMaximum (.obj (insertRetryCounters state entries))
        "stale_artifact_retry_index" "max_stale_artifact_retries" ↔ _ :=
      belowMaximum_inserted (.tail _ (.tail _ (.tail _ (.tail _ (.head _)))))
        (.tail _ (.tail _ (.tail _ (.tail _ (.tail _ (.head _))))))
    constructor
    · intro h
      exact ⟨hattempts.mp h.attempts, hvalidations.mp h.validations, hstale.mp h.stale⟩
    · rintro ⟨hattempt, hvalidation, hartifact⟩
      exact ⟨hattempts.mpr hattempt, hvalidations.mpr hvalidation, hstale.mpr hartifact⟩

end Projected

/-! ### What the evidence of an action wants -/

section Evidence

variable {binding current : PrFollowupBinding} {recorded : Option RetryState} {result document : Json}
  {planSequence : Nat} {outputHead : String} {reference : FixedActionEvidenceRef}

theorem text?_congr {left right : Json} {field : String} (h : left.get? field = right.get? field) :
    left.text? field = right.text? field := congrArg (fun found => found.bind Json.asStr?) h

theorem u64?_congr {left right : Json} {field : String} (h : left.get? field = right.get? field) :
    left.u64? field = right.u64? field := congrArg (fun found => found.bind Json.asU64?) h

/-- **The evidence wants a scope that is complete, names what it is about, and has attempts
left.** -/
theorem retryScopeMatchesFixedAction_iff
    (hscope : document.get? "retry_scope" =
      some (publishedScope recorded (observedRetryScope result)))
    (hbinding : current.runId = binding.runId ∧
      current.repositoryOwner = binding.repositoryOwner ∧
      current.repositoryName = binding.repositoryName ∧ current.prNumber = binding.prNumber) :
    retryScopeMatchesFixedAction current document planSequence (some binding.headSha)
        (some outputHead) (some reference) = true ↔
      ScopeNames (observedRetryScope result) binding planSequence ∧
        (observedRetryScope result).text? "scope_kind" = some "remediation_result_validation" ∧
        (observedRetryScope result).text? "output_head_sha" = some outputHead ∧
        AttemptsLeft recorded (observedRetryScope result) ∧
        (publishedScope recorded (observedRetryScope result)).u64? "remediation_attempt_index" =
          some reference.remediationAttemptIndex := by
  obtain ⟨hrun, howner, hname, hnumber⟩ := hbinding
  obtain ⟨entries, hentries⟩ := publishedScope_obj recorded result
  have htext : ∀ field, field ∉ requiredScopeNumbers →
      (Json.obj entries).text? field = (observedRetryScope result).text? field :=
    fun field hfield => text?_congr (hentries ▸ get?_publishedScope hfield)
  have hu64 : ∀ field, field ∉ requiredScopeNumbers →
      (Json.obj entries).u64? field = (observedRetryScope result).u64? field :=
    fun field hfield => u64?_congr (hentries ▸ get?_publishedScope hfield)
  have hcounters : CountersBelow (publishedScope recorded (observedRetryScope result)) ↔ _ :=
    countersBelow_published
  rw [hentries] at hcounters hscope ⊢
  unfold retryScopeMatchesFixedAction
  rw [hscope]
  dsimp only
  rw [htext "scope_kind" (by decide), htext "run_id" (by decide),
    htext "repository_owner" (by decide), htext "repository_name" (by decide),
    hu64 "pr_number" (by decide), htext "input_head_sha" (by decide),
    htext "output_head_sha" (by decide), hu64 "plan_artifact_sequence" (by decide), hrun, howner,
    hname, hnumber]
  simp only [Bool.and_eq_true, beq_iff_eq, retryIndexWithinBound_iff, Option.all_some]
  constructor
  · rintro ⟨⟨⟨⟨⟨⟨⟨⟨⟨⟨⟨⟨hkind, hrun⟩, howner⟩, hname⟩, hnumber⟩, hhead⟩, houtput⟩, hplan⟩, -⟩,
      hattempts⟩, hvalidations⟩, hstale⟩, hattempt⟩
    exact ⟨⟨hrun, howner, hname, hnumber, hhead, hplan⟩, hkind, houtput,
      hcounters.mp ⟨hattempts, hvalidations, hstale⟩, hattempt⟩
  · rintro ⟨hnames, hkind, houtput, hleft, hattempt⟩
    have hbelow := hcounters.mpr hleft
    have hnumbers : requiredScopeNumbers.all
        (fun field => ((Json.obj entries).u64? field).isSome) = true := by
      obtain ⟨i, m, hi, hm, -⟩ := hbelow.attempts
      obtain ⟨i', m', hi', hm', -⟩ := hbelow.validations
      obtain ⟨i'', m'', hi'', hm'', -⟩ := hbelow.stale
      simp [requiredScopeNumbers, hi, hm, hi', hm', hi'', hm'']
    exact ⟨⟨⟨⟨⟨⟨⟨⟨⟨⟨⟨⟨hkind, hnames.run⟩, hnames.owner⟩, hnames.name⟩, hnames.number⟩,
      hnames.head⟩, houtput⟩, hnames.plan⟩, hnumbers⟩, hbelow.attempts⟩, hbelow.validations⟩,
      hbelow.stale⟩, hattempt⟩

end Evidence

end Luther
