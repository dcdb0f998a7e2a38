/-
When the checks of a pull request let it pass.

The verdict is read off the checks that are considered, and is passed exactly where each
definition that is required finds a check, and nothing that is required, or that no definition
matches, has failed or is open.  Checks that only an optional definition matches do not hold a
pull request back, except that their failures do where the policy says so.  All of this asks
which checks there are, and never in which order they were listed.
-/
import Luther.Checks.GithubChecks

namespace Luther

/-! ### Buckets -/

/-- A check has concluded, and not with a failure. -/
structure Concluded (allowSkipped : Bool) (check : PrCheckObservation) : Prop where
  failed : classifyCheck check allowSkipped ≠ "failed"
  pending : classifyCheck check allowSkipped ≠ "pending"
  unknown : classifyCheck check allowSkipped ≠ "unknown"

def buckets : List String := ["passed", "skipped", "failed", "pending", "unknown"]

theorem checkBucket_mem (status conclusion : Option String) (bucket state : String) :
    checkBucket status conclusion bucket state ∈ buckets := by
  unfold checkBucket
  simp only
  split_ifs <;> simp [buckets]

/-- **A check of a bucket has concluded where it passed, or was skipped and may be.** -/
theorem concluded_iff {allowSkipped : Bool} {check : PrCheckObservation}
    (h : check.bucket ∈ buckets) :
    Concluded allowSkipped check ↔
      check.bucket = "passed" ∨ check.bucket = "skipped" ∧ allowSkipped = true := by
  have hconcluded : Concluded allowSkipped check ↔ classifyCheck check allowSkipped ∉
      ["failed", "pending", "unknown"] := by
    simp only [List.mem_cons, List.not_mem_nil, or_false, not_or]
    exact ⟨fun h => ⟨h.failed, h.pending, h.unknown⟩, fun h => ⟨h.1, h.2.1, h.2.2⟩⟩
  rw [hconcluded]
  unfold classifyCheck
  simp only [buckets, List.mem_cons, List.not_mem_nil, or_false] at h
  rcases h with h | h | h | h | h <;> cases allowSkipped <;> simp [h]

def failingConclusions : List String :=
  ["failure", "startup_failure", "timed_out", "action_required", "cancelled", "stale"]

/-- **A check whose conclusion is a failing one has failed**, unless its bucket or its state say
that it passed or was skipped. -/
theorem checkBucket_of_failing {conclusion bucket state : String}
    (hconclusion : toAsciiLowercase conclusion ∈ failingConclusions)
    (hbucket : toAsciiLowercase bucket ∉ ["pass", "passed"])
    (hstate : toAsciiLowercase state ∉ ["success", "neutral", "skipped"])
    (status : Option String) :
    checkBucket status (some conclusion) bucket state = "failed" := by
  have hpassed : toAsciiLowercase conclusion ∉ ["success", "neutral"] ∧
      toAsciiLowercase conclusion ≠ "skipped" := by
    simp only [failingConclusions, List.mem_cons, List.not_mem_nil, or_false] at hconclusion
    rcases hconclusion with h | h | h | h | h | h <;> rw [h] <;> decide
  have hneutral : toAsciiLowercase state ∉ ["success", "neutral"] ∧
      toAsciiLowercase state ≠ "skipped" := by
    simp only [List.mem_cons, List.not_mem_nil, or_false, not_or] at hstate ⊢
    exact ⟨⟨hstate.1, hstate.2.1⟩, hstate.2.2⟩
  unfold checkBucket
  simp only [Option.getD_some]
  rw [if_neg (by simp only [hbucket, hpassed.1, hneutral.1, or_self, not_false_eq_true]),
    if_neg (by simp only [hpassed.2, hneutral.2, or_self, not_false_eq_true])]
  exact if_pos (Or.inl hconclusion)

theorem normalizeRestCheckRun_of_failing {row : Json} {conclusion : String}
    (hrow : rowString row "conclusion" = some conclusion)
    (hconclusion : toAsciiLowercase conclusion ∈ failingConclusions) :
    (normalizeRestCheckRun row).toObservation.bucket = "failed" := by
  have hother : toAsciiLowercase conclusion ∉ ["pass", "passed"] ∧
      toAsciiLowercase conclusion ∉ ["success", "neutral", "skipped"] := by
    have hmem := hconclusion
    simp only [failingConclusions, List.mem_cons, List.not_mem_nil, or_false] at hmem
    rcases hmem with h | h | h | h | h | h <;> rw [h] <;> decide
  show checkBucket (rowString row "status") (rowString row "conclusion")
    (((rowString row "conclusion").or (rowString row "status")).getD "unknown")
    (((rowString row "conclusion").or (rowString row "status")).getD "unknown") = "failed"
  rw [hrow]
  exact checkBucket_of_failing hconclusion hother.1 hother.2 _

/-! ### The checks that are considered -/

section Gate

variable {regex : RegexEngine} {headSha : String} {checks : List PrCheckObservation}
  {config : PrCheckWaitConfig}

/-! ### Definitions -/

theorem aggregateMatchState_eq (checks : List PrCheckObservation) (definition : PrCheckDefinition)
    (default : Bool) :
    aggregateMatchState checks definition default =
      if checks = [] then "missing"
      else if ∃ check ∈ checks, classifyCheck check (definition.allowsSkipped default) = "failed"
        then "failed"
      else if ∃ check ∈ checks, classifyCheck check (definition.allowsSkipped default) = "pending"
        then "pending"
      else if ∃ check ∈ checks, classifyCheck check (definition.allowsSkipped default) = "unknown"
        then "unknown"
      else "passed" := by
  unfold aggregateMatchState
  simp only [List.isEmpty_iff, List.any_map, List.any_eq_true, Function.comp_apply, beq_iff_eq]

variable {default : Bool} {definition : PrCheckDefinition}
  {optional required required' : List PrCheckMatchResult}
  {unmatched considered : List PrCheckObservation}

theorem aggregateMatchState_failed :
    aggregateMatchState checks definition default = "failed" ↔
      ∃ check ∈ checks, classifyCheck check (definition.allowsSkipped default) = "failed" := by
  rw [aggregateMatchState_eq]
  by_cases hempty : checks = []
  · subst hempty
    simp
  · rw [if_neg hempty]
    by_cases hfailed : ∃ check ∈ checks,
        classifyCheck check (definition.allowsSkipped default) = "failed"
    · simp only [hfailed, if_true]
    · rw [if_neg hfailed]
      simp only [hfailed, iff_false]
      split_ifs <;> decide

/-- A state in which nothing failed, and nothing is open. -/
def Settled (state : String) : Prop := state ≠ "failed" ∧ state ≠ "pending" ∧ state ≠ "unknown"

/-- **A definition is settled where every check that it matches has concluded.** -/
theorem aggregateMatchState_settled :
    Settled (aggregateMatchState checks definition default) ↔
      ∀ check ∈ checks, Concluded (definition.allowsSkipped default) check := by
  rw [aggregateMatchState_eq]
  unfold Settled
  constructor
  · intro h check hcheck
    have hempty : checks ≠ [] := List.ne_nil_of_mem hcheck
    rw [if_neg hempty] at h
    refine ⟨fun heq => ?_, fun heq => ?_, fun heq => ?_⟩
    · rw [if_pos ⟨check, hcheck, heq⟩] at h
      exact h.1 rfl
    · split_ifs at h
      · exact h.1 rfl
      · exact h.2.1 rfl
      · rename_i hnone _
        exact hnone ⟨check, hcheck, heq⟩
      · rename_i hnone _
        exact hnone ⟨check, hcheck, heq⟩
    · split_ifs at h
      · exact h.1 rfl
      · exact h.2.1 rfl
      · exact h.2.2 rfl
      · rename_i hnone
        exact hnone ⟨check, hcheck, heq⟩
  · intro h
    have hfailed : ¬ ∃ check ∈ checks, _ = "failed" :=
      fun ⟨check, hcheck, heq⟩ => (h check hcheck).failed heq
    have hpending : ¬ ∃ check ∈ checks, _ = "pending" :=
      fun ⟨check, hcheck, heq⟩ => (h check hcheck).pending heq
    have hunknown : ¬ ∃ check ∈ checks, _ = "unknown" :=
      fun ⟨check, hcheck, heq⟩ => (h check hcheck).unknown heq
    rw [if_neg hfailed, if_neg hpending, if_neg hunknown]
    split_ifs <;> decide

/-! ### The verdict -/

theorem missingState_ne_passed (counters : PrCheckWaitCounters) :
    (missingState config counters).1 ≠ .passed := by
  unfold missingState
  split_ifs <;> decide

variable {missingRequired : List String} {counters : PrCheckWaitCounters}

theorem classifyState_eq_passed :
    (classifyState required optional unmatched missingRequired config counters).1 = .passed ↔
      ¬ required.any (·.state == "failed") ∧ ¬ (!missingRequired.isEmpty) ∧
        ¬ required.any (·.state == "pending") ∧
        ¬ (config.blockOptionalFailures && optional.any (·.state == "failed")) ∧
        ¬ unmatched.any (·.bucket == "pending") ∧ ¬ required.any (·.state == "unknown") ∧
        ¬ unmatched.any (fun check => classifyCheck check config.defaultAllowSkipped == "failed") ∧
        ¬ unmatched.any (·.bucket == "unknown") ∧
        ¬ (required.isEmpty && !config.allowUnmatchedSuccess) := by
  have hmissing : (missingState config counters).1 ≠ .passed := missingState_ne_passed counters
  unfold classifyState
  split_ifs <;> simp only [*, not_true_eq_false, not_false_eq_true, and_self, and_false,
    false_and, reduceCtorEq]

theorem classifyCheck_eq_iff {check : PrCheckObservation} {allowSkipped : Bool} {bucket : String}
    (h : bucket ∉ ["passed", "failed", "skipped"]) :
    classifyCheck check allowSkipped = bucket ↔ check.bucket = bucket := by
  simp only [List.mem_cons, List.not_mem_nil, or_false, not_or] at h
  unfold classifyCheck
  by_cases hskipped : check.bucket = "skipped"
  · rw [if_pos hskipped, hskipped]
    cases allowSkipped <;> simp [Ne.symm h.1, Ne.symm h.2.1, Ne.symm h.2.2]
  · rw [if_neg hskipped]

/-- **When the state is passed**, in terms of what the definitions say. -/
theorem classifyState_passed :
    (classifyState required optional unmatched missingRequired config counters).1 = .passed ↔
      missingRequired = [] ∧ (∀ result ∈ required, Settled result.state) ∧
        (config.blockOptionalFailures = true → ∀ result ∈ optional, result.state ≠ "failed") ∧
        (∀ check ∈ unmatched, Concluded config.defaultAllowSkipped check) ∧
        (required ≠ [] ∨ config.allowUnmatchedSuccess = true) := by
  rw [classifyState_eq_passed]
  simp only [List.any_eq_true, beq_iff_eq, not_exists, not_and, Bool.not_eq_true',
    List.isEmpty_eq_false_iff, Bool.and_eq_true, List.isEmpty_iff, ne_eq, not_not]
  constructor
  · rintro ⟨hfailed, hmissing, hpending, hoptional, hopen, hunknown, hrefused, hunread, hnone⟩
    refine ⟨hmissing, fun result hresult => ⟨hfailed result hresult, hpending result hresult,
      hunknown result hresult⟩, hoptional, fun check hcheck => ⟨hrefused check hcheck, ?_, ?_⟩, ?_⟩
    · rw [ne_eq, classifyCheck_eq_iff (by decide)]
      exact hopen check hcheck
    · rw [ne_eq, classifyCheck_eq_iff (by decide)]
      exact hunread check hcheck
    · by_cases hempty : required = []
      · exact Or.inr (by simpa using hnone hempty)
      · exact Or.inl hempty
  · rintro ⟨hmissing, hrequired, hoptional, hunmatched, hnone⟩
    refine ⟨fun result hresult => (hrequired result hresult).1, hmissing,
      fun result hresult => (hrequired result hresult).2.1, hoptional, fun check hcheck => ?_,
      fun result hresult => (hrequired result hresult).2.2,
      fun check hcheck => (hunmatched check hcheck).failed, fun check hcheck => ?_,
      fun hempty => ?_⟩
    · have hpending := (hunmatched check hcheck).pending
      rwa [ne_eq, classifyCheck_eq_iff (by decide)] at hpending
    · have hunknown := (hunmatched check hcheck).unknown
      rwa [ne_eq, classifyCheck_eq_iff (by decide)] at hunknown
    · rcases hnone with hnone | hallowed
      · exact absurd hempty hnone
      · simp [hallowed]

/-- **When a pull request passes.**  Every required definition matches a check that is
considered; a check that a required definition matches has concluded by what that definition
says of skipped checks; a check whose identity no definition matches, by what the policy says;
where the failures of optional checks block, none has failed; and there is a required
definition, or none is needed. -/
structure GatePassed (regex : RegexEngine) (headSha : String) (checks : List PrCheckObservation)
    (config : PrCheckWaitConfig) : Prop where
  present : ∀ definition ∈ config.required,
    ∃ check ∈ consideredChecks regex headSha checks config,
      definitionMatches regex definition check = true
  required : ∀ definition ∈ config.required,
    ∀ check ∈ consideredChecks regex headSha checks config,
      definitionMatches regex definition check = true →
        Concluded (definition.allowsSkipped config.defaultAllowSkipped) check
  unmatched : ∀ check ∈ consideredChecks regex headSha checks config,
    (∀ definition ∈ config.required ++ config.optional,
      ∀ other ∈ consideredChecks regex headSha checks config,
        definitionMatches regex definition other = true → other.checkId ≠ check.checkId) →
      Concluded config.defaultAllowSkipped check
  optional : config.blockOptionalFailures = true → ∀ definition ∈ config.optional,
    ∀ check ∈ consideredChecks regex headSha checks config,
      definitionMatches regex definition check = true →
        classifyCheck check (definition.allowsSkipped config.defaultAllowSkipped) ≠ "failed"
  configured : config.required ≠ [] ∨ config.allowUnmatchedSuccess = true

theorem mem_matchedCheckIds {required optional : List PrCheckDefinition} {id : String} :
    id ∈ matchedCheckIds (matchDefinitions regex considered required default)
        (matchDefinitions regex considered optional default) ↔
      ∃ definition ∈ required ++ optional, ∃ check ∈ considered,
        definitionMatches regex definition check = true ∧ check.checkId = id := by
  unfold matchedCheckIds matchDefinitions
  rw [← List.map_append, List.mem_flatMap]
  simp only [List.mem_map, exists_exists_and_eq_and, matchDefinition, List.mem_filter, and_assoc]

theorem matchDefinition_settled :
    Settled (matchDefinition regex considered default definition).state ↔
      ∀ check ∈ considered, definitionMatches regex definition check = true →
        Concluded (definition.allowsSkipped default) check := by
  unfold matchDefinition
  rw [aggregateMatchState_settled]
  simp only [List.mem_filter, and_imp]

theorem matchDefinition_failed :
    (matchDefinition regex considered default definition).state = "failed" ↔
      ∃ check ∈ considered, definitionMatches regex definition check = true ∧
        classifyCheck check (definition.allowsSkipped default) = "failed" := by
  unfold matchDefinition
  rw [aggregateMatchState_failed]
  simp only [List.mem_filter, and_assoc]

theorem missingRequired_eq_nil {required : List PrCheckDefinition} :
    ((matchDefinitions regex considered required default).filter
        (·.matchedCheckIds.isEmpty)).map (·.definition.pattern) = [] ↔
      ∀ definition ∈ required, ∃ check ∈ considered,
        definitionMatches regex definition check = true := by
  unfold matchDefinitions
  rw [List.map_eq_nil_iff, List.filter_eq_nil_iff]
  simp only [List.forall_mem_map]
  refine forall₂_congr fun definition _ => ?_
  simp only [matchDefinition, List.isEmpty_iff, List.map_eq_nil_iff, List.filter_eq_nil_iff]
  simp only [not_forall, not_not, exists_prop]

/-- **A pull request passes exactly where it may.** -/
theorem overallState_passed (counters : PrCheckWaitCounters) :
    (classifyPrChecks regex headSha checks config counters).overallState = .passed ↔
      GatePassed regex headSha checks config := by
  unfold classifyPrChecks
  simp only
  rw [classifyState_passed, missingRequired_eq_nil]
  simp only [List.mem_filter, decide_eq_true_eq, mem_matchedCheckIds]
  simp only [matchDefinitions, List.forall_mem_map, matchDefinition_settled, ne_eq,
    matchDefinition_failed, List.map_eq_nil_iff, not_exists, not_and, and_imp]
  constructor
  · rintro ⟨hpresent, hrequired, hoptional, hunmatched, hconfigured⟩
    exact ⟨hpresent, hrequired, hunmatched, hoptional, hconfigured⟩
  · intro h
    exact ⟨h.present, h.required, h.optional, h.unmatched, h.configured⟩

/-! ### The order of the checks -/

/-- Two results for a definition that say the same. -/
structure SameMatch (a b : PrCheckMatchResult) : Prop where
  definition : a.definition = b.definition
  matchedCheckIds : a.matchedCheckIds.Perm b.matchedCheckIds
  state : a.state = b.state

/-- Two classifications that say the same: they differ in the order of their lists at most. -/
structure SameClassification (a b : PrCheckWaitClassification) : Prop where
  overallState : a.overallState = b.overallState
  reason : a.reason = b.reason
  counters : a.counters = b.counters
  terminalCounts : a.terminalCounts = b.terminalCounts
  missingRequired : a.missingRequired = b.missingRequired
  required : List.Forall₂ SameMatch a.required b.required
  optional : List.Forall₂ SameMatch a.optional b.optional
  ignoredCheckIds : a.ignoredCheckIds.Perm b.ignoredCheckIds
  currentChecks : a.currentChecks.Perm b.currentChecks
  staleChecks : a.staleChecks.Perm b.staleChecks

variable {other : List PrCheckObservation}

theorem ignoredCheckIds_perm (regex : RegexEngine)
    {currentChecks staleChecks current stale : List PrCheckObservation}
    (hcurrent : currentChecks.Perm current) (hstale : staleChecks.Perm stale)
    (ignored : List PrCheckDefinition) :
    (ignoredCheckIds regex currentChecks staleChecks ignored).Perm
      (ignoredCheckIds regex current stale ignored) :=
  ((hcurrent.append hstale).filter _).map _

theorem consideredChecks_perm (regex : RegexEngine) (headSha : String)
    (config : PrCheckWaitConfig) (h : checks.Perm other) :
    (consideredChecks regex headSha checks config).Perm
      (consideredChecks regex headSha other config) := by
  unfold consideredChecks
  rw [List.partition_eq_filter_filter, List.partition_eq_filter_filter]
  have hcurrent := h.filter (isCurrent headSha)
  have hignored := ignoredCheckIds_perm regex hcurrent
    (h.filter fun check => !isCurrent headSha check) config.ignored
  refine (hcurrent.filter _).trans (List.Perm.of_eq (List.filter_congr fun check _ => ?_))
  rw [decide_eq_decide]
  exact not_congr hignored.mem_iff

theorem aggregateMatchState_perm (h : checks.Perm other) (definition : PrCheckDefinition)
    (default : Bool) :
    aggregateMatchState checks definition default =
      aggregateMatchState other definition default := by
  rw [aggregateMatchState_eq, aggregateMatchState_eq]
  have hempty : checks = [] ↔ other = [] := by
    rw [← List.length_eq_zero_iff, h.length_eq, List.length_eq_zero_iff]
  simp only [hempty, h.mem_iff]

theorem matchDefinition_perm (h : checks.Perm other) (default : Bool)
    (definition : PrCheckDefinition) :
    SameMatch (matchDefinition regex checks default definition)
      (matchDefinition regex other default definition) where
  definition := rfl
  matchedCheckIds := (h.filter _).map _
  state := aggregateMatchState_perm (h.filter _) definition default

theorem matchDefinitions_perm (regex : RegexEngine) (h : checks.Perm other)
    (definitions : List PrCheckDefinition) (default : Bool) :
    List.Forall₂ SameMatch (matchDefinitions regex checks definitions default)
      (matchDefinitions regex other definitions default) := by
  unfold matchDefinitions
  rw [List.forall₂_map_left_iff, List.forall₂_map_right_iff, List.forall₂_same]
  exact fun definition _ => matchDefinition_perm h default definition

variable {optional' : List PrCheckMatchResult} {ids ids' : List String}

theorem matchedCheckIds_perm (hrequired : List.Forall₂ SameMatch required required')
    (hoptional : List.Forall₂ SameMatch optional optional') :
    (matchedCheckIds required optional).Perm (matchedCheckIds required' optional') := by
  have hall : List.Forall₂ SameMatch (required ++ optional) (required' ++ optional') :=
    List.rel_append hrequired hoptional
  unfold matchedCheckIds
  generalize required ++ optional = results at hall ⊢
  generalize required' ++ optional' = results' at hall ⊢
  induction hall with
  | nil => exact List.Perm.refl _
  | cons hsame _ ih => exact hsame.matchedCheckIds.append ih

theorem unmatched_perm (h : checks.Perm other) (hids : ids.Perm ids') :
    (checks.filter fun check => decide (check.checkId ∉ ids)).Perm
      (other.filter fun check => decide (check.checkId ∉ ids')) := by
  refine (h.filter _).trans (List.Perm.of_eq (List.filter_congr fun check _ => ?_))
  rw [decide_eq_decide]
  exact not_congr hids.mem_iff

theorem missingRequired_congr (h : List.Forall₂ SameMatch required required') :
    (required.filter (·.matchedCheckIds.isEmpty)).map (·.definition.pattern) =
      (required'.filter (·.matchedCheckIds.isEmpty)).map (·.definition.pattern) := by
  induction h with
  | nil => rfl
  | cons hsame _ ih =>
    have hempty : ∀ {a b : List String}, a.Perm b → a.isEmpty = b.isEmpty := by
      intro a b hperm
      rw [Bool.eq_iff_iff, List.isEmpty_iff_length_eq_zero, List.isEmpty_iff_length_eq_zero,
        hperm.length_eq]
    simp only [List.filter_cons, hempty hsame.matchedCheckIds]
    split
    · rw [List.map_cons, List.map_cons, ih, hsame.definition]
    · exact ih

theorem any_state_congr {results results' : List PrCheckMatchResult}
    (h : List.Forall₂ SameMatch results results') (state : String) :
    results.any (·.state == state) = results'.any (·.state == state) := by
  induction h with
  | nil => rfl
  | cons hsame _ ih => rw [List.any_cons, List.any_cons, ih, hsame.state]

/-- **The verdict asks for the states of the definitions, and for the buckets of the other
checks.** -/
theorem classifyState_congr
    {unmatched' : List PrCheckObservation} (hrequired : List.Forall₂ SameMatch required required')
    (hoptional : List.Forall₂ SameMatch optional optional') (hunmatched : unmatched.Perm unmatched')
    (missingRequired : List String) (config : PrCheckWaitConfig) (counters : PrCheckWaitCounters) :
    classifyState required optional unmatched missingRequired config counters =
      classifyState required' optional' unmatched' missingRequired config counters := by
  have hempty : required.isEmpty = required'.isEmpty := by
    cases hrequired <;> rfl
  unfold classifyState
  simp only [any_state_congr hrequired, any_state_congr hoptional, hunmatched.any_eq, hempty]

theorem terminalCounts_perm (missingRequired : List String)
    (h : checks.Perm other) (hids : ids.Perm ids') :
    terminalCounts checks missingRequired ids = terminalCounts other missingRequired ids' := by
  unfold terminalCounts
  simp only [h.countP_eq, hids.length_eq]

/-- **The order in which checks are listed says nothing.** -/
theorem classifyPrChecks_perm (h : checks.Perm other) (counters : PrCheckWaitCounters) :
    SameClassification (classifyPrChecks regex headSha checks config counters)
      (classifyPrChecks regex headSha other config counters) := by
  have hcurrent := h.filter (isCurrent headSha)
  have hstale := h.filter fun check => !isCurrent headSha check
  have hignored := ignoredCheckIds_perm regex hcurrent hstale config.ignored
  have hconsidered := consideredChecks_perm regex headSha config h
  have hrequired := matchDefinitions_perm regex hconsidered config.required
    config.defaultAllowSkipped
  have hoptional := matchDefinitions_perm regex hconsidered config.optional
    config.defaultAllowSkipped
  have hmissing := missingRequired_congr hrequired
  have hunmatched := unmatched_perm hconsidered (matchedCheckIds_perm hrequired hoptional)
  have hcounts := fun missing => terminalCounts_perm missing hconsidered hignored
  unfold classifyPrChecks
  simp only [List.partition_eq_filter_filter, hmissing]
  have hstate := classifyState_congr hrequired hoptional hunmatched
  exact ⟨congrArg Prod.fst (hstate _ _ _), congrArg Prod.snd (hstate _ _ _), rfl, hcounts _, rfl,
    hrequired, hoptional, hignored, hcurrent, hstale⟩

end Gate

/-- **The gate of the checks.**  A pull request passes exactly where `GatePassed` says; the order
in which the checks are listed changes the order of the lists in the classification, and nothing
else; every bucket is one of five, and a check of a bucket has concluded where it passed, or was
skipped and may be; and a failing conclusion makes a check failed, whatever its status, where
neither its bucket nor its state says that it passed or was skipped, as those of a check run
never do. -/
theorem pr_check_gate (regex : RegexEngine) (headSha : String)
    (checks : List PrCheckObservation) (config : PrCheckWaitConfig)
    (counters : PrCheckWaitCounters) :
    ((classifyPrChecks regex headSha checks config counters).overallState = .passed ↔
        GatePassed regex headSha checks config) ∧
      (∀ other, checks.Perm other →
        SameClassification (classifyPrChecks regex headSha checks config counters)
          (classifyPrChecks regex headSha other config counters)) ∧
      (∀ status conclusion bucket state, checkBucket status conclusion bucket state ∈ buckets) ∧
      (∀ allowSkipped check, check.bucket ∈ buckets → (Concluded allowSkipped check ↔
        check.bucket = "passed" ∨ check.bucket = "skipped" ∧ allowSkipped = true)) ∧
      (∀ status conclusion bucket state, toAsciiLowercase conclusion ∈ failingConclusions →
        toAsciiLowercase bucket ∉ ["pass", "passed"] →
        toAsciiLowercase state ∉ ["success", "neutral", "skipped"] →
        checkBucket status (some conclusion) bucket state = "failed") ∧
      ∀ row conclusion, rowString row "conclusion" = some conclusion →
        toAsciiLowercase conclusion ∈ failingConclusions →
        (normalizeRestCheckRun row).toObservation.bucket = "failed" := by
  refine ⟨overallState_passed counters, fun other h => classifyPrChecks_perm h counters,
    checkBucket_mem, fun allowSkipped check h => concluded_iff h, ?_, ?_⟩
  · intro status conclusion bucket state hconclusion hbucket hstate
    exact checkBucket_of_failing hconclusion hbucket hstate status
  · intro row conclusion hrow hconclusion
    exact normalizeRestCheckRun_of_failing hrow hconclusion

def exampleCheck (name bucket : String) : PrCheckObservation where
  checkId := name
  name := name
  state := bucket
  bucket := bucket
  source := "gh_pr_checks"

def optionalLint : PrCheckWaitConfig := { optional := [{ pattern := "lint" }] }

/-- A pull request passes with an optional check that failed, although it is considered; the
lists of a classification stand in the order of the checks; and a row that names a failure in
the bucket of the passed is a check that passed. -/
theorem pr_check_gate_lenient :
    ((classifyPrChecks (fun _ => none) "head" [exampleCheck "lint" "failed"] optionalLint
        {}).overallState = .passed ∧
      exampleCheck "lint" "failed" ∈
        consideredChecks (fun _ => none) "head" [exampleCheck "lint" "failed"] optionalLint) ∧
    classifyPrChecks (fun _ => none) "head" [exampleCheck "a" "passed", exampleCheck "b" "passed"]
        {} {} ≠
      classifyPrChecks (fun _ => none) "head" [exampleCheck "b" "passed", exampleCheck "a" "passed"]
        {} {} ∧
    (normalizeGhPrCheck toAsciiLowercase "head" 0
      (.obj [("state", .str "FAILURE"), ("bucket", .str "pass")])).toObservation.bucket =
        "passed" := by
  decide +kernel

end Luther
