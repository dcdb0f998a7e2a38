/-
Where the loop goes in a graph that validation has accepted.

What the loop does to a graph is a route: from the first step on, each edge is the one of
the transition that fits the outcome.  What validation has checked of the transitions is
carried along a route, whatever the outcomes are; and every run of the loop is a route.
-/
import Luther.Proofs.LoopBudget
import Luther.Workflow.Validation

namespace Luther

/-! ### What has been checked -/

/-- What is known of a graph that has been accepted. -/
structure ValidGraph (wf : WorkflowType) : Prop where
  declared : ∀ t ∈ wf.transitions, t.from ∈ stepIdSet wf ∧ t.to ∈ stepIdSet wf
  postPr : isPostPrGraph wf = true → ∀ t ∈ wf.transitions,
    t.from ∈ computeReachableSteps wf postPrEntry → postPrRouteErrors t = []
  loopBack : ∀ t ∈ wf.transitions, t.maxIterations = none → ∀ i j,
    (indexOf wf).lookup t.from = some i → (indexOf wf).lookup t.to = some j → i < j
  terminal : ∀ step ∈ wf.steps, isTerminalStep step = true → ∀ t ∈ wf.transitions,
    t.from ≠ step.stepId
  cleanup : ∀ step ∈ wf.steps, step.stepType = "failure_cleanup" → failureCleanupErrors wf step = []

theorem validateWorkflowGraph_ok {wf : WorkflowType} (h : validateWorkflowGraph wf = .ok ()) :
    ValidGraph wf := by
  have hempty : (validateTransitionsReferenceValidSteps wf ++ validateNoDuplicateOutcomes wf
      ++ validateAllStepsReachable wf ++ validatePostPrRoutes wf
      ++ validateRequiredCollectorsPresentAndReachable wf ++ validateLoopBackLimits wf
      ++ validateTerminalSteps wf ++ validateFailureCleanupSteps wf
      ++ validatePrRemediationCaps wf) = [] := by
    unfold validateWorkflowGraph at h
    dsimp only at h
    split at h
    · rename_i hnil
      exact List.isEmpty_iff.mp hnil
    · simp at h
  simp only [List.append_eq_nil_iff] at hempty
  obtain ⟨⟨⟨⟨⟨⟨⟨⟨hdangling, -⟩, -⟩, hroutes⟩, -⟩, hloops⟩, hterminal⟩, hcleanup⟩, -⟩ := hempty
  constructor
  · intro t ht
    have hnone := List.flatMap_eq_nil_iff.mp hdangling t ht
    rw [List.append_eq_nil_iff] at hnone
    constructor
    · by_contra hfrom
      simp [hfrom] at hnone
    · by_contra hto
      simp [hto] at hnone
  · intro hpost t ht hreach
    unfold validatePostPrRoutes at hroutes
    rw [if_pos hpost] at hroutes
    refine List.flatMap_eq_nil_iff.mp hroutes t (List.mem_filter.mpr ⟨ht, ?_⟩)
    exact List.contains_iff_mem.mpr hreach
  · intro t ht hnone i j hi hj
    have hedge := List.flatMap_eq_nil_iff.mp hloops t ht
    rw [hi, hj] at hedge
    by_contra hlt
    dsimp only at hedge
    rw [if_pos ⟨by omega, hnone⟩] at hedge
    simp at hedge
  · intro step hstep hterm t ht hfrom
    have hnone := List.flatMap_eq_nil_iff.mp hterminal step (List.mem_filter.mpr ⟨hstep, hterm⟩)
    have hmem : t ∈ wf.transitions.filter fun t => t.from == step.stepId :=
      List.mem_filter.mpr ⟨ht, by simpa using hfrom⟩
    rw [List.map_eq_nil_iff] at hnone
    rw [hnone] at hmem
    simp at hmem
  · intro step hstep htype
    exact List.flatMap_eq_nil_iff.mp hcleanup step
      (List.mem_filter.mpr ⟨hstep, by simpa using htype⟩)

/-- A route of the post-PR portion does not lead to the pre-PR cleanup, and a failure leads to
the failure terminal. -/
theorem postPrRouteErrors_nil {t : TransitionDef} (h : postPrRouteErrors t = []) :
    t.to ≠ prePrCleanupTerminal ∧ (t.condition = some "fatal" ∨ t.condition = some "retryable" →
      t.to = postPrFailureTerminal ∨ t.from = "watch_pr_checks") := by
  unfold postPrRouteErrors at h
  simp only [List.append_eq_nil_iff] at h
  obtain ⟨⟨hcleanup, -⟩, hfailure⟩ := h
  constructor
  · intro heq
    rw [if_pos heq] at hcleanup
    simp at hcleanup
  · intro hcond
    by_contra hnot
    rw [not_or] at hnot
    rw [if_pos ⟨hcond, hnot.1, hnot.2⟩] at hfailure
    simp at hfailure

theorem failureCleanupErrors_nil {wf : WorkflowType} {step : StepDef}
    (h : failureCleanupErrors wf step = []) :
    step.terminal = some true ∧ (wf.steps.head?).map StepDef.stepId ≠ some step.stepId
      ∧ ∀ t ∈ wf.transitions, t.to = step.stepId → isFailureCondition t.condition = true := by
  unfold failureCleanupErrors at h
  dsimp only at h
  simp only [List.append_eq_nil_iff] at h
  obtain ⟨⟨⟨hterminal, hfirst⟩, -⟩, hincoming⟩ := h
  refine ⟨?_, ?_, ?_⟩
  · by_contra hnot
    rw [if_neg hnot] at hterminal
    simp at hterminal
  · intro heq
    rw [if_pos heq] at hfirst
    simp at hfirst
  · intro t ht hto
    have hnone := List.flatMap_eq_nil_iff.mp hincoming t
      (List.mem_filter.mpr ⟨ht, by simpa using hto⟩)
    by_contra hnot
    rw [if_neg hnot] at hnone
    simp at hnone

/-! ### Routes -/

/-- A route from one step to another: each edge is the one that its outcome chooses. -/
def Route (wf : WorkflowType) : String → List Traversal → String → Prop
  | a, [], b => a = b
  | a, u :: rest, b =>
    u.from = a ∧ (∃ t, findTransition wf a u.outcome = some t ∧ t.to = u.to)
      ∧ Route wf u.to rest b

section Routes

variable {wf : WorkflowType} {a b : String} {us vs : List Traversal} {u : Traversal}

theorem route_append : Route wf a (us ++ vs) b ↔ ∃ c, Route wf a us c ∧ Route wf c vs b := by
  induction us generalizing a with
  | nil => simp [Route]
  | cons u rest ih =>
    constructor
    · intro h
      obtain ⟨hfrom, hfound, hrest⟩ := h
      obtain ⟨c, hleft, hright⟩ := ih.mp hrest
      exact ⟨c, ⟨hfrom, hfound, hleft⟩, hright⟩
    · intro h
      obtain ⟨c, ⟨hfrom, hfound, hleft⟩, hright⟩ := h
      exact ⟨hfrom, hfound, ih.mpr ⟨c, hleft, hright⟩⟩

theorem Route.edge (h : Route wf a (us ++ u :: vs) b) :
    Route wf a us u.from ∧ (∃ t ∈ wf.transitions, findTransition wf u.from u.outcome = some t
      ∧ t.from = u.from ∧ t.to = u.to) ∧ Route wf u.to vs b := by
  obtain ⟨c, hleft, rfl, ⟨t, hfound, hto⟩, hrest⟩ := route_append.mp h
  obtain ⟨hmem, hfrom⟩ := findTransition_some hfound
  exact ⟨hleft, ⟨t, hmem, hfound, hfrom, hto⟩, hrest⟩

theorem Route.visits (h : Route wf a us b) :
    us.map Traversal.from ++ [b] = a :: us.map Traversal.to := by
  induction us generalizing a with
  | nil =>
    have hab : a = b := h
    rw [hab]
    rfl
  | cons u rest ih =>
    obtain ⟨hfrom, -, hrest⟩ := h
    rw [List.map_cons, List.cons_append, ih hrest, List.map_cons, hfrom]

theorem Route.cut (h : Route wf a us b) {before after : List String} {x : String}
    (hsplit : us.map Traversal.from ++ [b] = before ++ x :: after) :
    ∃ vs ws, us = vs ++ ws ∧ Route wf a vs x ∧ Route wf x ws b ∧ after = ws.map Traversal.to := by
  induction before generalizing a us with
  | nil =>
    have hvisits := h.visits
    rw [hsplit, List.nil_append, List.cons.injEq] at hvisits
    obtain ⟨rfl, hafter⟩ := hvisits
    exact ⟨[], us, rfl, rfl, h, hafter⟩
  | cons y before ih =>
    cases us with
    | nil => simp at hsplit
    | cons u rest =>
      obtain ⟨hfrom, hfound, hrest⟩ := h
      rw [List.map_cons, List.cons_append, List.cons_append, List.cons.injEq] at hsplit
      obtain ⟨vs, ws, rfl, hleft, hright, hafter⟩ := ih hrest hsplit.2
      exact ⟨u :: vs, ws, rfl, ⟨hfrom, hfound, hleft⟩, hright, hafter⟩

theorem Route.reachable {start : String} (h : Route wf a us b)
    (ha : a ∈ computeReachableSteps wf start) : b ∈ computeReachableSteps wf start := by
  induction us generalizing a with
  | nil =>
    have hab : a = b := h
    exact hab ▸ ha
  | cons u rest ih =>
    obtain ⟨rfl, ⟨t, hfound, hto⟩, hrest⟩ := h
    obtain ⟨hmem, hfrom⟩ := findTransition_some hfound
    refine ih hrest (Walk.reachable_step ?_ ha)
    exact List.mem_map.mpr ⟨t, hmem, by rw [hfrom, hto]⟩

end Routes

/-! ### Routes in a graph that has been accepted -/

namespace ValidGraph

variable {wf : WorkflowType} {a b : String} {us : List Traversal}

theorem route_declared (hwf : ValidGraph wf) (h : Route wf a us b) (ha : a ∈ stepIdSet wf) :
    ∀ x ∈ us.map Traversal.from ++ [b], x ∈ stepIdSet wf := by
  intro x hx
  rw [h.visits] at hx
  rcases List.mem_cons.mp hx with rfl | hto
  · exact ha
  · obtain ⟨u, hu, rfl⟩ := List.mem_map.mp hto
    obtain ⟨before, after, rfl⟩ := List.append_of_mem hu
    obtain ⟨-, ⟨t, hmem, -, -, hto⟩, -⟩ := h.edge
    exact hto ▸ (hwf.declared t hmem).2

variable {u : Traversal}

theorem route_postPr (hwf : ValidGraph wf) {before after : List Traversal}
    (h : Route wf postPrEntry (before ++ u :: after) b) (hentry : postPrEntry ∈ stepIdSet wf) :
    ∃ t, findTransition wf u.from u.outcome = some t ∧ t.to = u.to ∧ t.from = u.from
      ∧ postPrRouteErrors t = [] := by
  have hpost : isPostPrGraph wf = true := by
    obtain ⟨step, hstep, hid⟩ := List.mem_map.mp hentry
    unfold isPostPrGraph
    rw [Bool.or_eq_true, List.any_eq_true]
    exact Or.inl ⟨step, hstep, by simpa using hid⟩
  obtain ⟨hroute, ⟨t, hmem, hfound, hfrom, hto⟩, -⟩ := h.edge
  have hreach := hroute.reachable (Walk.mem_reachable _ postPrEntry)
  exact ⟨t, hfound, hto, hfrom, hwf.postPr hpost t hmem (hfrom ▸ hreach)⟩

theorem route_never_cleanup (hwf : ValidGraph wf) (h : Route wf a us b)
    (ha : a ∈ stepIdSet wf) {before after : List String}
    (hsplit : us.map Traversal.from ++ [b] = before ++ postPrEntry :: after) :
    prePrCleanupTerminal ∉ after := by
  have hentry : postPrEntry ∈ stepIdSet wf :=
    hwf.route_declared h ha _ (by rw [hsplit]; simp)
  obtain ⟨vs, ws, rfl, -, hroute, rfl⟩ := h.cut hsplit
  intro hmem
  obtain ⟨u, hu, hto⟩ := List.mem_map.mp hmem
  obtain ⟨c, d, rfl⟩ := List.append_of_mem hu
  obtain ⟨t, -, htto, -, hsafe⟩ := hwf.route_postPr hroute hentry
  exact (postPrRouteErrors_nil hsafe).1 (htto.trans hto)

variable {t : TransitionDef}

theorem condition_of_failure {step : String} {outcome : StepOutcome}
    (hfound : findTransition wf step outcome = some t)
    (hfailure : outcome = .fatal ∨ outcome = .retryable) :
    t.condition = some "fatal" ∨ t.condition = some "retryable" := by
  have happlies := List.find?_some hfound
  rw [TransitionDef.appliesTo, Bool.and_eq_true] at happlies
  have hcondition := happlies.2
  cases hcond : t.condition with
  | none =>
    rw [hcond] at hcondition
    rcases hfailure with rfl | rfl <;> exact absurd hcondition (by decide)
  | some cond =>
    rw [hcond] at hcondition
    have hname : cond = outcome.asConditionStr := by simpa using hcondition
    rw [hname]
    rcases hfailure with rfl | rfl
    · exact Or.inl rfl
    · exact Or.inr rfl

theorem failure_of_condition {step : String} {outcome : StepOutcome}
    (hfound : findTransition wf step outcome = some t)
    (hcond : isFailureCondition t.condition) :
    outcome = .fatal ∨ outcome = .retryable ∨ outcome = .fixable := by
  have happlies := List.find?_some hfound
  rw [TransitionDef.appliesTo, Bool.and_eq_true] at happlies
  have hcondition := happlies.2
  cases hnone : t.condition with
  | none =>
    rw [hnone] at hcond
    exact absurd hcond (by decide)
  | some cond =>
    rw [hnone] at hcondition hcond
    have hname : cond = outcome.asConditionStr := by simpa using hcondition
    subst hname
    cases outcome with
    | fatal => exact Or.inl rfl
    | retryable => exact Or.inr (Or.inl rfl)
    | fixable => exact Or.inr (Or.inr rfl)
    | success | abandon | wait => exact absurd hcond (by decide)

theorem route_failure (hwf : ValidGraph wf) {before after : List Traversal}
    (h : Route wf a (before ++ u :: after) b) (ha : a ∈ stepIdSet wf)
    (hentry : postPrEntry ∈ (before ++ [u]).map Traversal.from)
    (hfailure : u.outcome = .fatal ∨ u.outcome = .retryable) :
    u.to = postPrFailureTerminal ∨ u.from = "watch_pr_checks" := by
  have hdeclared : postPrEntry ∈ stepIdSet wf := by
    refine hwf.route_declared h ha _ (List.mem_append_left _ ?_)
    rw [List.append_cons, List.map_append]
    exact List.mem_append_left _ hentry
  obtain ⟨v, hv, hfrom⟩ := List.mem_map.mp hentry
  have hroute : ∃ mid, Route wf postPrEntry (mid ++ u :: after) b := by
    rcases List.mem_append.mp hv with hbefore | hlast
    · obtain ⟨c, d, rfl⟩ := List.append_of_mem hbefore
      rw [List.append_assoc] at h
      obtain ⟨x, -, hx⟩ := route_append.mp h
      have hxv : v.from = x := hx.1
      rw [hfrom] at hxv
      exact ⟨v :: d, hxv ▸ hx⟩
    · obtain rfl : v = u := by simpa using hlast
      obtain ⟨x, -, hx⟩ := route_append.mp h
      have hxv : v.from = x := hx.1
      rw [hfrom] at hxv
      exact ⟨[], hxv ▸ hx⟩
  obtain ⟨mid, hmid⟩ := hroute
  obtain ⟨t, hfound, hto, htfrom, hsafe⟩ := hwf.route_postPr hmid hdeclared
  rw [← hto, ← htfrom]
  exact (postPrRouteErrors_nil hsafe).2 (condition_of_failure hfound hfailure)

theorem route_terminal (hwf : ValidGraph wf) (h : Route wf a us b) {before after : List String}
    {x : String} (hsplit : us.map Traversal.from ++ [b] = before ++ x :: after)
    (hterminal : ∃ step ∈ wf.steps, step.stepId = x ∧ isTerminalStep step = true) :
    after = [] := by
  obtain ⟨step, hstep, rfl, hterm⟩ := hterminal
  obtain ⟨vs, ws, rfl, -, hroute, rfl⟩ := h.cut hsplit
  cases ws with
  | nil => rfl
  | cons u rest =>
    obtain ⟨-, ⟨t, hfound, -⟩, -⟩ := hroute
    obtain ⟨hmem, hfrom⟩ := findTransition_some hfound
    exact absurd hfrom (hwf.terminal step hstep hterm t hmem)

theorem cleanup_entry (hwf : ValidGraph wf) {step : StepDef} (hstep : step ∈ wf.steps)
    (htype : step.stepType = "failure_cleanup")
    (hfound : findTransition wf u.from u.outcome = some t) (hto : t.to = step.stepId) :
    (u.outcome = .fatal ∨ u.outcome = .retryable ∨ u.outcome = .fixable)
      ∧ u.from ≠ step.stepId := by
  obtain ⟨hmem, hfrom⟩ := findTransition_some hfound
  obtain ⟨hterminal, -, hincoming⟩ := failureCleanupErrors_nil (hwf.cleanup step hstep htype)
  refine ⟨failure_of_condition hfound (hincoming t hmem hto), fun heq => ?_⟩
  have hterm : isTerminalStep step = true := by
    unfold isTerminalStep
    rw [hterminal]
    rfl
  exact hwf.terminal step hstep hterm t hmem (hfrom.trans heq)

end ValidGraph

end Luther
