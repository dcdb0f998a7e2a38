/-
Every run of the loop is a route, and in an accepted graph a safe one.

The loop keeps what it has executed and the edges it has gone over.  Both belong to one
route from the first step on; where the loop has ended, the step it ended in may have been
executed without an edge from it.
-/
import Luther.Proofs.GraphRouting

namespace Luther

/-- What the loop has done is a route from a step. -/
structure Routed (cfg : RunnerConfig) (start : String) (s : LoopState) : Prop where
  route : Route cfg.workflowType start s.traversals s.runner.currentState
  executed : s.executed = s.traversals.map Traversal.from
    ∨ s.ended.isSome ∧ s.executed = s.traversals.map Traversal.from ++ [s.runner.currentState]

section Runs

variable {cfg : RunnerConfig} {start : String} {s : LoopState}

theorem Routed.isPrefix (h : Routed cfg start s) :
    s.executed <+: s.traversals.map Traversal.from ++ [s.runner.currentState] := by
  rcases h.executed with heq | ⟨-, heq⟩
  · rw [heq]
    exact List.prefix_append _ _
  · exact ⟨[], (List.append_nil _).trans heq⟩

theorem loopPass_interrupted (cfg : RunnerConfig) {input : LoopInput}
    (h : input.interruptedBefore) (r : Runner) : ∃ result r', loopPass cfg input r = (.returned result, r') := by
  unfold loopPass
  rw [if_pos h]
  exact ⟨_, _, rfl⟩

theorem PassEffect.currentState {r r' : Runner} {result : PassResult}
    (h : PassEffect cfg r result r') (hlast : result.result?.isSome) :
    r'.currentState = r.currentState := by
  cases h with
  | returned hsame => exact hsame.currentState
  | exceeded _ _ _ hsame => exact hsame.currentState
  | counted | free => simp [PassResult.result?] at hlast

theorem PassEffect.edge {r r' : Runner} {outcome : StepOutcome}
    (h : PassEffect cfg r (.advanced outcome) r') :
    ∃ t, findTransition cfg.workflowType r.currentState outcome = some t
      ∧ t.to = r'.currentState := by
  cases h with
  | counted hfound _ _ _ hcurrent => exact ⟨_, hfound, hcurrent.symm⟩
  | free hfound _ _ hcurrent => exact ⟨_, hfound, hcurrent.symm⟩

theorem loopStep_routed (h : Routed cfg start s) (input : LoopInput) :
    Routed cfg start (loopStep cfg s input) := by
  by_cases hended : s.ended.isSome = true
  · rw [loopStep_ended hended]
    exact h
  · have hexecuted : s.executed = s.traversals.map Traversal.from :=
      h.executed.resolve_right fun hc => hended hc.1
    have heffect := loopPass_effect cfg input s.runner
    unfold loopStep
    rw [if_neg hended]
    rcases hpass : loopPass cfg input s.runner with ⟨last, r⟩
    rw [hpass] at heffect
    -- A pass that ends the run has executed the current step, unless it came to no execution.
    have hlast : last.result?.isSome → Routed cfg start
        { s with
          runner := r
          executed := if input.interruptedBefore then s.executed
            else s.executed ++ [s.runner.currentState]
          ended := some last } := by
      intro hreturned
      have hcurrent := heffect.currentState hreturned
      refine ⟨?_, ?_⟩
      · show Route cfg.workflowType start s.traversals r.currentState
        rw [hcurrent]
        exact h.route
      · show (if input.interruptedBefore then s.executed
            else s.executed ++ [s.runner.currentState]) = _ ∨ _
        split
        · exact Or.inl hexecuted
        · refine Or.inr ⟨rfl, ?_⟩
          show s.executed ++ [s.runner.currentState]
            = s.traversals.map Traversal.from ++ [r.currentState]
          rw [hexecuted, hcurrent]
    cases last with
    | returned result => exact hlast rfl
    | exceeded next limit outcome => exact hlast rfl
    | advanced outcome =>
      have hbefore : input.interruptedBefore = false := by
        by_contra hc
        have hinterrupted : input.interruptedBefore = true := by simpa using hc
        obtain ⟨result, r', hret⟩ := loopPass_interrupted cfg hinterrupted s.runner
        rw [hpass] at hret
        exact absurd (Prod.mk.inj hret).1 (by simp)
      obtain ⟨t, hfound, hto⟩ := heffect.edge
      refine ⟨?_, Or.inl ?_⟩
      · show Route cfg.workflowType start
          (s.traversals ++ [⟨s.runner.currentState, outcome, r.currentState⟩]) r.currentState
        exact route_append.mpr ⟨_, h.route, rfl, ⟨t, hfound, hto⟩, rfl⟩
      · show (if input.interruptedBefore = true then s.executed
          else s.executed ++ [s.runner.currentState]) = _
        rw [hbefore, if_neg (by simp), hexecuted, List.map_append]
        rfl

/-- **Every run of the loop is a route.** -/
theorem loop_routed (cfg : RunnerConfig) (runner : Runner) (calls : List LoopInput) :
    Routed cfg runner.currentState ((loopMachine cfg).run { runner := runner } calls) := by
  have hstart : Routed cfg runner.currentState { runner := runner } := ⟨rfl, Or.inl rfl⟩
  exact StateMachine.run_keeps (m := loopMachine cfg) (P := Routed cfg runner.currentState)
    (fun _ input h => loopStep_routed h input) hstart calls

end Runs

/-! ### What an accepted graph keeps the loop from -/

/-- What is safe about the way a run has gone. -/
structure RoutingSound (wf : WorkflowType) (s : LoopState) : Prop where
  /-- No step is looked up that does not exist. -/
  declared : ∀ id ∈ s.executed, (findStep wf id).isSome
  /-- An edge that is a loop back has a limit of its own, unless the last declaration of its
  target stands behind the last one of its source. -/
  loopBack : ∀ u ∈ s.traversals, isLoopBack wf u.from u.to = true →
    ∃ t ∈ wf.transitions, findTransition wf u.from u.outcome = some t ∧ t.to = u.to
      ∧ (t.maxIterations.isSome ∨ ∃ i j, (indexOf wf).lookup u.from = some i
          ∧ (indexOf wf).lookup u.to = some j ∧ i < j)
  /-- There is no pre-PR cleanup once there is a pull request. -/
  postPr : ∀ before after, s.executed = before ++ postPrEntry :: after →
    prePrCleanupTerminal ∉ after
  /-- And a failure that does not end the run leads to the failure terminal. -/
  failure : ∀ before u after, s.traversals = before ++ u :: after →
    postPrEntry ∈ (before ++ [u]).map Traversal.from →
    u.outcome = .fatal ∨ u.outcome = .retryable →
    u.to = postPrFailureTerminal ∨ u.from = "watch_pr_checks"
  /-- A cleanup step is executed right after a failure of another step. -/
  cleanup : ∀ k id step, s.executed[k]? = some id → findStep wf id = some step →
    step.stepType = "failure_cleanup" →
    ∃ j u, k = j + 1 ∧ s.traversals[j]? = some u ∧ s.executed[j]? = some u.from ∧ u.to = id
      ∧ u.from ≠ id ∧ (u.outcome = .fatal ∨ u.outcome = .retryable ∨ u.outcome = .fixable)
  /-- No step is executed after one that is declared terminal. -/
  terminal : ∀ before id after, s.executed = before ++ id :: after →
    (∃ step ∈ wf.steps, step.stepId = id ∧ isTerminalStep step = true) → after = []

section Soundness

variable {cfg : RunnerConfig} {s : LoopState} {start : String}

variable {id : String}

theorem findStep_of_mem {wf : WorkflowType} (h : id ∈ stepIdSet wf) :
    (findStep wf id).isSome := by
  obtain ⟨step, hstep, rfl⟩ := List.mem_map.mp h
  unfold findStep
  rw [List.find?_isSome]
  exact ⟨step, hstep, by simp⟩

theorem indexOf_of_mem {wf : WorkflowType} (h : id ∈ stepIdSet wf) :
    ∃ i, (indexOf wf).lookup id = some i := by
  have hmany : ∀ (l : List (StepDef × Nat)) (m : List (String × Nat)),
      (id ∈ l.map fun e => e.1.stepId) ∨ (m.lookup id).isSome →
      (((l.map fun e => (e.1.stepId, e.2)).foldl (fun m e => Assoc.insert e.1 e.2 m) m).lookup
        id).isSome := by
    intro l
    induction l with
    | nil =>
      intro m h
      exact h.resolve_left (by simp)
    | cons e rest ih =>
      intro m h
      refine ih _ ?_
      by_cases heq : id = e.1.stepId
      · subst heq
        refine Or.inr ?_
        dsimp only
        rw [Assoc.lookup_insert_self]
        rfl
      · rcases h with hmem | hmem
        · rw [List.map_cons, List.mem_cons] at hmem
          exact Or.inl (hmem.resolve_left heq)
        · refine Or.inr ?_
          dsimp only
          rw [Assoc.lookup_insert_ne heq]
          exact hmem
  refine Option.isSome_iff_exists.mp (hmany wf.steps.zipIdx [] (Or.inl ?_))
  obtain ⟨step, hstep, rfl⟩ := List.mem_map.mp h
  obtain ⟨i, hi, rfl⟩ := List.mem_iff_getElem.mp hstep
  exact List.mem_map.mpr ⟨(wf.steps[i], i), List.mk_mem_zipIdx_iff_getElem?.mpr (by simp), rfl⟩

theorem Routed.executed_at (h : Routed cfg start s) {k : Nat} (hk : s.executed[k]? = some id) :
    (s.traversals.map Traversal.from ++ [s.runner.currentState])[k]? = some id := by
  obtain ⟨rest, hrest⟩ := h.isPrefix
  obtain ⟨hlt, -⟩ := List.getElem?_eq_some_iff.mp hk
  rw [← hrest, List.getElem?_append_left hlt]
  exact hk

theorem Routed.cut (h : Routed cfg start s) {before after : List String}
    (hsplit : s.executed = before ++ id :: after) :
    ∃ rest, s.traversals.map Traversal.from ++ [s.runner.currentState]
      = before ++ id :: (after ++ rest) := by
  obtain ⟨rest, hrest⟩ := h.isPrefix
  refine ⟨rest, ?_⟩
  rw [← hrest, hsplit]
  simp

theorem Routed.sound (h : Routed cfg start s) (hwf : ValidGraph cfg.workflowType)
    {first : StepDef} (hfirst : cfg.workflowType.steps.head? = some first)
    (hstart : start = first.stepId) : RoutingSound cfg.workflowType s := by
  have hdeclared : start ∈ stepIdSet cfg.workflowType :=
    List.mem_map.mpr ⟨first, List.mem_of_head? hfirst, hstart.symm⟩
  constructor
  · intro id hid
    exact findStep_of_mem (hwf.route_declared h.route hdeclared id (h.isPrefix.subset hid))
  · intro u hu _
    obtain ⟨before, after, hsplit⟩ := List.append_of_mem hu
    have hroute := h.route
    rw [hsplit] at hroute
    obtain ⟨-, ⟨t, hmem, hfound, hfrom, hto⟩, -⟩ := hroute.edge
    refine ⟨t, hmem, hfound, hto, ?_⟩
    cases hmax : t.maxIterations with
    | some limit => exact Or.inl rfl
    | none =>
      obtain ⟨hfromMem, htoMem⟩ := hwf.declared t hmem
      obtain ⟨i, hi⟩ := indexOf_of_mem hfromMem
      obtain ⟨j, hj⟩ := indexOf_of_mem htoMem
      have hlt := hwf.loopBack t hmem hmax i j hi hj
      rw [hfrom] at hi
      rw [hto] at hj
      exact Or.inr ⟨i, j, hi, hj, hlt⟩
  · intro before after hsplit hmem
    obtain ⟨rest, hrest⟩ := h.cut hsplit
    exact hwf.route_never_cleanup h.route hdeclared hrest (List.mem_append_left _ hmem)
  · intro before u after hsplit hentry hfailure
    have hroute := h.route
    rw [hsplit] at hroute
    exact hwf.route_failure hroute hdeclared hentry hfailure
  · intro k id step hk hfound htype
    have hat := h.executed_at hk
    have hstep : step ∈ cfg.workflowType.steps := List.mem_of_find?_eq_some hfound
    have hid : step.stepId = id := by simpa using List.find?_some hfound
    rw [h.route.visits] at hat
    cases k with
    | zero =>
      obtain ⟨-, hnotFirst, -⟩ := failureCleanupErrors_nil (hwf.cleanup step hstep htype)
      have hstartId : start = id := by simpa using hat
      refine absurd ?_ hnotFirst
      rw [hfirst, hid, ← hstartId, hstart]
      rfl
    | succ j =>
      rw [List.getElem?_cons_succ, List.getElem?_map, Option.map_eq_some_iff] at hat
      obtain ⟨u, hu, hto⟩ := hat
      have hmem := List.mem_of_getElem? hu
      obtain ⟨before, after, hsplit⟩ := List.append_of_mem hmem
      have hroute := h.route
      rw [hsplit] at hroute
      obtain ⟨-, ⟨t, -, hchosen, -, htto⟩, -⟩ := hroute.edge
      obtain ⟨hfailure, hother⟩ := hwf.cleanup_entry hstep htype hchosen
        (htto.trans (hto.trans hid.symm))
      refine ⟨j, u, rfl, hu, ?_, hto, hid ▸ hother, hfailure⟩
      obtain ⟨hlt, -⟩ := List.getElem?_eq_some_iff.mp hk
      obtain ⟨hj, -⟩ := List.getElem?_eq_some_iff.mp hu
      obtain ⟨rest, hrest⟩ := h.isPrefix
      have hfrom : (s.executed ++ rest)[j]? = some u.from := by
        rw [hrest, List.getElem?_append_left (by rw [List.length_map]; exact hj),
          List.getElem?_map, hu]
        rfl
      rwa [List.getElem?_append_left (by omega)] at hfrom
  · intro before id after hsplit hterminal
    obtain ⟨rest, hrest⟩ := h.cut hsplit
    exact (List.append_eq_nil_iff.mp (hwf.route_terminal h.route hrest hterminal)).1

end Soundness

/-- **The routing of an accepted workflow is sound**, where it has a step to begin with: whatever
its steps answer. -/
theorem accepted_graph_routes_soundly (cfg : RunnerConfig) (runner : Runner)
    (haccepted : validateWorkflowGraph cfg.workflowType = .ok ())
    (hsteps : cfg.workflowType.steps ≠ []) (hstart : runner.currentState = firstStep cfg)
    (calls : List LoopInput) :
    RoutingSound cfg.workflowType ((loopMachine cfg).run { runner := runner } calls) := by
  obtain ⟨first, rest, hcons⟩ := List.exists_cons_of_ne_nil hsteps
  have hfirst : cfg.workflowType.steps.head? = some first := by rw [hcons]; rfl
  refine (loop_routed cfg runner calls).sound (validateWorkflowGraph_ok haccepted) hfirst ?_
  rw [hstart, firstStep, hfirst]
  rfl

/-! ### What is accepted although it should not be -/

def noSteps : WorkflowType where
  workflowTypeId := "no-steps"
  steps := []

/-- Three steps, of which the last has the id of the first. -/
def repeatedStep : WorkflowType where
  workflowTypeId := "repeated-step"
  steps := [⟨"a", "shell", none, none, none⟩, ⟨"b", "shell", none, none, none⟩,
    ⟨"a", "shell", none, none, none⟩]
  transitions := [⟨"a", "b", none, some 5⟩, ⟨"b", "a", none, none⟩]

/-- An accepted workflow without steps looks up a step that does not exist; and an accepted one
that repeats a step id goes back without a limit of its own. -/
theorem accepted_graph_unsound :
    (validateWorkflowGraph noSteps = .ok ()
      ∧ ((loopMachine (bareConfig noSteps)).run { runner := bareRunner "" }
          [answering .success]).executed = [""]
      ∧ findStep noSteps "" = none)
    ∧ validateWorkflowGraph repeatedStep = .ok ()
      ∧ ((loopMachine (bareConfig repeatedStep)).run { runner := bareRunner "a" }
          [answering .success, answering .success]).traversals
        = [⟨"a", .success, "b"⟩, ⟨"b", .success, "a"⟩]
      ∧ isLoopBack repeatedStep "b" "a" = true
      ∧ findTransition repeatedStep "b" .success = some ⟨"b", "a", none, none⟩ := by
  decide +kernel

/-- The routing of the remediation loop, in a run that goes back once. -/
theorem accepted_graph_routes_soundly_remediation :
    RoutingSound remediation ((loopMachine (bareConfig remediation)).run
      { runner := bareRunner "implement" }
      [answering .success, answering .fixable, answering .success]) :=
  accepted_graph_routes_soundly (bareConfig remediation) (bareRunner "implement")
    (by decide +kernel) (by decide) rfl _

end Luther
