/-
What holds of a run over all its processes.

A session goes the way of a plain run, so what is known of one loop is known of all the loops of a
run together: it goes by the edges of the workflow, it keeps the limits of the edges although each
process has read the counts anew, and it comes to its end.  And a cleanup step, whichever process
executes it, is about the failure that led to it.
-/
import Luther.Proofs.LoopTermination
import Luther.Proofs.Sessions

namespace Luther

open Sql

section Safety

variable {cfg : RunnerConfig} {v : PlainRun} {s : LoopState} {calls : List SessionCall}
  {outcome : StepOutcome}

/-! ### A cleanup step, and how it was come to -/

/-- A cleanup step has been led to, and what has ended there is named after where it was led from. -/
structure PlainRun.Led (cfg : RunnerConfig) (v : PlainRun) : Prop where
  last : isFailureCleanupStep cfg.workflowType v.current = true →
    ∃ u, v.traversals.getLast? = some u ∧ u.to = v.current
  named : ∀ o, v.ended = some (.returned (.ok o)) →
    isFailureCleanupStep cfg.workflowType v.current = true →
      ∃ u, v.traversals.getLast? = some u ∧ (o = .abandoned u.from "" ∨ o = .failure u.from "")

theorem PlainRun.Led.error (h : v.Led cfg) (e : EngineError) :
    (v.endWith (.returned (.error e))).Led cfg :=
  ⟨h.last, fun _ hended => by cases hended⟩

theorem PlainRun.Led.settle (hwf : ValidGraph cfg.workflowType) (h : v.Led cfg)
    (hended : v.ended = none) (input : LoopInput) (context : StepContext) (leases : LeaseTable) :
    (v.settle cfg input outcome (v.nextStep cfg outcome) context leases).Led cfg := by
  unfold PlainRun.settle
  split
  · rename_i hdenied
    refine ⟨h.last, fun o _ hcleanup => ?_⟩
    -- Nothing is failed into from a cleanup step, so nothing is denied.
    have hnext := cleanup_last (v := v) hwf hcleanup outcome
    rw [hnext] at hdenied
    cases hdenied
  · cases hnext : v.nextStep cfg outcome with
    | none =>
      refine ⟨h.last, fun o hreturned hcleanup => ?_⟩
      have hreturned := PassResult.returned.inj (Option.some.inj hreturned)
      obtain ⟨u, hlast, -⟩ := h.last hcleanup
      have hcleanup' : isFailureCleanupStep cfg.workflowType v.current = true := hcleanup
      unfold endRun at hreturned
      rw [if_pos hcleanup', hlast] at hreturned
      refine ⟨u, hlast, ?_⟩
      split at hreturned
      · exact Or.inl (Except.ok.inj hreturned).symm
      · exact Or.inr (Except.ok.inj hreturned).symm
    | some next =>
      dsimp only
      cases countEdge cfg v.current next outcome v.counts with
      | error limit => exact ⟨h.last, fun _ hreturned => by cases hreturned⟩
      | ok counts =>
        refine ⟨fun _ => ⟨_, List.getLast?_concat, rfl⟩, fun o hreturned => ?_⟩
        have hstill : v.ended = some (.returned (.ok o)) := hreturned
        rw [hended] at hstill
        cases hstill

theorem PlainRun.led_next (hwf : ValidGraph cfg.workflowType) (h : v.Led cfg) (input : LoopInput) :
    ((PlainRun.machine cfg).next v input).Led cfg := by
  show (if v.ended.isSome then v
    else { v.pass cfg input with executed := v.executed ++ [v.current] }).Led cfg
  split
  · exact h
  · rename_i hended
    have hnone := Option.not_isSome_iff_eq_none.mp hended
    have hpass : (v.pass cfg input).Led cfg := by
      unfold PlainRun.pass
      split
      · exact h.error _
      · split
        · exact h.error _
        · exact h.settle hwf hnone input _ _
    exact ⟨hpass.last, hpass.named⟩

/-- What a cleanup step is about, in whichever process. -/
structure CleanupSound (cfg : RunnerConfig) (s : LoopState) : Prop where
  /-- The failure that led to the step is on record, and not cleaned up after. -/
  recorded : s.ended = none →
    isFailureCleanupStep cfg.workflowType s.runner.currentState = true →
      ∃ u f, s.traversals.getLast? = some u ∧ u.to = s.runner.currentState
        ∧ s.runner.failedWork cfg = some f
        ∧ f.failedStep = u.from ∧ f.failureOutcome = u.outcome.asConditionStr
        ∧ f.cleanupStep = s.runner.currentState ∧ f.cleanupSucceeded = false
        ∧ f.ownershipDenied = false
  /-- No failure is on record elsewhere. -/
  unrecorded : s.ended = none →
    isFailureCleanupStep cfg.workflowType s.runner.currentState = false →
      (s.runner.loadMetadata cfg).bind RunMetadata.failureCleanup = none
  /-- A run that ends there ends with that failure, and not with the cleanup. -/
  named : ∀ o, s.ended = some (.returned (.ok o)) →
    isFailureCleanupStep cfg.workflowType s.runner.currentState = true →
      ∃ u reason, s.traversals.getLast? = some u
        ∧ (o = .abandoned u.from reason ∨ o = .failure u.from reason)

theorem abandoned_of_bare {o : RunOutcome} {step : String} (h : o.bare = .abandoned step "") :
    ∃ reason, o = .abandoned step reason := by
  cases o with
  | abandoned stepId reason => exact ⟨reason, by rw [(RunOutcome.abandoned.inj h).1]⟩
  | _ => cases h

theorem failure_of_bare {o : RunOutcome} {step : String} (h : o.bare = .failure step "") :
    ∃ reason, o = .failure step reason := by
  cases o with
  | failure stepId reason => exact ⟨reason, by rw [(RunOutcome.failure.inj h).1]⟩
  | _ => cases h

/-- **Every process of a run cleans up after the failure that it was.** -/
theorem sessions_clean_up_soundly (haccepted : validateWorkflowGraph cfg.workflowType = .ok ())
    (hsteps : cfg.workflowType.steps ≠ []) (hpersist : cfg.persistRegistry = true)
    (h : (sessionMachine cfg).start s)
    (hordered : calls.Pairwise fun a b => a.input.now < b.input.now)
    (hreplay : ∀ call ∈ calls, Replayable call.input.execute) :
    CleanupSound cfg ((sessionMachine cfg).run s calls) := by
  have hwf := validateWorkflowGraph_ok haccepted
  obtain ⟨t, hrefines⟩ := session_refines hwf hsteps hpersist h hordered hreplay
  have hled : ((PlainRun.machine cfg).run (.first cfg s.runner.db.leases)
      (calls.filterMap SessionCall.pass?)).Led cfg := by
    refine StateMachine.run_keeps (m := PlainRun.machine cfg) (P := PlainRun.Led cfg)
      (fun v input hv => PlainRun.led_next hwf hv input) ⟨fun hcleanup => ?_, ?_⟩ _
    · have hcleanup' : isFailureCleanupStep cfg.workflowType (firstStep cfg) = true := hcleanup
      rw [first_not_cleanup hwf hsteps] at hcleanup'
      cases hcleanup'
    · intro o hended
      cases hended
  generalize (sessionMachine cfg).run s calls = s' at hrefines ⊢
  generalize (PlainRun.machine cfg).run _ _ = v at hrefines hled
  refine ⟨fun hended hcleanup => ?_, fun hended hother => ?_, fun o hended hcleanup => ?_⟩
  · obtain ⟨failure, hrow, hfailure⟩ := (hrefines.follows hended).record
    rw [hrefines.current] at hcleanup
    obtain ⟨u, f, hlast, hto, rfl, hrecorded⟩ := hfailure.recorded hcleanup
    rw [← hrefines.current] at hto
    exact ⟨u, f, hrefines.traversals ▸ hlast, hto, hrow.failedWork, hrecorded.failedStep,
      hrecorded.failureOutcome, hrecorded.cleanupStep.trans hto, hrecorded.unfinished,
      hrecorded.owned⟩
  · obtain ⟨failure, hrow, hfailure⟩ := (hrefines.follows hended).record
    rw [hrefines.current] at hother
    obtain rfl := hfailure.eq_none (hother ▸ Bool.false_ne_true)
    obtain ⟨md, hmd, -, -, hrecord⟩ := hrow
    unfold Runner.loadMetadata
    rw [hmd, Option.bind_some, hrecord]
  · have hbare := hrefines.ended
    rw [hended] at hbare
    rw [hrefines.current] at hcleanup
    obtain ⟨u, hlast, hnamed⟩ := hled.named o.bare hbare.symm hcleanup
    rw [← hrefines.traversals] at hlast
    rcases hnamed with hnamed | hnamed
    · obtain ⟨reason, ho⟩ := abandoned_of_bare hnamed
      exact ⟨u, reason, hlast, Or.inl ho⟩
    · obtain ⟨reason, ho⟩ := failure_of_bare hnamed
      exact ⟨u, reason, hlast, Or.inr ho⟩

/-- The failure of the step is cleaned up after by the other process. -/
theorem sessions_clean_up_soundly_cleanedUp :
    ∃ s, (sessionMachine cleanedUpConfig).start s
      ∧ CleanupSound cleanedUpConfig ((sessionMachine cleanedUpConfig).run s failingCalls) := by
  obtain ⟨s, hs⟩ := session_starts cleanedUpConfig rfl
  exact ⟨s, hs, sessions_clean_up_soundly (by decide +kernel) (by decide) rfl hs (by decide)
    failingCalls_replayable⟩

/-! ### What is known of a loop -/

/-- Sound routing is about the way alone. -/
theorem RoutingSound.congr {wf : WorkflowType} {s s' : LoopState} (h : RoutingSound wf s)
    (hexecuted : s'.executed = s.executed) (htraversals : s'.traversals = s.traversals) :
    RoutingSound wf s' := by
  obtain ⟨runner, executed, traversals, ended⟩ := s
  obtain ⟨runner', executed', traversals', ended'⟩ := s'
  obtain rfl : executed' = executed := hexecuted
  obtain rfl : traversals' = traversals := htraversals
  exact ⟨h.declared, h.loopBack, h.postPr, h.failure, h.cleanup, h.terminal⟩

/-- **The routing of an accepted workflow is sound over all the processes of a run.** -/
theorem sessions_route_soundly (haccepted : validateWorkflowGraph cfg.workflowType = .ok ())
    (hsteps : cfg.workflowType.steps ≠ []) (hpersist : cfg.persistRegistry = true)
    (h : (sessionMachine cfg).start s)
    (hordered : calls.Pairwise fun a b => a.input.now < b.input.now)
    (hreplay : ∀ call ∈ calls, Replayable call.input.execute) :
    RoutingSound cfg.workflowType ((sessionMachine cfg).run s calls) := by
  have hwf := validateWorkflowGraph_ok haccepted
  have hsame := session_same_way hwf hsteps hpersist h hordered hreplay
  have hstart := start_refines hwf hsteps hpersist h 0
  obtain ⟨db, now, r, -, -, rfl⟩ := h
  obtain ⟨first, rest, hcons⟩ := List.exists_cons_of_ne_nil hsteps
  have hfirst : cfg.workflowType.steps.head? = some first := by rw [hcons]; rfl
  have hcurrent : r.currentState = first.stepId := by
    rw [hstart.current]
    show firstStep cfg = _
    rw [firstStep, hfirst]
    rfl
  exact ((loop_routed cfg r _).sound hwf hfirst hcurrent).congr hsame.executed hsame.traversals

theorem sessions_route_soundly_cleanedUp :
    ∃ s, (sessionMachine cleanedUpConfig).start s
      ∧ RoutingSound cleanedUp ((sessionMachine cleanedUpConfig).run s failingCalls) := by
  obtain ⟨s, hs⟩ := session_starts cleanedUpConfig rfl
  exact ⟨s, hs, sessions_route_soundly (by decide +kernel) (by decide) rfl hs (by decide)
    failingCalls_replayable⟩

/-- **Interrupts give no edge a new budget.** -/
theorem sessions_keep_budgets (haccepted : validateWorkflowGraph cfg.workflowType = .ok ())
    (hsteps : cfg.workflowType.steps ≠ []) (hpersist : cfg.persistRegistry = true)
    (h : (sessionMachine cfg).start s)
    (hordered : calls.Pairwise fun a b => a.input.now < b.input.now)
    (hreplay : ∀ call ∈ calls, Replayable call.input.execute) (a b : String) :
    limitedTraversals cfg.workflowType ((sessionMachine cfg).run s calls) a b ≤ largestLimit cfg a b
      ∧ (LimitedEdge cfg a b →
        traversals ((sessionMachine cfg).run s calls) a b ≤ largestLimit cfg a b) := by
  have hwf := validateWorkflowGraph_ok haccepted
  have hsame := session_same_way hwf hsteps hpersist h hordered hreplay
  have hstart := start_refines hwf hsteps hpersist h 0
  obtain ⟨db, now, r, -, -, rfl⟩ := h
  have hempty : r.edgeLoopCounts = [] := hstart.counts (first_not_cleanup hwf hsteps)
  have hinv : BudgetInv cfg ((loopMachine cfg).run { runner := r }
      (calls.filterMap SessionCall.pass?)) :=
    StateMachine.run_keeps (m := loopMachine cfg) (P := BudgetInv cfg)
      (fun s input h => loopStep_budgetInv h input) (budgetInv_start hempty) _
  unfold limitedTraversals traversals
  rw [hsame.traversals]
  refine ⟨hinv.bounded a b, fun hedge => ?_⟩
  have hall := hinv.traversals_eq hedge
  unfold traversals at hall
  rw [hall]
  exact hinv.bounded a b

theorem sessions_keep_budgets_cleanedUp :
    ∃ s, (sessionMachine cleanedUpConfig).start s
      ∧ traversals ((sessionMachine cleanedUpConfig).run s failingCalls) "work" "clean" ≤ 3 := by
  obtain ⟨s, hs⟩ := session_starts cleanedUpConfig rfl
  exact ⟨s, hs, (sessions_keep_budgets (by decide +kernel) (by decide) rfl hs (by decide)
    failingCalls_replayable "work" "clean").2 (Or.inr (by decide))⟩

/-- **Interrupts keep no run from its end.** It executes no more steps over all its processes than
one loop may, and it has ended when it has made as many passes. -/
theorem sessions_return (haccepted : validateWorkflowGraph cfg.workflowType = .ok ())
    (hsteps : cfg.workflowType.steps ≠ []) (hpersist : cfg.persistRegistry = true)
    (h : (sessionMachine cfg).start s)
    (hordered : calls.Pairwise fun a b => a.input.now < b.input.now)
    (hreplay : ∀ call ∈ calls, Replayable call.input.execute) :
    ((sessionMachine cfg).run s calls).executed.length
        ≤ cfg.workflowType.steps.length * (1 + backEdgeBudget cfg) + 1
      ∧ (cfg.workflowType.steps.length * (1 + backEdgeBudget cfg) + 1
          ≤ (calls.filterMap SessionCall.pass?).length →
        ((sessionMachine cfg).run s calls).ended.isSome) := by
  have hwf := validateWorkflowGraph_ok haccepted
  have hsame := session_same_way hwf hsteps hpersist h hordered hreplay
  obtain ⟨db, now, r, -, -, rfl⟩ := h
  refine ⟨?_, fun hlength => ?_⟩
  · rw [hsame.executed]
    exact length_executed_le r _
  · have hended := run_ended r (Nat.lt_of_succ_le hlength)
    rw [← Option.isSome_map (f := PassResult.bare), hsame.ended, Option.isSome_map]
    exact hended

theorem sessions_return_cleanedUp :
    ∃ s, (sessionMachine cleanedUpConfig).start s
      ∧ ((sessionMachine cleanedUpConfig).run s failingCalls).executed.length ≤ 3 := by
  obtain ⟨s, hs⟩ := session_starts cleanedUpConfig rfl
  exact ⟨s, hs, (sessions_return (by decide +kernel) (by decide) rfl hs (by decide)
    failingCalls_replayable).1⟩

end Safety

end Luther
