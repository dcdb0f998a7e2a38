/-
The transition loop returns.

A pass that goes on either climbs, to a step that stands behind the current one, or
falls back over a limited edge that has not been used up.  So the loop decreases

    steps * (what is left of the back edges' limits) + (steps from the current one on)

and the first factor pays for everything that is climbed between two falls.  Counts are
shared between edges that are written alike, and between transitions of one edge that
have different limits; that only makes the budget smaller.
-/
import Luther.Proofs.LoopPass
import Mathlib.Algebra.Order.BigOperators.Group.List
import Mathlib.Algebra.Order.Group.Nat

namespace Luther

section Termination

variable (cfg : RunnerConfig)

def backEdges (wf : WorkflowType) : List TransitionDef :=
  wf.transitions.filter fun t => isLoopBack wf t.from t.to

def backEdgeBudget : Nat :=
  ((backEdges cfg.workflowType).map fun t => (edgeLimit cfg (some t)).toNat).sum

def edgeBudget (counts : List (String × UInt32)) (t : TransitionDef) : Nat :=
  (edgeLimit cfg (some t)).toNat - (edgeCount counts (edgeKey t.from t.to)).toNat

def remainingBudget (counts : List (String × UInt32)) : Nat :=
  ((backEdges cfg.workflowType).map (edgeBudget cfg counts)).sum

def stepsAhead (wf : WorkflowType) (step : String) : Nat :=
  match stepPosition wf step with
  | some i => wf.steps.length - i
  | none => 0

def loopMeasure (r : Runner) : Nat :=
  cfg.workflowType.steps.length * remainingBudget cfg r.edgeLoopCounts
    + stepsAhead cfg.workflowType r.currentState

variable {cfg}

variable {step : String} {counts : List (String × UInt32)}

variable {i n b b' a a' : Nat} {key : String} {limit : UInt32}

variable {wf : WorkflowType}

theorem stepPosition_lt (h : stepPosition wf step = some i) : i < wf.steps.length :=
  (List.findIdx?_eq_some_iff_getElem.mp h).1

theorem stepPosition_of_findStep (h : (findStep wf step).isSome) :
    ∃ i, stepPosition wf step = some i := by
  unfold findStep at h
  rw [List.find?_isSome] at h
  obtain ⟨s, hmem, hs⟩ := h
  refine Option.isSome_iff_exists.mp ?_
  unfold stepPosition
  rw [List.findIdx?_isSome, List.any_eq_true]
  exact ⟨s, hmem, hs⟩

theorem stepsAhead_le (wf : WorkflowType) (step : String) :
    stepsAhead wf step ≤ wf.steps.length := by
  unfold stepsAhead
  split <;> omega

theorem stepsAhead_lt {next : String} (hstep : stepPosition wf step = some i)
    (hforward : isLoopBack wf step next = false) : stepsAhead wf next < stepsAhead wf step := by
  have hi := stepPosition_lt hstep
  unfold isLoopBack at hforward
  unfold stepsAhead
  rw [hstep] at hforward ⊢
  cases hnext : stepPosition wf next with
  | none =>
    show 0 < wf.steps.length - i
    omega
  | some j =>
    rw [hnext] at hforward
    have hij : i < j := by simpa using hforward
    have hj := stepPosition_lt hnext
    show wf.steps.length - j < wf.steps.length - i
    omega

theorem edgeBudget_insert_le (h : edgeCount counts key < limit) (t : TransitionDef) :
    edgeBudget cfg (Assoc.insert key (edgeCount counts key + 1) counts) t
      ≤ edgeBudget cfg counts t := by
  unfold edgeBudget
  rw [edgeCount_insert]
  split
  · rename_i hkey
    rw [hkey, toNat_succ_of_lt h]
    omega
  · exact Nat.le_refl _

theorem remainingBudget_insert_le (h : edgeCount counts key < limit) :
    remainingBudget cfg (Assoc.insert key (edgeCount counts key + 1) counts)
      ≤ remainingBudget cfg counts :=
  List.sum_le_sum fun t _ => edgeBudget_insert_le h t

theorem remainingBudget_insert_lt {t : TransitionDef} (hmem : t ∈ backEdges cfg.workflowType)
    (h : edgeCount counts (edgeKey t.from t.to) < edgeLimit cfg (some t)) :
    remainingBudget cfg (Assoc.insert (edgeKey t.from t.to)
        (edgeCount counts (edgeKey t.from t.to) + 1) counts)
      < remainingBudget cfg counts := by
  refine List.sum_lt_sum _ _ (fun u _ => edgeBudget_insert_le h u) ⟨t, hmem, ?_⟩
  have hlt := UInt32.lt_iff_toNat_lt.mp h
  unfold edgeBudget
  rw [edgeCount_insert, if_pos rfl, toNat_succ_of_lt h]
  omega

theorem remainingBudget_le (counts : List (String × UInt32)) :
    remainingBudget cfg counts ≤ backEdgeBudget cfg :=
  List.sum_le_sum fun _ _ => Nat.sub_le _ _

theorem measure_fall (hb : b' < b) (ha' : a' ≤ n) (ha : 0 < a) :
    n * b' + a' < n * b + a := by
  have hmul : n * (b' + 1) ≤ n * b := Nat.mul_le_mul_left n hb
  rw [Nat.mul_succ] at hmul
  omega

theorem measure_climb (hb : b' ≤ b) (ha : a' < a) :
    n * b' + a' < n * b + a := by
  have hmul : n * b' ≤ n * b := Nat.mul_le_mul_left n hb
  omega

/-- **A pass that goes on decreases the measure.** -/
theorem PassEffect.measure_lt {r r' : Runner} {outcome : StepOutcome}
    (h : PassEffect cfg r (.advanced outcome) r') : loopMeasure cfg r' < loopMeasure cfg r := by
  unfold loopMeasure
  cases h with
  | @counted _ t _ hfound hstep hlimited hcount hcurrent hcounts =>
    obtain ⟨hmem, hfrom⟩ := findTransition_some hfound
    obtain ⟨i, hi⟩ := stepPosition_of_findStep hstep
    rw [hcurrent, hcounts]
    cases hback : isLoopBack cfg.workflowType r.currentState t.to with
    | true =>
      have hedge : t ∈ backEdges cfg.workflowType :=
        List.mem_filter.mpr ⟨hmem, hfrom ▸ hback⟩
      rw [← hfrom] at hcount ⊢
      refine measure_fall (remainingBudget_insert_lt hedge hcount) (stepsAhead_le _ _) ?_
      have hlt := stepPosition_lt hi
      rw [hfrom, stepsAhead, hi]
      exact Nat.sub_pos_of_lt hlt
    | false => exact measure_climb (remainingBudget_insert_le hcount) (stepsAhead_lt hi hback)
  | @free _ t _ _ hstep hfree hcurrent hcounts =>
    obtain ⟨i, hi⟩ := stepPosition_of_findStep hstep
    rw [isLimitedTransition, Bool.or_eq_false_iff] at hfree
    rw [hcurrent, hcounts]
    exact measure_climb (Nat.le_refl _) (stepsAhead_lt hi hfree.1)

def passesLeft (cfg : RunnerConfig) (s : LoopState) : Nat :=
  if s.ended.isSome then 0 else loopMeasure cfg s.runner + 1

theorem loopStep_executed_le (s : LoopState) (input : LoopInput) :
    (loopStep cfg s input).executed.length + passesLeft cfg (loopStep cfg s input)
      ≤ s.executed.length + passesLeft cfg s := by
  cases hended : s.ended with
  | some last => rw [loopStep_ended (by rw [hended]; rfl)]
  | none =>
    have heffect := loopStep_effect cfg hended input
    have hleft : passesLeft cfg s = loopMeasure cfg s.runner + 1 := by
      rw [passesLeft, hended]
      rfl
    rw [hleft]
    generalize loopStep cfg s input = s' at heffect
    cases heffect with
    | @advanced outcome r executed heffect hexecuted =>
      have hlt := heffect.measure_lt
      show executed.length + (loopMeasure cfg r + 1) ≤ _
      omega
    | @ended last r executed heffect hlast hexecuted =>
      show executed.length + 0 ≤ _
      omega

/-- A loop that has ended has returned something. -/
def EndedReturns (s : LoopState) : Prop :=
  ∀ last, s.ended = some last → last.result?.isSome

theorem loopStep_endedReturns {s : LoopState} (h : EndedReturns s) (input : LoopInput) :
    EndedReturns (loopStep cfg s input) := by
  cases hended : s.ended with
  | some last =>
    rw [loopStep_ended (by rw [hended]; rfl)]
    exact h
  | none =>
    have heffect := loopStep_effect cfg hended input
    generalize loopStep cfg s input = s' at heffect
    intro last hlast
    cases heffect with
    | advanced => simp at hlast
    | ended heffect hreturned => exact Option.some.inj hlast ▸ hreturned

/-- How many passes a loop may make, and one less than the steps it may execute. -/
theorem loopMeasure_le (runner : Runner) :
    loopMeasure cfg runner ≤ cfg.workflowType.steps.length * (1 + backEdgeBudget cfg) := by
  have hbudget : remainingBudget cfg runner.edgeLoopCounts ≤ backEdgeBudget cfg :=
    remainingBudget_le _
  have hmul := Nat.mul_le_mul_left cfg.workflowType.steps.length hbudget
  have hahead := stepsAhead_le cfg.workflowType runner.currentState
  rw [loopMeasure, Nat.mul_add, Nat.mul_one]
  omega

/-- A loop that has made as many passes has ended. -/
theorem run_ended (runner : Runner) {inputs : List LoopInput}
    (hlength : cfg.workflowType.steps.length * (1 + backEdgeBudget cfg) < inputs.length) :
    ((loopMachine cfg).run { runner := runner } inputs).ended.isSome := by
  refine StateMachine.run_done (m := loopMachine cfg) (D := fun s : LoopState => s.ended.isSome)
    (f := fun s : LoopState => loopMeasure cfg s.runner) ?_ ?_
    (Or.inr (Nat.lt_of_le_of_lt (loopMeasure_le runner) hlength))
  · intro s input hdone
    show (loopStep cfg s input).ended.isSome
    rw [loopStep_ended hdone]
    exact hdone
  · intro s input hrunning
    have heffect := loopStep_effect cfg (Option.not_isSome_iff_eq_none.mp hrunning) input
    show (loopStep cfg s input).ended.isSome
      ∨ loopMeasure cfg (loopStep cfg s input).runner < loopMeasure cfg s.runner
    generalize loopStep cfg s input = s' at heffect
    cases heffect with
    | advanced heffect => exact Or.inr heffect.measure_lt
    | ended => exact Or.inl rfl

theorem length_executed_le (runner : Runner) (calls : List LoopInput) :
    ((loopMachine cfg).run { runner := runner } calls).executed.length
      ≤ cfg.workflowType.steps.length * (1 + backEdgeBudget cfg) + 1 := by
  have hexecuted := StateMachine.run_antitone (m := loopMachine cfg)
    (f := fun s : LoopState => s.executed.length + passesLeft cfg s)
    (fun s input => loopStep_executed_le s input) { runner := runner } calls
  have hstart : passesLeft cfg { runner := runner } = loopMeasure cfg runner + 1 := rfl
  have hbound : loopMeasure cfg runner ≤ _ := loopMeasure_le runner
  simp only [List.length_nil, hstart] at hexecuted
  omega

/-- **The transition loop returns, whatever its executors answer.** It does so within as many
passes as the number of the steps, times one more than the sum of the limits of the back edges,
and one; and it never executes more steps than that. -/
theorem transition_loop_returns (cfg : RunnerConfig) (runner : Runner)
    (inputs : Nat → LoopInput) :
    ((loopMachine cfg).run { runner := runner } ((List.range
      (cfg.workflowType.steps.length * (1 + backEdgeBudget cfg) + 1)).map inputs)).result.isSome
    ∧ ∀ calls, ((loopMachine cfg).run { runner := runner } calls).executed.length
      ≤ cfg.workflowType.steps.length * (1 + backEdgeBudget cfg) + 1 := by
  refine ⟨?_, length_executed_le runner⟩
  have hended : ((loopMachine cfg).run { runner := runner } ((List.range
      (cfg.workflowType.steps.length * (1 + backEdgeBudget cfg) + 1)).map inputs)).ended.isSome := by
    refine run_ended runner ?_
    rw [List.length_map, List.length_range]
    exact Nat.lt_succ_self _
  obtain ⟨last, hlast⟩ := Option.isSome_iff_exists.mp hended
  have hreturns : EndedReturns ((loopMachine cfg).run { runner := runner } ((List.range
      (cfg.workflowType.steps.length * (1 + backEdgeBudget cfg) + 1)).map inputs)) := by
    refine StateMachine.run_keeps (m := loopMachine cfg) (P := EndedReturns)
      (fun s input h => loopStep_endedReturns h input) ?_ _
    exact fun last h => absurd h (by simp)
  rw [LoopState.result, hlast]
  exact hreturns last hlast

end Termination

end Luther
