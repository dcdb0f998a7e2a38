/-
What one pass of the loop can do.

Everything that a pass does around an edge (preparing, executing, writing down) leaves
the current step and the counts alone.  So a pass either returns, or goes over the edge
of the transition that fits the outcome: freely, or counted and below its limit.
-/
import Luther.Engine.TransitionLoop

namespace Luther

open Sql

/-- The current step and the counts are as before. -/
structure SameEdges (r r' : Runner) : Prop where
  currentState : r'.currentState = r.currentState
  edgeLoopCounts : r'.edgeLoopCounts = r.edgeLoopCounts

theorem SameEdges.rfl {r : Runner} : SameEdges r r := ⟨Eq.refl _, Eq.refl _⟩

theorem SameEdges.trans {r₁ r₂ r₃ : Runner} (h : SameEdges r₁ r₂) (h' : SameEdges r₂ r₃) :
    SameEdges r₁ r₃ :=
  ⟨h'.currentState.trans h.currentState, h'.edgeLoopCounts.trans h.edgeLoopCounts⟩

section Frame

variable (cfg : RunnerConfig)

theorem updateMetadata_same (f : RunMetadata → RunMetadata) (r : Runner) :
    SameEdges r (r.updateMetadata cfg f) := by
  unfold Runner.updateMetadata
  split
  · split
    · exact ⟨rfl, rfl⟩
    · exact .rfl
  · exact .rfl

theorem heartbeatOwnedLease_same (now : Timestamp) (r : Runner) :
    SameEdges r (heartbeatOwnedLease cfg now r) := by
  unfold heartbeatOwnedLease
  split
  · exact .rfl
  · split
    · exact .rfl
    · split
      · split
        · split
          · exact ⟨rfl, rfl⟩
          · exact .rfl
        · exact .rfl
      · exact .rfl

section

variable (input : LoopInput)

theorem recordRunCompletion_same (outcome : RunOutcome) (stepId : String)
    (r : Runner) : SameEdges r (recordRunCompletion cfg input outcome stepId r).2 := by
  unfold recordRunCompletion
  dsimp only
  split
  · exact .rfl
  · split
    · split <;> exact ⟨rfl, rfl⟩
    · exact ⟨rfl, rfl⟩

theorem completeWith_same (outcome : RunOutcome) (stepId : String)
    (r : Runner) : SameEdges r (completeWith cfg input outcome stepId r).2 := by
  have hsame := recordRunCompletion_same cfg input outcome stepId r
  unfold completeWith
  split <;> rename_i h <;> rwa [h] at hsame

theorem interruptAtStep_same (stepId : String) (r : Runner) :
    SameEdges r (interruptAtStep cfg input stepId r).2 := by
  have hsame := recordRunCompletion_same cfg input (.interrupted stepId) stepId
    { r with db := r.db.save (createCheckpoint cfg input.now stepId "interrupted" r) }
  exact ⟨hsame.currentState, hsame.edgeLoopCounts⟩

theorem finishWithoutTransition_same (stepId : String) (outcome : StepOutcome) (r : Runner) :
    SameEdges r (finishWithoutTransition cfg input stepId outcome r).2 := by
  unfold finishWithoutTransition
  split
  · split
    · exact .rfl
    · dsimp only
      split <;> exact ⟨rfl, rfl⟩
  · split
    · unfold pauseForExternalWait
      have hsame := completeWith_same cfg input
        (.waitingExternal stepId "External condition still pending at watch limit") stepId
        { r with db := r.db.save (createCheckpoint cfg input.now stepId "waiting" r) }
      exact ⟨hsame.currentState, hsame.edgeLoopCounts⟩
    · split <;> exact completeWith_same ..

theorem prepareStepStart_same (now : Timestamp) (stepId : String) (r : Runner) :
    SameEdges r (prepareStepStart cfg now stepId r).2 := by
  have hbegin : ∀ (f : RunMetadata → RunMetadata) (context : StepContext),
      SameEdges r ((heartbeatOwnedLease cfg now { r with context := context }).updateMetadata
        cfg f) := by
    intro f context
    have hbeat := heartbeatOwnedLease_same cfg now { r with context := context }
    have hsame := hbeat.trans (updateMetadata_same cfg f _)
    exact ⟨hsame.currentState, hsame.edgeLoopCounts⟩
  unfold prepareStepStart
  dsimp only
  split
  · split
    · exact ⟨rfl, rfl⟩
    · exact hbegin _ _
  · exact hbegin _ _

theorem persistStepResult_same (stepId : String) (outcome : StepOutcome)
    (nextStep : Option String) (r : Runner) :
    SameEdges r (persistStepResult cfg input stepId outcome nextStep r).2 := by
  unfold persistStepResult
  split
  · unfold persistTerminalOwnershipFailure
    dsimp only
    split <;> exact ⟨rfl, rfl⟩
  · dsimp only
    split
    · exact .rfl
    · split <;> exact ⟨rfl, rfl⟩

end

end Frame

/-- What a pass can do. -/
inductive PassEffect (cfg : RunnerConfig) (r : Runner) : PassResult → Runner → Prop
  /-- The loop returns, before it comes to an edge. -/
  | returned {result : Except EngineError RunOutcome} {r' : Runner} (hsame : SameEdges r r') :
      PassEffect cfg r (.returned result) r'
  /-- A limited edge has been counted as often as it may be. -/
  | exceeded {outcome : StepOutcome} {t : TransitionDef} {runOutcome : RunOutcome} {r' : Runner}
      (hfound : findTransition cfg.workflowType r.currentState outcome = some t)
      (hlimited : isLimitedTransition cfg.workflowType r.currentState t.to (some t) = true)
      (hcount : edgeLimit cfg (some t)
        ≤ edgeCount r.edgeLoopCounts (edgeKey r.currentState t.to))
      (hsame : SameEdges r r') :
      PassEffect cfg r (.exceeded t.to (edgeLimit cfg (some t)) runOutcome) r'
  /-- A limited edge is counted. -/
  | counted {outcome : StepOutcome} {t : TransitionDef} {r' : Runner}
      (hfound : findTransition cfg.workflowType r.currentState outcome = some t)
      (hstep : (findStep cfg.workflowType r.currentState).isSome)
      (hlimited : isLimitedTransition cfg.workflowType r.currentState t.to (some t) = true)
      (hcount : edgeCount r.edgeLoopCounts (edgeKey r.currentState t.to)
        < edgeLimit cfg (some t))
      (hcurrent : r'.currentState = t.to)
      (hcounts : r'.edgeLoopCounts = Assoc.insert (edgeKey r.currentState t.to)
        (edgeCount r.edgeLoopCounts (edgeKey r.currentState t.to) + 1) r.edgeLoopCounts) :
      PassEffect cfg r (.advanced outcome) r'
  /-- An edge that is not limited is not counted. -/
  | free {outcome : StepOutcome} {t : TransitionDef} {r' : Runner}
      (hfound : findTransition cfg.workflowType r.currentState outcome = some t)
      (hstep : (findStep cfg.workflowType r.currentState).isSome)
      (hfree : isLimitedTransition cfg.workflowType r.currentState t.to (some t) = false)
      (hcurrent : r'.currentState = t.to)
      (hcounts : r'.edgeLoopCounts = r.edgeLoopCounts) :
      PassEffect cfg r (.advanced outcome) r'

section Pass

variable {cfg : RunnerConfig}

theorem executeCurrentStep_ok {input : LoopInput} {stepId : String}
    {context context' : StepContext} {outcome : StepOutcome}
    (h : executeCurrentStep cfg input stepId context = (.ok outcome, context')) :
    (findStep cfg.workflowType stepId).isSome := by
  by_contra hnone
  have hstep : findStep cfg.workflowType stepId = none := by simpa using hnone
  have hexec : executeStep cfg input stepId context = (.error (.stepNotFound stepId), context) := by
    unfold executeStep
    rw [hstep]
  unfold executeCurrentStep at h
  rw [hexec] at h
  simp at h

theorem followOutcome_effect (input : LoopInput) (outcome : StepOutcome) {r r₀ : Runner}
    (hstep : (findStep cfg.workflowType r₀.currentState).isSome) (hsame : SameEdges r₀ r) :
    PassEffect cfg r₀
      (followOutcome cfg input outcome
        (if outcome = .abandon then none
          else resolveTransitionSchema r₀.currentState outcome cfg.workflowType.transitions) r).1
      (followOutcome cfg input outcome
        (if outcome = .abandon then none
          else resolveTransitionSchema r₀.currentState outcome cfg.workflowType.transitions)
        r).2 := by
  unfold followOutcome
  split
  · split <;> exact .returned hsame
  · split
    · split
      · exact .returned (hsame.trans (finishWithoutTransition_same ..))
      · exact .returned (hsame.trans (recordRunCompletion_same ..))
    · cases hnext : resolveTransitionSchema r₀.currentState outcome
          cfg.workflowType.transitions with
      | none => exact .returned (hsame.trans (finishWithoutTransition_same ..))
      | some next =>
        -- The transition that chose the edge is the one whose limit is looked up.
        obtain ⟨t, hfound, rfl⟩ := Option.map_eq_some_iff.mp hnext
        have hfind : findTransition cfg.workflowType r₀.currentState outcome = some t := hfound
        dsimp only
        unfold enforceEdgeLimit
        dsimp only
        rw [hsame.currentState, hsame.edgeLoopCounts, hfind]
        cases hlimited : isLimitedTransition cfg.workflowType r₀.currentState t.to (some t) with
        | false => exact .free hfind hstep hlimited rfl hsame.edgeLoopCounts
        | true =>
          by_cases hcount : edgeLimit cfg (some t)
              ≤ edgeCount r₀.edgeLoopCounts (edgeKey r₀.currentState t.to)
          · simp only [Bool.not_true, Bool.false_eq_true, if_false, if_pos hcount]
            exact .exceeded hfind hlimited hcount
              (hsame.trans (recordRunCompletion_same ..))
          · simp only [Bool.not_true, Bool.false_eq_true, if_false, if_neg hcount]
            exact .counted hfind hstep hlimited (UInt32.not_le.mp hcount) rfl rfl

/-- **One pass returns, or takes the edge of the transition that fits.** -/
theorem loopPass_effect (cfg : RunnerConfig) (input : LoopInput) (r : Runner) :
    PassEffect cfg r (loopPass cfg input r).1 (loopPass cfg input r).2 := by
  unfold loopPass
  split
  · exact .returned (interruptAtStep_same ..)
  · have hprepared := prepareStepStart_same cfg input.now r.currentState r
    rcases hprepare : prepareStepStart cfg input.now r.currentState r with ⟨answer, r₁⟩
    rw [hprepare] at hprepared
    cases answer with
    | error e => exact .returned hprepared
    | ok _ =>
      dsimp only
      rcases hexecute : executeCurrentStep cfg input r₁.currentState r₁.context with
        ⟨answer, context⟩
      have hcontext : SameEdges r { r₁ with context := context } :=
        ⟨hprepared.currentState, hprepared.edgeLoopCounts⟩
      cases answer with
      | error e => exact .returned hcontext
      | ok outcome =>
        have hcurrent : r₁.currentState = r.currentState := hprepared.currentState
        have hstep := executeCurrentStep_ok hexecute
        rw [hcurrent] at hstep
        dsimp only
        split
        · exact .returned (hcontext.trans (interruptAtStep_same ..))
        · rw [hcurrent]
          generalize hnext : (if outcome = StepOutcome.abandon then none
            else resolveTransitionSchema r.currentState outcome
              cfg.workflowType.transitions) = nextStep
          have hpersisted := persistStepResult_same cfg input r.currentState outcome
            nextStep { r₁ with context := context }
          rw [hcurrent] at hpersisted hcontext
          split
          · rename_i h
            rw [h] at hpersisted
            exact .returned (hcontext.trans hpersisted)
          · rename_i h
            rw [h] at hpersisted
            subst hnext
            exact followOutcome_effect input outcome hstep (hcontext.trans hpersisted)

theorem findTransition_some {wf : WorkflowType} {step : String} {outcome : StepOutcome}
    {t : TransitionDef} (h : findTransition wf step outcome = some t) :
    t ∈ wf.transitions ∧ t.from = step := by
  refine ⟨List.mem_of_find?_eq_some h, ?_⟩
  have happlies := List.find?_some h
  simp only [TransitionDef.appliesTo, Bool.and_eq_true, beq_iff_eq] at happlies
  exact happlies.1

theorem edgeCount_insert (counts : List (String × UInt32)) (key other : String) (n : UInt32) :
    edgeCount (Assoc.insert key n counts) other
      = if other = key then n else edgeCount counts other := by
  unfold edgeCount
  by_cases h : other = key
  · rw [if_pos h, h, Assoc.lookup_insert_self]
    rfl
  · rw [if_neg h, Assoc.lookup_insert_ne h]

theorem toNat_succ_of_lt {n limit : UInt32} (h : n < limit) : (n + 1).toNat = n.toNat + 1 := by
  have hlimit := limit.toNat_lt
  have hn := UInt32.lt_iff_toNat_lt.mp h
  rw [UInt32.toNat_add]
  show (n.toNat + 1) % 2 ^ 32 = n.toNat + 1
  omega

/-- A pass of a loop that has not returned, with what it adds to what the loop has done. -/
inductive LoopStepEffect (cfg : RunnerConfig) (s : LoopState) : LoopState → Prop
  | advanced {outcome : StepOutcome} {r : Runner} {executed : List String}
      (heffect : PassEffect cfg s.runner (.advanced outcome) r)
      (hexecuted : executed.length ≤ s.executed.length + 1) :
      LoopStepEffect cfg s
        { runner := r
          executed := executed
          traversals := s.traversals ++ [⟨s.runner.currentState, outcome, r.currentState⟩]
          ended := none }
  | ended {last : PassResult} {r : Runner} {executed : List String}
      (heffect : PassEffect cfg s.runner last r) (hlast : last.result?.isSome)
      (hexecuted : executed.length ≤ s.executed.length + 1) :
      LoopStepEffect cfg s
        { runner := r, executed := executed, traversals := s.traversals, ended := some last }

theorem loopStep_effect (cfg : RunnerConfig) {s : LoopState} (h : s.ended = none) (input : LoopInput) :
    LoopStepEffect cfg s (loopStep cfg s input) := by
  have heffect := loopPass_effect cfg input s.runner
  have hexecuted : (if input.interruptedBefore then s.executed
      else s.executed ++ [s.runner.currentState]).length ≤ s.executed.length + 1 := by
    split
    · omega
    · rw [List.length_append, List.length_singleton]
  unfold loopStep
  rw [h]
  rcases hpass : loopPass cfg input s.runner with ⟨last, r⟩
  rw [hpass] at heffect
  cases last with
  | returned result | exceeded next limit outcome => exact .ended heffect rfl hexecuted
  | advanced outcome =>
    simp only [Option.isSome_none, Bool.false_eq_true, if_false]
    exact .advanced heffect hexecuted

theorem loopStep_ended {s : LoopState} (h : s.ended.isSome) (input : LoopInput) :
    loopStep cfg s input = s := by
  unfold loopStep
  rw [if_pos h]

end Pass

end Luther
