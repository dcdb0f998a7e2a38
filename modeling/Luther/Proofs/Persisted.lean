/-
What of a context outlives its process.

A step only sets variables, so a context grows: what the seeds of a run have named stays named.
And of a context that grew from the seeds a checkpoint holds enough: restored into the seeds of
another process it is the same, as far as it is written down.
-/
import Luther.Engine.PlainRun
import Luther.Proofs.ContextRestore

namespace Luther

open Assoc

namespace StepContext

variable {a b c old fresh : StepContext} {key : String}

/-! ### Growing -/

/-- Variables have been set, and nothing else. -/
structure Grown (a b : StepContext) : Prop where
  keys : b.checkpointableKeys = a.checkpointableKeys
  keyedOnce : a.KeyedOnce → b.KeyedOnce
  named : ∀ key, (a.variables.lookup key).isSome → (b.variables.lookup key).isSome

theorem Grown.refl (a : StepContext) : Grown a a := ⟨rfl, id, fun _ => id⟩

theorem Grown.trans (hab : Grown a b) (hbc : Grown b c) : Grown a c :=
  ⟨hbc.keys.trans hab.keys, hbc.keyedOnce ∘ hab.keyedOnce,
    fun key h => hbc.named key (hab.named key h)⟩

theorem Grown.of_insert {value : String} (hkeys : b.checkpointableKeys = a.checkpointableKeys)
    (h : b.variables = Assoc.insert key value a.variables) : Grown a b := by
  refine ⟨hkeys, fun hold => ?_, fun other hother => ?_⟩
  · unfold KeyedOnce
    rw [h]
    exact nodup_keys_insert hold
  · rw [h]
    by_cases hkey : other = key
    · rw [hkey, lookup_insert_self]
      rfl
    · rw [lookup_insert_ne hkey]
      exact hother

theorem grown_set (key value : String) (a : StepContext) : Grown a (a.set key value) :=
  .of_insert rfl rfl

theorem grown_setAll (writes : List (String × String)) (a : StepContext) :
    Grown a (a.setAll writes) := by
  unfold setAll
  induction writes generalizing a with
  | nil => exact .refl a
  | cons write rest ih => exact (grown_set write.1 write.2 a).trans (ih _)

theorem currentStepId_setAll (writes : List (String × String)) (a : StepContext) :
    (a.setAll writes).currentStepId = a.currentStepId := by
  unfold setAll
  induction writes generalizing a with
  | nil => rfl
  | cons write rest ih => exact ih _

/-- What is restored is added to the seeds. -/
theorem grown_joined (hkeys : fresh.checkpointableKeys = old.checkpointableKeys)
    (hold : old.KeyedOnce) : Grown fresh (joined old fresh) := by
  have hspared := spared_afterRestore old.checkpointValues fresh
  rw [afterRestore_of_ok (restore_checkpointValues hkeys)] at hspared
  refine ⟨rfl, hspared.keyedOnce, fun key h => ?_⟩
  rw [lookup_joined hold, Option.isSome_or, h, Bool.or_true]

/-! ### What is written down -/

/-- The same of two contexts is written down. -/
structure SamePersisted (a b : StepContext) : Prop where
  keys : b.checkpointableKeys = a.checkpointableKeys
  stepOrder : b.stepOrder = a.stepOrder
  layers : ∀ step, ∀ name ∈ a.checkpointableKeys,
    Layers.inLayer step name b.namespacedVars = Layers.inLayer step name a.namespacedVars
  bare : ∀ key ∈ a.checkpointableKeys, key ∉ reservedKeys →
    b.variables.lookup key = a.variables.lookup key

theorem SamePersisted.refl (a : StepContext) : SamePersisted a a :=
  ⟨rfl, rfl, fun _ _ _ => rfl, fun _ _ _ => rfl⟩

theorem SamePersisted.symm (h : SamePersisted a b) : SamePersisted b a :=
  ⟨h.keys.symm, h.stepOrder.symm, fun step name hname => (h.layers step name (h.keys ▸ hname)).symm,
    fun key hkey hreserved => (h.bare key (h.keys ▸ hkey) hreserved).symm⟩

theorem SamePersisted.trans (hab : SamePersisted a b) (hbc : SamePersisted b c) :
    SamePersisted a c where
  keys := hbc.keys.trans hab.keys
  stepOrder := hbc.stepOrder.trans hab.stepOrder
  layers step name hname :=
    (hbc.layers step name (hab.keys ▸ hname)).trans (hab.layers step name hname)
  bare key hkey hreserved :=
    (hbc.bare key (hab.keys ▸ hkey) hreserved).trans (hab.bare key hkey hreserved)

theorem lookup_insert_congr {m m' : List (String × String)} {other : String} (value : String)
    (h : m'.lookup other = m.lookup other) :
    (Assoc.insert key value m').lookup other = (Assoc.insert key value m).lookup other := by
  by_cases hother : other = key
  · rw [hother, lookup_insert_self, lookup_insert_self]
  · rw [lookup_insert_ne hother, lookup_insert_ne hother, h]

theorem SamePersisted.setCurrentStepId (h : SamePersisted a b) (stepId : String) :
    SamePersisted (a.setCurrentStepId stepId) (b.setCurrentStepId stepId) := by
  refine ⟨h.keys, ?_, h.layers, fun key hkey hreserved => ?_⟩
  · unfold StepContext.setCurrentStepId
    dsimp only
    rw [h.stepOrder]
  · exact lookup_insert_congr _ (h.bare key hkey hreserved)

/-- The same variable is set by the same step. -/
theorem SamePersisted.set (h : SamePersisted a b) (hstep : b.currentStepId = a.currentStepId)
    (key value : String) : SamePersisted (a.set key value) (b.set key value) := by
  refine ⟨h.keys, h.stepOrder, fun step name hname => ?_, fun other hother hreserved => ?_⟩
  · cases hcurrent : a.currentStepId with
    | none =>
      rw [namespacedVars_set_of_none hcurrent, namespacedVars_set_of_none (hstep.trans hcurrent)]
      exact h.layers step name hname
    | some current =>
      rw [namespacedVars_set_of_some hcurrent, namespacedVars_set_of_some (hstep.trans hcurrent)]
      by_cases hwritten : step = current ∧ name = key
      · obtain ⟨rfl, rfl⟩ := hwritten
        rw [Layers.inLayer_write_self, Layers.inLayer_write_self]
      · rw [not_and_or] at hwritten
        rw [Layers.inLayer_write_ne hwritten, Layers.inLayer_write_ne hwritten]
        exact h.layers step name hname
  · exact lookup_insert_congr value (h.bare other hother hreserved)

/-- **A context that grew from the seeds is restored into the seeds**, as far as it is written
down. -/
theorem samePersisted_joined (h : Grown fresh old) (hold : old.KeyedOnce) :
    SamePersisted old (joined old fresh) := by
  refine ⟨h.keys.symm, rfl, fun step name hname => inLayer_joined h.keys.symm hname,
    fun key hkey hreserved => ?_⟩
  rw [lookup_joined hold, if_pos ⟨hkey, hreserved⟩]
  cases hvalue : old.variables.lookup key with
  | some value => rfl
  | none =>
    cases hseed : fresh.variables.lookup key with
    | none => rfl
    | some value =>
      have hnamed := h.named key (by rw [hseed]; rfl)
      rw [hvalue] at hnamed
      cases hnamed

/-! ### The counts that travel with it -/

section

variable (h : key ∉ a.checkpointableKeys)

include h

theorem restoreVariables_skip (p : String × Json → Bool)
    (value : Json) (rest : List (String × Json)) :
    (((key, value) :: rest).filter p).foldlM
        (fun context entry => restoreVariable entry context) a =
      (rest.filter p).foldlM (fun context entry => restoreVariable entry context) a := by
  rw [List.filter_cons]
  split
  · have hignored : restoreVariable (key, value) a = .ok a := by
      unfold restoreVariable
      rw [if_neg fun hin => h (isCheckpointable_iff.mp hin)]
    rw [List.foldlM_cons, hignored]
    rfl
  · rfl

theorem restoreVariables_insert (p : String × Json → Bool)
    (value : Json) (values : List (String × Json)) :
    ((Assoc.insert key value values).filter p).foldlM
        (fun context entry => restoreVariable entry context) a =
      (values.filter p).foldlM (fun context entry => restoreVariable entry context) a := by
  induction values generalizing a with
  | nil => exact restoreVariables_skip h p value []
  | cons entry rest ih =>
    obtain ⟨k, v⟩ := entry
    unfold Assoc.insert
    by_cases hk : k = key
    · rw [if_pos hk, restoreVariables_skip h, hk, restoreVariables_skip h]
    · rw [if_neg hk, List.filter_cons, List.filter_cons]
      split
      · rw [List.foldlM_cons, List.foldlM_cons]
        cases hentry : restoreVariable (k, v) a with
        | error e => rfl
        | ok next => exact ih ((spared_restoreVariable hentry).keys ▸ h)
      · exact ih h

/-- A value whose key is not on the allowlist is passed over. -/
theorem restore_insert (hreserved : key ∉ reservedKeys)
    (value : Json) (values : List (String × Json)) :
    a.restoreCheckpointValues (Assoc.insert key value values) =
      a.restoreCheckpointValues values := by
  have hne : ∀ reserved ∈ reservedKeys, reserved ≠ key :=
    fun reserved hmem heq => hreserved (heq ▸ hmem)
  unfold restoreCheckpointValues
  rw [lookup_insert_ne (hne _ (by decide)), lookup_insert_ne (hne _ (by decide))]
  cases hspaces : restoreNamespacedVars (values.lookup "__namespaced_vars") a with
  | error e => rfl
  | ok first =>
    have hfirst := (spared_restoreNamespacedVars hspaces).keys
    cases horder : restoreStepOrder (values.lookup "__step_order") first with
    | error e => simp only [bind, Except.bind, horder]
    | ok second =>
      have hsecond := (spared_restoreStepOrder horder).keys.trans hfirst
      simp only [bind, Except.bind, horder]
      exact restoreVariables_insert (hsecond ▸ h) _ value values

end

end StepContext

/-! ### Executors -/

/-- An executor that sets variables, and answers by what is written down of its context. -/
structure Replayable
    (execute : StepDef → StepContext → Except EngineError StepOutcome × StepContext) : Prop where
  sets : ∀ step context, ∃ writes, (execute step context).2 = context.setAll writes
  same : ∀ step a b, a.SamePersisted b → b.currentStepId = a.currentStepId →
    (execute step b).1 = (execute step a).1 ∧ (execute step a).2.SamePersisted (execute step b).2

/-- What two executions have in common. -/
structure Replayed (a b : StepContext)
    (x y : Except EngineError StepOutcome × StepContext) : Prop where
  answer : y.1 = x.1
  context : x.2.SamePersisted y.2
  currentStepId : y.2.currentStepId = x.2.currentStepId
  grown : b.Grown y.2

section Execution

variable (cfg : RunnerConfig) {input : LoopInput} {a b : StepContext}

theorem executeStep_replayed (h : Replayable input.execute) (hab : a.SamePersisted b)
    (hstep : b.currentStepId = a.currentStepId) (stepId : String) :
    Replayed a b (executeStep cfg input stepId a) (executeStep cfg input stepId b) := by
  unfold executeStep
  split
  · exact ⟨rfl, hab, hstep, .refl b⟩
  · rename_i step _
    split
    · obtain ⟨hanswer, hcontext⟩ := h.same step a b hab hstep
      obtain ⟨writes, hwrites⟩ := h.sets step a
      obtain ⟨writes', hwrites'⟩ := h.sets step b
      refine ⟨hanswer, hcontext, ?_, ?_⟩
      · rw [hwrites, hwrites', StepContext.currentStepId_setAll, StepContext.currentStepId_setAll,
          hstep]
      · rw [hwrites']
        exact StepContext.grown_setAll writes' b
    · exact ⟨rfl, hab, hstep, .refl b⟩

/-- **What the loop makes of an execution is the same for the same that is written down.** -/
theorem executeCurrentStep_replayed (h : Replayable input.execute) (hab : a.SamePersisted b)
    (hstep : b.currentStepId = a.currentStepId) (stepId : String) :
    Replayed a b (executeCurrentStep cfg input stepId a)
      (executeCurrentStep cfg input stepId b) := by
  have hexecuted := executeStep_replayed cfg h hab hstep stepId
  have hdiagnosed : ∀ {x y : Except EngineError StepOutcome × StepContext} (text : String),
      Replayed a b x y → Replayed a b (.ok .fatal, x.2.set "diagnostic" text)
        (.ok .fatal, y.2.set "diagnostic" text) :=
    fun text hxy => ⟨rfl, hxy.context.set hxy.currentStepId _ text, hxy.currentStepId,
      hxy.grown.trans (StepContext.grown_set _ text _)⟩
  unfold executeCurrentStep
  rcases hx : executeStep cfg input stepId a with ⟨answer, context⟩
  rcases hy : executeStep cfg input stepId b with ⟨answer', context'⟩
  rw [hx, hy] at hexecuted
  obtain rfl : answer' = answer := hexecuted.answer
  cases answer' with
  | ok outcome => exact hexecuted
  | error e =>
    cases e with
    | stepExecutionError failed message =>
      dsimp only
      split
      · exact hdiagnosed _ hexecuted
      · exact ⟨rfl, hexecuted.context, hexecuted.currentStepId, hexecuted.grown⟩
    | toolUnavailable message => exact hdiagnosed _ hexecuted
    | _ => exact ⟨rfl, hexecuted.context, hexecuted.currentStepId, hexecuted.grown⟩

end Execution

end Luther
