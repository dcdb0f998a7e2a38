/-
When a context reads what was written into it last.

A write goes to the namespace of the step that is active and to the bare variables.  A bare key is
then looked for in the namespaces of the steps, the last one first, in the configuration's, and at
last among the bare variables; a key with a dot is only looked for in the namespace that it names.
So a bare write is seen unless a namespace in front of the active step's has the key already, and a
write under a dotted key is never seen at all: it does not reach the namespace that it names.
-/
import Luther.Engine.Seeding
import Luther.Lib.Layers
import Luther.Lib.StateMachine

namespace Luther

open Layers

namespace StepContext

variable {context : StepContext} {key other value : String}

/-! ### Keys with a dot -/

theorem splitAtDot_eq_none : splitAtDot key = none ↔ '.' ∉ key.toList := by
  unfold splitAtDot
  dsimp only
  constructor
  · intro h hdot
    split at h
    · rename_i hlength
      have hall : key.toList.takeWhile (fun c => decide (c ≠ '.')) = key.toList :=
        (List.takeWhile_prefix _).eq_of_length hlength
      have hmem := List.mem_takeWhile_imp (hall ▸ hdot)
      simp at hmem
    · cases h
  · intro h
    have hall : key.toList.takeWhile (fun c => decide (c ≠ '.')) = key.toList := by
      refine List.takeWhile_eq_self_iff.mpr fun c hc => ?_
      rw [decide_eq_true_eq]
      exact fun heq => h (heq ▸ hc)
    rw [hall, if_pos rfl]

variable {name step : String}

theorem name_ne_of_splitAtDot (h : splitAtDot key = some (step, name)) :
    name ≠ key := by
  unfold splitAtDot at h
  dsimp only at h
  split at h
  · cases h
  · obtain ⟨-, rfl⟩ := Prod.mk.inj (Option.some.inj h)
    intro heq
    have hlength := congrArg (fun text : String => text.toList.length) heq
    rw [String.toList_ofList, List.length_drop] at hlength
    have hle := (List.takeWhile_prefix (p := fun c => decide (c ≠ '.')) (l := key.toList)).length_le
    omega

/-! ### What a bare key reads -/

/-- The namespaces in the order in which a bare key is looked for in them. -/
def searched (context : StepContext) : List String := context.stepOrder.reverse ++ ["config"]

/-- The namespaces that are searched before the one that is written. -/
def inFront (context : StepContext) : List String :=
  context.searched.takeWhile fun step => decide (context.currentStepId ≠ some step)

/-- The value that comes before a write under a bare key. -/
def shadow (key : String) (context : StepContext) : Option String :=
  Layers.read context.inFront key context.namespacedVars

theorem getBare_eq : context.getBare key =
    (Layers.read context.searched key context.namespacedVars).or (context.variables.lookup key) := by
  unfold searched getBare
  rw [read_append, Option.or_assoc, read_cons, read_nil, Option.or_none]
  rfl

theorem get_of_dotted (h : splitAtDot key = some (step, name)) :
    context.get key = Layers.inLayer step name context.namespacedVars := by
  unfold get
  rw [h]
  rfl

theorem get_of_bare (h : splitAtDot key = none)
    (hkey : (context.variables.lookup key).isSome) :
    context.get key = context.getBare key := by
  obtain ⟨v, hv⟩ := Option.isSome_iff_exists.mp hkey
  have hsome : (context.getBare key).isSome = true := by
    rw [getBare_eq, Option.isSome_or, hv, Option.isSome_some, Bool.or_true]
  obtain ⟨w, hw⟩ := Option.isSome_iff_exists.mp hsome
  unfold get
  rw [h, hw]
  rfl

/-! ### What a write changes -/

@[simp] theorem variables_set (key value : String) (context : StepContext) :
    (context.set key value).variables = Assoc.insert key value context.variables := rfl

@[simp] theorem searched_set (key value : String) (context : StepContext) :
    (context.set key value).searched = context.searched := rfl

theorem namespacedVars_set_of_some (h : context.currentStepId = some step) (key value : String) :
    (context.set key value).namespacedVars =
      Layers.write step key value context.namespacedVars := by
  unfold set
  rw [h]
  rfl

theorem namespacedVars_set_of_none (h : context.currentStepId = none) (key value : String) :
    (context.set key value).namespacedVars = context.namespacedVars := by
  unfold set
  rw [h]

theorem inLayer_set_ne (h : context.currentStepId ≠ some step ∨ name ≠ key) :
    Layers.inLayer step name (context.set key value).namespacedVars =
      Layers.inLayer step name context.namespacedVars := by
  cases hcurrent : context.currentStepId with
  | none => rw [namespacedVars_set_of_none hcurrent]
  | some current =>
    rw [namespacedVars_set_of_some hcurrent]
    refine inLayer_write_ne (h.imp_left fun hne hstep => hne ?_) value
    rw [hcurrent, hstep]

theorem getBare_set_self :
    (context.set key value).getBare key = (context.shadow key).or (some value) := by
  rw [getBare_eq, searched_set, variables_set, Assoc.lookup_insert_self]
  unfold shadow inFront
  cases hcurrent : context.currentStepId with
  | none =>
    have hall : (context.searched.takeWhile fun step => decide (none ≠ some step)) =
        context.searched := List.takeWhile_eq_self_iff.mpr fun step _ => rfl
    rw [namespacedVars_set_of_none hcurrent, hall]
  | some current =>
    have hfront : (context.searched.takeWhile fun step => decide (some current ≠ some step)) =
        context.searched.takeWhile fun step => decide (step ≠ current) := by
      congr 1
      funext step
      simp [eq_comm]
    rw [namespacedVars_set_of_some hcurrent, read_write_self, hfront]
    by_cases hmem : current ∈ context.searched
    · rw [if_pos hmem, Option.or_assoc]
      rfl
    · rw [if_neg hmem, Option.or_none]

theorem getBare_set_ne (h : other ≠ key) :
    (context.set key value).getBare other = context.getBare other := by
  rw [getBare_eq, getBare_eq, searched_set, variables_set, Assoc.lookup_insert_ne h]
  congr 1
  exact read_congr fun step _ => inLayer_set_ne (Or.inr h)

/-! ### Reading back -/

/-- A write is read back, and no key that was written before reads differently for it. -/
def ReadsBack (context : StepContext) (key value : String) : Prop :=
  (context.set key value).get key = some value ∧
    ∀ other ∈ context.variables.map Prod.fst, other ≠ key →
      (context.set key value).get other = context.get other

/-- **Where a write is seen.** Under a bare key: no namespace in front of the written one has
another value.  Under a dotted key: the namespace that it names has the value already. -/
def Visible (context : StepContext) (key value : String) : Prop :=
  match splitAtDot key with
  | none => ∀ before, context.shadow key = some before → before = value
  | some (step, name) => Layers.inLayer step name context.namespacedVars = some value

/-- **Where a write is not seen under another name**: no key that was written before names the
key in the active step's namespace, unless it has the value already. -/
def Unnamed (context : StepContext) (key value : String) : Prop :=
  ∀ other ∈ context.variables.map Prod.fst, ∀ step, splitAtDot other = some (step, key) →
    context.currentStepId = some step →
      Layers.inLayer step key context.namespacedVars = some value

theorem get_set_self_iff :
    (context.set key value).get key = some value ↔ context.Visible key value := by
  unfold Visible
  cases hsplit : splitAtDot key with
  | none =>
    have hkey : ((context.set key value).variables.lookup key).isSome = true := by
      rw [variables_set, Assoc.lookup_insert_self, Option.isSome_some]
    rw [get_of_bare hsplit hkey, getBare_set_self]
    cases context.shadow key with
    | none => simp
    | some before => simp
  | some parts =>
    obtain ⟨step, name⟩ := parts
    rw [get_of_dotted hsplit, inLayer_set_ne (Or.inr (name_ne_of_splitAtDot hsplit))]

theorem isSome_lookup_of_mem {vars : List (String × String)} (h : key ∈ vars.map Prod.fst) :
    (vars.lookup key).isSome = true := by
  refine Option.isSome_iff_ne_none.mpr fun hnone => ?_
  obtain ⟨entry, hentry, rfl⟩ := List.mem_map.mp h
  exact absurd (List.lookup_eq_none_iff.mp hnone entry hentry) (by simp)

theorem get_set_ne_bare (hsplit : splitAtDot other = none) (hne : other ≠ key)
    (hmem : other ∈ context.variables.map Prod.fst) :
    (context.set key value).get other = context.get other := by
  have hbefore := isSome_lookup_of_mem hmem
  have hafter : ((context.set key value).variables.lookup other).isSome = true := by
    rw [variables_set, Assoc.lookup_insert_ne hne]
    exact hbefore
  rw [get_of_bare hsplit hafter, get_of_bare hsplit hbefore, getBare_set_ne hne]

/-- **A write is read back, and changes nothing else that was written, exactly where it is seen and
has no other name.** -/
theorem readsBack_iff :
    context.ReadsBack key value ↔ context.Visible key value ∧ context.Unnamed key value := by
  unfold ReadsBack
  rw [get_set_self_iff]
  refine and_congr_right fun _ => ⟨fun h other hmem step hsplit hcurrent => ?_,
    fun h other hmem hne => ?_⟩
  · have hne : other ≠ key := fun heq => name_ne_of_splitAtDot hsplit heq.symm
    have hsame := h other hmem hne
    rw [get_of_dotted hsplit, get_of_dotted hsplit, namespacedVars_set_of_some hcurrent,
      inLayer_write_self] at hsame
    exact hsame.symm
  · cases hsplit : splitAtDot other with
    | none => exact get_set_ne_bare hsplit hne hmem
    | some parts =>
      obtain ⟨step, name⟩ := parts
      rw [get_of_dotted hsplit, get_of_dotted hsplit]
      by_cases hwritten : context.currentStepId = some step ∧ name = key
      · obtain ⟨hcurrent, rfl⟩ := hwritten
        rw [namespacedVars_set_of_some hcurrent, inLayer_write_self]
        exact (h other hmem step hsplit hcurrent).symm
      · rw [not_and_or] at hwritten
        exact inLayer_set_ne hwritten

/-! ### Several writes -/

theorem namespacedVars_setAll (h : context.currentStepId = none)
    (writes : List (String × String)) :
    (context.setAll writes).namespacedVars = context.namespacedVars := by
  unfold setAll
  induction writes generalizing context with
  | nil => rfl
  | cons write rest ih =>
    rw [List.foldl_cons, @ih (context.set write.1 write.2) h, namespacedVars_set_of_none h]

theorem lookup_variables_setAll (writes : List (String × String)) (context : StepContext) :
    (context.setAll writes).variables.lookup key =
      (writes.reverse.lookup key).or (context.variables.lookup key) := by
  unfold setAll
  induction writes generalizing context with
  | nil => rfl
  | cons write rest ih =>
    rw [List.foldl_cons, ih, List.reverse_cons, List.lookup_append, variables_set, Option.or_assoc]
    congr 1
    by_cases hkey : key = write.1
    · rw [hkey, Assoc.lookup_insert_self, List.lookup_cons, beq_self_eq_true]
      rfl
    · rw [Assoc.lookup_insert_ne hkey]
      have hne : (key == write.1) = false := beq_eq_false_iff_ne.mpr hkey
      rw [List.lookup_cons, hne]
      rfl

/-! ### Runs -/

/-- What is done with a context. -/
inductive Call where
  | setCurrentStepId (stepId : String)
  | set (key value : String)
  | restoreCheckpointValues (values : List (String × Json))

def machine : StateMachine StepContext Call Unit where
  start context := ∃ workDir runId keys,
    context = (build workDir runId).withCheckpointableKeys keys
  step context call := ((),
    match call with
    | .setCurrentStepId stepId => context.setCurrentStepId stepId
    | .set key value => context.set key value
    | .restoreCheckpointValues values => context.afterRestore values)

def Call.ReadsBack (context : StepContext) : Call → Prop
  | set key value => context.ReadsBack key value
  | setCurrentStepId _ | restoreCheckpointValues _ => True

/-- The call is no write, or one that is seen and has no other name. -/
def Call.Plain (context : StepContext) : Call → Prop
  | set key value => context.Visible key value ∧ context.Unnamed key value
  | setCurrentStepId _ | restoreCheckpointValues _ => True

theorem call_readsBack_iff (context : StepContext) (call : Call) :
    call.ReadsBack context ↔ call.Plain context := by
  cases call with
  | set key value => exact readsBack_iff
  | setCurrentStepId stepId => exact Iff.rfl
  | restoreCheckpointValues values => exact Iff.rfl

end StepContext

/-! ### The context of a run -/

namespace WorkflowInstance

variable (tempDir : String) (inst : WorkflowInstance) (run : Option RunContext)

theorem buildStepContext_eq_run : inst.buildStepContext tempDir run =
    StepContext.machine.run (StepContext.build (inst.resolveFinalWorkDir tempDir run) inst.runId)
      ((inst.seeds tempDir run).map fun seed => .set seed.1 seed.2) := by
  unfold buildStepContext StepContext.setAll StateMachine.run
  rw [List.foldl_map]
  rfl

theorem namespacedVars_buildStepContext :
    (inst.buildStepContext tempDir run).namespacedVars = [] :=
  StepContext.namespacedVars_setAll rfl _

/-- **What is seeded is read back exactly where its name has no dot.** -/
theorem get_buildStepContext {name : String} (h : name ∈ (inst.seeds tempDir run).map Prod.fst) :
    (inst.buildStepContext tempDir run).get name = (inst.seeds tempDir run).reverse.lookup name ↔
      '.' ∉ name.toList := by
  have hseed : ((inst.seeds tempDir run).reverse.lookup name).isSome = true :=
    StepContext.isSome_lookup_of_mem (by rw [List.map_reverse]; exact List.mem_reverse.mpr h)
  obtain ⟨value, hvalue⟩ := Option.isSome_iff_exists.mp hseed
  have hflat : (inst.buildStepContext tempDir run).variables.lookup name = some value := by
    unfold buildStepContext
    rw [StepContext.lookup_variables_setAll, hvalue, Option.some_or]
  rw [← StepContext.splitAtDot_eq_none, hvalue]
  cases hsplit : StepContext.splitAtDot name with
  | none =>
    rw [StepContext.get_of_bare hsplit (by rw [hflat]; rfl), StepContext.getBare_eq, hflat,
      namespacedVars_buildStepContext]
    have hempty : ∀ order, Layers.read order name
        ([] : List (String × List (String × String))) = none := by
      intro order
      exact List.findSome?_eq_none_iff.mpr fun _ _ => rfl
    rw [hempty]
    simp
  | some parts =>
    obtain ⟨step, rest⟩ := parts
    rw [StepContext.get_of_dotted hsplit, namespacedVars_buildStepContext]
    simp [Layers.inLayer]

end WorkflowInstance

/-- **A context reads its latest writes, exactly where they are plain.** Along every run of a
context: each write is read back, and changes nothing else that was written, exactly when each is
seen under its key and has no other name.  And of what a run is seeded with, exactly the variables
whose names have no dot can be read under them. -/
theorem context_reads_latest_iff (context : StepContext) (calls : List StepContext.Call)
    (tempDir : String) (inst : WorkflowInstance) (run : Option RunContext) :
    (StepContext.machine.Along (fun context call => call.ReadsBack context) context calls ↔
      StepContext.machine.Along (fun context call => call.Plain context) context calls) ∧
    ∀ name ∈ (inst.seeds tempDir run).map Prod.fst,
      ((inst.buildStepContext tempDir run).get name =
        (inst.seeds tempDir run).reverse.lookup name ↔ '.' ∉ name.toList) :=
  ⟨StateMachine.along_congr (P := fun _ => True) ⟨fun _ _ => trivial, fun _ _ _ => trivial⟩
      (fun context call _ => StepContext.call_readsBack_iff context call) trivial calls,
    fun _ h => inst.get_buildStepContext tempDir run h⟩

/-- A configuration whose children run another configuration than the default. -/
def childInstance : WorkflowInstance where
  config := { configId := "parent", parentOrchestration := { childConfigId := "my-children" } }
  runId := "run-1"

/-- The configuration of the children is seeded and cannot be read; nor can a write under a
dotted key, while a write of the step it names changes what is read under it. -/
theorem seeded_child_config_unread :
    ("parent_orchestration.child_config_id", "my-children") ∈ childInstance.seeds "/tmp" none ∧
      (childInstance.buildStepContext "/tmp" none).get "parent_orchestration.child_config_id"
        = none ∧
      ¬ StepContext.machine.Along (fun context call => call.ReadsBack context)
        (StepContext.build "/work" "run-1") [.set "plan.summary" "first"] ∧
      ((((StepContext.build "/work" "run-1").set "plan.summary" "first").setCurrentStepId
        "plan").set "summary" "second").get "plan.summary" = some "second" := by
  refine ⟨by decide, by decide, ?_, by decide⟩
  intro h
  exact absurd h.1.1 (by decide)

end Luther
