/-
The context of a step: the variables that steps leave to each other.

Every variable is written twice, once under its bare name and once in the namespace of
the step that writes it.  What is written down in a checkpoint is what an allowlist
names; everything else is dropped.
-/
import Luther.Lib.Assoc
import Luther.Lib.Json
import Luther.Workflow.Tokens
import Mathlib.Data.List.Sort

namespace Luther

/-- The context keys a run may carry across a checkpoint. -/
def defaultCheckpointableContextKeys : List String :=
  ["issue_number", "primary_issue_number", "issue_title", "pr_number", "owner", "repo",
    "repository", "current_branch", "base_branch", "existing_pr_number", "head_ref", "head_sha",
    "base_ref", "base_sha"]

/-- Variables for the steps of one run. -/
structure StepContext where
  «variables» : List (String × String)
  currentStepId : Option String := none
  /-- The steps in the order they were executed, without immediate repetitions. -/
  stepOrder : List String := []
  namespacedVars : List (String × List (String × String)) := []
  /-- The keys that may cross a checkpoint. -/
  checkpointableKeys : List String := defaultCheckpointableContextKeys

/-- Why a checkpoint's context cannot be restored. -/
inductive RestoreError where
  /-- A reserved value is not of the type it is written with. -/
  | malformed (key : String)
  | notAString (key : String)

/-- The text of the error; for a malformed value the text is the parser's own. -/
def RestoreError.text : RestoreError → String
  | malformed key => s!"invalid type for {key}"
  | notAString key => s!"checkpoint value for allowlisted key '{key}' is not a string"

namespace StepContext

/-- `build`: the built-in variables. -/
def build (workDir runId : String) : StepContext where
  «variables» := Assoc.insert "run_id" runId (Assoc.insert "work_dir" workDir [])

def withCheckpointableKeys (keys : List String) (context : StepContext) : StepContext :=
  { context with checkpointableKeys := keys }

def isCheckpointableContextKey (context : StepContext) (key : String) : Bool :=
  context.checkpointableKeys.contains key

def setCurrentStepId (stepId : String) (context : StepContext) : StepContext :=
  { context with
    currentStepId := some stepId
    stepOrder :=
      if context.stepOrder.getLast? ≠ some stepId then context.stepOrder ++ [stepId]
      else context.stepOrder
    «variables» := Assoc.insert "current_step_id" stepId context.variables }

/-- `set`: in the namespace of the current step, if there is one, and under the bare key. -/
def set (key value : String) (context : StepContext) : StepContext :=
  { context with
    «variables» := Assoc.insert key value context.variables
    namespacedVars :=
      match context.currentStepId with
      | some stepId =>
        Assoc.insert stepId
          (Assoc.insert key value ((context.namespacedVars.lookup stepId).getD []))
          context.namespacedVars
      | none => context.namespacedVars }

def setAll (writes : List (String × String)) (context : StepContext) : StepContext :=
  writes.foldl (fun context write => context.set write.1 write.2) context

/-- What stands before the first dot of a key, and after it. -/
def splitAtDot (key : String) : Option (String × String) :=
  let before := key.toList.takeWhile (· ≠ '.')
  if before.length = key.toList.length then none
  else some (String.ofList before, String.ofList (key.toList.drop (before.length + 1)))

/-- The value of a key without a dot: the last step that wrote it, the configuration, the
bare variable. -/
def getBare (key : String) (context : StepContext) : Option String :=
  let written := context.stepOrder.reverse.findSome? fun stepId =>
    (context.namespacedVars.lookup stepId).bind (List.lookup key)
  written.or <|
    ((context.namespacedVars.lookup "config").bind (List.lookup key)).or
      (context.variables.lookup key)

def get (key : String) (context : StepContext) : Option String :=
  match splitAtDot key with
  | some (stepId, varName) => (context.namespacedVars.lookup stepId).bind (List.lookup varName)
  | none =>
    (context.getBare key).or
      (if key = "issue_number" then context.getBare "primary_issue_number" else none)

def checkpointable (context : StepContext) (vars : List (String × String)) :
    List (String × String) :=
  vars.filter fun entry => context.isCheckpointableContextKey entry.1

def checkpointValues (context : StepContext) : List (String × Json) :=
  let values := (context.checkpointable context.variables).map fun entry => (entry.1, Json.str entry.2)
  let namespacedVars :=
    context.namespacedVars.map fun entry => (entry.1, context.checkpointable entry.2)
  Assoc.insert "__step_order" (.arr (context.stepOrder.map .str)) <|
    Assoc.insert "__namespaced_vars" (Json.ofMap (Json.ofMap .str) namespacedVars) values

/-- The first loop over `__namespaced_vars`: the namespaces as they are written, cut to the
allowlist. -/
def restoreNamespacedVars (value : Option Json) (context : StepContext) :
    Except RestoreError StepContext :=
  match value with
  | none => .ok context
  | some value =>
    match value.toMap? (Json.toMap? Json.asStr?) with
    | none => .error (.malformed "__namespaced_vars")
    | some raw => .ok
        { context with
          namespacedVars := raw.map fun entry => (entry.1, context.checkpointable entry.2) }

/-- The same of `__step_order`. -/
def restoreStepOrder (value : Option Json) (context : StepContext) :
    Except RestoreError StepContext :=
  match value with
  | none => .ok context
  | some value =>
    match value.toStrings? with
    | none => .error (.malformed "__step_order")
    | some stepOrder => .ok { context with stepOrder := stepOrder }

/-- One of the other values: only an allowlisted key is looked at. -/
def restoreVariable (entry : String × Json) (context : StepContext) :
    Except RestoreError StepContext :=
  if context.isCheckpointableContextKey entry.1 then
    match entry.2.asStr? with
    | none => .error (.notAString entry.1)
    | some restored => .ok
        { context with «variables» := Assoc.insert entry.1 restored context.variables }
  else .ok context

def restoreCheckpointValues (values : List (String × Json)) (context : StepContext) :
    Except RestoreError StepContext := do
  let context ← restoreNamespacedVars (values.lookup "__namespaced_vars") context
  let context ← restoreStepOrder (values.lookup "__step_order") context
  let others := values.filter fun entry =>
    entry.1 != "__namespaced_vars" && entry.1 != "__step_order"
  others.foldlM (fun context entry => restoreVariable entry context) context

/-- The context is restored in place: what comes before a value that is refused stays. -/
def afterRestoreVariables : List (String × Json) → StepContext → StepContext
  | [], context => context
  | entry :: rest, context =>
    match restoreVariable entry context with
    | .ok context => afterRestoreVariables rest context
    | .error _ => context

/-- The context that `restore_checkpoint_values` leaves, also where it fails. -/
def afterRestore (values : List (String × Json)) (context : StepContext) : StepContext :=
  match restoreNamespacedVars (values.lookup "__namespaced_vars") context with
  | .error _ => context
  | .ok context =>
    match restoreStepOrder (values.lookup "__step_order") context with
    | .error _ => context
    | .ok context =>
      let others := values.filter fun entry =>
        entry.1 != "__namespaced_vars" && entry.1 != "__step_order"
      afterRestoreVariables others context

end StepContext

end Luther

/-
Variables put into a template, and the tokens that a template is expected to hold.

A template is gone through once for every name that the context knows, the longest name first, and
each reference of the name is replaced in what the names before it have made of the template.
Names of one length are taken in the order they are collected in: those of the namespaces first,
and within each group as the maps of the context are iterated.

The tokens are looked for independently of any context, and more strictly: a name is an
identifier, or two of them with a dot between, and behind a dollar it is the shell's.
-/

namespace Luther

namespace StepContext

def addNames (known names : List String) : List String :=
  names.foldl (fun known name => if known.contains name then known else known ++ [name]) known

/-- The names that `interpolate_string` collects, where the maps give their entries in this order. -/
def collectedKeys (context : StepContext) (steps : List (String × List (String × String)))
    (flat : List (String × String)) : List String :=
  let namespaced := steps.flatMap fun entry => entry.2.map fun v => entry.1 ++ "." ++ v.1
  let bare := steps.flatMap fun entry => entry.2.map Prod.fst
  let keys := addNames (addNames namespaced bare) (flat.map Prod.fst)
  let builtIn := addNames keys ["work_dir", "run_id"]
  if (context.get "issue_number").isSome then addNames builtIn ["issue_number"] else builtIn

def interpolationKeys (context : StepContext) : List String :=
  context.collectedKeys context.namespacedVars context.variables

/-- The namespaces and the variables in each of them, in another order. -/
def Iterated (maps steps : List (String × List (String × String))) : Prop :=
  ∃ outer, outer.Perm maps ∧ List.Forall₂ (fun a b => a.1 = b.1 ∧ a.2.Perm b.2) outer steps

/-- An order in which the names may be gone through: a map gives its entries in any order, and the
sort by length leaves names of one length as they were collected. -/
structure InterpolationOrder (context : StepContext) (order : List String) : Prop where
  collected : ∃ steps flat, Iterated context.namespacedVars steps ∧ flat.Perm context.variables ∧
    order = (context.collectedKeys steps flat).insertionSort fun a b =>
      b.utf8ByteSize ≤ a.utf8ByteSize

def interpolateKey (context : StepContext) (text key : String) : String :=
  match context.get key with
  | some value => replaceText (Tokens.reference key) value text
  | none => text

def interpolateString (order : List String) (template : String) (context : StepContext) : String :=
  order.foldl context.interpolateKey template

end StepContext

end Luther
