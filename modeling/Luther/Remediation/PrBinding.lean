/-
The pull request that a step of a remediation works for.

A step is given the identity of its pull request by its parameters, by the context, or by
defaults.  With it the step looks for the artifact that the capture of the identity has
written, and goes by what that says.  Where there is none the step falls back on a harness:
unless a file stands there already it writes an identity, a failed check, a finding and the
evaluation of it, and goes by those.
-/
import Luther.Engine.StepContext
import Luther.Remediation.RemediationPlan

namespace Luther

/-! ### Parameters -/

/-- What a step is executed with. -/
structure StepInput where
  runId : String
  workDir : String
  context : StepContext
  params : Json
  /-- The order in which the names of the context are put into a template. -/
  order : List String
  ordered : context.InterpolationOrder order
  /-- A step that is executed has a name. -/
  identified : context.get "current_step_id" ≠ some ""

def hasUnresolvedTemplate (value : String) : Bool :=
  value.toList.contains '{' || value.toList.contains '}'

def isResolved (value : String) : Bool := value != "" && !hasUnresolvedTemplate value

/-- The error of `str::parse::<u64>`, behind digits that are read. -/
def parseU64ErrorFrom : Nat → List Char → String
  | _, [] => "cannot parse integer from empty string"
  | read, c :: rest =>
    if !c.isDigit then "invalid digit found in string"
    else
      let next := read * 10 + (c.toNat - 48)
      if 2 ^ 64 ≤ next then "number too large to fit in target type"
      else parseU64ErrorFrom next rest

namespace StepInput

/-- `interpolate_string`. -/
def interpolate (template : String) (input : StepInput) : String :=
  input.context.interpolateString input.order template

/-- A parameter of text, with the context put in. -/
def textParam (key : String) (input : StepInput) : Option String :=
  (fieldText key input.params).map fun template => input.interpolate template

def stringParam (key default : String) (input : StepInput) : String :=
  (((input.textParam key).filter isResolved).or
    ((input.context.get key).filter isResolved)).getD default

def stringIdentityIsExplicit (key : String) (input : StepInput) : Bool :=
  (((input.textParam key).filter isResolved).or (input.context.get key)).any isResolved

section

variable (input : StepInput)

/-- The text that `explicit_pr_number` reads the number from. -/
def prNumberText : Except String (Option String) :=
  match input.params.get? "pr_number" with
  | some (.str template) =>
    let value := input.interpolate template
    .ok (if isResolved value then some value else input.context.get "pr_number")
  | some (.num n) =>
    match (Json.num n).asU64? with
    | some number => .ok (some number.repr)
    | none => .error s!"invalid pr_number {n}: expected a positive integer"
  | some value => .error s!"invalid pr_number {value.render}: expected an integer or numeric string"
  | none => .ok (input.context.get "pr_number")

def explicitPrNumber : Except String (Option UInt64) := do
  let resolved ← input.prNumberText
  match resolved.filter isResolved with
  | none => .ok none
  | some raw =>
    match parseU64 raw.toList with
    | none => .error s!"invalid pr_number '{raw}': {parseU64ErrorFrom 0 (withoutPlus raw.toList)}"
    | some 0 => .error "invalid pr_number '0': expected a positive integer"
    | some number => .ok (some (UInt64.ofNat number))

def requestedPrIdentityIsExplicit (explicitPr : Option UInt64) (input : StepInput) : Bool :=
  explicitPr.isSome &&
    ["repository_owner", "repository_name"].all fun key => input.stringIdentityIsExplicit key

def bindingFromParams : Except String PrFollowupBinding := do
  let explicitPr ← input.explicitPrNumber
  .ok
    { schemaVersion := 1
      runId := input.runId
      repositoryOwner := input.stringParam "repository_owner" "example"
      repositoryName := input.stringParam "repository_name" "workflow"
      prNumber := explicitPr.getD 1910
      headRef := input.stringParam "head_ref" "feature"
      headSha := input.stringParam "head_sha" "aaaaaaaaaaaaaaaaaaaaaaaaaaaaaaaaaaaaaaaa"
      baseRef := input.stringParam "base_ref" "main"
      baseSha := some (input.stringParam "base_sha" "base-a") }

/-- The binding that is looked up: its number is 0 unless the identity is explicit. -/
def lookupBinding (requested : PrFollowupBinding) (input : StepInput) :
    Except String PrFollowupBinding := do
  let explicitPr ← input.explicitPrNumber
  .ok (if input.requestedPrIdentityIsExplicit explicitPr then requested
    else { requested with prNumber := 0 })

def artifactRoot : Except String String :=
  match (fieldText "artifact_root" input.params).filter fun value => value != "" with
  | none => .error "missing artifact_root"
  | some raw =>
    let interpolated := input.interpolate raw
    if hasUnresolvedTemplate interpolated then
      .error s!"artifact_root contains unresolved template token: {interpolated}"
    else .ok (if interpolated.toList.head? = some '/' then interpolated
      else input.workDir ++ "/" ++ interpolated)

end

def currentStepId (default : String) (input : StepInput) : String :=
  (input.context.get "current_step_id").getD default

theorem currentStepId_ne_empty {default : String} (hdefault : default ≠ "")
    (input : StepInput) : input.currentStepId default ≠ "" := by
  unfold currentStepId
  cases h : input.context.get "current_step_id" with
  | none => exact hdefault
  | some id =>
    intro hempty
    apply input.identified
    rw [h]
    exact congrArg some hempty

end StepInput

/-! ### The harness -/

/-- What a lookup of the binding meets with. -/
structure BindingRun extends DiscoveryRun where
  /-- What `canonicalize_root` says, where it fails. -/
  rootFault : Option String := none
  /-- The clock, as the payload of a document reads it. -/
  now : Nat → Timestamp
  writtenAt : Nat → Timestamp
  publication : Nat → Publication := fun _ => .published

/-- The identity that `ensure_legacy_harness_inputs` writes. -/
def legacyHarnessPr (now : Timestamp) : Json :=
  .obj
    [("pr_url", .str "https://github.com/example/workflow/pull/1910"),
     ("capture_state", .str "captured"),
     ("captured_at", .str now.toRfc3339),
     ("source", .str legacyHarness),
     ("source_pr_node_id", .str "PR_legacy_harness"),
     ("source_head_repository_owner", .null),
     ("source_head_repository_name", .null)]

def legacyHarnessCiFailures : Json :=
  .obj
    [("collection_state", .str "collected"),
     ("failures", .arr [.obj
      [("failure_id", .str "ci-build"),
       ("check_id", .str "check-build"),
       ("check_name", .str "build"),
       ("state", .str "completed"),
       ("conclusion", .str "failure"),
       ("url", .str "https://github.com/example/workflow/actions/runs/1"),
       ("run_id", .str "1"),
       ("job_id", .str "2"),
       ("log_status", .str "available"),
       ("log_excerpt", .str "build failed"),
       ("log_excerpt_path", .null),
       ("raw_log_path", .null),
       ("collection_error", .null)]]),
     ("pending_or_unknown", .arr []),
     ("watcher_fatal_source", .null),
     ("fatal_source", .null),
     ("log_artifacts", .arr []),
     ("source_check_status_artifact_sequence", .num 1)]

section

variable (binding : PrFollowupBinding)

def legacyHarnessFeedback : Json :=
  .obj
    [("readiness_state", .str "ready"),
     ("stable_observation_count", .num 2),
     ("required_stable_observations", .num 2),
     ("max_observations", .num 6),
     ("observation_interval_seconds", .num 300),
     ("observations", .arr []),
     ("items", .arr [.obj
      [("item_id", .str "cr-valid"),
       ("stable_marker_key", .str "thread-valid"),
       ("body_hash", .str "hash-valid"),
       ("commit_sha", .str binding.headSha)]]),
     ("included_bot_identities", .arr [.str "coderabbitai[bot]"]),
     ("feedback_item_set_hash", .str "fnv64:p10-legacy")]

def legacyHarnessEvaluations (now : Timestamp) : Json :=
  .obj
    [("evaluation_state", .str "complete"),
     ("items_seen", .num 1),
     ("accepted_results", .arr [.obj
      [("item_id", .str "cr-valid"),
       ("stable_marker_key", .str "thread-valid"),
       ("body_hash", .str "hash-valid"),
       ("head_sha", .str binding.headSha),
       ("decision", .str "valid"),
       ("reason", .str "valid feedback"),
       ("recommended_action", .str "fix valid feedback"),
       ("accepted_at", .str now.toRfc3339),
       ("attempt_count", .num 1),
       ("source", .str legacyHarness),
       ("reuse_state", .str "not_reused")]]),
     ("rejected_attempts", .arr []),
     ("unevaluated_items", .arr []),
     ("budget_exhausted_items", .arr []),
     ("max_attempts_per_item", .num 3),
     ("reused_results_count", .num 0)]

/-- The families of what is known of a pull request. -/
def evidenceFamilies : List String :=
  ["pr", ciFailuresFamily, "coderabbit-feedback", "feedback-evaluations"]

/-- The writes of `ensure_legacy_harness_inputs`, each under the name of another step. -/
def legacyHarnessRequests (run : BindingRun) : List JsonArtifactWriteRequest :=
  let request (place : Nat) (artifactFamily producerStepId : String) (stepOrderIndex : UInt64)
      (payload : Json) : JsonArtifactWriteRequest :=
    { binding := binding
      artifactFamily := artifactFamily
      producerStepId := producerStepId
      stepOrderIndex := stepOrderIndex
      writtenAt := run.writtenAt place
      producedAt := run.writtenAt place
      payload := payload }
  [request 0 "pr" "capture_pr_identity" 1 (legacyHarnessPr (run.now 0)),
    request 1 ciFailuresFamily "collect_ci_failures" 4 legacyHarnessCiFailures,
    request 2 "coderabbit-feedback" "collect_coderabbit_feedback" 5
      (legacyHarnessFeedback binding),
    request 3 "feedback-evaluations" "evaluate_coderabbit_feedback" 6
      (legacyHarnessEvaluations binding (run.now 3))]

end

section Lookup

variable (validate : FamilyInvariants)

def writeRequests (order : ListingOrder) :
    List (JsonArtifactWriteRequest × Publication) → Effect ArtifactStore Unit
  | [] => pure ()
  | (request, publication) :: rest => do
    let _ ← Effect.of (writeJsonArtifactLocked validate order request publication)
    writeRequests order rest

def ensureLegacyHarnessInputs (binding : PrFollowupBinding) (run : BindingRun) :
    Effect ArtifactStore Unit := do
  let store ← Effect.state
  if (store.currentFile binding "pr").isSome then pure ()
  else
    writeRequests validate run.order
      ((legacyHarnessRequests binding run).mapIdx fun place request =>
        (request, run.publication place))

/-- `binding_for_context`, behind the lookup: nothing was found. -/
def bindingFromHarness (requested : PrFollowupBinding) (run : BindingRun) :
    Effect ArtifactStore PrFollowupBinding := do
  ensureLegacyHarnessInputs validate requested run
  let store ← Effect.state
  match (readCurrentJson validate requested "pr" store).bind
      remediationBindingFromValue with
  | .error error => throw error
  | .ok binding => pure binding

/-- What the lookup of `binding_for_context` finds. -/
def StepInput.findPr (run : BindingRun) (tree : ArtifactTree) (input : StepInput) :
    Except String (Option Json) := do
  let requested ← input.bindingFromParams
  let lookup ← input.lookupBinding requested
  findCurrentPrArtifactForRun validate run.toDiscoveryRun input.runId lookup tree

def StepInput.bindingForContext (run : BindingRun) (input : StepInput) :
    Effect ArtifactTree PrFollowupBinding := do
  let tree ← Effect.state
  match input.findPr validate run tree with
  | .error error => throw error
  | .ok (some value) =>
    match remediationBindingFromValue value with
    | .error error => throw error
    | .ok binding => pure binding
  | .ok none =>
    match input.bindingFromParams with
    | .error error => throw error
    | .ok requested => onPullRequest requested (bindingFromHarness validate requested run)

end Lookup

/-! ### The steps -/

/-- `PrFollowupArtifactStore::with_filesystem`, at the root that the parameters name. -/
def StepInput.openStore (run : BindingRun) (input : StepInput) : Except String Unit :=
  match input.artifactRoot with
  | .error error => .error error
  | .ok _ =>
    match run.rootFault with
    | some error => .error error
    | none => .ok ()

def StepInput.planStep (binding : PrFollowupBinding) (input : StepInput) : PlanStep where
  binding := binding
  params := input.params
  stepId := input.currentStepId "build_remediation_plan"
  identified := input.currentStepId_ne_empty (by decide)

section Steps

variable (validate : FamilyInvariants)

/-- `write_fatal_plan`, where there is no pull request. -/
def writeFatalPlan (step : PlanStep) (run : PlanRun) (error : String) :
    Effect ArtifactStore StepOutcome :=
  Effect.of fun store =>
    let plan : RemediationPlanArtifact :=
      { planState := .fatal
        sourceArtifacts := [.obj [("artifact_family", .str "pr"), ("error", .str error)]]
        builtAt := run.builtAt }
    let (written, store) := writeJsonArtifactLocked validate run.order
      (planRequest step run plan
        (some ⟨"fatal", "missing_or_unbindable_pr", .obj [("error", .str error)]⟩))
      run.publication store
    (written.map fun _ => .fatal, store)

/-- `build_remediation_plan`, with the lookup of its pull request. -/
def StepInput.buildRemediationPlan (lookup : BindingRun) (run : PlanRun) (input : StepInput) :
    Effect ArtifactTree StepOutcome := do
  match input.openStore lookup, input.bindingFromParams with
  | .error error, _ => throw error
  | .ok (), .error error => throw error
  | .ok (), .ok fallback =>
    match ← Effect.attempt (input.bindingForContext validate lookup) with
    | .error error =>
      onPullRequest fallback
        (writeFatalPlan validate (input.planStep fallback) run error)
    | .ok binding =>
      onPullRequest binding
        (Luther.buildRemediationPlan validate (input.planStep binding) run)

/-- What the local verification is executed with. -/
structure PostPrTestInput extends StepInput where
  /-- What `post_pr_test_commands` makes of the parameters. -/
  commands : Except String (List PostPrTestCommandConfig)

/-- The step of the local verification, for a pull request. -/
def PostPrTestInput.step (binding : PrFollowupBinding) (input : PostPrTestInput) :
    PostPrTestStep where
  binding := binding
  params := input.params
  stepId := input.currentStepId "run_post_pr_tests"
  identified := input.currentStepId_ne_empty (by decide)
  commands := input.commands

/-- `run_post_pr_tests`, with the lookup of its pull request. -/
def PostPrTestInput.runPostPrTests (lookup : BindingRun) (run : PostPrTestRun)
    (input : PostPrTestInput) : Effect ArtifactTree StepOutcome := do
  match input.openStore lookup with
  | .error error => throw error
  | .ok () =>
    let binding ← input.bindingForContext validate lookup
    onPullRequest binding
      (Luther.runPostPrTests validate (input.step binding) run)

/-- What the push is executed with. -/
structure PushInput extends StepInput where
  names : CommitNames
  /-- What `push_working_directory` makes of the parameters. -/
  workingDirectory : Except String String
  workflowPaths : Except String (String → Bool)

def PushInput.step (binding : PrFollowupBinding) (workingDirectory : String)
    (input : PushInput) : PushStep where
  names := input.names
  binding := binding
  params := input.params
  stepId := input.currentStepId "push_remediation_changes"
  identified := input.currentStepId_ne_empty (by decide)
  workingDirectory := workingDirectory
  -- `push_remote_ref`
  remoteRef := input.stringParam "remote_ref" s!"refs/heads/{binding.headRef}"
  remoteName := input.stringParam "remote_name" "origin"
  workflowPaths := input.workflowPaths

/-- What the steps of a remediation work on. -/
structure RemediationWorld where
  tree : ArtifactTree
  repository : Repository
  commands : List GitCommand := []

namespace RemediationWorld

def onTree {α : Type} (m : Effect ArtifactTree α) : Effect RemediationWorld α :=
  Effect.onPart tree (fun tree world => { world with tree := tree }) m

/-- A computation on the artifacts of one pull request and on the repository. -/
def onPush {α : Type} (binding : PrFollowupBinding) (m : Effect PushWorld α) :
    Effect RemediationWorld α :=
  Effect.onPart
    (fun world => ⟨world.tree.pullRequest binding, world.repository, world.commands⟩)
    (fun part world =>
      ⟨world.tree.withPullRequest binding part.store, part.repository, part.commands⟩) m

end RemediationWorld

/-- The plan and the result are there, before the worktree is looked for. -/
def requirePushSources (binding : PrFollowupBinding) (store : ArtifactStore) :
    Except String Unit := do
  let _ ← readCurrentJson validate binding planFamily store
  let _ ← readCurrentJson validate binding resultFamily store
  .ok ()

/-- `push_remediation_changes`, with the lookup of its pull request. -/
def PushInput.pushRemediationChanges (lookup : BindingRun) (run : PushRun) (input : PushInput) :
    Effect RemediationWorld StepOutcome := do
  match run.barrier, input.openStore lookup with
  | .blocked, _ => pure .wait
  | .denied, _ => pure .fatal
  | .allow, .error error => throw error
  | .allow, .ok () =>
    let binding ← RemediationWorld.onTree
      (input.bindingForContext validate lookup)
    let world ← Effect.state
    match requirePushSources validate binding (world.tree.pullRequest binding),
        input.workingDirectory with
    | .error error, _ => throw error
    | .ok (), .error error => throw error
    | .ok (), .ok workingDirectory =>
      RemediationWorld.onPush binding
        (Luther.pushRemediationChanges validate
          (input.step binding workingDirectory) run)

end Steps

end Luther
