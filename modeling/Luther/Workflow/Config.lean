/-
The configuration of a workflow, as it is read from its file.

A configuration carries variables of its own and sections beside them.  The target profile is
written into the variables when the configuration is resolved; the other sections are written
into the context when a run starts.
-/
import Luther.Lib.Json

namespace Luther

/-! ### The repository -/

/-- What diff paths are relative to. -/
inductive DiffPathNormalization where
  | repoRelative
  | baseRelative

structure RepoConfig where
  workspaceStrategy : String
  branchTemplate : String
  baseBranch : Option String := none
  workspaceRoot : Option String := none
  projectSubdir : Option String := none
  artifactPathBase : Option String := none
  diffPathBase : Option String := none
  diffPathNormalization : DiffPathNormalization := .repoRelative

structure ParentOrchestrationConfig where
  autoMergeChildren : Bool := false
  waitForHumanMerge : Bool := true
  mergePollIntervalSeconds : UInt64 := 300
  maxChildMergeWaitSeconds : Option UInt64 := none
  childWorkflowTypeId : String := "llxprt-issue-fix-v1"
  childConfigId : String := "llxprt-code"

/-! ### The scope policy -/

/-- The budget of a patch, with its defaults. -/
structure ScopeBudgetConfig where
  maxFilesChanged : UInt32 := 1
  maxAddedLines : UInt32 := 1
  maxNewModules : UInt32 := 1
  maxDependenciesAdded : UInt32 := 0
  maxPublicApisAdded : UInt32 := 1

structure ScopeReviewCapsConfig where
  initialFullReviews : UInt32 := 1
  maxDeltaReviews : UInt32 := 2
  finalAcceptanceReviews : UInt32 := 1
  maxMutatingRemediationRounds : UInt32 := 2

/-- A subsystem, by its paths. -/
structure ScopeSubsystemConfig where
  id : String := ""
  paths : List String := []

structure ScopeDependencyManifestConfig where
  path : String := ""
  sections : List String := []

/-- What counts as source and as public. -/
structure ScopeMeasurementConfig where
  sourceExtensions : List String
  publicApiRegexes : List String

/-- The same with the switches that no measurement reads. -/
structure ScopeMeasurementSection extends ScopeMeasurementConfig where
  sourceExtensions := ["rs"]
  publicApiRegexes := []
  disableRenameInference : Bool := true
  enumerateUntracked : Bool := true

/-- The scope control of a workflow. -/
structure ScopeControlConfig where
  enabled : Bool := false
  budget : ScopeBudgetConfig := {}
  reviewCaps : ScopeReviewCapsConfig := {}
  subsystems : List ScopeSubsystemConfig := []
  dependencyManifests : List ScopeDependencyManifestConfig := []
  mandatoryCommandGroups : List String := []
  partialCompileCommand : Option String := none
  partialCompileGroup : Option String := none
  measurement : ScopeMeasurementSection := {}
  mandatoryGates : List String := []

def ScopeControlConfig.toJson (scope : ScopeControlConfig) : Json :=
  .obj
    [("enabled", .bool scope.enabled),
      ("budget", .obj
        [("max_files_changed", .ofU32 scope.budget.maxFilesChanged),
          ("max_added_lines", .ofU32 scope.budget.maxAddedLines),
          ("max_new_modules", .ofU32 scope.budget.maxNewModules),
          ("max_dependencies_added", .ofU32 scope.budget.maxDependenciesAdded),
          ("max_public_apis_added", .ofU32 scope.budget.maxPublicApisAdded)]),
      ("review_caps", .obj
        [("initial_full_reviews", .ofU32 scope.reviewCaps.initialFullReviews),
          ("max_delta_reviews", .ofU32 scope.reviewCaps.maxDeltaReviews),
          ("final_acceptance_reviews", .ofU32 scope.reviewCaps.finalAcceptanceReviews),
          ("max_mutating_remediation_rounds", .ofU32 scope.reviewCaps.maxMutatingRemediationRounds)]),
      ("subsystems", .arr (scope.subsystems.map fun subsystem =>
        .obj [("id", .str subsystem.id), ("paths", .ofStrings subsystem.paths)])),
      ("dependency_manifests", .arr (scope.dependencyManifests.map fun manifest =>
        .obj [("path", .str manifest.path), ("sections", .ofStrings manifest.sections)])),
      ("mandatory_command_groups", .ofStrings scope.mandatoryCommandGroups),
      ("partial_compile_command", (scope.partialCompileCommand.map Json.str).getD .null),
      ("partial_compile_group", (scope.partialCompileGroup.map Json.str).getD .null),
      ("measurement", .obj
        [("source_extensions", .ofStrings scope.measurement.sourceExtensions),
          ("public_api_regexes", .ofStrings scope.measurement.publicApiRegexes),
          ("disable_rename_inference", .bool scope.measurement.disableRenameInference),
          ("enumerate_untracked", .bool scope.measurement.enumerateUntracked)]),
      ("mandatory_gates", .ofStrings scope.mandatoryGates)]

/-! ### The target profile -/

structure TargetIdentityConfig where
  repo : Option String := none
  owner : Option String := none
  name : Option String := none
  baseBranch : Option String := none

structure TargetProfilePathConfig where
  projectSubdir : Option String := none
  defaultCommandCwd : Option String := none
  workDir : Option String := none
  artifactDir : Option String := none
  artifactPathBase : Option String := none
  diffPathBase : Option String := none

structure TargetIssueConventions where
  assignee : Option String := none
  okLabel : Option String := none
  lutherLabel : Option String := none

structure TargetPrConventions where
  titlePrefix : Option String := none
  bodyGuidance : Option String := none

structure TargetTemplateConfig where
  branch : Option String := none
  prTitle : Option String := none
  prBody : Option String := none

/-- What its diffs must and may change. -/
structure TargetDiffPolicyConfig where
  requiredChangedPathPattern : Option String := none
  requiredPathRegex : Option String := none
  failureMessage : Option String := none
  allowedPathPatterns : List String := []
  requiredPathPatterns : List String := []
  commitExcludePathspecs : List String := []

structure TargetPrCheckPolicy where
  required : List String := []
  optional : List String := []
  ignored : List String := []

structure TargetPromptGuidance where
  ecosystemName : String := ""
  planning : String := ""
  implementation : String := ""
  review : String := ""
  verification : String := ""
  style : String := ""
  fixtureParity : String := ""
  forbiddenActions : String := ""
  remediationScope : String := ""
  commandManifestSummary : String := ""

/-- The command groups by their logical names, each name once. -/
structure CommandGroups where
  entries : List (String × String) := []
  distinct : (entries.map Prod.fst).Nodup := by decide

structure TargetProfileConfig where
  identity : TargetIdentityConfig := {}
  paths : TargetProfilePathConfig := {}
  issueConventions : TargetIssueConventions := {}
  prConventions : TargetPrConventions := {}
  templates : TargetTemplateConfig := {}
  diffPolicy : TargetDiffPolicyConfig := {}
  commandGroups : CommandGroups := {}
  prChecks : TargetPrCheckPolicy := {}
  authRequirements : List String := []
  preflightExpectations : List String := []
  promptGuidance : TargetPromptGuidance := {}
  bootstrapCommandGroup : Option String := none
  scopeControl : ScopeControlConfig := {}

/-- `WorkflowConfig`, as far as variables come from it. -/
structure WorkflowConfig where
  configId : String
  repo : Option RepoConfig := none
  «variables» : List (String × String) := []
  parentOrchestration : ParentOrchestrationConfig := {}
  targetProfile : Option TargetProfileConfig := none

end Luther
