/-
What the context of a run starts with.

Everything that is known before the first step is written into the context: the variables of the
configuration, the settings of parent orchestration, what the run itself knows, its directory, the
paths of its target and its scope policy.  No step is active yet, so all of it is written under the
bare keys.
-/
import Luther.Engine.StepContext
import Luther.Lib.Path
import Luther.Workflow.Config

namespace Luther

/-- `RunContext`, as far as the context of the steps is seeded from it. -/
structure RunContext where
  daemonManaged : Bool := false
  artifactRoot : Option String := none
  workspacePath : Option String := none
  repository : Option String := none
  issueNumber : Option Int := none

/-- `WorkflowInstance`: a configuration, and the run that is made of it. -/
structure WorkflowInstance where
  config : WorkflowConfig
  runId : String

def flagText (flag : Bool) : String := if flag then "true" else "false"

def seedParentOrchestrationConfig (config : ParentOrchestrationConfig) : List (String × String) :=
  [("parent_orchestration.auto_merge_children", flagText config.autoMergeChildren),
    ("parent_orchestration.wait_for_human_merge", flagText config.waitForHumanMerge),
    ("parent_orchestration.merge_poll_interval_seconds",
      toString config.mergePollIntervalSeconds.toNat)]
  ++ (config.maxChildMergeWaitSeconds.toList.map fun maxWait =>
    ("parent_orchestration.max_child_merge_wait_seconds", toString maxWait.toNat))
  ++ [("parent_orchestration.child_workflow_type_id", config.childWorkflowTypeId),
    ("parent_orchestration.child_config_id", config.childConfigId)]

def seedRunContext (run : RunContext) : List (String × String) :=
  [("daemon_managed_claim", flagText run.daemonManaged)]
  ++ (run.workspacePath.toList.flatMap fun path => [("work_dir", path), ("workspace_path", path)])
  ++ (run.artifactRoot.toList.flatMap fun root => [("artifact_root", root), ("artifact_dir", root)])
  ++ (run.repository.toList.map fun repository => ("target_repo", repository))
  ++ (run.issueNumber.toList.flatMap fun n =>
    [("issue_number", toString n), ("primary_issue_number", toString n)])

/-- `join_optional`: no path, or an empty one, is the root itself. -/
def joinOptional (root : String) (relative : Option String) : String :=
  match relative with
  | some relative => if relative ≠ "" then joinPath root relative else root
  | none => root

def seedTargetPaths (repo : Option RepoConfig) (repoRoot : String) : List (String × String) :=
  match repo with
  | none => []
  | some repo =>
    [("repo_root", repoRoot),
      ("project_subdir", repo.projectSubdir.getD ""),
      ("project_dir", joinOptional repoRoot repo.projectSubdir),
      ("artifact_base_dir", joinOptional repoRoot repo.artifactPathBase),
      ("diff_path_base", repo.diffPathBase.getD ""),
      ("diff_path_base_dir", joinOptional repoRoot repo.diffPathBase),
      ("diff_path_normalization",
        match repo.diffPathNormalization with
        | .repoRelative => "repo_relative"
        | .baseRelative => "base_relative")]

def seedScopeControlPolicy (profile : Option TargetProfileConfig) : List (String × String) :=
  match profile with
  | none => []
  | some profile =>
    let scope := profile.scopeControl
    if scope.enabled then
      [("scope_control_policy", scope.toJson.render),
        ("task_charter_subsystem_ids",
          ",".intercalate (scope.subsystems.map ScopeSubsystemConfig.id)),
        ("task_charter_mandatory_gates", ", ".intercalate scope.mandatoryGates)]
    else []

namespace WorkflowInstance

/-- `resolve_final_work_dir`: the workspace of the run, else the directory of the configuration,
else one under the temporary directory. -/
def resolveFinalWorkDir (tempDir : String) (inst : WorkflowInstance) (run : Option RunContext) :
    String :=
  (run.bind RunContext.workspacePath).getD <|
    (inst.config.variables.lookup "work_dir").getD (joinPath tempDir inst.runId)

/-- Everything that is written into the context of a run, in order. -/
def seeds (tempDir : String) (inst : WorkflowInstance) (run : Option RunContext) :
    List (String × String) :=
  let workDir := inst.resolveFinalWorkDir tempDir run
  inst.config.variables ++ seedParentOrchestrationConfig inst.config.parentOrchestration
  ++ (run.toList.flatMap seedRunContext) ++ [("work_dir", workDir)]
  ++ seedTargetPaths inst.config.repo workDir ++ seedScopeControlPolicy inst.config.targetProfile

def buildStepContext (tempDir : String) (inst : WorkflowInstance) (run : Option RunContext) :
    StepContext :=
  (StepContext.build (inst.resolveFinalWorkDir tempDir run) inst.runId).setAll
    (inst.seeds tempDir run)

end WorkflowInstance

end Luther
