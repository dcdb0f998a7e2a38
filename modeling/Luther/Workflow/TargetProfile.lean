/-
The target profile, written into the variables of a configuration.

Resolving a configuration merges its profile into it section by section, in place: what has been
merged when a section is refused stays merged.  Overrides are made on a copy instead, and take its
place when all of them are accepted.  At the end of both the URL of the transport is resolved: an
explicit one stays, any other is derived from the repository anew.
-/
import Luther.Lib.Edits
import Luther.Workflow.Config
import Luther.Workflow.Tokens
import Luther.Workflow.Transport
import Mathlib.Data.Finset.Sort
import Mathlib.Data.String.Basic

namespace Luther

open Edits (Change)

/-- Why a configuration is not resolved. -/
inductive ProfileError where
  | validation (message : String)
  | transport (refusal : TransportRefusal)
  /-- `WorkflowConfig::repo_mut` panics. -/
  | noRepository (configId : String)
  deriving DecidableEq

abbrev VarOrder := Assoc.IterationOrder String String

abbrev VarEdit := String × Change String

/-- A step of resolving a configuration. -/
abbrev ProfileStage := Stage ProfileError WorkflowConfig

/-! ### Edits -/

def insertVar (key value : String) : VarEdit := (key, .put value)

def insertOptional (key : String) (value : Option String) : VarEdit :=
  (key, match value with
    | some value => .put value
    | none => .keep)

def insertJoined (key : String) (values : List String) : VarEdit :=
  (key, if values = [] then .keep else .put (",".intercalate values))

/-- `insert_guidance_var`: an empty value only makes sure that there is one. -/
def insertGuidanceVar (key value : String) : VarEdit :=
  (key, if value = "" then .fill "" else .put value)

def shellQuoteWord (value : String) : String :=
  if value = "" then "''" else "'" ++ replaceText "'" "'\\''" value ++ "'"

def insertShellWords (key : String) (values : List String) : VarEdit :=
  insertVar key (" ".intercalate (values.map shellQuoteWord))

def WorkflowConfig.editVars (edits : List VarEdit) (config : WorkflowConfig) : WorkflowConfig :=
  { config with «variables» := Edits.edits edits config.variables }

def editing (edits : List VarEdit) : ProfileStage :=
  Stage.update fun config => .ok (config.editVars edits)

/-- Edits with a change of the repository section, which has to be there if it is changed. -/
def editingRepo (needed : Bool) (change : RepoConfig → RepoConfig) (edits : List VarEdit) :
    ProfileStage :=
  Stage.update fun config =>
    if needed && config.repo.isNone then .error (.noRepository config.configId)
    else .ok ({ config with repo := config.repo.map change }.editVars edits)

/-! ### Identity -/

def invalidRepoError (repo : String) : ProfileError :=
  .validation s!"target_repo must be in OWNER/NAME form, got '{repo}'"

def splitTargetRepo (repo : String) : Except ProfileError (String × String) :=
  match splitOnce '/' repo with
  | none => .error (invalidRepoError repo)
  | some (owner, name) =>
    let validOwner := owner != "" && owner.toList.head?.any Char.isAlphanum
      && owner.toList.getLast?.any Char.isAlphanum
      && owner.toList.all fun c => c.isAlphanum || c == '-'
    let validName := name != "" && !name.toList.contains '/'
      && name.toList.all fun c => c.isAlphanum || c == '-' || c == '.' || c == '_'
    if !validOwner || !validName then .error (invalidRepoError repo) else .ok (owner, name)

def repositoryVars (repo owner name : String) : List VarEdit :=
  [insertVar "target_repo" repo, insertVar "repository_owner" owner,
    insertVar "repository_name" name]

section

variable (profile : TargetProfileConfig)

/-- What `merge_identity` makes of the repository: the profile's, else the configuration's, else
one made of the profile's owner and name; failing that, the owner or the name alone. -/
def identityVars (config : WorkflowConfig) : Except ProfileError (List VarEdit) :=
  match profile.identity.repo.or (config.variables.lookup "target_repo") with
  | some repo => do
    let (owner, name) ← splitTargetRepo repo
    .ok (repositoryVars repo owner name)
  | none =>
    match profile.identity.owner, profile.identity.name with
    | some owner, some name => do
      let _ ← splitTargetRepo s!"{owner}/{name}"
      .ok (repositoryVars s!"{owner}/{name}" owner name)
    | owner, name =>
      .ok [insertOptional "repository_owner" owner, insertOptional "repository_name" name]

def mergeIdentity : List ProfileStage :=
  [Stage.update fun config => (identityVars profile config).map fun edits => config.editVars edits,
    editingRepo profile.identity.baseBranch.isSome
      (fun repo => { repo with baseBranch := profile.identity.baseBranch.or repo.baseBranch })
      [insertOptional "base_branch" profile.identity.baseBranch]]

/-! ### Paths -/

def unsafeRelativePath (value : String) : Bool :=
  startsWith value "/" || (pathComponents value).contains .parentDir

def profilePathValues : List (String × String) :=
  [("target_profile.paths.project_subdir", profile.paths.projectSubdir),
    ("target_profile.paths.default_command_cwd", profile.paths.defaultCommandCwd),
    ("target_profile.paths.artifact_path_base", profile.paths.artifactPathBase),
    ("target_profile.paths.diff_path_base", profile.paths.diffPathBase)].filterMap fun field =>
      field.2.map fun value => (field.1, value)

def validateProfilePaths : Except ProfileError Unit :=
  match (profilePathValues profile).find? fun field => unsafeRelativePath field.2 with
  | some (field, value) =>
    .error (.validation s!"{field} must stay within the repository, got '{value}'")
  | none => .ok ()

def mergePaths : List ProfileStage :=
  [Stage.check fun _ => validateProfilePaths profile,
    editingRepo
      (profile.paths.projectSubdir.isSome || profile.paths.artifactPathBase.isSome
        || profile.paths.diffPathBase.isSome)
      (fun repo => { repo with
        projectSubdir := profile.paths.projectSubdir.or repo.projectSubdir
        artifactPathBase := profile.paths.artifactPathBase.or repo.artifactPathBase
        diffPathBase := profile.paths.diffPathBase.or repo.diffPathBase })
      [insertOptional "project_subdir" profile.paths.projectSubdir,
        insertOptional "default_command_cwd" profile.paths.defaultCommandCwd,
        insertOptional "work_dir" profile.paths.workDir,
        insertOptional "artifact_dir" profile.paths.artifactDir]]

def mergeConventions : List ProfileStage :=
  [editing
      [insertOptional "assignee" profile.issueConventions.assignee,
        insertOptional "ok_label" profile.issueConventions.okLabel,
        insertOptional "luther_label" profile.issueConventions.lutherLabel,
        insertOptional "pr_title_prefix" profile.prConventions.titlePrefix,
        insertOptional "pr_body_guidance" profile.prConventions.bodyGuidance],
    editingRepo profile.templates.branch.isSome
      (fun repo => { repo with
        branchTemplate := profile.templates.branch.getD repo.branchTemplate })
      [insertOptional "branch_template" profile.templates.branch,
        insertOptional "pr_title_template" profile.templates.prTitle,
        insertOptional "pr_body_template" profile.templates.prBody]]

end

/-! ### Templates -/

section

variable (order : VarOrder)

def interpolateVariables (template : String) (vars : List (String × String)) : String :=
  let longestFirst := (order.entries vars).mergeSort fun a b =>
    decide (b.1.utf8ByteSize ≤ a.1.utf8ByteSize)
  let result := longestFirst.foldl
    (fun result entry => replaceText (Tokens.reference entry.1) entry.2 result) template
  match vars.lookup "issue_number", vars.lookup "primary_issue_number" with
  | none, some value => replaceText (Tokens.reference "issue_number") value result
  | _, _ => result

/-- The tokens that are left in a text, in order. -/
def tokensLeft (text : String) : List String :=
  (Tokens.unresolvedTokens text.toList).sort

/-- `template_variables`: some variables are only known at run time. -/
def templateVariables (config : WorkflowConfig) : List (String × String) :=
  Edits.edits (["issue_title", "issue_url", "pr_body_guidance"].map fun runtimeToken =>
    (runtimeToken, .fill (Tokens.reference runtimeToken))) config.variables

def unresolvedTemplateError (field value : String)
    (vars : List (String × String)) : Option String :=
  let unresolved := (tokensLeft (interpolateVariables order value vars)).filter fun token =>
    (vars.lookup token).isNone
  if unresolved = [] then none
  else some (s!"{field} contains unresolved template variable(s): " ++ ", ".intercalate unresolved)

def promptGuidanceTemplates (guidance : TargetPromptGuidance) : List (String × String) :=
  [("target_profile.prompt_guidance.ecosystem_name", guidance.ecosystemName),
    ("target_profile.prompt_guidance.planning", guidance.planning),
    ("target_profile.prompt_guidance.implementation", guidance.implementation),
    ("target_profile.prompt_guidance.review", guidance.review),
    ("target_profile.prompt_guidance.verification", guidance.verification),
    ("target_profile.prompt_guidance.style", guidance.style),
    ("target_profile.prompt_guidance.fixture_parity", guidance.fixtureParity),
    ("target_profile.prompt_guidance.forbidden_actions", guidance.forbiddenActions),
    ("target_profile.prompt_guidance.remediation_scope", guidance.remediationScope),
    ("target_profile.prompt_guidance.command_manifest_summary", guidance.commandManifestSummary)]

section

variable (profile : TargetProfileConfig)

def profileTemplates : List (String × String) :=
  let optional (field : String) (value : Option String) : List (String × String) :=
    value.toList.map fun value => (field, value)
  optional "target_profile.templates.branch" profile.templates.branch
  ++ optional "target_profile.templates.pr_title" profile.templates.prTitle
  ++ optional "target_profile.templates.pr_body" profile.templates.prBody
  ++ optional "target_profile.diff_policy.required_changed_path_pattern"
    profile.diffPolicy.requiredChangedPathPattern
  ++ optional "target_profile.diff_policy.required_path_regex" profile.diffPolicy.requiredPathRegex
  ++ optional "target_profile.diff_policy.failure_message" profile.diffPolicy.failureMessage
  ++ (profile.diffPolicy.commitExcludePathspecs.map fun pathspec =>
    ("target_profile.diff_policy.commit_exclude_pathspecs", pathspec))
  ++ promptGuidanceTemplates profile.promptGuidance
  ++ optional "target_profile.bootstrap.command_group" profile.bootstrapCommandGroup

def validateProfileTemplates (config : WorkflowConfig) : Except ProfileError Unit :=
  let errors := (profileTemplates profile).filterMap fun template =>
    unresolvedTemplateError order template.1 template.2 (templateVariables config)
  if errors = [] then .ok ()
  else .error (.validation ("invalid target profile: " ++ "; ".intercalate errors))

/-! ### The diff policy -/

def pathHasGitPathspecMetacharacters (path : String) : Bool :=
  path.toList.any fun c => c == '*' || c == '?' || c == '[' || c == ']' || c == ':'

def pathspecError (pathspec complaint : String) : ProfileError :=
  .validation (s!"target_profile.diff_policy.commit_exclude_pathspecs {complaint}, "
    ++ s!"got '{pathspec}'")

def validateCommitExcludePathspec (pathspec : String) : Except ProfileError Unit :=
  match stripPrefix ":!" pathspec with
  | none => .error (pathspecError pathspec "entries must use :! pathspecs")
  | some path =>
    if pathspec.toList.any fun c => c == '\\' || c == '\'' || isControl c then
      .error (pathspecError pathspec
        "entries must not contain backslashes, single quotes, or control characters")
    else if pathHasGitPathspecMetacharacters path then
      .error (pathspecError pathspec
        "must be literal repository paths without git pathspec metacharacters")
    else if !(pathComponents path).any (fun component =>
        match component with
        | .normal _ => true
        | _ => false) then
      .error (pathspecError pathspec "must target a repository path")
    else if unsafeRelativePath path then
      .error (pathspecError pathspec "must stay within the repository")
    else .ok ()

def validatedProfileCommitExclusions
    (config : WorkflowConfig) : Except ProfileError (List String) :=
  profile.diffPolicy.commitExcludePathspecs.mapM fun pathspec => do
    let resolved := interpolateVariables order pathspec config.variables
    let unresolved := tokensLeft resolved
    if unresolved ≠ [] then
      .error (.validation ("target_profile.diff_policy.commit_exclude_pathspecs contains "
        ++ "unresolved template variable(s): " ++ ", ".intercalate unresolved))
    validateCommitExcludePathspec resolved
    .ok resolved

end

end

section

variable (profile : TargetProfileConfig)

def mergeDiffPolicy (commitExcludePathspecs : List String) : List VarEdit :=
  [insertOptional "required_changed_path_pattern" profile.diffPolicy.requiredChangedPathPattern,
    insertOptional "diff_required_path_regex" profile.diffPolicy.requiredPathRegex,
    insertOptional "diff_failure_message" profile.diffPolicy.failureMessage,
    insertJoined "diff_allowed_path_patterns" profile.diffPolicy.allowedPathPatterns,
    insertJoined "diff_required_path_patterns" profile.diffPolicy.requiredPathPatterns,
    insertShellWords "target_commit_exclude_pathspecs" commitExcludePathspecs,
    insertShellWords "target_commit_restore_paths"
      (commitExcludePathspecs.filterMap (stripPrefix ":!")),
    insertVar "target_has_commit_restore_paths" (if commitExcludePathspecs = [] then "0" else "1")]

/-! ### The other sections -/

def commandGroupVar (logicalName : String) : String := "command_manifest_group_" ++ logicalName

def mergeCommandGroups : List VarEdit :=
  profile.commandGroups.entries.map fun group => insertVar (commandGroupVar group.1) group.2

def mergeListVariables : List VarEdit :=
  [insertJoined "required_pr_checks" profile.prChecks.required,
    insertJoined "optional_pr_checks" profile.prChecks.optional,
    insertJoined "ignored_pr_checks" profile.prChecks.ignored,
    insertJoined "auth_requirements" profile.authRequirements,
    insertJoined "preflight_expectations" profile.preflightExpectations]

def mergePromptGuidance (guidance : TargetPromptGuidance) : List VarEdit :=
  [insertVar "target_ecosystem_name" guidance.ecosystemName,
    insertGuidanceVar "target_guidance_planning" guidance.planning,
    insertGuidanceVar "target_guidance_implementation" guidance.implementation,
    insertGuidanceVar "target_guidance_review" guidance.review,
    insertGuidanceVar "target_guidance_verification" guidance.verification,
    insertGuidanceVar "target_guidance_style" guidance.style,
    insertGuidanceVar "target_guidance_fixture_parity" guidance.fixtureParity,
    insertGuidanceVar "target_guidance_forbidden_actions" guidance.forbiddenActions,
    insertGuidanceVar "target_guidance_remediation_scope" guidance.remediationScope,
    insertGuidanceVar "target_command_manifest_summary" guidance.commandManifestSummary]

def mergeBootstrap : List VarEdit :=
  [insertGuidanceVar "target_bootstrap_command_group" (profile.bootstrapCommandGroup.getD "")]

/-- The sections that are merged behind the templates, once the pathspecs are accepted. -/
def mergePolicies (pathspecs : List String) : List VarEdit :=
  mergeDiffPolicy profile pathspecs ++ mergeCommandGroups profile ++ mergeListVariables profile
    ++ mergePromptGuidance profile.promptGuidance ++ mergeBootstrap profile

end

/-! ### The transport -/

def resolveTransportUrl (disk : TransportDisk) : ProfileStage :=
  Stage.update fun config =>
    if config.variables.lookup gitTransportSourceVar = some transportExplicit then
      match validateTransportUrl disk ((config.variables.lookup gitTransportUrlVar).getD "") with
      | .error refusal => .error (.transport refusal)
      | .ok () => .ok config
    else
      match config.variables.lookup "target_repo" with
      | none => .ok config
      | some targetRepo =>
        let derived := defaultTransportUrl targetRepo
        match validateTransportUrl disk derived with
        | .error refusal => .error (.transport refusal)
        | .ok () => .ok (config.editVars
            [insertVar gitTransportUrlVar derived, insertVar gitTransportSourceVar transportDerived])

/-- A transport that the configuration brings along is marked as an explicit choice. -/
def markAuthoredTransport : ProfileStage :=
  Stage.update fun config =>
    if (config.variables.lookup gitTransportUrlVar).isSome
        && (config.variables.lookup gitTransportSourceVar).isNone then
      .ok (config.editVars [insertVar gitTransportSourceVar transportExplicit])
    else .ok config

/-! ### Resolving -/

/-- What is merged before the pathspecs are read. -/
def headStages (order : VarOrder) (profile : TargetProfileConfig) : List ProfileStage :=
  mergeIdentity profile ++ mergePaths profile ++ mergeConventions profile
    ++ [Stage.check (validateProfileTemplates order profile)]

/-- The pathspecs are read, and the policies merged. -/
def policyStage (order : VarOrder) (profile : TargetProfileConfig) : ProfileStage :=
  Stage.update fun config => do
    let pathspecs ← validatedProfileCommitExclusions order profile config
    .ok (config.editVars (mergePolicies profile pathspecs))

def resolveTargetProfile (order : VarOrder) (disk : TransportDisk) : ProfileStage := fun config =>
  match config.targetProfile with
  | none => (.ok (), config)
  | some profile =>
    Stage.run (headStages order profile ++
      policyStage order profile :: [markAuthoredTransport, resolveTransportUrl disk]) config

/-! ### Overriding -/

/-- A path that a caller gives. -/
inductive PathOverride where
  | utf8 (text : String)
  | other (display : String)

structure TargetProfileOverrides where
  repo : Option String := none
  issue : Option String := none
  workDir : Option PathOverride := none
  artifactDir : Option PathOverride := none
  transportUrl : Option String := none

def utf8PathOverride (key : String) : PathOverride → Except ProfileError String
  | .utf8 text => .ok text
  | .other display => .error (.validation s!"{key} path is not valid UTF-8: {display}")

def overridePath (key : String) (path : Option PathOverride) : ProfileStage :=
  Stage.update fun config =>
    match path with
    | none => .ok config
    | some path => do
      let text ← utf8PathOverride key path
      .ok (config.editVars [insertVar key text])

def applyOverridesUnchecked (disk : TransportDisk) (overrides : TargetProfileOverrides) :
    List ProfileStage :=
  [Stage.update fun config =>
      match overrides.repo with
      | none => .ok config
      | some repo => do
        let (owner, name) ← splitTargetRepo repo
        .ok (config.editVars (repositoryVars repo owner name)),
    Stage.update fun config =>
      match overrides.issue with
      | none => .ok config
      | some issue =>
        let numbered := config.editVars [insertVar "primary_issue_number" issue]
        .ok { numbered with
          «variables» := numbered.variables.filter fun entry => entry.1 != "issue_number" },
    overridePath "work_dir" overrides.workDir,
    overridePath "artifact_dir" overrides.artifactDir,
    Stage.update fun config =>
      match overrides.transportUrl with
      | none => .ok config
      | some url =>
        match validateTransportUrl disk url with
        | .error refusal => .error (.transport refusal)
        | .ok () => .ok (config.editVars
            [insertVar gitTransportUrlVar url, insertVar gitTransportSourceVar transportExplicit]),
    resolveTransportUrl disk]

/-- `apply_target_profile_overrides`: on a copy, which takes the place of the configuration when
every override is accepted. -/
def applyTargetProfileOverrides (disk : TransportDisk) (overrides : TargetProfileOverrides) :
    ProfileStage := fun config =>
  match Stage.run (applyOverridesUnchecked disk overrides) config with
  | (.error e, _) => (.error e, config)
  | (.ok (), candidate) => (.ok (), candidate)

end Luther
