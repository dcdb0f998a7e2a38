/-
The repository that a push works on, and the commands that it runs there.

Each Git command may do its work or not, and may be reported to have passed or to have failed;
and the process may be gone with any of them.  What a command prints is what the repository
has, so the inspection of a worktree whose commands pass is true of it.
-/
import Luther.Remediation.PostPrVerification

namespace Luther

/-! ### The repository -/

/-- The names of the commits of a branch, by their place in it. -/
structure CommitNames where
  name : Nat → String
  injective : Function.Injective name
  named : ∀ n, name n ≠ ""
  known : ∀ n, name n ≠ "unknown"

/-- The worktree's branch and the remote one, each by the number of its commits, and the paths
that `git status` lists. -/
structure Repository where
  localHead : Nat
  remoteHead : Nat
  changedPaths : List String

/-- The commands of a push. -/
inductive GitCommand where
  | localHead
  | remoteHead (remoteName remoteRef : String)
  | status
  | stage (paths : List String)
  | commit (message : String) (paths : List String)
  | push (remoteName remoteRef : String)

namespace GitCommand

def commandId : GitCommand → String
  | localHead => "local-head"
  | remoteHead _ _ => "remote-head"
  | status => "status-porcelain"
  | stage _ => "stage"
  | commit _ _ => "commit"
  | push _ _ => "push"

def argv : GitCommand → List String
  | localHead => ["git", "rev-parse", "HEAD"]
  | remoteHead remoteName remoteRef => ["git", "ls-remote", "--heads", remoteName, remoteRef]
  | status => ["git", "status", "--porcelain=v1", "-z", "--untracked-files=all"]
  | stage paths => ["git", "add", "--"] ++ paths
  | commit message paths => ["git", "commit", "-m", message, "--"] ++ paths
  | push remoteName remoteRef => ["git", "push", remoteName, s!"HEAD:{remoteRef}"]

def changes : GitCommand → Bool
  | stage _ | commit _ _ | push _ _ => true
  | localHead | remoteHead _ _ | status => false

end GitCommand

/-- What a command that does its work does to the repository: a commit takes the paths that it
names, and the others stay changed. -/
def Repository.after (repository : Repository) : GitCommand → Repository
  | .commit _ paths =>
    { repository with
      localHead := repository.localHead + 1
      changedPaths := repository.changedPaths.filter fun path => !paths.contains path }
  | .push _ _ => { repository with remoteHead := repository.localHead }
  | .localHead | .remoteHead _ _ | .status | .stage _ => repository

/-! ### Running a command -/

/-- How a command ends. -/
inductive CommandFate where
  | passed
  /-- It is reported to have failed, whether it did its work or not; one that was timed out is
  reported as fatal. -/
  | failed (took fatal : Bool)
  /-- The process is gone. -/
  | gone (took : Bool)
  deriving DecidableEq

def CommandFate.took : CommandFate → Bool
  | passed => true
  | failed took _ | gone took => took

def CommandFate.status : CommandFate → String
  | passed => "passed"
  | failed _ fatal => if fatal then "fatal" else "failed"
  | gone _ => ""

/-- How a command ends, and what else is known of it. -/
structure CommandReport where
  fate : CommandFate := .passed
  exitCode : Option Int := none
  signal : Option Int := none
  stdout : String := ""
  stderr : String := ""
  stdoutLogPath : Option String := none
  stderrLogPath : Option String := none
  spawnError : Option String := none

/-- How a command has ended. -/
structure PushRemediationCommandResult where
  commandId : String
  argv : List String
  workingDirectory : String
  exitCode : Option Int
  signal : Option Int
  status : String
  boundedStdout : String
  boundedStderr : String
  stdoutLogPath : Option String
  stderrLogPath : Option String
  spawnError : Option String

/-- What the step works on: the store, the repository, and the commands it has run. -/
structure PushWorld where
  store : ArtifactStore
  repository : Repository
  commands : List GitCommand := []

/-- A text, or `null`. -/
def jsonOfText (text : Option String) : Json := text.elim .null .str

/-- A number, or `null`. -/
def jsonOfInt (n : Option Int) : Json := n.elim .null .num

def jsonOfTexts (texts : List String) : Json := .arr (texts.map .str)

def pushCommandResultJson (result : PushRemediationCommandResult) : Json :=
  .obj
    [("command_id", .str result.commandId),
     ("argv", jsonOfTexts result.argv),
     ("working_directory", .str result.workingDirectory),
     ("status", .str result.status),
     ("exit_code", jsonOfInt result.exitCode),
     ("signal", jsonOfInt result.signal),
     ("bounded_stdout", .str result.boundedStdout),
     ("bounded_stderr", .str result.boundedStderr),
     ("stdout_artifact_path", jsonOfText result.stdoutLogPath),
     ("stderr_artifact_path", jsonOfText result.stderrLogPath),
     ("spawn_error", jsonOfText result.spawnError)]

/-! ### One execution -/

/-- What `scope_control_barrier` says. -/
inductive ScopeBarrier where
  | allow
  | blocked
  | denied
  deriving DecidableEq

/-- What is shown of a command of the preflight: its output is left out. -/
structure RedactedCommand where
  commandId : String
  argv : List String
  workingDirectory : String
  status : String
  exitCode : Option Int
  signal : Option Int
  /-- The method, where the URL of the remote was asked for, and the scopes, where the
  credentials were. -/
  observed : String ⊕ List String
  stdoutLogPath : Option String
  stderrLogPath : Option String
  spawnError : Option String

/-- `redacted_remote_url_result`, and `redacted_gh_auth_status_result`. -/
def RedactedCommand.toJson (command : RedactedCommand) : Json :=
  .obj
    [("command_id", .str command.commandId),
     ("argv", jsonOfTexts command.argv),
     ("working_directory", .str command.workingDirectory),
     ("status", .str command.status),
     ("exit_code", jsonOfInt command.exitCode),
     ("signal", jsonOfInt command.signal),
     match command.observed with
     | .inl authMethod => ("auth_method", .str authMethod)
     | .inr scopes => ("observed_scopes", jsonOfTexts scopes),
     ("stdout_artifact_path", jsonOfText command.stdoutLogPath),
     ("stderr_artifact_path", jsonOfText command.stderrLogPath),
     ("spawn_error", jsonOfText command.spawnError)]

/-- `WorkflowAuthPreflightReport`, of a preflight that refuses. -/
structure WorkflowAuthPreflightReport where
  authMethod : String
  workflowPathPatterns : List String
  detectedWorkflowPaths : List String
  requiredScopes : List String
  observedScopes : List String
  missingCapability : Option String
  recommendedOperatorAction : Option String

def WorkflowAuthPreflightReport.toJson (report : WorkflowAuthPreflightReport) : Json :=
  .obj
    [("outcome", .str "Fatal"),
     ("auth_method", .str report.authMethod),
     ("workflow_path_patterns", jsonOfTexts report.workflowPathPatterns),
     ("detected_workflow_paths", .arr (report.detectedWorkflowPaths.map fun path =>
      .obj [("path", .str path), ("source", .str "push_remediation_included_paths")])),
     ("required_scopes", jsonOfTexts report.requiredScopes),
     ("observed_scopes", jsonOfTexts report.observedScopes),
     ("missing_capability", jsonOfText report.missingCapability),
     ("recommended_operator_action", jsonOfText report.recommendedOperatorAction)]

/-- What the credentials allow, where workflow files are to be pushed. -/
inductive AuthPreflight where
  | permitted
  | refused (report : WorkflowAuthPreflightReport)
  | failed (error : String)

/-- The step, as a workflow has it: its parameters, and where it pushes to. -/
structure PushStep where
  names : CommitNames
  binding : PrFollowupBinding
  params : Json
  stepId : String := "push_remediation_changes"
  identified : stepId ≠ ""
  workingDirectory : String
  remoteRef : String
  remoteName : String := "origin"
  /-- `matches_any_workflow_pattern` of the step's patterns; the parameters may be no
  configuration of the preflight. -/
  workflowPaths : Except String (String → Bool)

/-- What an execution of it meets with. -/
structure PushRun where
  order : ListingOrder
  barrier : ScopeBarrier := .allow
  localHead : CommandReport := {}
  remoteHead : CommandReport := {}
  status : CommandReport := {}
  preflight : AuthPreflight := .permitted
  preflightCommands : List RedactedCommand := []
  stage : CommandReport := {}
  commit : CommandReport := {}
  committedHead : CommandReport := {}
  push : CommandReport := {}
  verifiedHead : CommandReport := {}
  pushedAt : Timestamp
  writtenAt : Timestamp
  publication : Publication := .published

def printedHead (step : PushStep) (repository : Repository) (report : CommandReport) :
    GitCommand → String
  | .localHead => step.names.name repository.localHead
  | .remoteHead _ _ => step.names.name repository.remoteHead
  | .status | .stage _ | .commit _ _ | .push _ _ => report.stdout

/-- `push_runner_command`.  A head is printed without the end of its line, which is trimmed. -/
def pushRunnerCommand (step : PushStep) (command : GitCommand) (report : CommandReport) :
    Effect PushWorld PushRemediationCommandResult :=
  Effect.of fun world =>
    let world' :=
      { world with
        repository :=
          if report.fate.took then world.repository.after command else world.repository
        commands := world.commands ++ [command] }
    match report.fate with
    | .gone _ => (.error "the process is gone", world')
    | .passed | .failed _ _ =>
      (.ok
        { commandId := command.commandId
          argv := command.argv
          workingDirectory := step.workingDirectory
          exitCode := report.exitCode
          signal := report.signal
          status := report.fate.status
          boundedStdout := printedHead step world.repository report command
          boundedStderr := report.stderr
          stdoutLogPath := report.stdoutLogPath
          stderrLogPath := report.stderrLogPath
          spawnError := report.spawnError }, world')

/-- `local_head_sha`, and `remote_head_sha`: the head, or the reason why there is none. -/
def headSha (step : PushStep) (command : GitCommand) (report : CommandReport)
    (reason : String) : Effect PushWorld (Except String String × List Json) := do
  let result ← pushRunnerCommand step command report
  let observed := [pushCommandResultJson result]
  if result.status = "passed" ∧ result.boundedStdout ≠ "" then
    pure (.ok result.boundedStdout, observed)
  else pure (.error reason, observed)

def localHeadSha (step : PushStep) (report : CommandReport) :
    Effect PushWorld (Except String String × List Json) :=
  headSha step .localHead report "local_head_unavailable"

def remoteHeadSha (step : PushStep) (report : CommandReport) :
    Effect PushWorld (Except String String × List Json) :=
  headSha step (.remoteHead step.remoteName step.remoteRef) report "remote_head_unavailable"

/-! ### The worktree -/

/-- The heads and the paths before the push. -/
structure PushInspection where
  prePushLocalHeadSha : String
  prePushRemoteHeadSha : String
  includedPaths : List String
  excludedPaths : List String

def PushInspection.withRetryHead (headSha : String) (inspection : PushInspection) :
    PushInspection :=
  { inspection with prePushLocalHeadSha := headSha }

/-- `trim_start_matches("./")`. -/
def trimDotSlash : List Char → List Char
  | '.' :: '/' :: rest => trimDotSlash rest
  | chars => chars

def pathSegments (path : List Char) : List (List Char) := path.splitOn '/'

def pushPathIsExcluded (path : String) : Bool :=
  let normalized := trimDotSlash path.toList
  let fileName := (pathSegments normalized).getLast?
  normalized == ".llxprt".toList
    || ".llxprt/".toList.isPrefixOf normalized
    || fileName == some "LLXPRT.md".toList
    || fileName == some ".generated-notice".toList
    || fileName == some ".generated-notice.md".toList
    || fileName == some "GENERATED_NOTICE.md".toList
    || (pathSegments normalized).contains "generated-notice".toList

/-- The paths of a listing, in order and each once. -/
def sortedPaths (paths : List String) : List String :=
  (paths.insertionSort (· ≤ ·)).dedup

/-- `inspect_push_worktree`: what is found, or the reason why nothing is, with the commands. -/
def inspectPushWorktree (step : PushStep) (run : PushRun) :
    Effect PushWorld (Except String PushInspection × List Json) := do
  match ← localHeadSha step run.localHead with
  | (.error reason, observed) => pure (.error reason, observed)
  | (.ok localHead, localObserved) =>
    match ← remoteHeadSha step run.remoteHead with
    | (.error reason, observed) => pure (.error reason, observed)
    | (.ok remoteHead, remoteObserved) =>
      let result ← pushRunnerCommand step .status run.status
      let commands := localObserved ++ remoteObserved ++ [pushCommandResultJson result]
      let world ← Effect.state
      if result.status = "passed" then
        let changedPaths := sortedPaths world.repository.changedPaths
        pure (.ok
          { prePushLocalHeadSha := localHead
            prePushRemoteHeadSha := remoteHead
            includedPaths := changedPaths.filter fun path => !pushPathIsExcluded path
            excludedPaths := changedPaths.filter pushPathIsExcluded }, commands)
      else pure (.error "status_failed", commands)

end Luther
