/-
The local verification of a result.

The configured commands are run one after the other, and the artifact says how each of them has
ended.  It is written for one plan and one result, the current ones, and repeats their numbers.
A command that cannot be run at all is no verdict on the result: the artifact is fatal then, and
lists no command.
-/
import Luther.Remediation.PushStep

namespace Luther

/-! ### Commands -/

structure PostPrTestCommandConfig where
  commandId : String
  argv : List String
  workingDirectory : String
  /-- Whether the command is an entry of the manifest. -/
  manifestEntry : Bool

/-- How a command has ended. -/
structure PostPrTestCommandResult where
  commandId : String
  argv : List String
  workingDirectory : String
  exitCode : Option Int
  signal : Option Int := none
  status : String
  boundedStdout : String
  boundedStderr : String
  stdoutLogPath : Option String
  stderrLogPath : Option String
  spawnError : Option String
  expectationFailures : List String
  artifactFailures : List String
  failureClassification : Option String

/-- What becomes of the process of a command. -/
inductive TestProcess where
  /-- It could not be started, or not be waited for. -/
  | lost (error : String)
  | ended (timedOut : Bool) (exitCode : Option Int)

structure ManifestCommandResult where
  argv : List String
  workingDirectory : String
  exitCode : Option Int
  timedOut : Bool
  boundedStdout : String
  boundedStderr : String
  expectationFailures : List String
  artifactFailures : List String
  /-- Whether the entry's failures are fatal. -/
  failureIsFatal : Bool
  spawnError : Option String

/-- What `run_manifest_entry` answers. -/
inductive ManifestExecution where
  | failed (error : String)
  | skipped
  | completed (result : ManifestCommandResult)

/-- What happens when a command is run. -/
structure TestExecution where
  process : TestProcess
  stdout : String := ""
  stderr : String := ""
  manifest : ManifestExecution
  stdoutLogPath : String
  stderrLogPath : String

def boundedExcerpt (text : String) (maxChars : Nat) : String :=
  String.ofList (text.toList.take maxChars)

def processStatus (timedOut : Bool) (exitCode : Option Int) : String :=
  if timedOut then "fatal" else if exitCode = some 0 then "passed" else "failed"

def ManifestCommandResult.passed (result : ManifestCommandResult) : Bool :=
  result.spawnError.isNone && !result.timedOut && result.expectationFailures.isEmpty
    && result.artifactFailures.isEmpty

def ManifestCommandResult.status (result : ManifestCommandResult) : String :=
  if result.passed then "passed"
  else if result.failureIsFatal || result.spawnError.isSome then "fatal"
  else "failed"

section

variable (command : PostPrTestCommandConfig)

section

variable (execution : TestExecution)

def postPrTestSpawnError (error : String) : PostPrTestCommandResult where
  commandId := command.commandId
  argv := command.argv
  workingDirectory := command.workingDirectory
  exitCode := none
  status := "fatal"
  boundedStdout := ""
  boundedStderr := boundedExcerpt error 4096
  stdoutLogPath := some execution.stdoutLogPath
  stderrLogPath := some execution.stderrLogPath
  spawnError := some error
  expectationFailures := []
  artifactFailures := []
  failureClassification := some "fatal"

def runPostPrTestProcess : PostPrTestCommandResult :=
  match execution.process with
  | .lost error => postPrTestSpawnError command execution error
  | .ended timedOut exitCode =>
    { commandId := command.commandId
      argv := command.argv
      workingDirectory := command.workingDirectory
      exitCode := exitCode
      status := processStatus timedOut exitCode
      boundedStdout := boundedExcerpt execution.stdout 4096
      boundedStderr := boundedExcerpt execution.stderr 4096
      stdoutLogPath := some execution.stdoutLogPath
      stderrLogPath := some execution.stderrLogPath
      spawnError := if timedOut then some "post-PR test command timed out" else none
      expectationFailures := if timedOut then ["post-PR test command timed out"] else []
      artifactFailures := []
      failureClassification := none }

def runManifestPostPrTestProcess : PostPrTestCommandResult :=
  match execution.manifest with
  | .failed error => postPrTestSpawnError command execution error
  | .skipped =>
    { commandId := command.commandId
      argv := command.argv
      workingDirectory := command.workingDirectory
      exitCode := some 0
      status := "passed"
      boundedStdout := "skipped by command manifest conditions"
      boundedStderr := ""
      stdoutLogPath := some execution.stdoutLogPath
      stderrLogPath := some execution.stderrLogPath
      spawnError := none
      expectationFailures := []
      artifactFailures := []
      failureClassification := none }
  | .completed result =>
    { commandId := command.commandId
      argv := result.argv
      workingDirectory := result.workingDirectory
      exitCode := result.exitCode
      status := result.status
      boundedStdout := result.boundedStdout
      boundedStderr := result.boundedStderr
      stdoutLogPath := some execution.stdoutLogPath
      stderrLogPath := some execution.stderrLogPath
      spawnError := result.spawnError
      expectationFailures := result.expectationFailures
      artifactFailures := result.artifactFailures
      failureClassification := some result.status }

/-- `SystemPostPrTestCommandRunner::run`. -/
def runPostPrTestCommand : PostPrTestCommandResult :=
  if command.manifestEntry then runManifestPostPrTestProcess command execution
  else runPostPrTestProcess command execution

end

end

def commandResultJson (result : PostPrTestCommandResult) : Json :=
  .obj
    [("command_id", .str result.commandId),
     ("argv", jsonOfTexts result.argv),
     ("working_directory", .str result.workingDirectory),
     ("status", .str result.status),
     ("exit_code", jsonOfInt result.exitCode),
     ("signal", jsonOfInt result.signal),
     ("bounded_stdout", .str result.boundedStdout),
     ("bounded_stderr", .str result.boundedStderr),
     ("stdout_artifact_path", jsonOfText result.stdoutLogPath),
     ("stderr_artifact_path", jsonOfText result.stderrLogPath),
     ("spawn_error", jsonOfText result.spawnError),
     ("expectation_failures", jsonOfTexts result.expectationFailures),
     ("artifact_failures", jsonOfTexts result.artifactFailures),
     ("failure_classification", jsonOfText result.failureClassification)]

/-! ### One execution -/

structure PostPrTestStep where
  binding : PrFollowupBinding
  params : Json
  stepId : String := "run_post_pr_tests"
  identified : stepId ≠ ""
  /-- What `post_pr_test_commands` makes of the parameters. -/
  commands : Except String (List PostPrTestCommandConfig)

/-- What an execution of it meets with. -/
structure PostPrTestRun where
  order : ListingOrder
  /-- What happens when the command of a place is run. -/
  execution : Nat → TestExecution
  verifiedAt : Timestamp
  writtenAt : Timestamp
  publication : Publication := .published

def commandResults (run : PostPrTestRun) (commands : List PostPrTestCommandConfig) :
    List PostPrTestCommandResult :=
  commands.mapIdx fun place command => runPostPrTestCommand command (run.execution place)

structure PostPrTestCommandSummary where
  commandResults : List Json := []
  infrastructureErrors : List String := []
  anyFailed : Bool := false

def recordPostPrTestCommandResult (summary : PostPrTestCommandSummary)
    (result : PostPrTestCommandResult) : PostPrTestCommandSummary :=
  { commandResults := summary.commandResults ++ [commandResultJson result]
    infrastructureErrors :=
      if result.status = "fatal" then
        summary.infrastructureErrors ++ [s!"command {result.commandId} reported fatal"]
      else summary.infrastructureErrors
    anyFailed :=
      summary.anyFailed || (result.status != "fatal" && result.status != "passed") }

def runPostPrTestCommands (run : PostPrTestRun) (commands : List PostPrTestCommandConfig) :
    PostPrTestCommandSummary :=
  (commandResults run commands).foldl recordPostPrTestCommandResult {}

/-- `same_verification_retry_scope_for_sequences`. -/
def sameVerificationRetryScope (value : Json) (planSequence resultSequence : Nat) : Bool :=
  let scope := value.get? "retry_scope"
  scope.bind (Json.u64? "plan_artifact_sequence") == some planSequence
    && scope.bind (Json.u64? "remediation_result_artifact_sequence") == some resultSequence

def currentVerificationRetryIndex (validate : FamilyInvariants)
    (binding : PrFollowupBinding) (planSequence resultSequence : Nat) (store : ArtifactStore) :
    Except String Nat :=
  match readCurrentJson validate binding testFamily store with
  | .error _ => .ok 0
  | .ok value =>
    if sameVerificationRetryScope value planSequence resultSequence then
      let index := (value.u64? "verification_retry_index").getD 0
      if index + 1 < 2 ^ 64 then .ok (index + 1) else .error "attempt to add with overflow"
    else .ok 0

/-- `artifact_sequence`, of an artifact that has to have one. -/
def requireArtifactSequence (value : Json) (artifactFamily : String) : Except String Nat :=
  match value.u64? "artifact_sequence" with
  | some sequence => .ok sequence
  | none => .error s!"{artifactFamily} missing artifact_sequence"

/-- The arguments of `post_pr_test_payload` that the executions differ in. -/
structure PostPrTestPayload where
  testState : String
  commands : List Json := []
  retryIndex : Nat := 0
  maxRetries : Nat
  exhausted : Bool := false
  errors : List String := []

/-- `post_pr_test_payload`, and `post_pr_test_fatal_payload` where a number is missing. -/
def postPrTestPayload (binding : PrFollowupBinding) (run : PostPrTestRun)
    (planSequence resultSequence : Json) (payload : PostPrTestPayload)
    (payloadError : Option String) : Json :=
  .obj (
    [("test_state", .str payload.testState),
     ("commands", .arr payload.commands),
     ("verification_retry_index", .num payload.retryIndex),
     ("max_verification_retries", .num payload.maxRetries),
     ("retry_scope", .obj
      [("run_id", .str binding.runId),
       ("repository_owner", .str binding.repositoryOwner),
       ("repository_name", .str binding.repositoryName),
       ("pr_number", .num binding.prNumber.toNat),
       ("head_sha", .str binding.headSha),
       ("plan_artifact_sequence", planSequence),
       ("remediation_result_artifact_sequence", resultSequence)]),
     ("plan_artifact_sequence", planSequence),
     ("remediation_result_artifact_sequence", resultSequence),
     ("verification_retry_exhausted", .bool payload.exhausted),
     ("configuration_errors", jsonOfTexts payload.errors)] ++
    (payloadError.map fun error => ("payload_error", .str error)).toList ++
    [("verified_at", .str run.verifiedAt.toRfc3339)])

def postPrTestRequest (step : PostPrTestStep) (run : PostPrTestRun) (payload : Json)
    (failure : Option ArtifactFailure) : JsonArtifactWriteRequest where
  binding := step.binding
  artifactFamily := testFamily
  producerStepId := step.stepId
  stepOrderIndex := UInt64.ofNat (u64Param step.params "step_order_index" 10)
  writtenAt := run.writtenAt
  producedAt := run.writtenAt
  payload := payload
  failure := failure

section Execution

variable (validate : FamilyInvariants) (step : PostPrTestStep)
  (run : PostPrTestRun)

/-- The artifact is written, and the outcome is answered then. -/
def writePostPrTestResult (payload : Json) (failure : Option ArtifactFailure)
    (outcome : StepOutcome) : Effect ArtifactStore StepOutcome :=
  Effect.of fun store =>
    let (written, store) := writeJsonArtifactLocked validate run.order
      (postPrTestRequest step run payload failure) run.publication store
    (written.map fun _ => outcome, store)

def verificationSourceArtifactSequences (plan result : Json) : Except String (Nat × Nat) := do
  let planSequence ← requireArtifactSequence plan planFamily
  let resultSequence ← requireArtifactSequence result resultFamily
  .ok (planSequence, resultSequence)

def writePostPrTestFatal (plan result : Json) (maxRetries : Nat) (reason : String)
    (errors : List String) : Effect ArtifactStore StepOutcome :=
  let payload : PostPrTestPayload :=
    { testState := "fatal", maxRetries := maxRetries, exhausted := true, errors := errors }
  let document :=
    match verificationSourceArtifactSequences plan result with
    | .ok (planSequence, resultSequence) =>
      postPrTestPayload step.binding run (.num planSequence) (.num resultSequence) payload none
    | .error error => postPrTestPayload step.binding run .null .null payload (some error)
  writePostPrTestResult validate step run document
    (some ⟨"fatal", reason, .obj [("errors", jsonOfTexts errors)]⟩) .fatal

def writePostPrTestCompletion (planSequence resultSequence : Nat)
    (summary : PostPrTestCommandSummary) (retryIndex maxRetries : Nat) :
    Effect ArtifactStore StepOutcome :=
  let exhausted := summary.anyFailed && decide (maxRetries ≤ retryIndex)
  writePostPrTestResult validate step run
    (postPrTestPayload step.binding run (.num planSequence) (.num resultSequence)
      { testState := if summary.anyFailed then "failed" else "passed"
        commands := summary.commandResults
        retryIndex := retryIndex
        maxRetries := maxRetries
        exhausted := exhausted } none)
    (if exhausted then
      some ⟨"failed", "verification_retry_cap_exhausted",
        .obj [("verification_retry_index", .num retryIndex),
          ("max_verification_retries", .num maxRetries)]⟩
    else none)
    (if !summary.anyFailed then .success else if exhausted then .fatal else .fixable)

def runPostPrTests : Effect ArtifactStore StepOutcome := do
  let store ← Effect.state
  match readCurrentJson validate step.binding planFamily store,
      readCurrentJson validate step.binding resultFamily store with
  | .error error, _ => throw error
  | .ok _, .error error => throw error
  | .ok plan, .ok result =>
    match u64RequiredParam step.params "max_verification_retries" 2 with
    | .error error =>
      writePostPrTestFatal validate step run plan result 0
        "malformed_retry_cap" [error]
    | .ok maxRetries =>
      match step.commands with
      | .error error =>
        writePostPrTestFatal validate step run plan result maxRetries
          "invalid_command_configuration" [error]
      | .ok commands =>
        let summary := runPostPrTestCommands run commands
        if !summary.infrastructureErrors.isEmpty then
          writePostPrTestFatal validate step run plan result maxRetries
            "infrastructure_failure" summary.infrastructureErrors
        else
          match verificationSourceArtifactSequences plan result with
          | .error error => throw error
          | .ok (planSequence, resultSequence) =>
            match currentVerificationRetryIndex validate step.binding
                planSequence resultSequence store with
            | .error error => throw error
            | .ok retryIndex =>
              writePostPrTestCompletion validate step run planSequence
                resultSequence summary retryIndex maxRetries

end Execution

end Luther
