/-
Commands of a manifest and what is expected of them.

A command's two streams are read to their end, but no more than one byte beyond the limit for
excerpts is kept of either.  What is kept is decoded, held against the patterns, and cut down to
the excerpt.  A command whose exit code asks for it is started again as often as its entry allows.
-/
import Luther.Lib.Lossy
import Luther.Lib.Path
import Luther.Lib.Text

namespace Luther.Manifest

/-! ### Commands -/

/-- What is to stand at a path. -/
inductive ArtifactKind where
  | any
  | file
  | directory

/-- A path that a command is to leave. -/
structure ArtifactExpectation where
  path : String
  kind : ArtifactKind

/-- What a failure of the command means. -/
inductive FailureOutcome where
  | fatal
  | fixable

/-- `ManifestCommandRequest`, as far as the judgement of a command reads it. -/
structure ManifestCommandRequest where
  commandId : String
  argv : List String
  workingDirectory : String
  artifactBaseDirectory : String
  acceptableExitCodes : List Int
  captureStdout : Bool
  captureStderr : Bool
  captureLimitBytes : Nat
  stdoutRequiredPatterns : List String
  stdoutForbiddenPatterns : List String
  stderrRequiredPatterns : List String
  stderrForbiddenPatterns : List String
  requiredArtifacts : List ArtifactExpectation
  forbiddenArtifacts : List ArtifactExpectation
  failureOutcome : FailureOutcome

structure ManifestCommandResult where
  commandId : String
  argv : List String
  workingDirectory : String
  exitCode : Option Int
  timedOut : Bool
  boundedStdout : String
  boundedStderr : String
  expectationFailures : List String
  artifactFailures : List String
  failureOutcome : FailureOutcome
  spawnError : Option String

/-! ### Streams -/

/-- What one read of a pipe gives; a read of no bytes is the end. -/
inductive PipeRead where
  | bytes (chunk : List UInt8)
  | interrupted
  | failed

/-- The loop of `read_bounded_text`: of every chunk as much is kept as there is still room for. -/
def readBounded (captureBound : Nat) : List UInt8 → List PipeRead → List UInt8
  | kept, [] => kept
  | kept, .bytes [] :: _ => kept
  | kept, .bytes (b :: chunk) :: rest =>
    let remaining := captureBound - kept.length
    readBounded captureBound
      (if 0 < remaining then kept ++ (b :: chunk).take remaining else kept) rest
  | kept, .interrupted :: rest => readBounded captureBound kept rest
  | kept, .failed :: _ => kept

/-- `capture_limit_bytes.saturating_add(1)`. -/
def captureBound (captureLimitBytes : Nat) : Nat := min (captureLimitBytes + 1) (2 ^ 64 - 1)

def readBoundedText (pipe : List PipeRead) (captureLimitBytes : Nat) : String :=
  String.ofList (Utf8.decodeLossy (readBounded (captureBound captureLimitBytes) [] pipe))

/-- A command that has come to its end: the reads of its pipes, and how it ended. -/
structure FinishedChild where
  stdout : List PipeRead
  stderr : List PipeRead
  exitCode : Option Int
  timedOut : Bool

/-- The text that is kept of the output. -/
structure ProcessOutputCapture where
  stdoutText : String
  stderrText : String
  exitCode : Option Int
  timedOut : Bool

/-- `wait_for_manifest_child`, for a command both of whose readers come to their end. -/
def waitForManifestChild (child : FinishedChild) (captureLimitBytes : Nat) :
    ProcessOutputCapture :=
  ⟨readBoundedText child.stdout captureLimitBytes, readBoundedText child.stderr captureLimitBytes,
    child.exitCode, child.timedOut⟩

/-- As many characters as fit into so many bytes. -/
def takeBytes : Nat → List Char → List Char
  | _, [] => []
  | limit, c :: rest => if c.utf8Size ≤ limit then c :: takeBytes (limit - c.utf8Size) rest else []

def boundedExcerpt (text : String) (limitBytes : Nat) : String :=
  if text.utf8ByteSize ≤ limitBytes then text
  else String.ofList (takeBytes limitBytes text.toList) ++ "\n...[truncated]"

def capturedExcerpt (enabled : Bool) (text : String) (limitBytes : Nat) : String :=
  if enabled then boundedExcerpt text limitBytes else ""

/-! ### Expectations -/

/-- `{:?}` of an exit code. -/
def debugExitCode : Option Int → String
  | none => "None"
  | some code => s!"Some({code})"

def missingPattern (stream pattern : String) : String :=
  s!"{stream} missing required pattern {pattern}"

def matchedPattern (stream pattern : String) : String :=
  s!"{stream} matched forbidden pattern {pattern}"

/-- `pattern_failures`: a pattern that is no regular expression is never met. -/
def patternFailures (engine : RegexEngine) (stream text : String)
    (required forbidden : List String) : List String :=
  (required.filter fun pattern => (engine pattern).all fun isMatch => !isMatch text).map
      (missingPattern stream) ++
    (forbidden.filter fun pattern => (engine pattern).any fun isMatch => isMatch text).map
      (matchedPattern stream)

def expectationFailures (engine : RegexEngine) (request : ManifestCommandRequest)
    (exitCode : Option Int) (stdout stderr : String) : List String :=
  (if exitCode.any request.acceptableExitCodes.contains then []
    else [s!"exit code {debugExitCode exitCode} was not acceptable"]) ++
  patternFailures engine "stdout" stdout request.stdoutRequiredPatterns
    request.stdoutForbiddenPatterns ++
  patternFailures engine "stderr" stderr request.stderrRequiredPatterns
    request.stderrForbiddenPatterns

/-! ### Artifacts -/

/-- The file system, where artifacts are looked for. -/
structure ArtifactFiles where
  canonicalize : String → Option String
  «exists» : String → Bool
  isFile : String → Bool
  isDir : String → Bool

def artifactPathUnderRoot (root artifactPath : String) : Option String :=
  if (pathComponents artifactPath).any fun component =>
      component == .rootDir || component == .parentDir then none
  else some (joinPath root artifactPath)

def resolvedArtifactPathUnderRoot (files : ArtifactFiles) (root path : String) : Option String :=
  (files.canonicalize root).bind fun root =>
    (files.canonicalize path).bind fun path =>
      if (pathComponents root).isPrefixOf (pathComponents path) then some path else none

def artifactMatches (files : ArtifactFiles) (root : String) (artifact : ArtifactExpectation) :
    Bool :=
  match (artifactPathUnderRoot root artifact.path).bind
      (resolvedArtifactPathUnderRoot files root) with
  | none => false
  | some path =>
    match artifact.kind with
    | .any => files.exists path
    | .file => files.isFile path
    | .directory => files.isDir path

def artifactFailures (files : ArtifactFiles) (request : ManifestCommandRequest) : List String :=
  let present := artifactMatches files request.artifactBaseDirectory
  ((request.requiredArtifacts.filter fun artifact => !present artifact).map fun artifact =>
      s!"required artifact missing: {artifact.path}") ++
    (request.forbiddenArtifacts.filter present).map fun artifact =>
      s!"forbidden artifact present: {artifact.path}"

/-! ### The judgement of a command -/

def manifestProcessResult (engine : RegexEngine) (files : ArtifactFiles)
    (request : ManifestCommandRequest) (output : ProcessOutputCapture) : ManifestCommandResult where
  commandId := request.commandId
  argv := request.argv
  workingDirectory := request.workingDirectory
  exitCode := output.exitCode
  timedOut := output.timedOut
  boundedStdout :=
    capturedExcerpt request.captureStdout output.stdoutText request.captureLimitBytes
  boundedStderr :=
    capturedExcerpt request.captureStderr output.stderrText request.captureLimitBytes
  expectationFailures :=
    expectationFailures engine request output.exitCode output.stdoutText output.stderrText ++
      if output.timedOut then ["command timed out"] else []
  artifactFailures := artifactFailures files request
  failureOutcome := request.failureOutcome
  spawnError := none

end Luther.Manifest
