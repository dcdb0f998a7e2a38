/-
What is measured of a patch.

The changes that Git lists and the files that it does not track are brought together, counted, and
held against the charter.  A digest of what stands in the changed files goes into the measurement,
and the digest of the measurement is what an approval names.
-/
import Luther.Scope.Decision
import Luther.Scope.GitDiff
import Luther.Workflow.Config

namespace Luther

/-! ### The worktree -/

/-- Why a file cannot be read. -/
inductive ReadError where
  | notFound
  | other (message : String)
  deriving DecidableEq

/-- A worktree: what is read of its files, who owns it, and what Git shows of a file. -/
structure Worktree where
  /-- Its root. -/
  workDir : String
  /-- `fs::read` of a path below the root. -/
  read : String → Except ReadError (List UInt8)
  /-- `verify_workspace_ownership`: why a run does not own the workspace. -/
  verifyWorkspaceOwnership : String → Option String
  /-- What `git diff BASE --no-renames --no-color -- PATH` prints, or how it fails. -/
  gitDiff : String → String → Except MeasurementError (List UInt8)

/-- What Git says of the patch. -/
structure GitPatchData where
  headSha : String
  divergence : UInt32
  trackedChanges : List FileChange
  untrackedFiles : List String

def workspaceOwnerMarker : String := ".luther/workspace-owner"

def patchUntrackedFiles (data : GitPatchData) (w : Worktree) (runId : String)
    (ownershipRequired : Bool) : Except MeasurementError (List String) :=
  match w.verifyWorkspaceOwnership runId with
  | none => .ok (data.untrackedFiles.filter (· ≠ workspaceOwnerMarker))
  | some reason =>
    if ownershipRequired then
      .error (.controlMetadata (s!"cannot exclude untrusted workspace ownership marker for " ++
        s!"run '{runId}': {reason}"))
    else if workspaceOwnerMarker ∈ data.untrackedFiles then
      .error (.controlMetadata (s!"workspace ownership marker present but unverified for " ++
        s!"run '{runId}': {reason}"))
    else .ok data.untrackedFiles

/-! ### Numbers -/

/-- `u32::try_from`, or else the greatest `u32`. -/
def u32OrMax (n : Nat) : UInt32 := if n < 2 ^ 32 then UInt32.ofNat n else 4294967295

def saturatingAdd (a b : UInt32) : UInt32 := u32OrMax (a.toNat + b.toNat)

/-- `count_lines_in_file`: nothing for a file that is binary, no text, or not read. -/
def countLinesInFile (w : Worktree) (path : String) : Option UInt32 :=
  match w.read path with
  | .error _ => none
  | .ok content =>
    if 0 ∈ content then none
    else (Utf8.fromUtf8 content).map fun text => u32OrMax (splitLines text).length

def isFileBinary (w : Worktree) (path : String) : Bool :=
  match w.read path with
  | .error _ => false
  | .ok content => decide (0 ∈ content)

def ChangeStatus.isNewFile : ChangeStatus → Bool
  | added | untracked => true
  | modified | deleted => false

def hasSourceExtension (path : String) (extensions : List String) : Bool :=
  extensions.contains ((extension? path).getD "")

def countNewModules (changes : List FileChange) (config : ScopeMeasurementConfig) : UInt32 :=
  u32OrMax (changes.filter fun change =>
    change.status.isNewFile && hasSourceExtension change.path config.sourceExtensions).length

def countDependenciesAdded (manifestDiffs : List (String × List String)) : UInt32 :=
  manifestDiffs.foldl (fun sum diff => saturatingAdd sum (u32OrMax diff.2.length)) 0

/-! ### Public names -/

def isAddedLine (line : String) : Bool := startsWith line "+" && !startsWith line "+++"

def collectAddedDiffLines (w : Worktree) (mergeBase path : String) :
    Except MeasurementError (List String) := do
  let stdout ← w.gitDiff mergeBase path
  let text ← utf8Or s!"non-UTF-8 diff output for '{path}'" stdout
  .ok (((splitLines text).filter isAddedLine).map fun line => String.ofList (line.toList.drop 1))

/-- `fs::read_to_string` of an untracked file, line by line. -/
def untrackedLines (w : Worktree) (path : String) : Except MeasurementError (List String) :=
  match (w.read path).toOption.bind Utf8.fromUtf8 with
  | some text => .ok (splitLines text)
  | none => .error (.parse s!"failed to read untracked source '{path}'")

/-- The lines of a change that are looked through for public names. -/
def scannedLines (config : ScopeMeasurementConfig) (w : Worktree) (mergeBase : String)
    (change : FileChange) : Except MeasurementError (List String) :=
  if change.isBinary then .ok []
  else if hasSourceExtension change.path config.sourceExtensions then
    match change.status with
    | .untracked => untrackedLines w change.path
    | .added | .modified | .deleted => collectAddedDiffLines w mergeBase change.path
  else .ok []

/-- Every line that one of the patterns matches, counted. -/
def countMatches (regexes : List (String → Bool)) (lines : List String) (count : UInt32) :
    UInt32 :=
  lines.foldl (fun count line => if regexes.any (· line) then saturatingAdd count 1 else count)
    count

def countPublicApis (regex : RegexEngine) (changes : List FileChange)
    (config : ScopeMeasurementConfig) (w : Worktree) (mergeBase : String) :
    Except MeasurementError UInt32 :=
  if config.publicApiRegexes = [] then .ok 0
  else
    match config.publicApiRegexes.mapM regex with
    | none => .error (.parse "invalid public API regex")
    | some regexes => do
      let lines ← changes.mapM (scannedLines config w mergeBase)
      .ok (lines.foldl (fun count lines => countMatches regexes lines count) 0)

/-! ### What stands in the files -/

/-- `{:?}` of a status. -/
def ChangeStatus.debug : ChangeStatus → String
  | added => "Added"
  | modified => "Modified"
  | deleted => "Deleted"
  | untracked => "Untracked"

/-- What the digest of the contents takes of a file. -/
def measuredBytes (w : Worktree) (path : String) : Except MeasurementError (List UInt8) :=
  match w.read path with
  | .ok bytes => .ok bytes
  | .error .notFound => .ok (asBytes "<deleted>")
  | .error (.other message) =>
    .error (.git "read measured file" s!"{joinPath w.workDir path}: {message}")

def changeHeader (change : FileChange) : List UInt8 :=
  asBytes change.path ++ [0] ++ (asBytes change.status.debug ++ [0])

/-- What the digest of the contents takes of a change. -/
def measuredChange (w : Worktree) (change : FileChange) :
    Except MeasurementError (List UInt8) := do
  let bytes ← measuredBytes w change.path
  .ok (changeHeader change ++ bytes ++ [0])

def computeContentDigest (sha : Sha256Hex) (w : Worktree) (changes : List FileChange) :
    Except MeasurementError String := do
  let chunks ← changes.mapM (measuredChange w)
  .ok (sha chunks.flatten)

/-! ### The measurement -/

def untrackedChange (w : Worktree) (path : String) : FileChange where
  path := path
  status := .untracked
  addedLines := countLinesInFile w path
  deletedLines := some 0
  isBinary := isFileBinary w path

/-- The changes in the order of their paths, the first of each path. -/
def allChanges (w : Worktree) (trackedChanges : List FileChange) (untrackedFiles : List String) :
    List FileChange :=
  (sortChanges (trackedChanges ++ untrackedFiles.map (untrackedChange w))).destutter
    fun a b => a.path ≠ b.path

def sumAddedLines (changes : List FileChange) : UInt32 :=
  (changes.filterMap FileChange.addedLines).foldl saturatingAdd 0

/-- `compute_changed_subsystems`: a set, in the order of the charter's map. -/
def computeChangedSubsystems (changedPaths : List String) (charter : CanonicalTaskCharter) :
    List String :=
  (charter.subsystems.filter fun subsystem =>
    changedPaths.any fun path => subsystem.2.any (isPathWithin path)).map Prod.fst

def computeMeasurement (sha : Sha256Hex) (regex : RegexEngine) (data : GitPatchData)
    (charter : CanonicalTaskCharter) (expectedRunId : String) (ownershipRequired : Bool)
    (config : ScopeMeasurementConfig) (w : Worktree)
    (dependencyDiffs : List (String × List String)) :
    Except MeasurementError PatchMeasurement :=
  if charter.runId ≠ expectedRunId then
    .error (.controlMetadata
      s!"charter run '{charter.runId}' does not match active run '{expectedRunId}'")
  else do
    let untrackedFiles ← patchUntrackedFiles data w expectedRunId ownershipRequired
    let changes := allChanges w data.trackedChanges untrackedFiles
    let publicApisAdded ← countPublicApis regex changes config w charter.mergeBase
    let changedPaths :=
      ((changes.map FileChange.path).insertionSort (· ≤ ·)).destutter (· ≠ ·)
    let contentDigest ← computeContentDigest sha w changes
    .ok
      { mergeBase := charter.mergeBase
        headSha := data.headSha
        divergence := data.divergence
        filesChanged := u32OrMax changes.length
        addedLines := sumAddedLines changes
        binaryFiles := u32OrMax (changes.filter FileChange.isBinary).length
        newModules := countNewModules changes config
        dependenciesAdded := countDependenciesAdded dependencyDiffs
        publicApisAdded := publicApisAdded
        contentDigest := contentDigest
        changedPaths := changedPaths
        changedSubsystems := computeChangedSubsystems changedPaths charter
        fileDetails := changes }

/-! ### Its digest -/

def optionalU32 (n : Option UInt32) : Json := n.elim .null .ofU32

def FileChange.toJson (change : FileChange) : Json :=
  .obj [("path", .str change.path), ("status", .str change.status.debug),
    ("added_lines", optionalU32 change.addedLines),
    ("deleted_lines", optionalU32 change.deletedLines), ("is_binary", .bool change.isBinary)]

def PatchMeasurement.toJson (m : PatchMeasurement) : Json :=
  .obj [("merge_base", .str m.mergeBase), ("head_sha", .str m.headSha),
    ("divergence", .ofU32 m.divergence), ("files_changed", .ofU32 m.filesChanged),
    ("added_lines", .ofU32 m.addedLines), ("binary_files", .ofU32 m.binaryFiles),
    ("new_modules", .ofU32 m.newModules), ("dependencies_added", .ofU32 m.dependenciesAdded),
    ("public_apis_added", .ofU32 m.publicApisAdded), ("content_digest", .str m.contentDigest),
    ("changed_paths", .arr (m.changedPaths.map .str)),
    ("changed_subsystems", .arr (m.changedSubsystems.map .str)),
    ("file_details", .arr (m.fileDetails.map FileChange.toJson))]

/-- `measurement_digest`: over the measurement as serde_json writes it. -/
def measurementDigest (sha : Sha256Hex) : MeasurementDigest := fun measurement =>
  sha (asBytes measurement.toJson.render)

end Luther

/-
New files, before and after they are added to Git.

Until a file is added it is listed as untracked, and measured by reading it.  Then Git lists it
with the number of its lines, and shows them in a diff with a plus sign before each.
-/

namespace Luther

/-- A file that is not in the repository, with no more lines than Git's listing can be read with. -/
structure NewFile where
  path : String
  content : List UInt8
  countable : (Fields.fields 10 content).length < 2 ^ 32

def NewFile.lines (file : NewFile) : List (List UInt8) := Fields.fields 10 file.content

/-- What Git makes of a new file: whether it takes it for binary, and what stands in its diff
before the first line, none of which is read as an added line. -/
structure GitView where
  binary : NewFile → Bool
  header : String → List (List Char)
  skipped : ∀ path, ∀ line ∈ header path,
    '\n' ∉ line ∧ isAddedLine (String.ofList (withoutReturn line)) = false

namespace GitView

/-- What stands behind a last line that is not ended. -/
def unended (content : List UInt8) : List (List Char) :=
  if content = [] ∨ content.getLast? = some 10 then []
  else ["\\ No newline at end of file".toList]

def diff (git : GitView) (file : NewFile) : List UInt8 :=
  Fields.terminated 10 ((git.header file.path).map Utf8.encode ++ file.lines.map (43 :: ·)
    ++ (unended file.content).map Utf8.encode)

def addedChange (git : GitView) (file : NewFile) : FileChange where
  path := file.path
  status := .added
  addedLines := if git.binary file then none else some (UInt32.ofNat file.lines.length)
  deletedLines := if git.binary file then none else some 0
  isBinary := git.binary file

end GitView

def Worktree.staged (w : Worktree) (git : GitView) (files : List NewFile) : Worktree :=
  { w with
    gitDiff := fun mergeBase path =>
      match files.find? fun file => file.path = path with
      | some file => .ok (git.diff file)
      | none => w.gitDiff mergeBase path }

/-- The size of a patch: files, lines, binary files, modules, public names. -/
def PatchMeasurement.size (m : PatchMeasurement) : UInt32 × UInt32 × UInt32 × UInt32 × UInt32 :=
  (m.filesChanged, m.addedLines, m.binaryFiles, m.newModules, m.publicApisAdded)

/-- Whatever else was changed, the files count the same untracked and added. -/
def StagingFree (git : GitView) (files : List NewFile) : Prop :=
  ∀ sha regex (charter : CanonicalTaskCharter) run required config w deps head divergence tracked,
    (∀ file ∈ files, w.read file.path = .ok file.content) →
    (∀ file ∈ files, file.path ∉ tracked.map FileChange.path) →
    let before := computeMeasurement sha regex
      ⟨head, divergence, tracked, files.map NewFile.path⟩ charter run required config w deps
    let after := computeMeasurement sha regex
      ⟨head, divergence, tracked ++ files.map git.addedChange, []⟩ charter run required config
      (w.staged git files) deps
    before.toOption.map PatchMeasurement.size = after.toOption.map PatchMeasurement.size ∧
      (before.toOption.map fun m => evaluate m charter) =
        after.toOption.map fun m => evaluate m charter

/-- No text file counts as one without lines, and none of its lines is passed over. -/
def NoneDropped (git : GitView) (files : List NewFile) : Prop :=
  ∀ file ∈ files, 0 ∉ file.content → ∀ w : Worktree, w.read file.path = .ok file.content →
    (untrackedChange w file.path).addedLines ≠ none ∧
      ∀ mergeBase before after, untrackedLines w file.path = .ok before →
        collectAddedDiffLines (w.staged git [file]) mergeBase file.path = .ok after →
          before.length = file.lines.length ∧ after.length = file.lines.length

/-- What it takes for a file to count the same: it is not the marker, Git takes for binary what
has a NUL, and a file without one is a text with no line that begins with two plus signs and no
carriage return at its end. -/
structure MeasuredAlike (git : GitView) (file : NewFile) : Prop where
  ordinary : file.path ≠ workspaceOwnerMarker
  binary : git.binary file = decide (0 ∈ file.content)
  text : 0 ∉ file.content → ∃ text, Utf8.fromUtf8 file.content = some text ∧
    (∀ line ∈ splitLines text, startsWith line "++" = false) ∧
      text.toList.getLast? ≠ some '\r'

end Luther
