/-
The two listings of a diff, and how they are read.

`git diff` says twice which paths have changed: once with the status of each, once with the lines
that were added and deleted.  Both listings end their fields with a NUL and come in one order; they
are joined entry by entry, and every disagreement is an error.
-/
import Luther.Digest
import Luther.Lib.Text
import Luther.Lib.Utf8
import Luther.Scope.Evaluation

namespace Luther

/-- `MeasurementError`; a parse error lacks the words of the decoder or the number parser. -/
inductive MeasurementError where
  | git (command message : String)
  | headResolution (message : String)
  | parse (message : String)
  | controlMetadata (message : String)
  deriving DecidableEq

def ChangeStatus.fromLetter : String → Except MeasurementError ChangeStatus
  | "A" => .ok .added
  | "M" => .ok .modified
  | "D" => .ok .deleted
  | "T" => .ok .modified
  | other => .error (.parse s!"unknown status letter '{other}'")

/-! ### The status of each path -/

/-- `split_z`: what stands between the NULs, without what is empty. -/
def splitZ (data : List UInt8) : List (List UInt8) := Fields.segments 0 data

/-- `chunks_exact(2)`. -/
def chunksExactTwo {α : Type} : List α → List (α × α)
  | a :: b :: rest => (a, b) :: chunksExactTwo rest
  | _ => []

/-- `String::from_utf8`, with what the error says is not UTF-8. -/
def utf8Or (what : String) (bytes : List UInt8) : Except MeasurementError String :=
  match Utf8.fromUtf8 bytes with
  | some text => .ok text
  | none => .error (.parse what)

/-- The turn of the loop of `parse_name_status_z`. -/
def parseNameStatus (chunk : List UInt8 × List UInt8) :
    Except MeasurementError (String × String) := do
  let status ← utf8Or "non-UTF-8 status letter in name-status" chunk.1
  let path ← utf8Or "non-UTF-8 path in name-status" chunk.2
  .ok (status, path)

def parseNameStatusZ (data : List UInt8) : Except MeasurementError (List (String × String)) :=
  let segments := splitZ data
  if segments.length % 2 ≠ 0 then
    .error (.parse (s!"name-status -z output has odd number of NUL segments " ++
      s!"({segments.length}); expected status+path pairs"))
  else (chunksExactTwo segments).mapM parseNameStatus

/-! ### The lines of each path -/

/-- A count of `git diff --numstat`. -/
inductive NumstatCount where
  | lines (count : UInt32)
  | binary

/-- A line of `git diff --numstat`. -/
structure NumstatEntry where
  added : NumstatCount
  deleted : NumstatCount
  path : String

def parseNumstatCount (value : String) : Except MeasurementError NumstatCount :=
  if value = "-" then .ok .binary
  else
    match parseU32 value with
    | some n => .ok (.lines n)
    | none => .error (.parse s!"invalid numstat count '{value}'")

/-- `parse_single_numstat`: the path is all that stands behind the second tab. -/
def parseSingleNumstat (line : String) : Except MeasurementError NumstatEntry :=
  match splitOnce '\t' line with
  | none => .error (.parse s!"numstat line missing deleted field: '{line}'")
  | some (added, rest) =>
    match splitOnce '\t' rest with
    | none => .error (.parse s!"numstat line missing path field: '{line}'")
    | some (deleted, path) => do
      let added ← parseNumstatCount added
      let deleted ← parseNumstatCount deleted
      .ok ⟨added, deleted, path⟩

/-- The turn of the loop of `parse_numstat_z`. -/
def parseNumstat (segment : List UInt8) : Except MeasurementError NumstatEntry := do
  let line ← utf8Or "non-UTF-8 numstat entry" segment
  parseSingleNumstat line

def parseNumstatZ (data : List UInt8) : Except MeasurementError (List NumstatEntry) :=
  (splitZ data).mapM parseNumstat

/-! ### Both -/

def NumstatEntry.counts : NumstatEntry → Option (UInt32 × UInt32)
  | ⟨.lines added, .lines deleted, _⟩ => some (added, deleted)
  | _ => none

/-- The turn of the loop of `merge_status_and_numstat`. -/
def mergeEntry (i : Nat) (status : String × String) (numstat : NumstatEntry) :
    Except MeasurementError FileChange :=
  if numstat.path ≠ status.2 then
    .error (.parse (s!"path mismatch at index {i}: name-status='{status.2}' " ++
      s!"vs numstat='{numstat.path}'"))
  else do
    let changeStatus ← ChangeStatus.fromLetter status.1
    .ok
      { path := status.2
        status := changeStatus
        addedLines := numstat.counts.map Prod.fst
        deletedLines := numstat.counts.map Prod.snd
        isBinary := numstat.counts.isNone }

def sortChanges (changes : List FileChange) : List FileChange :=
  changes.insertionSort fun a b => a.path ≤ b.path

def mergeStatusAndNumstat (statuses : List (String × String)) (numstats : List NumstatEntry) :
    Except MeasurementError (List FileChange) :=
  if statuses.length ≠ numstats.length then
    .error (.parse (s!"name-status has {statuses.length} entries but numstat has " ++
      s!"{numstats.length}; Git should report the same paths in the same order"))
  else do
    let changes ← (statuses.zip numstats).zipIdx.mapM fun entry =>
      mergeEntry entry.2 entry.1.1 entry.1.2
    .ok (sortChanges changes)

/-- What `collect_tracked_changes` makes of the two outputs. -/
def parseTrackedChanges (nameStatus numstat : List UInt8) :
    Except MeasurementError (List FileChange) := do
  let statuses ← parseNameStatusZ nameStatus
  let numstats ← parseNumstatZ numstat
  mergeStatusAndNumstat statuses numstats

/-! ### What Git writes -/

/-- A status that a diff without renames can give to a path. -/
inductive ListedStatus where
  | added
  | modified
  | deleted
  | typeChanged

def ListedStatus.letter : ListedStatus → String
  | added => "A"
  | modified => "M"
  | deleted => "D"
  | typeChanged => "T"

def ListedStatus.changeStatus : ListedStatus → ChangeStatus
  | added => .added
  | modified | typeChanged => .modified
  | deleted => .deleted

/-- A change: a path, its status, and its lines, if it is not binary. -/
structure GitChange where
  path : ListedPath
  status : ListedStatus
  counts : Option (UInt32 × UInt32)

namespace GitChange

def fileChange (change : GitChange) : FileChange where
  path := change.path.text
  status := change.status.changeStatus
  addedLines := change.counts.map Prod.fst
  deletedLines := change.counts.map Prod.snd
  isBinary := change.counts.isNone

def countText (count : Option UInt32) : String := (count.map fun n => n.toNat.repr).getD "-"

/-- `ADDED\tDELETED\tPATH`. -/
def numstatLine (change : GitChange) : String :=
  countText (change.counts.map Prod.fst) ++ "\t" ++ countText (change.counts.map Prod.snd)
    ++ "\t" ++ change.path.text

end GitChange

/-- `git diff --name-status --no-renames -z`. -/
def nameStatusZ (changes : List GitChange) : List UInt8 :=
  Fields.terminated 0 (changes.flatMap fun change =>
    [asBytes change.status.letter, asBytes change.path.text])

/-- `git diff --numstat --no-renames -z`. -/
def numstatZ (changes : List GitChange) : List UInt8 :=
  Fields.terminated 0 (changes.map fun change => asBytes change.numstatLine)

/-- The paths of fields that are statuses and paths in turn; a status without a path names none. -/
def pathsInTurn : List (List UInt8) → List (Option (List UInt8))
  | _ :: path :: rest => some path :: pathsInTurn rest
  | [_] => [none]
  | [] => []

/-- The paths that an output of `--name-status -z` names, field by field. -/
def nameStatusPaths (data : List UInt8) : List (Option (List UInt8)) :=
  pathsInTurn (Fields.fields 0 data)

def behindTab (bytes : List UInt8) : Option (List UInt8) :=
  match bytes.dropWhile (· != 9) with
  | [] => none
  | _ :: after => some after

/-- The paths that an output of `--numstat -z` names, field by field. -/
def numstatPaths (data : List UInt8) : List (Option (List UInt8)) :=
  (Fields.fields 0 data).map fun field => (behindTab field).bind behindTab

end Luther
