/-
What the artifact store puts into a document, and what it asks of one it reads.

A document is one JSON object: the payload of its producer, with the store's own fields
written into it.  The store's fields replace those of the payload that have their names;
the other fields of the payload stay, also where the store will read them later.
-/
import Luther.Lib.Assoc
import Luther.Lib.Json
import Luther.Persistence.Time

namespace Json

def asBool? : Json → Option Bool
  | bool b => some b
  | _ => none

def asObject? : Json → Option (List (String × Json))
  | obj entries => some entries
  | _ => none

mutual

/-- How many containers are open at the innermost place of a value. -/
def depth : Json → Nat
  | arr elements => depthList elements + 1
  | obj entries => depthEntries entries + 1
  | _ => 0

def depthList : List Json → Nat
  | [] => 0
  | x :: rest => max (depth x) (depthList rest)

def depthEntries : List (String × Json) → Nat
  | [] => 0
  | (_, v) :: rest => max (depth v) (depthEntries rest)

end

theorem depthEntries_le {bound : Nat} {entries : List (String × Json)}
    (h : ∀ entry ∈ entries, entry.2.depth ≤ bound) : depthEntries entries ≤ bound := by
  induction entries with
  | nil => exact Nat.zero_le _
  | cons entry rest ih =>
    exact Nat.max_le.mpr ⟨h entry (by simp), ih fun e he => h e (by simp [he])⟩

theorem depthEntries_append (xs ys : List (String × Json)) :
    depthEntries (xs ++ ys) = max (depthEntries xs) (depthEntries ys) := by
  induction xs with
  | nil => simp [depthEntries]
  | cons x rest ih => simp only [List.cons_append, depthEntries, ih, Nat.max_assoc]

theorem depthEntries_insert (key : String) (v : Json) (entries : List (String × Json)) :
    depthEntries (Assoc.insert key v entries) ≤ max v.depth (depthEntries entries) := by
  induction entries with
  | nil => simp [Assoc.insert, depthEntries]
  | cons e rest ih =>
    obtain ⟨key', v'⟩ := e
    unfold Assoc.insert
    by_cases hkey : key' = key
    · rw [if_pos hkey]
      simp only [depthEntries]
      omega
    · rw [if_neg hkey]
      simp only [depthEntries]
      omega

theorem depthEntries_insertMany {bound : Nat} {fields : List (String × Json)}
    (hfields : ∀ field ∈ fields, field.2.depth ≤ bound) {entries : List (String × Json)}
    (hentries : depthEntries entries ≤ bound) :
    depthEntries (fields.foldl (fun object field => Assoc.insert field.1 field.2 object) entries)
      ≤ bound := by
  induction fields generalizing entries with
  | nil => exact hentries
  | cons field rest ih =>
    refine ih (fun f hf => hfields f (by simp [hf])) ?_
    have hfield := hfields field (by simp)
    exact Nat.le_trans (depthEntries_insert field.1 field.2 entries)
      (Nat.max_le.mpr ⟨hfield, hentries⟩)

/-- `serde_json::from_str`, on the text of a value: the parser gives up where 128 containers
are open. -/
def fromText (value : Json) : Except String Json :=
  if value.depth < 128 then .ok value else .error "recursion limit exceeded"

end Json

namespace Luther

/-! ### Paths -/

/-- `sanitize_path_segment`: one path segment for a text, and another for another. -/
def sanitizePathSegment (value : String) : String :=
  let readable := value ≠ "" ∧ value ≠ "." ∧ value ≠ ".." ∧
    value.toList.all fun c => c.isAlphanum || c == '-' || c == '_' || c == '.'
  if readable then value
  else
    let hex (byte : UInt8) : String :=
      String.ofList [Nat.digitChar (byte.toNat / 16), Nat.digitChar (byte.toNat % 16)]
    "~" ++ String.join (value.toUTF8.toList.map hex)

/-- The path of a file, as far as the store takes paths apart. -/
structure FilePath where
  parent : String
  fileStem : String
  extension : String
  deriving DecidableEq

def FilePath.text (path : FilePath) : String :=
  path.parent ++ "/" ++ path.fileStem ++ "." ++ path.extension

def FilePath.ofText (text : String) : FilePath :=
  let reversed := text.toList.reverse
  let name := (reversed.takeWhile (· ≠ '/')).reverse
  let parent := (reversed.dropWhile (· ≠ '/')).drop 1 |>.reverse
  let extension := (name.reverse.takeWhile (· ≠ '.')).reverse
  if extension.length = name.length then
    ⟨String.ofList parent, String.ofList name, ""⟩
  else
    ⟨String.ofList parent, String.ofList (name.take (name.length - extension.length - 1)),
      String.ofList extension⟩

/-- `paths_match`: no path of a store goes through a symbolic link. -/
def pathsMatch (embedded : String) (actual : FilePath) : Bool := embedded == actual.text

/-! ### Bindings -/

/-- The pull request, and the head of it, that a document is about. -/
structure PrFollowupBinding where
  schemaVersion : UInt32
  runId : String
  repositoryOwner : String
  repositoryName : String
  prNumber : UInt64
  headRef : String
  headSha : String
  baseRef : String
  baseSha : Option String
  deriving DecidableEq

def PrFollowupBinding.prIdentityMatches (other self : PrFollowupBinding) : Bool :=
  self.schemaVersion != 0
    && self.schemaVersion == other.schemaVersion
    && self.runId != "" && self.runId == other.runId
    && self.repositoryOwner != "" && self.repositoryOwner == other.repositoryOwner
    && self.repositoryName != "" && self.repositoryName == other.repositoryName
    && self.prNumber != 0 && self.prNumber == other.prNumber
    && self.headRef != "" && self.headRef == other.headRef
    && self.baseRef != "" && self.baseRef == other.baseRef

def validateBinding (expected actual : PrFollowupBinding) : Bool :=
  expected == actual && expected.schemaVersion != 0 && expected.runId != ""
    && expected.repositoryOwner != "" && expected.repositoryName != "" && expected.prNumber != 0
    && expected.headRef != "" && expected.headSha != "" && expected.baseRef != ""

/-- `validate_sequence_binding`: the heads may differ. -/
def validateSequenceBinding (expected actual : PrFollowupBinding) : Bool :=
  expected.schemaVersion == actual.schemaVersion && expected.schemaVersion != 0
    && expected.runId == actual.runId && expected.runId != ""
    && expected.repositoryOwner == actual.repositoryOwner && expected.repositoryOwner != ""
    && expected.repositoryName == actual.repositoryName && expected.repositoryName != ""
    && expected.prNumber == actual.prNumber && expected.prNumber != 0
    && expected.headRef == actual.headRef && expected.headRef != ""
    && expected.headSha != "" && actual.headSha != ""
    && expected.baseRef == actual.baseRef && expected.baseRef != ""
    && expected.baseSha != some "" && actual.baseSha != some ""

/-- A binding that leaves out nothing that the documents of a run must name. -/
abbrev PrFollowupBinding.Complete (binding : PrFollowupBinding) : Prop :=
  validateSequenceBinding binding binding

/-! ### Reading fields -/

def requireU64 (field : String) (value : Json) : Except String Nat :=
  match (value.get? field).bind Json.asU64? with
  | some n => .ok n
  | none => .error s!"missing or invalid integer field {field}"

/-- `require_string`, and `require_string_from_object`: an empty text is none. -/
def requireString (field : String) (value : Json) : Except String String :=
  match (value.get? field).bind Json.asStr? with
  | some text => if text = "" then .error s!"missing or invalid string field {field}" else .ok text
  | none => .error s!"missing or invalid string field {field}"

/-- `require_bool_from_object`. -/
def requireBool (field : String) (value : Json) : Except String Bool :=
  match (value.get? field).bind Json.asBool? with
  | some b => .ok b
  | none => .error s!"missing or invalid bool field {field}"

/-- `value.get("history_metadata").and_then(|m| m.get(field)).and_then(Value::as_str)`. -/
def metadataString (field : String) (value : Json) : Option String :=
  ((value.get? "history_metadata").bind (Json.get? field)).bind Json.asStr?

def artifactFamilyFromValue (value : Json) : Option String :=
  metadataString "artifact_family" value

/-- The base commit of a document: missing and `null` are none. -/
def baseShaFromValue (value : Json) : Except String (Option String) :=
  match value.get? "base_sha" with
  | none => .ok none
  | some .null => .ok none
  | some (.str sha) => .ok (some sha)
  | some _ => .error "base_sha must be string or null"

def bindingFromValue (value : Json) : Except String PrFollowupBinding := do
  let schemaVersion ← requireU64 "schema_version" value
  if 2 ^ 32 ≤ schemaVersion then
    .error "schema_version out of range: out of range integral type conversion attempted"
  let runId ← requireString "run_id" value
  let repositoryOwner ← requireString "repository_owner" value
  let repositoryName ← requireString "repository_name" value
  let prNumber ← requireU64 "pr_number" value
  let headRef ← requireString "head_ref" value
  let headSha ← requireString "head_sha" value
  let baseRef ← requireString "base_ref" value
  let baseSha ← baseShaFromValue value
  .ok
    { schemaVersion := UInt32.ofNat schemaVersion
      runId := runId
      repositoryOwner := repositoryOwner
      repositoryName := repositoryName
      prNumber := UInt64.ofNat prNumber
      headRef := headRef
      headSha := headSha
      baseRef := baseRef
      baseSha := baseSha }

/-! ### The store's fields -/

/-- The numbers of a document and the step that produced it. -/
structure ArtifactSequenceMetadata where
  artifactSequence : Nat
  writeSequence : Nat
  producerStepId : String
  deriving DecidableEq

/-- What a failed step says. -/
structure ArtifactFailure where
  semanticState : String
  reason : String
  details : Json

/-- What the store writes into a payload. -/
structure StoreFieldContext where
  binding : PrFollowupBinding
  artifactFamily : String
  stepOrderIndex : UInt64
  writtenAt : Timestamp
  producedAt : Timestamp
  sequence : ArtifactSequenceMetadata
  canonicalPath : FilePath
  historyPath : FilePath
  /-- The number of the failure, with what the step says. -/
  failure : Option (Nat × ArtifactFailure)

/-- `insert_binding_fields`. -/
def bindingFields (binding : PrFollowupBinding) : List (String × Json) :=
  [("schema_version", .num binding.schemaVersion.toNat),
   ("run_id", .str binding.runId),
   ("repository_owner", .str binding.repositoryOwner),
   ("repository_name", .str binding.repositoryName),
   ("pr_number", .num binding.prNumber.toNat),
   ("head_ref", .str binding.headRef),
   ("head_sha", .str binding.headSha),
   ("base_ref", .str binding.baseRef),
   ("base_sha", binding.baseSha.elim .null .str)]

section

variable (context : StoreFieldContext)

def historyMetadata : Json :=
  .obj
    [("canonical_path", .str context.canonicalPath.text),
     ("history_path", .str context.historyPath.text),
     ("artifact_family", .str context.artifactFamily),
     ("is_canonical", .bool true),
     ("history_written_at", .str context.writtenAt.toRfc3339)]

def failureFields : List (String × Json) :=
  match context.failure with
  | none => []
  | some (failureSequence, failure) =>
    [("semantic_state", .str failure.semanticState),
     ("failure_reason", .str failure.reason),
     ("failure_sequence", .num failureSequence),
     ("produced_at", .str context.producedAt.toRfc3339),
     ("failure_details", failure.details)]

/-- The store's fields, in the order in which they are written. -/
def storeFields : List (String × Json) :=
  bindingFields context.binding ++
    [("artifact_sequence", .num context.sequence.artifactSequence),
     ("write_sequence", .num context.sequence.writeSequence),
     ("producer_step_id", .str context.sequence.producerStepId),
     ("step_order_index", .num context.stepOrderIndex.toNat),
     ("history_metadata", historyMetadata context)] ++
    failureFields context

def injectStoreFields (payload : Json) : Except String Json :=
  match payload.asObject? with
  | none => .error "artifact payload must serialize to a JSON object"
  | some entries =>
    .ok (.obj ((storeFields context).foldl (fun object field =>
      Assoc.insert field.1 field.2 object) entries))

end

/-! ### Checks -/

def validateArtifactMetadata (artifactFamily : String) (value : Json) : Except String Unit := do
  let metadata ← match (value.get? "history_metadata").bind Json.asObject? with
    | some entries => Except.ok (Json.obj entries)
    | none => .error "missing history_metadata"
  let family ← match (metadata.get? "artifact_family").bind Json.asStr? with
    | some family => Except.ok family
    | none => .error "missing history_metadata.artifact_family"
  if family ≠ artifactFamily then
    .error s!"artifact family mismatch: expected {artifactFamily}, got {family}"
  let _ ← requireU64 "artifact_sequence" value
  let _ ← requireU64 "write_sequence" value
  let _ ← requireString "producer_step_id" value
  let _ ← requireU64 "step_order_index" value
  let _ ← requireString "canonical_path" metadata
  let _ ← requireString "history_path" metadata
  let _ ← requireBool "is_canonical" metadata
  let _ ← requireString "history_written_at" metadata

def validateArtifactValue (expected : PrFollowupBinding) (artifactFamily : String)
    (value : Json) : Except String Unit := do
  let actual ← bindingFromValue value
  if !validateBinding expected actual then .error "artifact binding mismatch"
  validateArtifactMetadata artifactFamily value

def validateSequenceArtifactValue (expected : PrFollowupBinding) (artifactFamily : String)
    (value : Json) : Except String Unit := do
  let actual ← bindingFromValue value
  if !validateSequenceBinding expected actual then .error "artifact binding mismatch"
  validateArtifactMetadata artifactFamily value

/-- The checks of the families that decide where a workflow goes on. -/
abbrev FamilyInvariants := String → Json → Except String Unit

def validateHistorySnapshot (validate : FamilyInvariants)
    (artifactFamily : String) (value : Json) (path : FilePath) : Except String Unit := do
  match metadataString "artifact_family" value with
  | some family =>
    if family ≠ artifactFamily then
      .error (s!"history artifact family mismatch: expected {artifactFamily}, got {family} in "
        ++ path.text)
  | none => .error ("history artifact missing history_metadata.artifact_family in " ++ path.text)
  validateArtifactMetadata artifactFamily value
  validate artifactFamily value

def historyStem (sequence : ArtifactSequenceMetadata) (artifactName : Option String) : String :=
  let producer := sanitizePathSegment sequence.producerStepId
  let stem := s!"{sequence.artifactSequence}-{sequence.writeSequence}-{producer}"
  match artifactName with
  | some name => stem ++ "-" ++ sanitizePathSegment name
  | none => stem

def validateHistoryFilename (artifactFamily : String) (value : Json) (path : FilePath) :
    Except String Unit := do
  let number (field : String) : Except String Nat :=
    match (value.get? field).bind Json.asU64? with
    | some n => .ok n
    | none => .error s!"missing {field} in {path.text}"
  let artifactSequence ← number "artifact_sequence"
  let writeSequence ← number "write_sequence"
  let producerStepId ← match (value.get? "producer_step_id").bind Json.asStr? with
    | some producer => Except.ok producer
    | none => .error s!"missing producer_step_id in {path.text}"
  if artifactSequence = 0 ∨ writeSequence = 0 then
    .error s!"zero sequence value in {artifactFamily} family at {path.text}"
  if producerStepId = "" then
    .error s!"empty producer_step_id in {path.text}"
  let expectedStem := historyStem ⟨artifactSequence, writeSequence, producerStepId⟩
    ((value.get? "artifact_name").bind Json.asStr?)
  if path.fileStem ≠ expectedStem then
    .error (s!"history filename mismatch: expected exact stem {expectedStem}, got "
      ++ path.fileStem ++ " in " ++ path.text)

def validateHistoryEmbeddedPath (value : Json) (path : FilePath) : Except String Unit :=
  match metadataString "history_path" value with
  | none => .error s!"missing history_metadata.history_path in {path.text}"
  | some embedded =>
    if pathsMatch embedded path then .ok ()
    else .error ("history path mismatch: embedded " ++ embedded.quote
      ++ " does not match actual " ++ path.text)

def validateCanonicalEmbeddedPath (value : Json) (path : FilePath) : Except String Unit :=
  match metadataString "canonical_path" value with
  | none => .error s!"missing history_metadata.canonical_path in {path.text}"
  | some embedded =>
    if pathsMatch embedded path then .ok ()
    else .error ("canonical path mismatch: embedded " ++ embedded.quote
      ++ " does not match actual " ++ path.text)

def checkedNextSequence (current : Nat) (sequenceName : String) : Except String Nat :=
  if current + 1 < 2 ^ 64 then .ok (current + 1)
  else .error s!"cannot allocate {sequenceName}: sequence space is exhausted"

end Luther
