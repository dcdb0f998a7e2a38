/-
The marker that a posted comment carries.

A comment that answers a feedback item ends in a hidden HTML comment with the identity of the
action it was posted for.  A later pass over the pull request reads the marker back from the
comments it sees, and an action whose key it finds there is not carried out again.
-/
import Luther.Feedback.PendingAction

namespace Luther

def markerNamespace : String := "luther-pr-followup"

/-- The fields of a marker. -/
structure RemoteFeedbackMarker where
  stableMarkerKey : String
  sourceHeadSha : String
  remediationOutputHeadSha : Option String
  bodyHash : String
  actionKind : String
  runId : String
  status : String
  deriving DecidableEq

/-! ### Rendering -/

def sanitizeVisibleText (text : String) : String :=
  replaceText "-->" "--&gt;" (replaceText "<!--" "&lt;!--"
    (text.map fun c => if c = '\u0060' then '\'' else c))

def renderDefaultMarkerVisible (action : PendingMarkerAction) : String :=
  let reason := sanitizeVisibleText action.reason
  match action.actionKind with
  | .commentFixed =>
    "Luther follow-up: fixed CodeRabbit feedback `" ++ action.stableMarkerKey
      ++ "`. Evidence: " ++ reason ++ "."
  | .commentOutOfScope =>
    "Luther follow-up: CodeRabbit feedback `" ++ action.stableMarkerKey
      ++ "` is out of scope. Reason: " ++ reason ++ "."
  | .commentNeedsUserJudgment =>
    "Luther follow-up: CodeRabbit feedback `" ++ action.stableMarkerKey
      ++ "` needs user judgment. Reason: " ++ reason ++ "."
  | .commentInvalid | .skipNeedsUserJudgment =>
    "Luther follow-up: CodeRabbit feedback `" ++ action.stableMarkerKey
      ++ "` is not valid. Reason: " ++ reason ++ "."

/-- What a reader of the comment sees: the answer, or a default text where there is none. -/
def renderMarkerVisible (action : PendingMarkerAction) : String :=
  match (action.responseText.map trim).filter (· ≠ "") with
  | some text => sanitizeVisibleText text
  | none => renderDefaultMarkerVisible action

def renderHiddenMarker (binding : PrFollowupBinding) (action : PendingMarkerAction) : String :=
  "<!-- " ++ markerNamespace ++ " marker_key=" ++ action.stableMarkerKey
    ++ " source_head=" ++ action.sourceHeadSha
    ++ " remediation_output_head=" ++ action.remediationOutputHead
    ++ " body=" ++ action.bodyHash
    ++ " action=" ++ action.actionKind.text
    ++ " run_id=" ++ binding.runId ++ " -->"

def renderMarkerCommentBody (binding : PrFollowupBinding) (action : PendingMarkerAction) :
    String :=
  renderMarkerVisible action ++ "\n\n" ++ renderHiddenMarker binding action ++ "\n"

/-! ### Parsing -/

/-- `MarkerParseError`, or an index that is out of the range of the text. -/
inductive MarkerParseError where
  | diagnostic (text : String)
  | sliceOutOfRange
  deriving DecidableEq

def markerParseError {α : Type} (diagnostic : String) : Except MarkerParseError α :=
  .error (.diagnostic diagnostic)

def extractExactMarkerBody (body : String) : Except MarkerParseError String :=
  let trimmed := trim body
  if !startsWith trimmed "<!--" || !"-->".toList.isSuffixOf trimmed.toList then
    markerParseError "marker must be a single exact hidden HTML comment"
  -- The delimiters overlap in `<!-->` and `<!--->`, and the slice ends before it starts.
  else if trimmed.length < 7 then .error .sliceOutOfRange
  else
    let inner := String.ofList ((trimmed.toList.take (trimmed.length - 3)).drop 4)
    if containsText inner "<!--" || containsText inner "-->" then
      markerParseError "nested marker comment delimiter"
    else
      let marker := trim inner
      if !startsWith marker markerNamespace then markerParseError "wrong marker namespace"
      else .ok marker

/-- The fields of a marker, put into a map one after another. -/
def readMarkerFields : List String → List (String × String) →
    Except MarkerParseError (List (String × String))
  | [], map => .ok map
  | part :: rest, map =>
    match findText "=" part with
    | none => markerParseError s!"malformed field {part}"
    | some (key, value) =>
      if key = "" ∨ value = "" then markerParseError s!"empty field {part}"
      else if (map.lookup key).isSome then markerParseError s!"duplicate field {key}"
      else readMarkerFields rest ((key, value) :: map)

def requiredMarkerField (map : List (String × String)) (field : String) :
    Except MarkerParseError String :=
  match (map.lookup field).filter (· ≠ "") with
  | some value => .ok value
  | none => markerParseError s!"missing field {field}"

def markerFromFields (map : List (String × String)) :
    Except MarkerParseError RemoteFeedbackMarker := do
  let stableMarkerKey ← requiredMarkerField map "marker_key"
  let sourceHeadSha ← requiredMarkerField map "source_head"
  let remediationOutputHead ← requiredMarkerField map "remediation_output_head"
  let bodyHash ← requiredMarkerField map "body"
  let runId ← requiredMarkerField map "run_id"
  let actionKind ← requiredMarkerField map "action"
  .ok {
    stableMarkerKey, sourceHeadSha, bodyHash, actionKind, runId
    remediationOutputHeadSha :=
      if remediationOutputHead ≠ noRemediationOutputHead then some remediationOutputHead else none
    status := "completed" }

/-- The marker that the words behind the namespace give. -/
def parseMarkerWords (marker : String) : Except MarkerParseError RemoteFeedbackMarker :=
  match stripPrefix markerNamespace marker with
  | none => markerParseError "wrong marker namespace"
  | some rest =>
    let fields := trim rest
    if fields = "" then markerParseError "missing marker fields"
    else do
      let map ← readMarkerFields (splitWhitespace fields) []
      markerFromFields map

def parseHiddenMarker (body : String) : Except MarkerParseError RemoteFeedbackMarker := do
  let marker ← extractExactMarkerBody body
  parseMarkerWords marker

def parseMarkerFromCommentBody (body : String) : Except MarkerParseError RemoteFeedbackMarker :=
  match findText "<!--" body with
  | none => markerParseError "missing marker comment"
  | some (_, after) =>
    match findText "-->" ("<!--" ++ after) with
    | none => markerParseError "unterminated marker comment"
    | some (inside, _) => parseHiddenMarker (inside ++ "-->")

/-! ### Keys -/

/-- The two halves of an action: posting its comment, and resolving its thread. -/
inductive MarkerOperation where
  | comment
  | resolution

namespace MarkerOperation

def text : MarkerOperation → String
  | comment => "comment"
  | resolution => "resolution"

end MarkerOperation

section

variable (binding : PrFollowupBinding)

def markerActionKey (action : PendingMarkerAction) (operation : MarkerOperation) : String :=
  ":".intercalate [operation.text, binding.runId, binding.repositoryOwner, binding.repositoryName,
    toString binding.prNumber, action.sourceHeadSha, action.remediationOutputHead,
    action.bodyHash, action.actionKind.text, action.stableMarkerKey]

def markerActionKeyFromMarker (marker : RemoteFeedbackMarker)
    (operation : MarkerOperation) : String :=
  ":".intercalate [operation.text, marker.runId, binding.repositoryOwner, binding.repositoryName,
    toString binding.prNumber, marker.sourceHeadSha,
    marker.remediationOutputHeadSha.getD noRemediationOutputHead,
    marker.bodyHash, marker.actionKind, marker.stableMarkerKey]

/-! ### What a scan of the comments records -/

/-- `RemoteMarkerScan`, with the malformed markers as comment id and diagnostic. -/
structure RemoteMarkerScan where
  completed : List String := []
  malformed : List (Json × String) := []

def recordCompletedRemoteMarker (marker : RemoteFeedbackMarker)
    (completed : List String) : List String :=
  if marker.status = "completed" then
    markerActionKeyFromMarker binding marker .resolution
      :: markerActionKeyFromMarker binding marker .comment :: completed
  else completed

/-- A comment, as far as the scan reads it. -/
structure RemoteComment where
  id : Json := .null
  body : String

def scanRemoteMarkerComment (scan : RemoteMarkerScan)
    (comment : RemoteComment) : Except MarkerParseError RemoteMarkerScan :=
  match parseMarkerFromCommentBody comment.body with
  | .ok marker =>
    .ok { scan with completed := recordCompletedRemoteMarker binding marker scan.completed }
  | .error .sliceOutOfRange => .error .sliceOutOfRange
  | .error (.diagnostic text) =>
    if containsText comment.body markerNamespace then
      .ok { scan with malformed := scan.malformed ++ [(comment.id, text)] }
    else .ok scan

/-- `scan_remote_marker_completions`, of the comments that were found. -/
def scanRemoteMarkerCompletions (comments : List RemoteComment) :
    Except MarkerParseError RemoteMarkerScan :=
  comments.foldlM (scanRemoteMarkerComment binding) {}

end

end Luther
