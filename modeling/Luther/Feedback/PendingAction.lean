/-
The pending marker actions of a pull request, as their artifact lists them.

An action says that a feedback item is to be answered, and whether its review thread is to be
resolved afterwards.  It is read from JSON, and only what passes every check becomes an action.
-/
import Luther.Followup.Envelope
import Luther.Lib.Sql
import Luther.Lib.Text

namespace Luther

open Sql

/-! ### Kinds and statuses -/

/-- The `action_kind` of a pending action. -/
inductive MarkerActionKind where
  | commentFixed
  | commentInvalid
  | commentOutOfScope
  | commentNeedsUserJudgment
  | skipNeedsUserJudgment
  deriving DecidableEq

namespace MarkerActionKind

def text : MarkerActionKind → String
  | commentFixed => "comment_fixed"
  | commentInvalid => "comment_invalid"
  | commentOutOfScope => "comment_out_of_scope"
  | commentNeedsUserJudgment => "comment_needs_user_judgment"
  | skipNeedsUserJudgment => "skip_needs_user_judgment"

def all : List MarkerActionKind :=
  [commentFixed, commentInvalid, commentOutOfScope, commentNeedsUserJudgment,
    skipNeedsUserJudgment]

def parse (kind : String) : Option MarkerActionKind := all.find? fun k => k.text == kind

end MarkerActionKind

/-- The `status` of a pending action. -/
inductive MarkerActionStatus where
  | pending
  | completed
  | failed
  | skipped
  deriving DecidableEq

namespace MarkerActionStatus

def text : MarkerActionStatus → String
  | pending => "pending"
  | completed => "completed"
  | failed => "failed"
  | skipped => "skipped"

def parse (status : String) : Option MarkerActionStatus :=
  [pending, completed, failed, skipped].find? fun s => s.text == status

end MarkerActionStatus

/-- An action, with the value it was read from. -/
structure PendingMarkerAction where
  value : Json
  actionId : String
  actionKind : MarkerActionKind
  itemId : String
  stableMarkerKey : String
  sourceHeadSha : String
  remediationOutputHead : String
  bodyHash : String
  reason : String
  responseText : Option String
  threadId : Option String
  commentDatabaseId : Option Int
  resolutionRequired : Bool
  status : MarkerActionStatus
  deriving DecidableEq

def noRemediationOutputHead : String := "none"

/-! ### Thread identities -/

/-- `Value::pointer`, of a path of object keys. -/
def jsonPointer (path : List String) (value : Json) : Option Json :=
  path.foldl (fun found key => found.bind (Json.get? key)) (some value)

def stringAt (value : Json) (path : List String) : Option String :=
  (jsonPointer path value).bind Json.asStr?

def isReviewThreadNodeId (threadId : String) : Bool :=
  startsWith threadId "PRRT_" && decide ("PRRT_".length < threadId.length)

def directReviewThreadId (value : Json) : Option String :=
  [["thread_id"], ["evidence", "thread_id"], ["original_feedback_identity", "thread_id"]].findSome?
    fun path => ((stringAt value path).map trim).filter isReviewThreadNodeId

/-- `parse_review_thread_id_from_stable_marker_key` and
`parse_review_thread_id_from_graphql_item_id`: what stands between the opening text and the next
colon. -/
def parseReviewThreadId (opening identity : String) : Option String :=
  ((stripPrefix opening (trim identity)).map fun rest =>
    String.ofList (rest.toList.takeWhile (· ≠ ':'))).filter isReviewThreadNodeId

def pendingActionThreadId (value : Json) : Option String :=
  (directReviewThreadId value).or
    (((stringAt value ["stable_marker_key"]).bind (parseReviewThreadId "thread:")).or
      ([["item_id"], ["source_id"], ["original_feedback_identity", "item_id"]].findSome?
        fun path => (stringAt value path).bind (parseReviewThreadId "graphql:")))

def pendingActionCommentDatabaseId (value : Json) : Option Int :=
  [["comment_database_id"], ["evidence", "comment_database_id"],
    ["original_feedback_identity", "comment_database_id"]].findSome?
    fun path => (jsonPointer path value).bind Json.asI64?

def pendingActionResponseText (value : Json) : Option String :=
  (stringAt value ["response_text"]).filter fun text => trim text ≠ ""

def pendingActionReason (value : Json) : String :=
  (stringAt value ["reason"]).getD "recorded marker action"

/-! ### The parser -/

def invalidPendingAction {α : Type} (message : String) : Except String α :=
  .error ("invalid pending marker action: " ++ message)

def requirePendingAction (holds : Bool) (message : String) : Except String Unit :=
  if holds then .ok () else invalidPendingAction message

def requiredPendingActionString (value : Json) (field : String) : Except String String :=
  match ((value.get? field).bind Json.asStr?).filter fun text => trim text ≠ "" with
  | some text => .ok text
  | none => invalidPendingAction s!"{field} must be a non-empty string"

def validateActionKind (actionKind actionId : String) : Except String MarkerActionKind :=
  match MarkerActionKind.parse actionKind with
  | some kind => .ok kind
  | none => invalidPendingAction s!"unsupported action_kind {actionKind} for action {actionId}"

def validateActionStatus (status itemId : String) : Except String MarkerActionStatus :=
  match MarkerActionStatus.parse status with
  | some parsed => .ok parsed
  | none => invalidPendingAction s!"unsupported pending action status {status} for item {itemId}"

def isAsciiHexDigit (c : Char) : Bool :=
  c.isDigit || ('a' ≤ c && c ≤ 'f') || ('A' ≤ c && c ≤ 'F')

def validPendingBodyHashFormat (bodyHash : String) : Bool :=
  match stripPrefix "fnv64:" bodyHash with
  | some hex => hex.length == 16 && hex.toList.all isAsciiHexDigit
  | none =>
    ((stripPrefix "hash-" bodyHash).or (stripPrefix "sha256:" bodyHash)).any fun suffix =>
      suffix != "" && suffix.toList.all fun c => c.isAlphanum || c == '-' || c == '_'

def requiredResolutionFlag (value : Json) (itemId : String) : Except String Bool :=
  match (value.get? "resolution_required").bind Json.asBool? with
  | some flag => .ok flag
  | none => invalidPendingAction s!"resolution_required must be a boolean for item {itemId}"

def validateResolutionContract (actionKind : MarkerActionKind) (resolutionRequired : Bool)
    (itemId : String) : Except String Unit :=
  let expected := actionKind == .commentFixed
  requirePendingAction (resolutionRequired == expected)
    (s!"resolution_required must be {expected} for action_kind "
      ++ s!"{actionKind.text} on item {itemId}")

def validateNullablePendingActionString (value : Json) (field itemId : String) :
    Except String Unit :=
  let invalid : Except String Unit :=
    invalidPendingAction s!"{field} must be absent, null, or a non-empty string for item {itemId}"
  match value.get? field with
  | none | some .null => .ok ()
  | some (.str text) => if trim text ≠ "" then .ok () else invalid
  | some _ => invalid

def validateNullablePendingActionPositiveI64 (value : Json) (field itemId : String) :
    Except String Unit :=
  match value.get? field with
  | none | some .null => .ok ()
  | some number =>
    if number.asI64?.any (0 < ·) then .ok ()
    else invalidPendingAction
      s!"{field} must be absent, null, or a positive integer for item {itemId}"

def validatePendingActionOptionalFields (value : Json) (itemId : String) : Except String Unit := do
  validateNullablePendingActionString value "thread_id" itemId
  validateNullablePendingActionPositiveI64 value "comment_database_id" itemId
  validateNullablePendingActionString value "response_text" itemId
  validateNullablePendingActionString value "remediation_output_head_sha" itemId

def validateOutputRouting (value : Json) (itemId : String) (actionKind : MarkerActionKind)
    (remediationOutputHead : String) : Except String Unit :=
  let outputHeadSha := (value.get? "remediation_output_head_sha").bind Json.asStr?
  let valid :=
    if remediationOutputHead = noRemediationOutputHead then
      outputHeadSha.isNone && actionKind != .commentFixed
    else outputHeadSha == some remediationOutputHead
  let expected :=
    if remediationOutputHead = noRemediationOutputHead then "absent for non-fixed actions"
    else remediationOutputHead.quote
  let actual := (outputHeadSha.map fun sha => s!"Some({sha.quote})").getD "None"
  requirePendingAction valid
    (s!"inconsistent remediation output routing for item {itemId}: "
      ++ s!"action_kind={actionKind.text.quote}, "
      ++ s!"remediation_output_head={remediationOutputHead.quote}, "
      ++ s!"expected remediation_output_head_sha={expected}, "
      ++ s!"actual remediation_output_head_sha={actual}")

/-- `pending_marker_action_from_value`, with `PendingActionFields::from_value` in its order. -/
def pendingMarkerActionFromValue (value : Json) : Except String PendingMarkerAction := do
  requirePendingAction value.asObject?.isSome "pending action must be an object"
  let actionId ← requiredPendingActionString value "action_id"
  let kindText ← requiredPendingActionString value "action_kind"
  let actionKind ← validateActionKind kindText actionId
  let itemId ← requiredPendingActionString value "item_id"
  let bodyHash ← requiredPendingActionString value "body_hash"
  requirePendingAction (validPendingBodyHashFormat bodyHash)
    ("body_hash must use canonical fnv64, hash-, or legacy sha256 format " ++ s!"for item {itemId}")
  let statusText ← requiredPendingActionString value "status"
  let status ← validateActionStatus statusText itemId
  let resolutionRequired ← requiredResolutionFlag value itemId
  validateResolutionContract actionKind resolutionRequired itemId
  let stableMarkerKey ← requiredPendingActionString value "stable_marker_key"
  let sourceHeadSha ← requiredPendingActionString value "source_head_sha"
  let remediationOutputHead ← requiredPendingActionString value "remediation_output_head"
  validatePendingActionOptionalFields value itemId
  validateOutputRouting value itemId actionKind remediationOutputHead
  .ok {
    value, actionId, actionKind, itemId, stableMarkerKey, sourceHeadSha, remediationOutputHead,
    bodyHash, status, resolutionRequired
    reason := pendingActionReason value
    responseText := pendingActionResponseText value
    threadId := pendingActionThreadId value
    commentDatabaseId := pendingActionCommentDatabaseId value }

/-! ### What an action keeps of what was checked -/

/-- **What the parser promises of an action.** -/
structure PendingMarkerAction.WellFormed (action : PendingMarkerAction) : Prop where
  stableMarkerKey : trim action.stableMarkerKey ≠ ""
  sourceHeadSha : trim action.sourceHeadSha ≠ ""
  remediationOutputHead : trim action.remediationOutputHead ≠ ""
  bodyHash : validPendingBodyHashFormat action.bodyHash = true
  routing : action.remediationOutputHead = noRemediationOutputHead →
    action.actionKind ≠ .commentFixed

theorem requirePendingAction_ok {holds : Bool} {message : String}
    (h : requirePendingAction holds message = .ok ()) : holds = true := by
  by_contra hfalse
  rw [requirePendingAction, if_neg hfalse] at h
  cases h

theorem requiredPendingActionString_ok {value : Json} {field text : String}
    (h : requiredPendingActionString value field = .ok text) : trim text ≠ "" := by
  unfold requiredPendingActionString at h
  cases hfound : ((value.get? field).bind Json.asStr?).filter fun text => trim text ≠ "" with
  | none =>
    rw [hfound] at h
    cases h
  | some found =>
    rw [hfound] at h
    obtain rfl : found = text := Except.ok.inj h
    simpa using (Option.filter_eq_some_iff.mp hfound).2

/-- **What the parser accepts is well formed.** -/
theorem pendingMarkerActionFromValue_wellFormed {value : Json} {action : PendingMarkerAction}
    (h : pendingMarkerActionFromValue value = .ok action) : action.WellFormed := by
  unfold pendingMarkerActionFromValue at h
  obtain ⟨⟨⟩, -, h⟩ := bind_ok.mp h
  obtain ⟨actionId, -, h⟩ := bind_ok.mp h
  obtain ⟨kindText, -, h⟩ := bind_ok.mp h
  obtain ⟨actionKind, -, h⟩ := bind_ok.mp h
  obtain ⟨itemId, -, h⟩ := bind_ok.mp h
  obtain ⟨bodyHash, -, h⟩ := bind_ok.mp h
  obtain ⟨⟨⟩, hhash, h⟩ := bind_ok.mp h
  obtain ⟨statusText, -, h⟩ := bind_ok.mp h
  obtain ⟨status, -, h⟩ := bind_ok.mp h
  obtain ⟨resolutionRequired, -, h⟩ := bind_ok.mp h
  obtain ⟨⟨⟩, -, h⟩ := bind_ok.mp h
  obtain ⟨stableMarkerKey, hkey, h⟩ := bind_ok.mp h
  obtain ⟨sourceHeadSha, hsource, h⟩ := bind_ok.mp h
  obtain ⟨remediationOutputHead, houtput, h⟩ := bind_ok.mp h
  obtain ⟨⟨⟩, -, h⟩ := bind_ok.mp h
  obtain ⟨⟨⟩, hrouting, h⟩ := bind_ok.mp h
  obtain rfl := Except.ok.inj h
  exact {
    stableMarkerKey := requiredPendingActionString_ok hkey
    sourceHeadSha := requiredPendingActionString_ok hsource
    remediationOutputHead := requiredPendingActionString_ok houtput
    bodyHash := requirePendingAction_ok hhash
    routing := fun hnone => by
      have hvalid := requirePendingAction_ok hrouting
      rw [if_pos hnone, Bool.and_eq_true] at hvalid
      exact bne_iff_ne.mp hvalid.2 }

end Luther
