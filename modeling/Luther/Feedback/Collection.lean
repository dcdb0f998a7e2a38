/-
The review feedback that is collected from a pull request.

The comment at the root of a review thread that is open is an item, and so is every comment of a
reviewer on the pull request itself.  What was said of another head is put aside, what a marker
says is dealt with is left out, and of the items with one marker key and one text the first stays.
-/
import Luther.Feedback.Evaluation
import Luther.Feedback.Marker

namespace Luther.Collection

/-- An item as the collector builds it. -/
structure FeedbackItem where
  itemId : String
  stableMarkerKey : String
  threadId : Option String := none
  commentId : Option String
  commentDatabaseId : Option Int := none
  reviewId : Option String := none
  authorLogin : String
  authorKind : Option String
  path : Option String := none
  line : Option Nat := none
  side : Option String := none
  body : String
  bodyHash : String
  url : Option String
  createdAt : Option String
  updatedAt : Option String
  resolved : Bool := false
  outdated : Bool := false
  resolutionStateAvailable : Bool := false
  source : String
  rawNodeId : Option String
  commitSha : Option String
  stale : Bool

/-- What one observation has found, as far as it decides on the items. -/
structure FeedbackObservation where
  items : List FeedbackItem := []
  remoteMarkers : List RemoteFeedbackMarker := []
  fatal : Option Json := none

/-- The answers of the queries to GitHub. -/
structure FeedbackSurfaces where
  reviewThreads : Except String Json
  restReviewComments : Except String (List Json)
  issueComments : Except String (List Json)
  readinessSignals : Except String (List Json)

def allReviewersSentinel : String := "*"

def isExplicitReviewerIdentity (author : String) (identities : List String) : Bool :=
  author != "" && identities.contains (toAsciiLowercase author)

def isCoderabbit (author : String) (identities : List String) : Bool :=
  author != "" && (identities.contains allReviewersSentinel
    || isExplicitReviewerIdentity author identities)

def isPermissionOrSchemaError (value : Json) : Bool := !(arrayField value "errors").isEmpty

/-- `pointer` to a text in an object of the value, or no text. -/
def pointerText? (value : Json) (field key : String) : Option String :=
  (value.get? field).bind (·.text? key)

def boolField (value : Json) (field : String) : Bool :=
  ((value.get? field).bind Json.asBool?).getD false

/-! ### Items -/

/-- `push_current_or_stale`; nothing reads the items of another head. -/
def pushCurrentOrStale (item : FeedbackItem) (observation : FeedbackObservation) :
    FeedbackObservation :=
  if item.stale then observation
  else { observation with items := observation.items ++ [item] }

/-- `record_remote_marker_parse`; nothing reads what is malformed. -/
def recordRemoteMarkerParse (body : String) (observation : FeedbackObservation) :
    FeedbackObservation :=
  if containsText body markerNamespace then
    match parseHiddenMarker body with
    | .ok marker => { observation with remoteMarkers := observation.remoteMarkers ++ [marker] }
    | .error _ => observation
  else observation

def graphqlThreadNodes (value : Json) : List Json :=
  (((value.get? "data").bind (·.get? "repository")).bind (·.get? "pullRequest")).elim []
    fun pullRequest => (pullRequest.get? "reviewThreads").elim [] (arrayField · "nodes")

def graphqlFeedbackItem (thread comment : Json) (resolved outdated : Bool)
    (binding : PrFollowupBinding) (author : String) : FeedbackItem :=
  let body := stringField comment "body" ""
  let commitSha := pointerText? comment "commit" "oid"
  { itemId :=
      "graphql:" ++ stringField thread "id" "" ++ ":" ++ stringField comment "id" ""
    stableMarkerKey := "thread:" ++ stringField thread "id" ""
    threadId := thread.text? "id"
    commentId := comment.text? "id"
    commentDatabaseId := (comment.get? "databaseId").bind Json.asI64?
    authorLogin := author
    authorKind := pointerText? comment "author" "__typename"
    path := (comment.text? "path").or (thread.text? "path")
    line := ((comment.get? "line").bind Json.asU64?).or ((thread.get? "line").bind Json.asU64?)
    body := body
    bodyHash := fnv64Text body
    url := comment.text? "url"
    createdAt := comment.text? "createdAt"
    updatedAt := comment.text? "updatedAt"
    resolved := resolved
    outdated := outdated
    resolutionStateAvailable := true
    source := "graphql_review_thread"
    rawNodeId := comment.text? "id"
    commitSha := commitSha
    stale := commitSha != some binding.headSha || outdated }

section Normalize

variable (binding : PrFollowupBinding) (identities : List String)

def normalizeGraphqlThreadComment (thread comment : Json) (resolved outdated : Bool)
    (observation : FeedbackObservation) : FeedbackObservation :=
  let author := (pointerText? comment "author" "login").getD ""
  if isCoderabbit author identities then
    let observation := recordRemoteMarkerParse (stringField comment "body" "") observation
    if resolved then observation
    else
      pushCurrentOrStale (graphqlFeedbackItem thread comment resolved outdated binding author)
        observation
  else observation

section

variable (observation : FeedbackObservation)

/-- Review threads are represented by the comment at their root. -/
def normalizeGraphqlThread (thread : Json) : FeedbackObservation :=
  match ((thread.get? "comments").elim [] (arrayField · "nodes")).head? with
  | some comment =>
    normalizeGraphqlThreadComment binding identities thread comment
      (boolField thread "isResolved") (boolField thread "isOutdated") observation
  | none => observation

def scanRestReviewCommentMarker (comment : Json) : FeedbackObservation :=
  if isCoderabbit ((pointerText? comment "user" "login").getD "") identities then
    recordRemoteMarkerParse (stringField comment "body" "") observation
  else observation

def issueCommentItem (comment : Json) (author : String) : FeedbackItem :=
  let body := stringField comment "body" ""
  { itemId := "issue-comment:" ++ stringField comment "node_id" ""
    stableMarkerKey :=
      "summary:" ++ stringField comment "node_id" "" ++ ":" ++ fnv64Text body
    commentId := (comment.text? "node_id").or
      (((comment.get? "id").bind Json.asU64?).map toString)
    authorLogin := author
    authorKind := pointerText? comment "user" "type"
    body := body
    bodyHash := fnv64Text body
    url := comment.text? "html_url"
    createdAt := comment.text? "created_at"
    updatedAt := comment.text? "updated_at"
    source := "issue_comment"
    rawNodeId := comment.text? "node_id"
    commitSha := some binding.headSha
    stale := (comment.text? "head_sha").any (· != binding.headSha) }

def normalizeIssueComment (comment : Json) : FeedbackObservation :=
  let observation := recordRemoteMarkerParse (stringField comment "body" "") observation
  let author := (pointerText? comment "user" "login").getD ""
  if isExplicitReviewerIdentity author identities then
    pushCurrentOrStale (issueCommentItem binding comment author) observation
  else observation

end

end Normalize

/-! ### Remote markers -/

def remoteMarkerIdentity (marker : RemoteFeedbackMarker) : String :=
  marker.stableMarkerKey ++ "|" ++ marker.sourceHeadSha ++ "|" ++ marker.runId ++ "|"
    ++ marker.actionKind

def remoteMarkerJson (marker : RemoteFeedbackMarker) : Json :=
  .obj
    [("stable_marker_key", .str marker.stableMarkerKey),
     ("source_head_sha", .str marker.sourceHeadSha),
     ("remediation_output_head_sha", marker.remediationOutputHeadSha.elim .null .str),
     ("body_hash", .str marker.bodyHash),
     ("action_kind", .str marker.actionKind),
     ("run_id", .str marker.runId),
     ("status", .str marker.status)]

/-- The markers of one identity together, the identities in their order. -/
def groupRemoteMarkers (markers : List RemoteFeedbackMarker) :
    List (String × List RemoteFeedbackMarker) :=
  ((markers.map remoteMarkerIdentity).dedup.insertionSort (· ≤ ·)).map fun identity =>
    (identity, markers.filter (remoteMarkerIdentity · == identity))

/-- The marker of a group, where all that are in it agree. -/
def resolveRemoteMarkerGroup :
    String × List RemoteFeedbackMarker → Except (Option Json) RemoteFeedbackMarker
  | (_, []) => .error none
  | (identity, first :: rest) =>
    if rest.all (· == first) then .ok first
    else .error (some (.obj
      [("class", .str "conflicting_remote_marker_duplicates"),
       ("identity", .str identity),
       ("markers", .arr ((first :: rest).map remoteMarkerJson))]))

def currentHeadCompletedRemoteKeys (binding : PrFollowupBinding)
    (markers : List RemoteFeedbackMarker) : List (String × String) :=
  (markers.filter fun marker =>
      marker.status == "completed" && marker.sourceHeadSha == binding.headSha).map
    fun marker => (marker.stableMarkerKey, marker.bodyHash)

/-- A conflict of two markers leaves the items as they are. -/
def resolveRemoteMarkers (binding : PrFollowupBinding) (observation : FeedbackObservation) :
    FeedbackObservation :=
  match (groupRemoteMarkers observation.remoteMarkers).mapM resolveRemoteMarkerGroup with
  | .error conflict => { observation with fatal := conflict.or observation.fatal }
  | .ok accepted =>
    let completed := currentHeadCompletedRemoteKeys binding accepted
    { observation with
      remoteMarkers := accepted
      items := observation.items.filter fun item =>
        !completed.contains (item.stableMarkerKey, item.bodyHash) }

/-! ### The observation -/

def FeedbackItem.le (left right : FeedbackItem) : Prop :=
  left.stableMarkerKey < right.stableMarkerKey ∨
    left.stableMarkerKey = right.stableMarkerKey ∧ left.bodyHash ≤ right.bodyHash

instance : DecidableRel FeedbackItem.le := fun _ _ => inferInstanceAs (Decidable (_ ∨ _ ∧ _))

/-- Whether `dedup_by` keeps an item behind another. -/
def FeedbackItem.differs (left right : FeedbackItem) : Prop :=
  ¬ (left.stableMarkerKey = right.stableMarkerKey ∧ left.bodyHash = right.bodyHash ∧
    left.commitSha = right.commitSha)

instance : DecidableRel FeedbackItem.differs := fun _ _ =>
  inferInstanceAs (Decidable (¬ (_ ∧ _ ∧ _)))

def observeCoderabbitFeedback (surfaces : FeedbackSurfaces) (binding : PrFollowupBinding)
    (identities : List String) : Except String FeedbackObservation := do
  let graph ← surfaces.reviewThreads
  if isPermissionOrSchemaError graph then
    .ok
      { fatal := some (.obj [("surface", .str "graphql_review_threads"), ("response", graph)]) }
  else
    let observation := (graphqlThreadNodes graph).foldl (normalizeGraphqlThread binding identities)
      {}
    let restComments ← surfaces.restReviewComments
    let observation := restComments.foldl (scanRestReviewCommentMarker identities) observation
    let issueComments ← surfaces.issueComments
    let observation := issueComments.foldl (normalizeIssueComment binding identities) observation
    let observation := resolveRemoteMarkers binding observation
    -- The signals decide whether the review is over, not what its items are.
    let _ ← surfaces.readinessSignals
    .ok { observation with
      items := (observation.items.insertionSort FeedbackItem.le).destutter FeedbackItem.differs }

def itemJson (item : FeedbackItem) : Json :=
  let text (field : Option String) : Json := field.elim .null .str
  .obj
    [("item_id", .str item.itemId),
     ("stable_marker_key", .str item.stableMarkerKey),
     ("thread_id", text item.threadId),
     ("comment_id", text item.commentId),
     ("comment_database_id", item.commentDatabaseId.elim .null .num),
     ("review_id", text item.reviewId),
     ("author_login", .str item.authorLogin),
     ("author_kind", text item.authorKind),
     ("author_association", .null),
     ("bot_identity", .str item.authorLogin),
     ("path", text item.path),
     ("line", item.line.elim .null (.num ·)),
     ("side", text item.side),
     ("body", .str item.body),
     ("body_hash", .str item.bodyHash),
     ("url", text item.url),
     ("created_at", text item.createdAt),
     ("updated_at", text item.updatedAt),
     ("resolved", .bool item.resolved),
     ("outdated", .bool item.outdated),
     ("resolution_state_available", .bool item.resolutionStateAvailable),
     ("source", .str item.source),
     ("raw_node_id", text item.rawNodeId),
     ("commit_sha", text item.commitSha),
     ("stale", .bool item.stale)]

/-- The items of `feedback_payload`. -/
def collectedItems (observation : FeedbackObservation) : Json :=
  .arr (observation.items.map itemJson)

end Luther.Collection
