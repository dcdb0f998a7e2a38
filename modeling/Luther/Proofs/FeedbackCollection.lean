/-
What the collector finds is evaluated once.

Every item of an observation is on the head that the observation was made for.  So behind the
sort two neighbours with one marker key and one text have the head in common too, and only the
first of them stays.  The items are then told apart by what a stored evaluation is found by.
-/
import Luther.Feedback.Collection
import Luther.Proofs.FeedbackEvaluation
import Mathlib.Data.List.Destutter
import Mathlib.Data.Prod.Lex
import Mathlib.Data.String.Basic

namespace Luther.Collection

variable {binding : PrFollowupBinding} {identities : List String} {surfaces : FeedbackSurfaces}
  {observation : FeedbackObservation} {headSha : String}

/-! ### The head of the items -/

def FeedbackObservation.OnHead (observation : FeedbackObservation) (headSha : String) : Prop :=
  ∀ item ∈ observation.items, item.commitSha = some headSha

theorem FeedbackObservation.OnHead.foldl (h : observation.OnHead headSha) (answers : List Json)
    (step : FeedbackObservation → Json → FeedbackObservation)
    (hstep : ∀ before answer, before.OnHead headSha → (step before answer).OnHead headSha) :
    (answers.foldl step observation).OnHead headSha := by
  induction answers generalizing observation with
  | nil => exact h
  | cons answer rest ih => exact ih (hstep observation answer h)

theorem FeedbackObservation.OnHead.recordRemoteMarkerParse (h : observation.OnHead headSha)
    (body : String) : (recordRemoteMarkerParse body observation).OnHead headSha := by
  unfold Collection.recordRemoteMarkerParse
  split
  · split <;> exact h
  · exact h

theorem FeedbackObservation.OnHead.pushCurrentOrStale (h : observation.OnHead headSha)
    {item : FeedbackItem} (hitem : item.stale = false → item.commitSha = some headSha) :
    (pushCurrentOrStale item observation).OnHead headSha := by
  unfold Collection.pushCurrentOrStale
  split
  case isTrue => exact h
  case isFalse hcurrent =>
    intro other hother
    rcases List.mem_append.mp hother with hother | hother
    · exact h other hother
    · rw [List.mem_singleton.mp hother]
      exact hitem (Bool.eq_false_of_not_eq_true hcurrent)

theorem FeedbackObservation.OnHead.normalizeGraphqlThread
    (h : observation.OnHead binding.headSha) (thread : Json) :
    (normalizeGraphqlThread binding identities observation thread).OnHead binding.headSha := by
  unfold Collection.normalizeGraphqlThread
  split
  case h_1 comment hroot =>
    unfold normalizeGraphqlThreadComment
    dsimp only
    split
    · split
      · exact h.recordRemoteMarkerParse _
      · refine (h.recordRemoteMarkerParse _).pushCurrentOrStale fun hcurrent => ?_
        simp only [graphqlFeedbackItem, Bool.or_eq_false_iff, bne_eq_false_iff_eq] at hcurrent ⊢
        exact hcurrent.1
    · exact h
  case h_2 => exact h

theorem FeedbackObservation.OnHead.scanRestReviewCommentMarker (h : observation.OnHead headSha)
    (comment : Json) :
    (scanRestReviewCommentMarker identities observation comment).OnHead headSha := by
  unfold Collection.scanRestReviewCommentMarker
  split
  · exact h.recordRemoteMarkerParse _
  · exact h

theorem FeedbackObservation.OnHead.normalizeIssueComment
    (h : observation.OnHead binding.headSha) (comment : Json) :
    (normalizeIssueComment binding identities observation comment).OnHead binding.headSha := by
  unfold Collection.normalizeIssueComment
  dsimp only
  split
  · exact (h.recordRemoteMarkerParse _).pushCurrentOrStale fun _ => rfl
  · exact h.recordRemoteMarkerParse _

theorem FeedbackObservation.OnHead.resolveRemoteMarkers (h : observation.OnHead headSha) :
    (resolveRemoteMarkers binding observation).OnHead headSha := by
  unfold Collection.resolveRemoteMarkers
  split
  · exact h
  · exact fun item hitem => h item (List.mem_of_mem_filter hitem)

/-! ### The items of an observation -/

/-- What an observation lists its items by. -/
def FeedbackItem.sortKey (item : FeedbackItem) : String ×ₗ String :=
  toLex (item.stableMarkerKey, item.bodyHash)

theorem FeedbackItem.le_iff {left right : FeedbackItem} :
    left.le right ↔ left.sortKey ≤ right.sortKey := by
  unfold FeedbackItem.le FeedbackItem.sortKey
  rw [Prod.Lex.toLex_le_toLex]

/-- **Sorted items of one head, of which every one differs from the one before, all differ.** -/
theorem nodup_sortKey {items : List FeedbackItem}
    (h : ∀ item ∈ items, item.commitSha = some headSha) :
    (((items.insertionSort FeedbackItem.le).destutter FeedbackItem.differs).map
      FeedbackItem.sortKey).Nodup := by
  have hsorted : ((items.insertionSort FeedbackItem.le).map FeedbackItem.sortKey).Pairwise
      fun left right => left ≤ right := by
    have : Std.Total FeedbackItem.le := ⟨fun left right => by
      simpa only [FeedbackItem.le_iff] using le_total left.sortKey right.sortKey⟩
    have : IsTrans FeedbackItem FeedbackItem.le := ⟨fun left middle right => by
      simpa only [FeedbackItem.le_iff] using le_trans⟩
    rw [List.pairwise_map]
    exact (List.pairwise_insertionSort FeedbackItem.le items).imp FeedbackItem.le_iff.mp
  have hdiffers : ∀ left ∈ items.insertionSort FeedbackItem.le,
      ∀ right ∈ items.insertionSort FeedbackItem.le,
        left.differs right ↔ left.sortKey ≠ right.sortKey := by
    intro left hleft right hright
    have hl := h left ((List.mem_insertionSort _).mp hleft)
    have hr := h right ((List.mem_insertionSort _).mp hright)
    simp [FeedbackItem.differs, FeedbackItem.sortKey, hl, hr]
  have hkept : ((items.insertionSort FeedbackItem.le).destutter FeedbackItem.differs).map
      FeedbackItem.sortKey =
        ((items.insertionSort FeedbackItem.le).map FeedbackItem.sortKey).destutter (· ≠ ·) :=
    List.map_destutter hdiffers
  rw [hkept, hsorted.destutter_eq_dedup]
  exact List.nodup_dedup _

/-- **The items of an observation are on its head, and differ in marker key or text.** -/
theorem observe_items (h : observeCoderabbitFeedback surfaces binding identities =
    .ok observation) :
    observation.OnHead binding.headSha ∧
      (observation.items.map FeedbackItem.sortKey).Nodup := by
  unfold observeCoderabbitFeedback at h
  obtain ⟨graph, -, h⟩ := Sql.bind_ok.mp h
  split at h
  case isTrue =>
    obtain rfl := Except.ok.inj h
    exact ⟨fun item hitem => absurd hitem List.not_mem_nil, List.nodup_nil⟩
  case isFalse =>
    obtain ⟨restComments, -, h⟩ := Sql.bind_ok.mp h
    obtain ⟨issueComments, -, h⟩ := Sql.bind_ok.mp h
    obtain ⟨signals, -, h⟩ := Sql.bind_ok.mp h
    obtain rfl := Except.ok.inj h
    have hempty : FeedbackObservation.OnHead {} binding.headSha :=
      fun item hitem => absurd hitem List.not_mem_nil
    have hthreads := hempty.foldl (graphqlThreadNodes graph)
      (normalizeGraphqlThread binding identities) fun _ thread h => h.normalizeGraphqlThread thread
    have hrest := hthreads.foldl restComments (scanRestReviewCommentMarker identities)
      fun _ comment h => h.scanRestReviewCommentMarker comment
    have hissues := hrest.foldl issueComments (normalizeIssueComment binding identities)
      fun _ comment h => h.normalizeIssueComment comment
    have hitems : (resolveRemoteMarkers binding _).OnHead binding.headSha :=
      hissues.resolveRemoteMarkers
    refine ⟨fun item hitem => ?_, nodup_sortKey hitems⟩
    exact hitems item ((List.mem_insertionSort _).mp
      ((List.destutter_sublist _ _).subset hitem))

/-! ### What the evaluation reads -/

/-- A feedback artifact with the items that a collector has found on a head. -/
def Collected (feedback : Json) : Prop :=
  ∃ surfaces binding identities observation, binding.headSha ≠ "" ∧
    observeCoderabbitFeedback surfaces binding identities = .ok observation ∧
    feedback.get? "items" = some (collectedItems observation)

theorem reuseKey_feedbackItem {item : FeedbackItem} {parsed : Luther.FeedbackItem}
    (hhead : item.commitSha = some headSha) (h : feedbackItem (itemJson item) = .ok parsed) :
    parsed.reuseKey = (item.stableMarkerKey, item.bodyHash, headSha) := by
  unfold feedbackItem at h
  simp only [Sql.bind_ok, requireString_iff, Except.ok.injEq] at h
  obtain ⟨itemId, -, key, ⟨hkey, -⟩, bodyHash, ⟨hbody, -⟩, head, hread, body, -, rfl⟩ := h
  have hcommit : (itemJson item).text? "commit_sha" = some headSha := by
    show Option.bind (some (item.commitSha.elim .null .str)) Json.asStr? = _
    rw [hhead]
    rfl
  unfold feedbackHead at hread
  rw [hcommit] at hread
  obtain rfl : item.stableMarkerKey = key := Option.some.inj hkey
  obtain rfl : item.bodyHash = bodyHash := Option.some.inj hbody
  obtain rfl : headSha = head := Except.ok.inj hread
  rfl

theorem map_reuseKey {items : List FeedbackItem} {collected : List Luther.FeedbackItem}
    (hhead : ∀ item ∈ items, item.commitSha = some headSha)
    (h : (items.map itemJson).mapM feedbackItem = .ok collected) :
    collected.map FeedbackItem.reuseKey =
      items.map fun item => (item.stableMarkerKey, item.bodyHash, headSha) := by
  induction items generalizing collected with
  | nil =>
    obtain rfl := Except.ok.inj h
    rfl
  | cons item rest ih =>
    obtain ⟨hitem, hrest⟩ := List.forall_mem_cons.mp hhead
    rw [List.map_cons, List.mapM_cons] at h
    obtain ⟨parsed, hparsed, h⟩ := Sql.bind_ok.mp h
    obtain ⟨others, hothers, h⟩ := Sql.bind_ok.mp h
    obtain rfl := Except.ok.inj h
    rw [List.map_cons, List.map_cons, reuseKey_feedbackItem hitem hparsed, ih hrest hothers]

/-- **The items of collected feedback are told apart in the state, and each has a head.** -/
theorem Collected.distinguished {feedback : Json} {items : List Luther.FeedbackItem}
    (h : Collected feedback) (hitems : feedbackItems feedback = .ok items) :
    Distinguished items := by
  obtain ⟨surfaces, binding, identities, observation, hhead, hobserved, hwritten⟩ := h
  obtain ⟨honhead, hnodup⟩ := observe_items hobserved
  unfold feedbackItems at hitems
  rw [hwritten] at hitems
  have hkeys := map_reuseKey honhead hitems
  refine ⟨?_, fun item hitem => ?_⟩
  · rw [hkeys]
    rw [List.Nodup, List.pairwise_map] at hnodup ⊢
    refine hnodup.imp fun hne heq => hne ?_
    rw [FeedbackItem.sortKey, FeedbackItem.sortKey, (Prod.mk.inj heq).1,
      (Prod.mk.inj (Prod.mk.inj heq).2).1]
  · have hmem : item.reuseKey ∈ items.map Luther.FeedbackItem.reuseKey :=
      List.mem_map_of_mem hitem
    rw [hkeys] at hmem
    obtain ⟨source, -, heq⟩ := List.mem_map.mp hmem
    have : binding.headSha = item.headSha := (Prod.mk.inj (Prod.mk.inj heq).2).2
    rwa [← this]

end Luther.Collection

namespace Luther

open Collection (Collected)

/-- **An evaluation that succeeds has one result for every item, about that item; and a second one
of the same items reuses them all, and asks nobody, where the items were collected.** -/
theorem feedback_evaluation_complete_and_reusable {validate : FamilyInvariants}
    {pr : PrFollowupBinding} {run : FeedbackEvaluationRun} {store after : ArtifactStore}
    (h : Ledger validate pr store)
    (hbinding : validateSequenceBinding pr run.step.binding = true)
    (hsuccess : (evaluateCoderabbitFeedback validate run).ends store =
      (.ok .success, after)) :
    ∃ feedback collected items pass,
      readCurrentJson validate run.step.binding feedbackFamily store =
        .ok feedback ∧
      feedbackItems feedback = .ok collected ∧ collected.Perm items ∧
      evaluationPass validate run feedback store = .ok (items, pass) ∧
      EvaluationEnd validate pr run items pass after ∧
      List.Forall₂ Carries items pass.sets.acceptedResults ∧
      (items.map FeedbackItem.acceptedKey).Nodup ∧
      (Collected feedback → ∀ again later feedback' collected',
        again.step.binding = run.step.binding → Ledger validate pr later →
        later.document run.step.binding feedbackStateFamily =
          after.document run.step.binding feedbackStateFamily →
        feedbackItems feedback' = .ok collected' → collected'.Perm collected →
        ∃ items' pass', evaluationPass validate again feedback' later = .ok (items', pass') ∧
          ReusesAll pass.entries items' pass') := by
  obtain ⟨feedback, items, pass, hread, hpass, hend⟩ := evaluateCoderabbitFeedback_success hsuccess
  have hfeedback := (h.readCurrentJson_iff feedbackFamily_plain hbinding).mp hread
  have hafter := h.finalizeEvaluation_end hbinding hfeedback hpass hend
  obtain ⟨hcomplete, -⟩ := finalizeEvaluation_success hend
  obtain ⟨hclean, hexactly⟩ := clean_of_complete hcomplete
  obtain ⟨collected, entries, hcollected, hitems, hentries, hprocess⟩ := evaluationPass_ok hpass
  obtain ⟨results, hresults⟩ := processItems_evaluated hprocess hclean
  have haccepted : pass.sets.acceptedResults = results := hresults.accepted
  have hperm : collected.Perm items :=
    hitems ▸ (List.perm_insertionSort FeedbackItem.le collected).symm
  have hcarries : List.Forall₂ Carries items pass.sets.acceptedResults :=
    haccepted.symm ▸ hresults.carries
  refine ⟨feedback, collected, items, pass, hread, hcollected, hperm, hpass, hafter, hcarries,
    nodup_of_exactlyOne hcarries hexactly, ?_⟩
  intro hwritten again later feedback' collected' hstep hlater hstate hcollected' hsame
  have hdistinguished := hwritten.distinguished hcollected
  have hkeys : (items.map FeedbackItem.reuseKey).Nodup :=
    (hperm.map FeedbackItem.reuseKey).nodup_iff.mp hdistinguished.keys
  obtain ⟨state, hfound, hstored⟩ := hafter.state
  refine hlater.reusesAll (hstep ▸ hbinding) (hstep ▸ hstate.trans hfound) hstored ?_ hcollected'
    (hsame.trans hperm)
  obtain ⟨howner, hname⟩ : run.step.binding.repositoryOwner ≠ "" ∧
      run.step.binding.repositoryName ≠ "" := by
    have hself := validateSequenceBinding_self hbinding
    simp only [validateSequenceBinding, Bool.and_eq_true, bne_iff_ne] at hself
    tauto
  have hnamed : ∀ item ∈ items, item.Named ∧ item.headSha ≠ "" := fun item hitem =>
    have hitem := hperm.mem_iff.mpr hitem
    ⟨named_of_feedbackItems hcollected item hitem, hdistinguished.heads item hitem⟩
  rw [hstep]
  exact hresults.findable hkeys hnamed howner hname fun _ _ => rfl

/-! ### Two threads and a summary -/

/-- A review thread, with an answer to the comment at its root. -/
def exampleThread (threadId text : String) : Json :=
  let comment (id body : String) : Json := .obj
    [("id", .str id), ("author", .obj [("login", .str "coderabbitai")]), ("body", .str body),
     ("commit", .obj [("oid", .str "h")])]
  .obj
    [("id", .str threadId),
     ("comments", .obj [("nodes", .arr [comment "1" text, comment "2" text])])]

/-- A pull request one of whose threads is listed on two pages. -/
def exampleSurfaces : Collection.FeedbackSurfaces where
  reviewThreads := .ok (.obj [("data", .obj [("repository", .obj [("pullRequest", .obj
    [("reviewThreads", .obj [("nodes", .arr
      [exampleThread "T" "rename this", exampleThread "U" "rename this",
        exampleThread "T" "rename this"])])])])])])
  restReviewComments := .ok []
  issueComments := .ok [.obj
    [("node_id", .str "S"), ("user", .obj [("login", .str "coderabbitai[bot]")]),
     ("body", .str "Summary by CodeRabbit")]]
  readinessSignals := .ok []

def exampleFeedback : Except String Json :=
  (Collection.observeCoderabbitFeedback exampleSurfaces shortBinding
    ["coderabbitai", "coderabbitai[bot]"]).map Collection.collectedItems

def feedbackRequest : JsonArtifactWriteRequest :=
  (shortCall feedbackFamily
    [("readiness_state", .str "ready"), ("items", exampleFeedback.toOption.getD .null)]).request

def exampleAnswer (threadId : String) : Json :=
  .obj
    [("item_id", .str ("graphql:" ++ threadId ++ ":1")),
     ("stable_marker_key", .str ("thread:" ++ threadId)),
     ("body_hash", .str (fnv64Text "rename this")), ("head_sha", .str "h"),
     ("decision", .str "valid"), ("correctness", .str "low"),
     ("delivery_scope", .str "follow_up_issue"), ("recommended_action", .str "rename"),
     ("response_text", .str "done")]

/-- An evaluator that answers about every thread, and the reader of its answers. -/
def exampleEvaluator : EvaluationWorld where
  reader :=
    { fromStr := fun raw =>
        match ["T", "U"].find? fun threadId => (exampleAnswer threadId).render == raw with
        | some threadId => .ok (exampleAnswer threadId)
        | none => .error "expected value at line 1 column 1"
      next := fun _ => (none, 0) }
  evaluate _ request :=
    .ok (exampleAnswer (if request.stableMarkerKey = "thread:T" then "T" else "U")).render
  writeRaw _ _ _ := .ok "raw-output"
  clock _ := 0

def exampleEvaluation : FeedbackEvaluationRun where
  step :=
    { binding := shortBinding
      params := .obj []
      identified := by decide
      shallow := by decide }
  world := exampleEvaluator
  order := ⟨id, fun files => List.Perm.refl files⟩
  writtenAt := 0

def feedbackStore : ArtifactStore :=
  (writeJsonArtifactLocked exampleInvariants ⟨id, fun files => List.Perm.refl files⟩
    feedbackRequest .published { root := "" }).2

/-- The evaluation of the feedback, and the store behind it. -/
def evaluatedFeedback : Except String StepOutcome × ArtifactStore :=
  (evaluateCoderabbitFeedback exampleInvariants exampleEvaluation).ends feedbackStore

theorem evaluatedFeedback_success :
    evaluatedFeedback.1 = .ok .success ∧
      (readCurrentJson exampleInvariants shortBinding feedbackFamily feedbackStore).map
        (·.get? "items") = exampleFeedback.map some ∧
      (readCurrentJson exampleInvariants shortBinding feedbackFamily feedbackStore >>=
        feedbackItems).map List.length = .ok 3 := by
  decide +kernel

theorem feedbackRequest_wellFormed : WellFormed shortBinding feedbackRequest where
  binding := by decide
  producer := by
    show "s" ≠ ""
    decide
  unnamed := by decide
  successful := fun _ => by decide
  shallow := by decide +kernel
  details := by simp [feedbackRequest, shortCall, exampleCall]

/-- Two threads and a summary are collected and evaluated, and evaluated again without asking. -/
theorem feedback_evaluation_example :
    ∃ feedback items pass, Collected feedback ∧
      readCurrentJson exampleInvariants shortBinding feedbackFamily feedbackStore = .ok feedback ∧
      evaluationPass exampleInvariants exampleEvaluation feedback evaluatedFeedback.2 =
        .ok (items, pass) ∧
      items.length = 3 ∧ pass.requests = [] ∧ pass.sets.reusedResultsCount = 3 := by
  have hempty : Ledger exampleInvariants shortBinding { root := "" } := ledger_of_empty rfl rfl
  have hledger : Ledger exampleInvariants shortBinding feedbackStore :=
    (hempty.write_document _ feedbackRequest_wellFormed .published).1
  obtain ⟨hanswer, hwritten, hthree⟩ := evaluatedFeedback_success
  have hsuccess : evaluatedFeedback = (.ok .success, evaluatedFeedback.2) :=
    Prod.mk.eta.symm.trans (congrArg (·, evaluatedFeedback.2) hanswer)
  obtain ⟨feedback, collected, items, pass, hread, hcollected, hperm, -, hend, -, -, hagain⟩ :=
    feedback_evaluation_complete_and_reusable hledger
      (show validateSequenceBinding shortBinding exampleEvaluation.step.binding = true by decide)
      hsuccess
  have hread' : readCurrentJson exampleInvariants shortBinding feedbackFamily feedbackStore =
      .ok feedback := hread
  rw [hread'] at hwritten hthree
  have hfrom : Collected feedback := by
    unfold exampleFeedback at hwritten
    cases hobserved : Collection.observeCoderabbitFeedback exampleSurfaces shortBinding
      ["coderabbitai", "coderabbitai[bot]"] with
    | error error => simp [hobserved, Except.map] at hwritten
    | ok observation =>
      rw [hobserved] at hwritten
      exact ⟨_, shortBinding, _, observation, by decide, hobserved, Except.ok.inj hwritten⟩
  obtain ⟨items', pass', hpass, hreuses⟩ :=
    hagain hfrom exampleEvaluation _ feedback collected rfl hend.ledger rfl hcollected
      (List.Perm.refl _)
  have hlength : items'.length = 3 := by
    obtain ⟨collected', entries, hcollected', rfl, -, -⟩ := evaluationPass_ok hpass
    have hcount : (feedbackItems feedback).map List.length = .ok 3 := hthree
    rw [hcollected'] at hcount
    rw [List.length_insertionSort]
    exact Except.ok.inj hcount
  exact ⟨feedback, items', pass', hfrom, hread, hpass, hlength, hreuses.silent,
    hreuses.counted.trans hlength⟩

end Luther
