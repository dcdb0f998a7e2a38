/-
What a completed action says of its thread.

A pass takes an action's thread for resolved when the key of the resolution is recorded: in the
report of the last pass, or by a comment with the action's marker.  A report is right about it, as
long as the actions with one key name one thread and go on to require its resolution.  A comment
is not: it is posted before the thread is resolved, and counts for both.
-/
import Luther.Lib.StateMachine
import Luther.Proofs.MarkerPosting

namespace Luther

open Sql

/-! ### Runs of passes -/

/-- The resolution of the action's thread is required, and the action is carried out at all. -/
def requiresResolution (resolveFixed : Option Bool) (action : PendingMarkerAction) : Bool :=
  !isSummaryMarkerKey action.stableMarkerKey && action.actionKind != .skipNeedsUserJudgment
    && resolutionPolicy action resolveFixed == .required

/-- What an action that was reported said under its resolution key. -/
structure NamedResolution where
  key : String
  threadId : Option String
  required : Bool

/-- The report of the last pass that wrote one, the threads that were resolved by a call, and what
the reported actions named. -/
structure MarkerHistory where
  report : Option MarkerReport := none
  resolved : List String := []
  named : List NamedResolution := []

/-- The threads of the actions whose resolve call succeeded. -/
def resolvedBy (outcomes : List MarkerActionOutcome) : List String :=
  outcomes.filterMap fun outcome =>
    if outcome.resolvedThread.isSome then outcome.action.threadId else none

def namedBy (input : MarkerPassInput) (outcomes : List MarkerActionOutcome) :
    List NamedResolution :=
  outcomes.map fun outcome =>
    { key := markerActionKey input.binding outcome.action .resolution
      threadId := outcome.action.threadId
      required := requiresResolution input.resolveFixed outcome.action }

/-- Passes over a pull request, one after another. -/
def markerMachine : StateMachine MarkerHistory MarkerPassInput MarkerPassResult where
  start history := history = {}
  step history input :=
    let result := markCoderabbitFeedback input history.report
    (result, {
      report := result.report.or history.report
      resolved := history.resolved ++ resolvedBy result.outcomes
      named := if result.report.isSome then history.named ++ namedBy input result.outcomes
        else history.named })

section

variable (history : MarkerHistory)

theorem markerMachine_answer (input : MarkerPassInput) :
    markerMachine.answer history input = markCoderabbitFeedback input history.report := rfl

theorem markerMachine_resolved (input : MarkerPassInput) :
    (markerMachine.next history input).resolved
      = history.resolved ++ resolvedBy (markCoderabbitFeedback input history.report).outcomes := rfl

/-- **What a pass reports is true**: the thread of a completed action that requires its resolution
was resolved by a call of this pass or of an earlier one. -/
def TruthfulPass (input : MarkerPassInput) : Prop :=
  ∀ outcome ∈ (markerMachine.answer history input).outcomes, outcome.status = .completed →
    requiresResolution input.resolveFixed outcome.action = true →
    ∃ threadId, outcome.action.threadId = some threadId
      ∧ threadId ∈ (markerMachine.next history input).resolved

end

/-- **The condition on a pass.** -/
structure ThreadsAhead (history : MarkerHistory) (input : MarkerPassInput) : Prop where
  /-- A comment that the pass reads carries the marker of an action only if the thread of the
  action is resolved, where the action requires it. -/
  remote : ∀ comments scan, discoverMarkerRemoteComments input = .ok comments →
    scanRemoteMarkerCompletions input.binding comments = .ok scan → ∀ action ∈ input.actions,
    requiresResolution input.resolveFixed action = true →
    markerActionKey input.binding action .resolution ∈ scan.completed →
    ∃ threadId, action.threadId = some threadId ∧ threadId ∈ history.resolved
  /-- What was reported before under the key of such an action named the same thread, and required
  its resolution. -/
  named : ∀ action ∈ input.actions, requiresResolution input.resolveFixed action = true →
    ∀ entry ∈ history.named, entry.key = markerActionKey input.binding action .resolution →
    entry.required = true ∧ entry.threadId = action.threadId

/-! ### What one action records -/

/-- The keys that an outcome leaves in the report. -/
def recordedKeys (outcome : MarkerActionOutcome) : List String :=
  (outcome.postedComment.toList ++ outcome.resolvedThread.toList ++ outcome.skipped).filterMap
    idempotencyKey

/-- The thread was resolved by this call, or is recorded as resolved. -/
def ResolvedOrRecorded (processor : MarkerActionProcessor) (outcome : MarkerActionOutcome) : Prop :=
  outcome.resolvedThread.isSome = true
    ∨ markerActionKey processor.binding outcome.action .resolution ∈ processor.localCompleted
    ∨ markerActionKey processor.binding outcome.action .resolution ∈ processor.remoteCompleted

variable {action : PendingMarkerAction} {key threadId : String} {processor : MarkerActionProcessor}
  {outcome : MarkerActionOutcome} {history : MarkerHistory} {input : MarkerPassInput}
  {outcomes : List MarkerActionOutcome}

theorem threadId_of_requiresResolution {resolveFixed : Option Bool}
    (h : requiresResolution resolveFixed action) : ∃ threadId,
      action.threadId = some threadId := by
  unfold requiresResolution at h
  rw [Bool.and_eq_true, beq_iff_eq] at h
  cases hthread : action.threadId with
  | some threadId => exact ⟨threadId, rfl⟩
  | none =>
    have hskip : resolutionPolicy action resolveFixed = .skip := by
      simp [resolutionPolicy, hthread]
    rw [hskip] at h
    cases h.2

/-- **What resolving a thread records.** -/
theorem handleMarkerResolution_spec (processor : MarkerActionProcessor)
    (action : PendingMarkerAction) (key : String) (state : MarkerActionMutationState) :
    let after := handleMarkerResolution processor action key state
    (∃ reason, markerResolutionPlan processor action key = .skip reason
        ∧ after = { state with
          skipped := state.skipped ++ [skipRecord action key reason "resolve_thread"] })
      ∨ (∃ threadId response, markerResolutionPlan processor action key = .resolve threadId
        ∧ after = { state with resolvedThread := some (.obj [("idempotency_key", .str key),
          ("thread_id", .str threadId), ("response", response),
          ("action_id", markerActionId action)]) })
      ∨ (after.partialRecord ≠ none ∧ after.resolvedThread = state.resolvedThread
        ∧ after.skipped = state.skipped) := by
  dsimp only
  unfold handleMarkerResolution
  cases hplan : markerResolutionPlan processor action key with
  | skip reason => exact Or.inl ⟨reason, rfl, rfl⟩
  | partialUnavailable => exact Or.inr (Or.inr ⟨by simp, rfl, rfl⟩)
  | resolve threadId =>
    dsimp only
    unfold applyMarkerResolution
    dsimp only
    cases processor.api.resolveThread action threadId with
    | error error => exact Or.inr (Or.inr ⟨by simp, rfl, rfl⟩)
    | ok response =>
      dsimp only
      by_cases hsuccess : resolveSucceeded response = true
      · rw [if_pos hsuccess]
        exact Or.inr (Or.inl ⟨threadId, response, rfl, rfl⟩)
      · rw [if_neg hsuccess]
        exact Or.inr (Or.inr ⟨by simp, rfl, rfl⟩)

theorem recorded_of_skip {reason : String}
    (hplan : markerResolutionPlan processor action key = .skip reason)
    (hrequired : requiresResolution processor.resolveFixed action) :
    key ∈ processor.localCompleted ∨ key ∈ processor.remoteCompleted := by
  obtain ⟨threadId, hthread⟩ := threadId_of_requiresResolution hrequired
  unfold requiresResolution at hrequired
  rw [Bool.and_eq_true, beq_iff_eq] at hrequired
  unfold markerResolutionPlan at hplan
  rw [hrequired.2, hthread] at hplan
  dsimp only at hplan
  by_cases hrecorded : key ∈ processor.localCompleted ∨ key ∈ processor.remoteCompleted
  · exact hrecorded
  · rw [if_neg hrecorded] at hplan
    cases hplan

theorem idempotencyKey_skipRecord (action : PendingMarkerAction) (key reason actionKind : String) :
    idempotencyKey (skipRecord action key reason actionKind) = some key := rfl

theorem idempotencyKey_of_postMarkerReply {api : MarkerApi} {record : Json}
    (h : postMarkerReply api action key = .ok record) :
    idempotencyKey record = some key := by
  have hrecord : ∃ response, record = markerReplyRecord action key response := by
    unfold postMarkerReply at h
    cases hdatabase : action.commentDatabaseId with
    | some databaseId =>
      rw [hdatabase] at h
      obtain ⟨parsed, -, h⟩ := bind_ok.mp h
      exact ⟨parsed, (Except.ok.inj h).symm⟩
    | none =>
      rw [hdatabase] at h
      cases hthread : action.threadId with
      | some threadId =>
        rw [hthread] at h
        obtain ⟨parsed, -, h⟩ := bind_ok.mp h
        dsimp only at h
        split at h
        · exact ⟨parsed, (Except.ok.inj h).symm⟩
        · cases h
      | none =>
        rw [hthread] at h
        dsimp only at h
        split at h
        · cases h
        · obtain ⟨parsed, -, h⟩ := bind_ok.mp h
          exact ⟨parsed, (Except.ok.inj h).symm⟩
  obtain ⟨response, rfl⟩ := hrecord
  rfl

/-- **What posting a comment records.** -/
theorem handleMarkerComment_spec {state : MarkerActionMutationState}
    (h : handleMarkerComment processor action key {} = .ok state) :
    state.resolvedThread = none
      ∧ ∀ record ∈ state.postedComment.toList ++ state.skipped, idempotencyKey record = some key := by
  unfold handleMarkerComment at h
  by_cases hdone : markerCommentAlreadyDone processor action key = true
  · rw [if_pos hdone] at h
    obtain rfl := Except.ok.inj h
    refine ⟨rfl, ?_⟩
    intro record hrecord
    rw [List.mem_singleton.mp hrecord, idempotencyKey_skipRecord]
  · rw [if_neg hdone] at h
    obtain ⟨posted, hposted, h⟩ := bind_ok.mp h
    obtain rfl := Except.ok.inj h
    refine ⟨rfl, ?_⟩
    intro record hrecord
    rw [List.mem_singleton.mp hrecord]
    exact idempotencyKey_of_postMarkerReply hposted

theorem completed_steps (action : PendingMarkerAction) (commentKey resolutionKey : String)
    (after : MarkerActionMutationState) :
    let outcome := buildMarkerActionOutcome action commentKey resolutionKey
      (applyUnhandledMarkerFailure action commentKey
        (applyNeedsUserJudgmentPartial action commentKey after))
    outcome.postedComment = after.postedComment ∧ outcome.resolvedThread = after.resolvedThread
      ∧ outcome.skipped = after.skipped
      ∧ (outcome.status = .completed → after.partialRecord = none) := by
  refine ⟨by simp [buildMarkerActionOutcome], by simp [buildMarkerActionOutcome],
    by simp [buildMarkerActionOutcome], ?_⟩
  intro hstatus
  by_contra hunresolved
  have hkept : (applyNeedsUserJudgmentPartial action commentKey after).partialRecord
      = after.partialRecord := applyNeedsUserJudgmentPartial_partialRecord hunresolved
  simp [buildMarkerActionOutcome, hkept, Option.isSome_iff_ne_none.mpr hunresolved] at hstatus

/-- **What carrying out an action records of its thread.**  A key in the report is the key of the
comment, or the thread was resolved or was recorded before; and the latter holds of every action
that is completed. -/
theorem processMarkerAction_spec (h : processMarkerAction processor action = .ok outcome) :
    (∀ key ∈ recordedKeys outcome, key = markerActionKey processor.binding action .comment
      ∨ key = markerActionKey processor.binding action .resolution
        ∧ (requiresResolution processor.resolveFixed action = true →
          ResolvedOrRecorded processor outcome))
      ∧ (outcome.status = .completed →
        requiresResolution processor.resolveFixed action = true →
        ResolvedOrRecorded processor outcome) := by
  obtain ⟨hsummary, rfl⟩ | ⟨hkind, rfl⟩ | ⟨-, state, hcomment, rfl⟩ := processMarkerAction_cases h
  · have hnot : requiresResolution processor.resolveFixed action ≠ true := by
      simp [requiresResolution, hsummary]
    refine ⟨?_, fun _ hrequired => absurd hrequired hnot⟩
    intro key hkey
    simp only [recordedKeys, skippedSummaryMarkerOutcome, Option.toList_none, List.nil_append,
      List.filterMap_cons, idempotencyKey_skipRecord, List.filterMap_nil, List.mem_cons,
      List.not_mem_nil, or_false] at hkey
    rcases hkey with rfl | rfl
    · exact Or.inl rfl
    · exact Or.inr ⟨rfl, fun hrequired => absurd hrequired hnot⟩
  · have hnot : requiresResolution processor.resolveFixed action ≠ true := by
      simp [requiresResolution, hkind]
    refine ⟨?_, fun _ hrequired => absurd hrequired hnot⟩
    intro key hkey
    simp only [recordedKeys, skippedNeedsUserJudgmentOutcome, Option.toList_none, List.nil_append,
      List.filterMap_cons, idempotencyKey_skipRecord, List.filterMap_nil, List.mem_cons,
      List.not_mem_nil, or_false] at hkey
    rcases hkey with rfl | rfl
    · exact Or.inl rfl
    · exact Or.inr ⟨rfl, fun hrequired => absurd hrequired hnot⟩
  · obtain ⟨hnothing, hrecords⟩ := handleMarkerComment_spec hcomment
    have hstate := handleMarkerResolution_spec processor action
      (markerActionKey processor.binding action .resolution) state
    have hcommentKey : ∀ {record : Json} {key : String},
        record ∈ state.postedComment.toList ∨ record ∈ state.skipped →
        idempotencyKey record = some key →
        key = markerActionKey processor.binding action .comment := by
      intro record key hrecord hkey
      rw [hrecords record (List.mem_append.mpr hrecord)] at hkey
      exact (Option.some.inj hkey).symm
    obtain ⟨hposted, hresolved, hskipped, hstatus⟩ := completed_steps action
      (markerActionKey processor.binding action .comment)
      (markerActionKey processor.binding action .resolution)
      (handleMarkerResolution processor action
        (markerActionKey processor.binding action .resolution) state)
    rw [handleMarkerResolution_postedComment] at hposted
    unfold ResolvedOrRecorded recordedKeys
    rw [hposted, hresolved, hskipped]
    rcases hstate with ⟨reason, hplan, hafter⟩ | ⟨threadId, response, hplan, hafter⟩
      | ⟨hunresolved, hsame, hsameSkipped⟩
    · -- The thread was not asked for.
      have hrecorded := recorded_of_skip hplan
      rw [hafter]
      refine ⟨?_, fun _ hrequired => Or.inr (hrecorded hrequired)⟩
      intro key hkey
      obtain ⟨record, hrecord, hkey⟩ := List.mem_filterMap.mp hkey
      rw [hnothing, Option.toList_none, List.append_nil, ← List.append_assoc,
        List.mem_append, List.mem_append, List.mem_singleton] at hrecord
      rcases hrecord with hold | rfl
      · exact Or.inl (hcommentKey hold hkey)
      · rw [idempotencyKey_skipRecord] at hkey
        exact Or.inr ⟨(Option.some.inj hkey).symm, fun hrequired => Or.inr (hrecorded hrequired)⟩
    · -- It was resolved.
      rw [hafter]
      refine ⟨?_, fun _ _ => Or.inl rfl⟩
      intro key hkey
      obtain ⟨record, hrecord, hkey⟩ := List.mem_filterMap.mp hkey
      rw [Option.toList_some, List.mem_append, List.mem_append, List.mem_singleton] at hrecord
      rcases hrecord with (hold | rfl) | hold
      · exact Or.inl (hcommentKey (Or.inl hold) hkey)
      · exact Or.inr ⟨(Option.some.inj hkey).symm, fun _ => Or.inl rfl⟩
      · exact Or.inl (hcommentKey (Or.inr hold) hkey)
    · -- It was asked for in vain, and the action is not completed.
      rw [hsame, hnothing, hsameSkipped]
      refine ⟨?_, fun hcompleted => absurd (hstatus hcompleted) hunresolved⟩
      intro key hkey
      obtain ⟨record, hrecord, hkey⟩ := List.mem_filterMap.mp hkey
      rw [Option.toList_none, List.append_nil, List.mem_append] at hrecord
      exact Or.inl (hcommentKey hrecord hkey)

/-! ### What the report of the last pass knows -/

theorem markerActionKey_comment_ne (binding binding' : PrFollowupBinding)
    (action action' : PendingMarkerAction) :
    markerActionKey binding action .comment ≠ markerActionKey binding' action' .resolution := by
  intro h
  have hhead := congrArg (fun text => text.toList.head?) h
  simp [markerActionKey, MarkerOperation.text, String.intercalate_cons_cons] at hhead

/-- **A recorded resolution was made**, of the thread that all actions under its key name. -/
structure TruthfulReport (history : MarkerHistory) : Prop where
  keys : ∀ key ∈ readLocalMarkerCompletions history.report,
    (∃ binding action, key = markerActionKey binding action .comment)
      ∨ (∃ entry ∈ history.named, entry.key = key)
        ∧ ∀ threadId, (∀ entry ∈ history.named, entry.key = key →
          entry.required = true ∧ entry.threadId = some threadId) → threadId ∈ history.resolved

variable {binding : PrFollowupBinding} {comments : List RemoteComment} {scan : RemoteMarkerScan}

theorem TruthfulReport.resolved (h : TruthfulReport history)
    (hnamed : ∀ entry ∈ history.named, entry.key = markerActionKey binding action .resolution →
      entry.required = true ∧ entry.threadId = some threadId)
    (hkey : markerActionKey binding action .resolution
      ∈ if input.reportReadable then readLocalMarkerCompletions history.report else []) :
    threadId ∈ history.resolved := by
  by_cases hreadable : input.reportReadable = true
  · rw [if_pos hreadable] at hkey
    rcases h.keys _ hkey with ⟨binding', action', heq⟩ | ⟨-, hall⟩
    · exact absurd heq.symm (markerActionKey_comment_ne _ _ _ _)
    · exact hall threadId hnamed
  · rw [if_neg hreadable] at hkey
    cases hkey

theorem mem_resolvedBy (hmem : outcome ∈ outcomes)
    (hresolved : outcome.resolvedThread.isSome)
    (hthread : outcome.action.threadId = some threadId) :
    threadId ∈ resolvedBy outcomes := by
  refine List.mem_filterMap.mpr ⟨outcome, hmem, ?_⟩
  rw [if_pos hresolved, hthread]

/-- **What a pass resolved or found recorded is resolved behind it.** -/
theorem resolved_of_recorded (hreport : TruthfulReport history)
    (hcomments : discoverMarkerRemoteComments input = .ok comments)
    (hscan : scanRemoteMarkerCompletions input.binding comments = .ok scan)
    (hcondition : ThreadsAhead history input)
    (hmem : outcome ∈ (markCoderabbitFeedback input history.report).outcomes)
    (hinput : outcome.action ∈ input.actions)
    (hrequired : requiresResolution input.resolveFixed outcome.action)
    (hthread : outcome.action.threadId = some threadId)
    (hrecorded : ResolvedOrRecorded (markerProcessor input history.report scan) outcome) :
    threadId ∈ history.resolved
      ++ resolvedBy (markCoderabbitFeedback input history.report).outcomes := by
  rw [List.mem_append]
  rcases hrecorded with hnow | hlocal | hremote
  · exact Or.inr (mem_resolvedBy hmem hnow hthread)
  · refine Or.inl (hreport.resolved ?_ hlocal)
    intro entry hentry hkey
    have hsame := hcondition.named _ hinput hrequired entry hentry hkey
    rw [hthread] at hsame
    exact hsame
  · obtain ⟨threadId', hthread', hin⟩ :=
      hcondition.remote comments scan hcomments hscan _ hinput hrequired hremote
    rw [hthread] at hthread'
    obtain rfl := Option.some.inj hthread'
    exact Or.inl hin

theorem recordedKeys_missingEvidence (binding : PrFollowupBinding) (action : PendingMarkerAction) :
    recordedKeys (missingValidatorEvidenceOutcome binding action) = [] := rfl

theorem mem_readLocalMarkerCompletions {malformed : List (Json × String)}
    (h : key ∈ readLocalMarkerCompletions (some (markerReportPayload outcomes malformed))) :
    ∃ outcome ∈ outcomes, key ∈ recordedKeys outcome := by
  obtain ⟨record, hrecord, hkey⟩ := List.mem_filterMap.mp h
  unfold markerReportPayload at hrecord
  rw [List.mem_append, List.mem_append, List.mem_filterMap, List.mem_filterMap,
    List.mem_flatMap] at hrecord
  have hfound : ∀ outcome : MarkerActionOutcome,
      outcome.postedComment = some record ∨ outcome.resolvedThread = some record
        ∨ record ∈ outcome.skipped → key ∈ recordedKeys outcome := by
    intro outcome hcase
    refine List.mem_filterMap.mpr ⟨record, ?_, hkey⟩
    rw [List.mem_append, List.mem_append, Option.mem_toList, Option.mem_toList]
    rcases hcase with hposted | hresolved | hskipped
    · exact Or.inl (Or.inl hposted)
    · exact Or.inl (Or.inr hresolved)
    · exact Or.inr hskipped
  rcases hrecord with (⟨outcome, hmem, hposted⟩ | ⟨outcome, hmem, hresolved⟩)
    | ⟨outcome, hmem, hskipped⟩
  · exact ⟨outcome, hmem, hfound outcome (Or.inl hposted)⟩
  · exact ⟨outcome, hmem, hfound outcome (Or.inr (Or.inl hresolved))⟩
  · exact ⟨outcome, hmem, hfound outcome (Or.inr (Or.inr hskipped))⟩

/-! ### Passes that meet the condition -/

/-- **A pass under the condition reports the truth.** -/
theorem truthfulPass_of_threadsAhead (hreport : TruthfulReport history)
    (hcondition : ThreadsAhead history input) :
    TruthfulPass history input := by
  intro outcome hmem hstatus hrequired
  rw [markerMachine_answer] at hmem
  obtain ⟨threadId, hthread⟩ := threadId_of_requiresResolution hrequired
  refine ⟨threadId, hthread, ?_⟩
  rw [markerMachine_resolved]
  rcases markCoderabbitFeedback_cases input history.report with
    ⟨hnone, -⟩ | ⟨comments, scan, hcomments, hscan, houtcomes, -⟩
  · rw [hnone] at hmem
    cases hmem
  · rcases houtcomes outcome hmem with ⟨action, -, rfl⟩ | ⟨action, hin, hprocess⟩
    · cases hstatus
    · obtain rfl := processMarkerAction_action hprocess
      exact resolved_of_recorded hreport hcomments hscan hcondition hmem hin hrequired hthread
        ((processMarkerAction_spec hprocess).2 hstatus hrequired)

theorem mem_namedBy (input : MarkerPassInput) (hmem : outcome ∈ outcomes) :
    ⟨markerActionKey input.binding outcome.action .resolution, outcome.action.threadId,
      requiresResolution input.resolveFixed outcome.action⟩ ∈ namedBy input outcomes :=
  List.mem_map_of_mem hmem

/-- **A pass under the condition leaves a truthful report.** -/
theorem TruthfulReport.next (hreport : TruthfulReport history)
    (hcondition : ThreadsAhead history input) :
    TruthfulReport (markerMachine.next history input) := by
  have hpass := markCoderabbitFeedback_cases input history.report
  cases hwritten : (markCoderabbitFeedback input history.report).report with
  | none =>
    -- The report of an earlier pass stays, and no fewer threads are resolved.
    have hnext : markerMachine.next history input = { history with
        resolved := history.resolved
          ++ resolvedBy (markCoderabbitFeedback input history.report).outcomes } := by
      simp [StateMachine.next, markerMachine, hwritten]
    rw [hnext]
    refine ⟨?_⟩
    intro key hkey
    refine (hreport.keys key hkey).imp id fun hentry => ⟨hentry.1, ?_⟩
    intro threadId hall
    exact List.mem_append_left _ (hentry.2 threadId hall)
  | some written =>
    have hnext : markerMachine.next history input = {
        report := some written
        resolved := history.resolved
          ++ resolvedBy (markCoderabbitFeedback input history.report).outcomes
        named := history.named
          ++ namedBy input (markCoderabbitFeedback input history.report).outcomes } := by
      simp [StateMachine.next, markerMachine, hwritten]
    rw [hnext]
    refine ⟨?_⟩
    intro key hkey
    dsimp only at hkey ⊢
    rcases hpass with ⟨-, hviolations⟩ | ⟨comments, scan, hcomments, hscan, houtcomes, hpayload⟩
    · obtain ⟨violations, rfl⟩ := hviolations written hwritten
      cases hkey
    · rw [hpayload written hwritten] at hkey
      obtain ⟨outcome, hmem, hrecorded⟩ := mem_readLocalMarkerCompletions hkey
      rcases houtcomes outcome hmem with ⟨action, -, rfl⟩ | ⟨action, hin, hprocess⟩
      · rw [recordedKeys_missingEvidence] at hrecorded
        cases hrecorded
      · obtain rfl := processMarkerAction_action hprocess
        rcases (processMarkerAction_spec hprocess).1 key hrecorded with rfl | ⟨rfl, hthread⟩
        · exact Or.inl ⟨_, _, rfl⟩
        · have hentry := List.mem_append_right history.named (mem_namedBy input hmem)
          refine Or.inr ⟨⟨_, hentry, rfl⟩, ?_⟩
          intro threadId hall
          obtain ⟨hrequired, hnamed⟩ := hall _ hentry rfl
          exact resolved_of_recorded hreport hcomments hscan hcondition hmem hin hrequired
            hnamed (hthread hrequired)

/-- **A completed action has its thread resolved**, in every run of passes under the condition. -/
theorem marker_resolution_truthful (inputs : List MarkerPassInput)
    (h : markerMachine.Along ThreadsAhead {} inputs) (past : List MarkerPassInput)
    (input : MarkerPassInput) (rest : List MarkerPassInput)
    (hsplit : inputs = past ++ input :: rest) :
    TruthfulPass (markerMachine.run {} past) input := by
  subst hsplit
  obtain ⟨hpast, hinput, -⟩ := StateMachine.along_append.mp h
  have hstart : TruthfulReport {} := by
    refine ⟨?_⟩
    intro key hkey
    cases hkey
  have hreport : TruthfulReport (markerMachine.run {} past) :=
    hpast.invariant (fun history input hcondition hreport => hreport.next hcondition) hstart
  exact truthfulPass_of_threadsAhead hreport hinput

/-- A pending action on a finding that was fixed, in a review thread. -/
def fixedFinding : Json :=
  .obj [("action_id", .str "a1"), ("action_kind", .str "comment_fixed"), ("item_id", .str "i1"),
    ("stable_marker_key", .str "thread:PRRT_1"), ("source_head_sha", .str "aaaa"),
    ("remediation_output_head", .str "cccc"), ("remediation_output_head_sha", .str "cccc"),
    ("body_hash", .str "hash-1"), ("status", .str "pending"), ("resolution_required", .bool true),
    ("thread_id", .str "PRRT_1"), ("response_text", .str "Fixed.")]

def fixedFindingAction : PendingMarkerAction where
  value := fixedFinding
  actionId := "a1"
  actionKind := .commentFixed
  itemId := "i1"
  stableMarkerKey := "thread:PRRT_1"
  sourceHeadSha := "aaaa"
  remediationOutputHead := "cccc"
  bodyHash := "hash-1"
  reason := "recorded marker action"
  responseText := some "Fixed."
  threadId := some "PRRT_1"
  commentDatabaseId := none
  resolutionRequired := true
  status := .pending

theorem fixedFinding_accepted :
    pendingMarkerActionFromValue fixedFinding = .ok fixedFindingAction := by decide +kernel

/-- What GitHub answers to a reply that it posted. -/
def replyPosted : Json :=
  .obj [("data", .obj [("addPullRequestReviewThreadReply", .obj [("comment", .obj [])])])]

def threadResolved : Json :=
  .obj [("data", .obj [("resolveReviewThread", .obj [("thread",
    .obj [("isResolved", .bool true)])])])]

/-- A pass over the fixed finding, with the comments it sees and the answer to its resolve call. -/
def fixedPass (comments : List RemoteComment) (resolve : Except String Json) : MarkerPassInput where
  binding := markerBinding
  actions := [fixedFindingAction]
  issueComments := .ok []
  reviewComments := .ok comments
  validatorSuccess := fun _ => .ok true
  api := { reply := fun _ _ => .ok replyPosted, resolveThread := fun _ _ => resolve }

def fixedComment : RemoteComment :=
  { body := renderMarkerCommentBody markerBinding fixedFindingAction }

/-- A pass that posts the comment and resolves the thread. -/
def resolvingPass : MarkerPassInput := fixedPass [] (.ok threadResolved)

def seeingPass : MarkerPassInput := fixedPass [fixedComment] (.error "unreachable")

theorem resolvingPass_resolved : (markerMachine.next {} resolvingPass).resolved = ["PRRT_1"] := by
  decide +kernel

theorem resolvingPass_named : ∀ entry ∈ (markerMachine.next {} resolvingPass).named,
    entry.required = true ∧ entry.threadId = some "PRRT_1" := by decide +kernel

theorem resolvingPass_threadsAhead : ThreadsAhead {} resolvingPass := by
  refine ⟨?_, by simp⟩
  intro comments scan hcomments hscan action _ _ hkey
  obtain rfl := Except.ok.inj hcomments
  obtain rfl := Except.ok.inj hscan
  cases hkey

theorem seeingPass_threadsAhead :
    ThreadsAhead (markerMachine.next {} resolvingPass) seeingPass := by
  have haction : ∀ action ∈ seeingPass.actions, action.threadId = some "PRRT_1" := by
    intro action hmem
    rw [List.mem_singleton.mp hmem]
    rfl
  refine ⟨?_, ?_⟩
  · intro comments scan _ _ action hmem _ _
    refine ⟨"PRRT_1", haction action hmem, ?_⟩
    rw [resolvingPass_resolved]
    exact List.mem_singleton_self _
  · intro action hmem _ entry hentry _
    rw [haction action hmem]
    exact resolvingPass_named entry hentry

theorem marker_resolution_truthful_example :
    TruthfulPass (markerMachine.run {} [resolvingPass]) seeingPass := by
  have halong : markerMachine.Along ThreadsAhead {} [resolvingPass, seeingPass] :=
    ⟨resolvingPass_threadsAhead, seeingPass_threadsAhead, trivial⟩
  exact marker_resolution_truthful [resolvingPass, seeingPass] halong [resolvingPass] seeingPass []
    rfl

def fixedScan : RemoteMarkerScan where
  completed := [markerActionKey markerBinding fixedFindingAction .resolution,
    markerActionKey markerBinding fixedFindingAction .comment]

theorem scanRemoteMarkerCompletions_of_completed
    {comment : RemoteComment} {marker : RemoteFeedbackMarker}
    (hparse : parseMarkerFromCommentBody comment.body = .ok marker)
    (hstatus : marker.status = "completed") :
    scanRemoteMarkerCompletions binding [comment] = .ok {
      completed := [markerActionKeyFromMarker binding marker .resolution,
        markerActionKeyFromMarker binding marker .comment] } := by
  have hone : scanRemoteMarkerComment binding {} comment = .ok {
      completed := recordCompletedRemoteMarker binding marker [] } := by
    unfold scanRemoteMarkerComment
    rw [hparse]
  unfold scanRemoteMarkerCompletions
  rw [List.foldlM_cons, hone]
  unfold recordCompletedRemoteMarker
  rw [if_pos hstatus]
  rfl

theorem scan_fixedComment :
    scanRemoteMarkerCompletions markerBinding [fixedComment] = .ok fixedScan := by
  have htexts : MarkerTexts markerBinding fixedFindingAction := {
    stableMarkerKey := by decide
    sourceHeadSha := by decide
    remediationOutputHead := by decide
    runId := by decide
    runId_ne := by decide }
  have hparse := parse_render (pendingMarkerActionFromValue_wellFormed fixedFinding_accepted) htexts
  have hsame : SamePullRequest markerBinding markerBinding := ⟨rfl, rfl, rfl⟩
  have hbody : parseMarkerFromCommentBody fixedComment.body
      = .ok (markerOf markerBinding fixedFindingAction) := hparse
  rw [scanRemoteMarkerCompletions_of_completed hbody rfl,
    markerActionKeyFromMarker_markerOf hsame, markerActionKeyFromMarker_markerOf hsame]
  rfl

theorem markCoderabbitFeedback_outcomes {report : Option MarkerReport}
    (hvalid : validateMarkerActionsBeforeMutation input.actions = [])
    (hcomments : discoverMarkerRemoteComments input = .ok comments)
    (hscan : scanRemoteMarkerCompletions input.binding comments = .ok scan)
    (hlives : input.diesAfter = none) :
    (markCoderabbitFeedback input report).outcomes
      = (processPendingMarkerActions input (markerProcessor input report scan)).1 := by
  unfold markCoderabbitFeedback
  dsimp only
  rw [if_neg (not_not.mpr hvalid), hcomments]
  dsimp only
  rw [hscan]
  dsimp only
  rw [hlives]
  cases (processPendingMarkerActions input (markerProcessor input report scan)).2 <;> rfl

/-- What a first pass leaves whose resolve call fails. -/
def failedHistory : MarkerHistory := markerMachine.run {} [fixedPass [] (.error "timeout")]

/-- What a pass behind it reports, which sees the comment. -/
def seeingOutcomes : List MarkerActionOutcome :=
  (processPendingMarkerActions seeingPass
    (markerProcessor seeingPass failedHistory.report fixedScan)).1

theorem seeingPass_outcomes :
    (markCoderabbitFeedback seeingPass failedHistory.report).outcomes = seeingOutcomes := by
  have hvalid : validateMarkerActionsBeforeMutation seeingPass.actions = [] := by decide +kernel
  have hcomments : discoverMarkerRemoteComments seeingPass = .ok [fixedComment] := rfl
  exact markCoderabbitFeedback_outcomes hvalid hcomments scan_fixedComment rfl

theorem seeingOutcomes_completed : ∃ outcome ∈ seeingOutcomes, outcome.status = .completed
    ∧ requiresResolution seeingPass.resolveFixed outcome.action = true := by
  decide +kernel

theorem seeingPass_resolved : (markerMachine.next failedHistory seeingPass).resolved = [] := by
  have hbefore : failedHistory.resolved = [] := by decide +kernel
  have hnone : ∀ outcome ∈ seeingOutcomes, outcome.resolvedThread = none := by decide +kernel
  rw [markerMachine_resolved, hbefore, seeingPass_outcomes, List.nil_append]
  refine List.filterMap_eq_nil_iff.mpr ?_
  intro outcome houtcome
  simp [hnone outcome houtcome]

/-- **A thread that was not resolved is reported as resolved**: the first pass posts the comment and
its resolve call fails, the second finds the comment and asks for nothing. -/
theorem marker_resolution_unresolved : ¬ TruthfulPass failedHistory seeingPass := by
  intro h
  obtain ⟨outcome, hmem, hstatus, hrequired⟩ := seeingOutcomes_completed
  rw [← seeingPass_outcomes, ← markerMachine_answer] at hmem
  obtain ⟨threadId, -, hin⟩ := h outcome hmem hstatus hrequired
  rw [seeingPass_resolved] at hin
  cases hin

end Luther
