/-
What a merge of pending marker actions keeps.

The set of actions is a merge by keys, with a fixed action superseding the classifications of its
feedback: the keys that the program has seen are those of the actions that are there.  So the
actions that are recorded are a sorted merge, and the rules of such merges say what is kept, and
that merging again changes nothing.
-/
import Luther.Lib.Supersession
import Luther.Remediation.PendingMarkerActions

namespace Luther

open Supersession

/-! ### Actions as elements of a merge -/

def actionSupersession : Supersession Json String (List (Option Json)) where
  key := pendingActionIdempotencyKey
  wins := isCommentFixed
  subject action := originalFeedbackFields.map action.get?

theorem sameOriginalFeedbackIdentity_iff {left right : Json} :
    sameOriginalFeedbackIdentity left right = true ↔
      actionSupersession.subject left = actionSupersession.subject right := by
  show originalFeedbackFields.all _ = true ↔
    originalFeedbackFields.map left.get? = originalFeedbackFields.map right.get?
  simp [originalFeedbackFields]

/-- What the program has seen are the keys of the actions that are there. -/
structure PendingActionSet.Seen (set : PendingActionSet) : Prop where
  distinct : actionSupersession.Distinct set.actions
  seen : ∀ key, key ∈ set.seen ↔ key ∈ actionSupersession.keys set.actions

theorem retain_eq {fixed : Json} (hfixed : isCommentFixed fixed) (prior : Json) :
    (isCommentFixed prior || !sameOriginalFeedbackIdentity prior fixed) =
      !decide (actionSupersession.Supersedes fixed prior) := by
  rw [Bool.eq_iff_iff]
  simp only [Bool.or_eq_true, Bool.not_eq_true', decide_eq_false_iff_not]
  show _ ↔ ¬ (isCommentFixed fixed = true ∧ isCommentFixed prior = false ∧ _)
  rw [← sameOriginalFeedbackIdentity_iff]
  cases isCommentFixed prior <;> simp [hfixed]

theorem PendingActionSet.Seen.removeSupersededClassifications {set : PendingActionSet}
    (h : set.Seen) {fixed : Json} (hfixed : isCommentFixed fixed) :
    (set.removeSupersededClassifications fixed).Seen ∧
      (set.removeSupersededClassifications fixed).actions =
        set.actions.filter fun prior =>
          !decide (actionSupersession.Supersedes fixed prior) := by
  have hactions : (set.removeSupersededClassifications fixed).actions =
      set.actions.filter fun prior => !decide (actionSupersession.Supersedes fixed prior) :=
    List.filter_congr fun prior _ => retain_eq hfixed prior
  refine ⟨⟨hactions ▸ h.distinct.filter _, fun key => ?_⟩, hactions⟩
  rw [hactions]
  unfold PendingActionSet.removeSupersededClassifications
  simp only [retain_eq hfixed, Bool.not_not, List.mem_filter, h.seen, decide_not,
    Bool.not_eq_true', decide_eq_false_iff_not]
  have hsuperseded : key ∈ (set.actions.filter fun prior =>
      decide (actionSupersession.Supersedes fixed prior)).filterMap pendingActionIdempotencyKey ↔
      ∃ prior ∈ set.actions, actionSupersession.Supersedes fixed prior ∧
        pendingActionIdempotencyKey prior = some key := by
    simp [List.mem_filterMap, and_assoc]
  rw [hsuperseded, mem_keys, mem_keys]
  constructor
  · rintro ⟨⟨action, hmem, hkey⟩, hfree⟩
    refine ⟨action, List.mem_filter.mpr ⟨hmem, ?_⟩, hkey⟩
    simpa using fun hsuperseded => hfree ⟨action, hmem, hsuperseded, hkey⟩
  · rintro ⟨action, hmem, hkey⟩
    obtain ⟨hmem, hkept⟩ := List.mem_filter.mp hmem
    refine ⟨⟨action, hmem, hkey⟩, ?_⟩
    rintro ⟨other, hother, hsuperseded, hkey'⟩
    obtain rfl := h.distinct.eq_of_key hmem hother hkey hkey'
    simp [hsuperseded] at hkept

/-- **An action is added as an element of a merge is.** -/
theorem PendingActionSet.Seen.extendWith {set : PendingActionSet} (h : set.Seen) (action : Json) :
    (set.extendWith action).Seen ∧
      (set.extendWith action).actions = actionSupersession.add set.actions action := by
  have hkeyed : actionSupersession.key action = pendingActionIdempotencyKey action := rfl
  unfold PendingActionSet.extendWith Supersession.add
  rw [hkeyed]
  cases hkey : pendingActionIdempotencyKey action with
  | none => exact ⟨h, rfl⟩
  | some key =>
    dsimp only
    generalize hset : (if isCommentFixed action then
      set.removeSupersededClassifications action else set) = between
    have hbetween : between.Seen ∧ between.actions = set.actions.filter fun prior =>
        !decide (actionSupersession.Supersedes action prior) := by
      rw [← hset]
      by_cases hfixed : isCommentFixed action = true
      · rw [if_pos hfixed]
        exact h.removeSupersededClassifications hfixed
      · rw [if_neg hfixed]
        refine ⟨h, (List.filter_eq_self.mpr fun prior _ => ?_).symm⟩
        have hnot : ¬ actionSupersession.Supersedes action prior := fun hboth => hfixed hboth.1
        simp [hnot]
    obtain ⟨hseen, hactions⟩ := hbetween
    rw [← hactions]
    by_cases hheld : key ∈ between.seen
    · rw [if_pos hheld, if_pos ((hseen.seen key).mp hheld)]
      exact ⟨hseen, rfl⟩
    · have hfree : key ∉ actionSupersession.keys between.actions := fun hmem =>
        hheld ((hseen.seen key).mpr hmem)
      rw [if_neg hheld, if_neg hfree]
      have hkeys : actionSupersession.keys (between.actions ++ [action]) =
          actionSupersession.keys between.actions ++ [key] := by
        unfold Supersession.keys
        rw [List.filterMap_append]
        simp [hkeyed, hkey]
      refine ⟨⟨?_, fun other => ?_⟩, rfl⟩
      · unfold Supersession.Distinct
        rw [hkeys]
        exact List.nodup_append.mpr ⟨hseen.distinct, by simp, by
          rintro x hx y hy rfl
          exact hfree (List.mem_singleton.mp hy ▸ hx)⟩
      · rw [hkeys, List.mem_cons, List.mem_append, List.mem_singleton, hseen.seen]
        exact or_comm

/-! ### What is merged -/

/-- The actions of an artifact that are carried forward. -/
def carriedForward (prior : Option Json) : List Json :=
  (PendingActionSet.fromPrior (prior.map normalizeLegacyPendingMarkerArtifact)).actions

def newMarkerActions (binding : PrFollowupBinding) (items : List Json)
    (remediationOutputHeadSha : Option String) : List Json :=
  (items.filter fun item => !valueHasSummaryMarkerKey item).map
    (pendingMarkerAction binding · remediationOutputHeadSha)

section Merge

variable {binding : PrFollowupBinding} {prior : Option Json} {items : List Json}
  {outputHead : Option String}

theorem extend_actions {set : PendingActionSet} (h : set.Seen) :
    (set.extend binding items outputHead).actions =
      actionSupersession.merge set.actions (newMarkerActions binding items outputHead) := by
  unfold PendingActionSet.extend newMarkerActions
  induction items.filter fun item => !valueHasSummaryMarkerKey item generalizing set with
  | nil => rfl
  | cons item rest ih =>
    obtain ⟨hseen, hactions⟩ := h.extendWith (pendingMarkerAction binding item outputHead)
    rw [List.foldl_cons, ih hseen, hactions, List.map_cons, merge_cons]

/-- **What is recorded is a sorted merge.** -/
theorem mergePendingMarkerActions_eq
    (hdistinct : ((carriedForward prior).filterMap pendingActionIdempotencyKey).Nodup) :
    mergePendingMarkerActions binding prior items outputHead =
      actionSupersession.sorted "" (actionSupersession.merge (carriedForward prior)
        (newMarkerActions binding items outputHead)) := by
  have hseen : (PendingActionSet.fromPrior
      (prior.map normalizeLegacyPendingMarkerArtifact)).Seen :=
    ⟨hdistinct, fun _ => Iff.rfl⟩
  unfold mergePendingMarkerActions PendingActionSet.intoSortedActions
  rw [extend_actions hseen]
  rfl

/-! ### The keys of new actions -/

theorem takeWhile_key {opening kind : List Char} (h : ':' ∉ kind) :
    (opening ++ ':' :: kind).reverse.takeWhile (· ≠ ':') = kind.reverse := by
  have hkind : ∀ c ∈ kind.reverse, decide (c ≠ ':') = true := by
    intro c hc
    have hne : c ≠ ':' := fun heq => h (heq ▸ List.mem_reverse.mp hc)
    simp [hne]
  rw [List.reverse_append, List.reverse_cons, List.append_assoc,
    List.takeWhile_append_of_pos hkind]
  simp

theorem colon_notMem_kind (item : Json) (decision : String) :
    ':' ∉ (pendingMarkerActionKind item decision).toList := by
  unfold pendingMarkerActionKind
  split_ifs <;> decide

variable (binding outputHead) in
theorem key_pendingMarkerAction (item : Json) :
    ∃ opening : String, pendingActionIdempotencyKey (pendingMarkerAction binding item outputHead) =
      some (opening ++ ":" ++
        pendingMarkerActionKind item (stringField item "decision" "invalid")) :=
  ⟨_, rfl⟩

theorem isCommentFixed_pendingMarkerAction (item : Json) :
    isCommentFixed (pendingMarkerAction binding item outputHead) =
      (pendingMarkerActionKind item (stringField item "decision" "invalid") == "comment_fixed") :=
  rfl

variable {a : Json}

theorem isCommentFixed_of_key {c : Json} (ha : a ∈ newMarkerActions binding items outputHead)
    (hc : c ∈ newMarkerActions binding items outputHead)
    (hkey : pendingActionIdempotencyKey a = pendingActionIdempotencyKey c) :
    isCommentFixed a = isCommentFixed c := by
  obtain ⟨item, -, rfl⟩ := List.mem_map.mp ha
  obtain ⟨item', -, rfl⟩ := List.mem_map.mp hc
  obtain ⟨opening, hopening⟩ := key_pendingMarkerAction binding outputHead item
  obtain ⟨opening', hopening'⟩ := key_pendingMarkerAction binding outputHead item'
  rw [hopening, hopening'] at hkey
  have hlists := congrArg String.toList (Option.some.inj hkey)
  simp only [String.toList_append, List.append_assoc] at hlists
  have hkinds := congrArg (fun text => text.reverse.takeWhile (· ≠ ':')) hlists
  have hcolon : ":".toList = [':'] := rfl
  simp only [hcolon, List.singleton_append] at hkinds
  rw [takeWhile_key (colon_notMem_kind _ _), takeWhile_key (colon_notMem_kind _ _),
    List.reverse_inj] at hkinds
  rw [isCommentFixed_pendingMarkerAction, isCommentFixed_pendingMarkerAction,
    String.toList_inj.mp hkinds]

theorem key_ne_empty (ha : a ∈ newMarkerActions binding items outputHead) :
    ∃ key, pendingActionIdempotencyKey a = some key ∧ key ≠ "" := by
  obtain ⟨item, -, rfl⟩ := List.mem_map.mp ha
  obtain ⟨opening, hopening⟩ := key_pendingMarkerAction binding outputHead item
  refine ⟨_, hopening, fun hempty => ?_⟩
  have hlength := congrArg String.length hempty
  simp [String.length_append] at hlength

/-! ### Artifacts that are read again -/

theorem normalizeLegacyAction_of_head {entries : List (String × Json)}
    (h : (entries.lookup "remediation_output_head").isSome) :
    normalizeLegacyAction (.obj entries) = .obj entries := by
  show (if _ then _ else _) = _
  rw [if_pos h]

theorem normalizeLegacyAction_cases (action : Json) :
    normalizeLegacyAction action = action ∨ ∃ head entries, normalizeLegacyAction action =
      .obj (Assoc.insert "remediation_output_head" head entries) := by
  cases action with
  | obj entries =>
    by_cases hhead : (entries.lookup "remediation_output_head").isSome = true
    · exact Or.inl (normalizeLegacyAction_of_head hhead)
    · unfold normalizeLegacyAction
      dsimp only
      rw [if_neg hhead]
      split
      · split_ifs
        · exact Or.inr ⟨_, _, rfl⟩
        · exact Or.inl rfl
      · exact Or.inr ⟨_, _, rfl⟩
      · exact Or.inr ⟨_, _, rfl⟩
      · exact Or.inl rfl
  | null | bool _ | num _ | str _ | arr _ => exact Or.inl rfl

theorem normalizeLegacyAction_idem (action : Json) :
    normalizeLegacyAction (normalizeLegacyAction action) = normalizeLegacyAction action := by
  rcases normalizeLegacyAction_cases action with hself | ⟨head, entries, hinserted⟩
  · rw [hself, hself]
  · rw [hinserted]
    exact normalizeLegacyAction_of_head (by rw [Assoc.lookup_insert_self]; rfl)

theorem normalizeLegacyAction_new (ha : a ∈ newMarkerActions binding items outputHead) :
    normalizeLegacyAction a = a := by
  obtain ⟨item, -, rfl⟩ := List.mem_map.mp ha
  exact normalizeLegacyAction_of_head rfl

theorem arrayField_normalize (artifact : Json) :
    arrayField (normalizeLegacyPendingMarkerArtifact artifact) "pending_actions" =
      (arrayField artifact "pending_actions").map normalizeLegacyAction := by
  cases artifact with
  | obj entries =>
    cases hfound : entries.lookup "pending_actions" with
    | none => simp [normalizeLegacyPendingMarkerArtifact, arrayField, Json.get?, hfound]
    | some found =>
      cases found with
      | arr actions | null | bool _ | num _ | str _ | obj _ =>
        simp [normalizeLegacyPendingMarkerArtifact, arrayField, Json.get?, hfound]
  | null | bool _ | num _ | str _ | arr _ => rfl

theorem carriedForward_some (artifact : Json) :
    carriedForward (some artifact) =
      ((arrayField artifact "pending_actions").map normalizeLegacyAction).filter
        fun action => !valueHasSummaryMarkerKey action := by
  show ((arrayField (normalizeLegacyPendingMarkerArtifact artifact) "pending_actions").filter _) = _
  rw [arrayField_normalize]

theorem carriedForward_spec {action : Json} (h : action ∈ carriedForward prior) :
    normalizeLegacyAction action = action ∧ (!valueHasSummaryMarkerKey action) = true := by
  cases prior with
  | none => simp [carriedForward, PendingActionSet.fromPrior] at h
  | some artifact =>
    rw [carriedForward_some] at h
    obtain ⟨hmem, hsummary⟩ := List.mem_filter.mp h
    obtain ⟨before, -, rfl⟩ := List.mem_map.mp hmem
    exact ⟨normalizeLegacyAction_idem before, hsummary⟩

/-! ### The merge -/

/-- The keys of the carried-forward actions are distinct, an action with the key of a new one says
that its feedback is fixed just when that one does, and where a new fixed action takes the place of
an action with that key, the two are about the same feedback. -/
structure PlainKeys (binding : PrFollowupBinding) (prior : Option Json) (items : List Json)
    (outputHead : Option String) : Prop where
  distinct : ((carriedForward prior).filterMap pendingActionIdempotencyKey).Nodup
  kinds : ∀ a ∈ carriedForward prior, ∀ c ∈ newMarkerActions binding items outputHead,
    pendingActionIdempotencyKey a = pendingActionIdempotencyKey c →
      isCommentFixed a = isCommentFixed c
  feedback : ∀ c ∈ newMarkerActions binding items outputHead,
    ∀ a ∈ carriedForward prior ++ newMarkerActions binding items outputHead,
      pendingActionIdempotencyKey a = pendingActionIdempotencyKey c →
        ∀ fixed ∈ newMarkerActions binding items outputHead, isCommentFixed fixed = true →
          isCommentFixed a = false → sameOriginalFeedbackIdentity a fixed = true →
            sameOriginalFeedbackIdentity a c = true

theorem PlainKeys.consistent (h : PlainKeys binding prior items outputHead) :
    actionSupersession.Consistent (carriedForward prior)
      (newMarkerActions binding items outputHead) where
  keyed a ha := by
    obtain ⟨key, hkey, -⟩ := key_ne_empty ha
    show pendingActionIdempotencyKey a ≠ none
    simp [hkey]
  distinct := h.distinct
  wins a ha c hc hkey :=
    (List.mem_append.mp ha).elim (fun hold => h.kinds a hold c hc hkey)
      fun hnew => isCommentFixed_of_key hnew hc hkey
  subjects c hc a ha hkey fixed hfixed hsuperseded :=
    sameOriginalFeedbackIdentity_iff.mp (h.feedback c hc a ha hkey fixed hfixed hsuperseded.1
      hsuperseded.2.1 (sameOriginalFeedbackIdentity_iff.mpr hsuperseded.2.2))

/-- A new fixed action takes the place of a classification. -/
def SupersededByNew (binding : PrFollowupBinding) (items : List Json) (outputHead : Option String)
    (action : Json) : Prop :=
  isCommentFixed action = false ∧ ∃ fixed ∈ newMarkerActions binding items outputHead,
    isCommentFixed fixed = true ∧ sameOriginalFeedbackIdentity action fixed = true

theorem supersededByNew_iff {action : Json} :
    SupersededByNew binding items outputHead action ↔
      ∃ fixed ∈ newMarkerActions binding items outputHead,
        actionSupersession.Supersedes fixed action := by
  unfold SupersededByNew
  constructor
  · rintro ⟨hnot, fixed, hmem, hfixed, hsame⟩
    exact ⟨fixed, hmem, hfixed, hnot, sameOriginalFeedbackIdentity_iff.mp hsame⟩
  · rintro ⟨fixed, hmem, hfixed, hnot, hsame⟩
    exact ⟨hnot, fixed, hmem, hfixed, sameOriginalFeedbackIdentity_iff.mpr hsame⟩

/-- **What a merge of pending marker actions keeps**: keys are distinct; every carried-forward
action is there, and every key of a new one, but for the classifications that a new fixed action
takes the place of; of these only those are there that came after it; and merging again changes
nothing. -/
theorem pending_marker_merge (h : PlainKeys binding prior items outputHead) :
    let merged := mergePendingMarkerActions binding prior items outputHead
    (merged.filterMap pendingActionIdempotencyKey).Nodup ∧
      (∀ action ∈ carriedForward prior,
        action ∈ merged ∨ SupersededByNew binding items outputHead action) ∧
      (∀ action ∈ newMarkerActions binding items outputHead,
        (∃ recorded ∈ merged,
          pendingActionIdempotencyKey recorded = pendingActionIdempotencyKey action) ∨
        SupersededByNew binding items outputHead action) ∧
      (∀ before fixed after,
        newMarkerActions binding items outputHead = before ++ fixed :: after →
        isCommentFixed fixed = true → ∀ action ∈ merged, isCommentFixed action = false →
        sameOriginalFeedbackIdentity action fixed = true → action ∈ after) ∧
      ∀ again, arrayField again "pending_actions" = merged →
        mergePendingMarkerActions binding (some again) items outputHead = merged := by
  intro merged
  have hmerged : merged = _ := mergePendingMarkerActions_eq h.distinct
  have hconsistent := h.consistent
  have hdistinct := hconsistent.distinct.merge (newMarkerActions binding items outputHead)
  have hmem : ∀ action, action ∈ merged ↔ action ∈ actionSupersession.merge (carriedForward prior)
      (newMarkerActions binding items outputHead) := by
    intro action
    rw [hmerged]
    exact mem_sorted
  refine ⟨?_, fun action hold => ?_, fun action hnew => ?_, ?_, fun again hagain => ?_⟩
  · rw [hmerged]
    exact hdistinct.perm (sorted_perm _ _)
  · by_cases hsuperseded : SupersededByNew binding items outputHead action
    · exact Or.inr hsuperseded
    · refine Or.inl ((hmem action).mpr (mem_merge_of_mem hold fun fixed hfixed hboth =>
        hsuperseded (supersededByNew_iff.mpr ⟨fixed, hfixed, hboth⟩)))
  · obtain ⟨key, hkey, -⟩ := key_ne_empty hnew
    refine (hconsistent.mem_keys_merge hnew hkey).imp (fun hheld => ?_) supersededByNew_iff.mpr
    obtain ⟨recorded, hrecorded, hkey'⟩ := mem_keys.mp hheld
    exact ⟨recorded, (hmem recorded).mpr hrecorded, hkey'.trans hkey.symm⟩
  · intro before fixed after hsplit hfixed action haction hnot hsame
    have hin := (hmem action).mp haction
    rw [hsplit] at hin
    refine mem_after_of_supersedes (hconsistent.keyed fixed ?_) hin
      ⟨hfixed, hnot, sameOriginalFeedbackIdentity_iff.mp hsame⟩
    rw [hsplit]
    simp
  · -- Only new actions can have a summary marker, and they are merged again.
    have hcarried : carriedForward (some again) =
        merged.filter fun action => !valueHasSummaryMarkerKey action := by
      rw [carriedForward_some, hagain, List.map_congr_left (g := id), List.map_id]
      intro action haction
      rcases mem_of_mem_merge ((hmem action).mp haction) with hold | ⟨hnew, -⟩
      · exact (carriedForward_spec hold).1
      · exact normalizeLegacyAction_new hnew
    have hdistinct' : ((carriedForward (some again)).filterMap
        pendingActionIdempotencyKey).Nodup := by
      rw [hcarried, hmerged]
      exact (hdistinct.perm (sorted_perm _ _)).filter _
    have hempty : "" ∉ actionSupersession.keys (newMarkerActions binding items outputHead) := by
      intro hkeys
      obtain ⟨action, hnew, hkey⟩ := mem_keys.mp hkeys
      obtain ⟨key, hkey', hne⟩ := key_ne_empty hnew
      exact hne (Option.some.inj (hkey'.symm.trans hkey))
    rw [mergePendingMarkerActions_eq hdistinct', hcarried, hmerged]
    exact hconsistent.merge_again hempty fun action hold => (carriedForward_spec hold).2

end Merge

/-! ### Three findings -/

def pendingBinding : PrFollowupBinding where
  schemaVersion := 1
  runId := "r"
  repositoryOwner := "o"
  repositoryName := "n"
  prNumber := 7
  headRef := "f"
  headSha := "h"
  baseRef := "b"
  baseSha := none

def disposedFinding (disposition : List (String × Json)) (sourceId thread bodyHash : String) :
    Json :=
  .obj ([("source_id", .str sourceId), ("stable_marker_key", .str thread),
    ("body_hash", .str bodyHash)] ++ disposition)

def repairedFinding : String → String → String → Json :=
  disposedFinding [("marker_action", .str "comment_fixed")]

def mistakenFinding : String → String → String → Json :=
  disposedFinding [("decision", .str "invalid")]

/-- The artifact that a stage has left, with the finding of the first thread. -/
def leftByEvaluation : Option Json :=
  some (pendingMarkerActionsArtifact pendingBinding none [mistakenFinding "1" "t" "x"] (some "g")
    "now")

def laterFindings : List Json := [repairedFinding "1" "t" "x", mistakenFinding "2" "u" "y"]

theorem laterFindings_plain : PlainKeys pendingBinding leftByEvaluation laterFindings (some "g") :=
  ⟨by decide +kernel, by decide +kernel, by decide +kernel⟩

/-- The fixed action takes the place of the one before it, and a second merge changes nothing. -/
theorem pending_marker_merge_later :
    (mergePendingMarkerActions pendingBinding leftByEvaluation laterFindings (some "g")).map
        (stringAt · ["item_id"]) = [some "1", some "2"] ∧
      mergePendingMarkerActions pendingBinding
        (some (pendingMarkerActionsArtifact pendingBinding leftByEvaluation laterFindings (some "g")
          "later")) laterFindings (some "g") =
        mergePendingMarkerActions pendingBinding leftByEvaluation laterFindings (some "g") :=
  ⟨by decide +kernel, (pending_marker_merge laterFindings_plain).2.2.2.2 _ rfl⟩

def listedActions (actions : List Json) : Option Json :=
  some (.obj [("pending_actions", .arr actions)])

/-- What is left of an action whose key is that of the fixed action on another finding. -/
def mislabelledAction : Json :=
  .obj [("action_kind", .str "comment_invalid"), ("item_id", .str "2"),
    ("stable_marker_key", .str "u"), ("body_hash", .str "y"), ("source_head_sha", .str "h"),
    ("idempotency_key", .str (pendingMarkerIdempotencyKey pendingBinding "g" "t" "comment_fixed"))]

/-- **Keys that are recorded twice stay so; a classification that comes after the fixed action stays
beside it; one that another's key has kept out is lost with that one, until the same actions are
merged again; and so is an action whose key has been used for another.** -/
theorem pending_marker_merge_fails :
    (mergePendingMarkerActions pendingBinding
        (listedActions (List.replicate 2
          (pendingMarkerAction pendingBinding (mistakenFinding "1" "t" "x") none))) [] none).map
        pendingActionIdempotencyKey =
      [some "r:o:n:7:h:none:t:comment_invalid", some "r:o:n:7:h:none:t:comment_invalid"] ∧
    (mergePendingMarkerActions pendingBinding none
        [repairedFinding "1" "t" "x", mistakenFinding "1" "t" "x"] (some "g")).map isCommentFixed =
      [true, false] ∧
    (mergePendingMarkerActions pendingBinding none
        [mistakenFinding "1" "t" "x", repairedFinding "1" "t" "x"] (some "g")).map isCommentFixed =
      [true] ∧
    (let findings := [mistakenFinding "2" "t" "y", repairedFinding "1" "t" "x"]
      let merged := mergePendingMarkerActions pendingBinding leftByEvaluation findings (some "g")
      merged.map (stringAt · ["item_id"]) = [some "1"] ∧
        (mergePendingMarkerActions pendingBinding (listedActions merged) findings (some "g")).map
          (stringAt · ["item_id"]) = [some "1", some "2"]) ∧
    (mergePendingMarkerActions pendingBinding (listedActions [mislabelledAction])
        [repairedFinding "1" "t" "x", repairedFinding "2" "u" "y"] (some "g")).map
        (stringAt · ["item_id"]) = [some "2"] := by
  decide +kernel

end Luther
