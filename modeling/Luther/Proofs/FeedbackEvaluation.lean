/-
What an evaluation of the feedback has come to, and what a second one finds.

`Carries` is what every accepted evaluation has: the identity of its item.  A pass that succeeds
has one of them for every item, in the order of the items.  `Reusable` is what the state needs
for an item to be found again: the entries are told apart by marker key, body and head alone, so
that of two items that have these three in common only the later one stays in the state, and an
evaluation without a head is stored, but never read back.
-/
import Luther.Feedback.Evaluation
import Luther.Proofs.PushTruth
import Luther.Proofs.TestedResult

/-! ### Depth -/

namespace Json

theorem depth_le_of_mem {element : Json} {elements : List Json} (h : element ∈ elements) :
    element.depth ≤ depthList elements := by
  induction elements with
  | nil => simp at h
  | cons first rest ih =>
    unfold depthList
    rcases List.mem_cons.mp h with rfl | hrest
    · exact Nat.le_max_left _ _
    · exact Nat.le_trans (ih hrest) (Nat.le_max_right _ _)

theorem depth_le_of_lookup {key : String} {entries : List (String × Json)} {v : Json}
    (h : entries.lookup key = some v) : v.depth ≤ depthEntries entries := by
  induction entries with
  | nil => simp at h
  | cons entry rest ih =>
    obtain ⟨key', v'⟩ := entry
    unfold depthEntries
    rcases Assoc.lookup_cons_some h with ⟨-, rfl⟩ | hrest
    · exact Nat.le_max_left _ _
    · exact Nat.le_trans (ih hrest) (Nat.le_max_right _ _)

theorem depth_lt_of_get? {key : String} {value v : Json} (h : value.get? key = some v) :
    v.depth < value.depth := by
  cases value with
  | obj entries => exact Nat.lt_succ_of_le (depth_le_of_lookup h)
  | null | bool | num | str | arr => simp [get?] at h

end Json

namespace Luther

open Effect Sql

theorem depth_of_mem_arrayField {value element : Json} {field : String}
    (h : element ∈ arrayField value field) : element.depth + 1 < value.depth := by
  unfold arrayField at h
  split at h
  case h_1 elements hfield =>
    have hdepth : Json.depthList elements + 1 < value.depth := Json.depth_lt_of_get? hfield
    have helement := Json.depth_le_of_mem h
    omega
  case h_2 => simp at h

/-! ### Fields -/

section Fields

variable {value : Json} {field key : String} {fieldValue : Json}

variable {text : String}

theorem text?_eq_some_iff :
    value.text? field = some text ↔ value.get? field = some (.str text) := by
  unfold Json.text?
  cases hvalue : value.get? field with
  | none => simp
  | some v => cases v <;> simp [Json.asStr?]

theorem requireString_iff :
    requireString field value = .ok text ↔ value.text? field = some text ∧ text ≠ "" := by
  unfold requireString Json.text?
  cases (value.get? field).bind Json.asStr? with
  | none => simp
  | some read =>
    by_cases hempty : read = ""
    · simp only [hempty, if_true, reduceCtorEq, Option.some.injEq, ne_eq, false_iff, not_and,
        not_not]
      exact Eq.symm
    · simp only [if_neg hempty, Except.ok.injEq, Option.some.injEq, ne_eq]
      exact ⟨fun h => ⟨h, h ▸ hempty⟩, And.left⟩

theorem stringField_of_text? (h : value.text? field = some text) :
    stringField value field "" = text := by
  unfold Json.text? at h
  unfold stringField
  rw [h]
  rfl

theorem get?_insertField_ne (h : key ≠ field) :
    (insertField field fieldValue value).get? key = value.get? key := by
  unfold insertField
  cases value with
  | obj entries => exact Assoc.lookup_insert_ne h fieldValue entries
  | null | bool | num | str | arr => rfl

theorem text?_insertField_ne (h : key ≠ field) :
    (insertField field fieldValue value).text? key = value.text? key := by
  unfold Json.text?
  rw [get?_insertField_ne h]

theorem get?_insertField_self (h : value.asObject?.isSome) :
    (insertField field fieldValue value).get? field = some fieldValue := by
  cases value with
  | obj entries => exact Assoc.lookup_insert_self field fieldValue entries
  | null | bool | num | str | arr => simp [Json.asObject?] at h

theorem asObject?_insertField (field : String) (fieldValue : Json)
    (h : value.asObject?.isSome) :
    (insertField field fieldValue value).asObject?.isSome = true := by
  cases value with
  | obj entries => rfl
  | null | bool | num | str | arr => simp [Json.asObject?] at h

theorem depth_insertField (field : String) (fieldValue value : Json) :
    (insertField field fieldValue value).depth ≤ max value.depth (fieldValue.depth + 1) := by
  cases value with
  | obj entries =>
    have hdepth := Json.depthEntries_insert field fieldValue entries
    simp only [insertField, Json.depth]
    omega
  | null | bool | num | str | arr => exact Nat.le_max_left _ _

end Fields

/-! ### The identity of an item -/

def FeedbackItem.reuseKey (item : FeedbackItem) : String × String × String :=
  (item.stableMarkerKey, item.bodyHash, item.headSha)

/-- An evaluation that is about its item. -/
structure Carries (item : FeedbackItem) (value : Json) : Prop where
  itemId : value.text? "item_id" = some item.itemId
  stableMarkerKey : value.text? "stable_marker_key" = some item.stableMarkerKey
  bodyHash : value.text? "body_hash" = some item.bodyHash
  headSha : value.text? "head_sha" = some item.headSha

section Identity

variable {item other : FeedbackItem} {value : Json} {binding : PrFollowupBinding}
  {timestamp : Timestamp} {entries : List Json}

theorem Carries.acceptedKey (h : Carries item value) :
    Luther.acceptedKey value = item.acceptedKey := by
  unfold Luther.acceptedKey FeedbackItem.acceptedKey
  rw [stringField_of_text? h.itemId, stringField_of_text? h.bodyHash,
    stringField_of_text? h.headSha]

theorem Carries.insertField {field : String} {fieldValue : Json} (h : Carries item value)
    (hfield : field ∉ ["item_id", "stable_marker_key", "body_hash", "head_sha"]) :
    Carries item (Luther.insertField field fieldValue value) := by
  simp only [List.mem_cons, List.not_mem_nil, or_false, not_or] at hfield
  obtain ⟨hid, hkey, hbody, hhead⟩ := hfield
  exact
    { itemId := (text?_insertField_ne (Ne.symm hid)).trans h.itemId
      stableMarkerKey := (text?_insertField_ne (Ne.symm hkey)).trans h.stableMarkerKey
      bodyHash := (text?_insertField_ne (Ne.symm hbody)).trans h.bodyHash
      headSha := (text?_insertField_ne (Ne.symm hhead)).trans h.headSha }

theorem isAboutBy_iff : item.isAboutBy value = true ↔
    value.text? "stable_marker_key" = some item.stableMarkerKey ∧
      value.text? "body_hash" = some item.bodyHash ∧
      value.text? "head_sha" = some item.headSha := by
  simp only [FeedbackItem.isAboutBy, Bool.and_eq_true, beq_iff_eq, and_assoc]

theorem reuseKey_eq_of_isAboutBy (hitem : item.isAboutBy value)
    (hother : other.isAboutBy value) : item.reuseKey = other.reuseKey := by
  obtain ⟨hkey, hbody, hhead⟩ := isAboutBy_iff.mp hitem
  obtain ⟨hkey', hbody', hhead'⟩ := isAboutBy_iff.mp hother
  unfold FeedbackItem.reuseKey
  rw [Option.some.inj (hkey.symm.trans hkey'), Option.some.inj (hbody.symm.trans hbody'),
    Option.some.inj (hhead.symm.trans hhead')]

theorem isAboutBy_stateEntry :
    item.isAboutBy (stateEntry binding item value timestamp) = true :=
  isAboutBy_iff.mpr ⟨rfl, rfl, rfl⟩

theorem filter_upsertStateEntry_self :
    (upsertStateEntry binding item value timestamp entries).filter item.isAboutBy =
      [stateEntry binding item value timestamp] := by
  unfold upsertStateEntry
  rw [List.filter_append, List.filter_filter, List.filter_eq_nil_iff.mpr, List.nil_append,
    List.filter_cons_of_pos isAboutBy_stateEntry, List.filter_nil]
  intro entry _
  simp

theorem filter_upsertStateEntry_ne (h : other.reuseKey ≠ item.reuseKey) :
    (upsertStateEntry binding item value timestamp entries).filter other.isAboutBy =
      entries.filter other.isAboutBy := by
  have hentry : ¬ other.isAboutBy (stateEntry binding item value timestamp) = true :=
    fun habout => h (reuseKey_eq_of_isAboutBy habout isAboutBy_stateEntry)
  unfold upsertStateEntry
  rw [List.filter_append, List.filter_filter, List.filter_cons_of_neg hentry, List.filter_nil,
    List.append_nil]
  refine List.filter_congr fun entry _ => ?_
  by_cases hother : other.isAboutBy entry = true
  · have hnot : ¬ item.isAboutBy entry = true :=
      fun hitem => h (reuseKey_eq_of_isAboutBy hother hitem)
    simp [hother, hnot]
  · simp [hother]

end Identity

/-! ### Accepted evaluations -/

/-- What a new evaluation says: it is about its item, decides, and can be posted. -/
structure FreshEvaluation (item : FeedbackItem) (value : Json) : Prop extends Carries item value where
  object : value.asObject?.isSome = true
  flat : value.depth ≤ 1
  decided : ∃ decision ∈ allowedDecisions, value.text? "decision" = some decision ∧
    (decision = "valid" ∨ trim (stringField value "reason" "") ≠ "")
  action : trim (stringField value "recommended_action" "") ≠ ""
  response : trim (stringField value "response_text" "") ≠ ""

/-- What an evaluation says that is kept, and can be reused for its item. -/
structure Reusable (binding : PrFollowupBinding) (item : FeedbackItem) (value : Json) : Prop
    extends Carries item value where
  identified : item.itemId ≠ "" ∧ item.stableMarkerKey ≠ "" ∧ item.bodyHash ≠ "" ∧
    item.headSha ≠ ""
  owner : value.text? "repository_owner" = some binding.repositoryOwner ∧
    binding.repositoryOwner ≠ ""
  name : value.text? "repository_name" = some binding.repositoryName ∧ binding.repositoryName ≠ ""
  number : requireU64 "pr_number" value = .ok binding.prNumber.toNat
  decided : ∃ decision ∈ allowedDecisions, value.text? "decision" = some decision ∧
    (decision = "valid" ∨ trim (stringField value "reason" "") ≠ "")
  action : trim (stringField value "recommended_action" "") ≠ ""
  response : trim (stringField value "response_text" "") ≠ ""

section Accepted

variable {item : FeedbackItem} {value : Json} {binding : PrFollowupBinding}

theorem ne_empty_of_mem_allowedDecisions {decision : String} (h : decision ∈ allowedDecisions) :
    decision ≠ "" := by
  rintro rfl
  exact absurd h (by decide)

/-- **What `validate_reusable_accepted` asks for.** -/
theorem validateReusableAccepted_iff :
    validateReusableAccepted binding item value = .ok () ↔ Reusable binding item value := by
  unfold validateReusableAccepted
  simp only [bind_ok, refused_ok, refused_last, requireString_iff]
  constructor
  · rintro ⟨decision, ⟨hdecision, -⟩, hallowed, itemId, ⟨hid, hid'⟩, key, ⟨hkey, hkey'⟩, body,
      ⟨hbody, hbody'⟩, head, ⟨hhead, hhead'⟩, hidentity, owner, ⟨howner, howner'⟩, name,
      ⟨hname, hname'⟩, number, hnumber, hbinding, hreason, haction, hresponse⟩
    simp only [ne_eq, not_or, not_not] at hidentity hbinding
    obtain ⟨rfl, rfl, rfl, rfl⟩ := hidentity
    obtain ⟨rfl, rfl, rfl⟩ := hbinding
    exact
      { itemId := hid
        stableMarkerKey := hkey
        bodyHash := hbody
        headSha := hhead
        identified := ⟨hid', hkey', hbody', hhead'⟩
        owner := ⟨howner, howner'⟩
        name := ⟨hname, hname'⟩
        number := hnumber
        decided := ⟨decision, not_not.mp hallowed, hdecision,
          (not_and_or.mp hreason).imp_left not_not.mp⟩
        action := haction
        response := hresponse }
  · intro h
    obtain ⟨decision, hallowed, hdecision, hreason⟩ := h.decided
    obtain ⟨hid, hkey, hbody, hhead⟩ := h.identified
    exact ⟨decision, ⟨hdecision, ne_empty_of_mem_allowedDecisions hallowed⟩, not_not.mpr hallowed,
      _, ⟨h.itemId, hid⟩, _, ⟨h.stableMarkerKey, hkey⟩, _, ⟨h.bodyHash, hbody⟩, _,
      ⟨h.headSha, hhead⟩, by simp, _, h.owner, _, h.name, _, h.number, by simp,
      not_and_or.mpr (hreason.imp_left not_not.mpr), h.action, h.response⟩

theorem fresh_deterministic {acceptedAt : Timestamp}
    (h : deterministicFeedbackEvaluation item acceptedAt = some value) : FreshEvaluation item value := by
  unfold deterministicFeedbackEvaluation at h
  split at h
  case isFalse => simp at h
  case isTrue =>
    obtain rfl := Option.some.inj h
    have hreason : trim deterministicReason ≠ "" :=
      trim_ne_empty (c := 'C') (by decide +kernel) (by decide)
    have haction : trim deterministicAction ≠ "" :=
      trim_ne_empty (c := 'N') (by decide +kernel) (by decide)
    have hresponse : trim deterministicResponse ≠ "" :=
      trim_ne_empty (c := 'T') (by decide +kernel) (by decide)
    exact
      { itemId := rfl
        stableMarkerKey := rfl
        bodyHash := rfl
        headSha := rfl
        object := rfl
        flat := by simp [Json.depth, Json.depthEntries, FeedbackItem.identityFields]
        decided := ⟨"invalid", by decide, rfl, Or.inr hreason⟩
        action := haction
        response := hresponse }

/-- **A response that is accepted is a new evaluation of the item that was asked about.** -/
theorem fresh_acceptedResult {reader : JsonReader} {raw : String}
    {response : FeedbackEvaluationResponse}
    (h : validateResponse reader raw (buildRequest binding item) = .ok response)
    (acceptedAt : Timestamp) (attempt : Nat) :
    FreshEvaluation item (acceptedResult response acceptedAt attempt) := by
  unfold validateResponse at h
  obtain ⟨read, -, h⟩ := bind_ok.mp h
  obtain ⟨-, h⟩ := checked_ok.mp h
  obtain ⟨parsed, -, h⟩ := bind_ok.mp h
  obtain ⟨hchecked, h⟩ := checked_ok.mp h
  rw [Except.ok.inj h] at hchecked
  unfold checkResponse at hchecked
  simp only [refused_ok, checked_ok, refused_last, ne_eq, not_not] at hchecked
  obtain ⟨hid, hkey, hbody, hhead, hdecision, haxes, hreason, haction, hresponse⟩ := hchecked
  have hfields : ∀ key ∈ ["item_id", "stable_marker_key", "body_hash", "head_sha"],
      (acceptedResult response acceptedAt attempt).text? key =
        [("item_id", response.itemId), ("stable_marker_key", response.stableMarkerKey),
          ("body_hash", response.bodyHash), ("head_sha", response.headSha)].lookup key := by
    intro key hkey
    simp only [List.mem_cons, List.not_mem_nil, or_false] at hkey
    rcases hkey with rfl | rfl | rfl | rfl <;> rfl
  exact
    { itemId := (hfields _ (by simp)).trans (congrArg some hid)
      stableMarkerKey := (hfields _ (by simp)).trans (congrArg some hkey)
      bodyHash := (hfields _ (by simp)).trans (congrArg some hbody)
      headSha := (hfields _ (by simp)).trans (congrArg some hhead)
      object := rfl
      flat := by
        unfold acceptedResult
        cases response.correctness <;> cases response.deliveryScope <;>
          simp [Json.depth, Json.depthEntries]
      decided := ⟨response.decision, hdecision, rfl,
        (not_and_or.mp hreason).imp_left not_not.mp⟩
      action := haction
      response := hresponse }

theorem FreshEvaluation.reusable (h : FreshEvaluation item value) (hitem : item.itemId ≠ "")
    (hkey : item.stableMarkerKey ≠ "") (hbody : item.bodyHash ≠ "") (hhead : item.headSha ≠ "")
    (howner : binding.repositoryOwner ≠ "") (hname : binding.repositoryName ≠ "") :
    Reusable binding item (acceptedWithBinding binding value) := by
  have hfields : ∀ key ∉ ["repository_owner", "repository_name", "pr_number"],
      (acceptedWithBinding binding value).text? key = value.text? key := by
    intro key hkey
    simp only [List.mem_cons, List.not_mem_nil, or_false, not_or] at hkey
    unfold acceptedWithBinding
    rw [text?_insertField_ne hkey.2.2, text?_insertField_ne hkey.2.1, text?_insertField_ne hkey.1]
  have hstrings : ∀ key ∉ ["repository_owner", "repository_name", "pr_number"],
      stringField (acceptedWithBinding binding value) key "" = stringField value key "" :=
    fun key hkey => congrArg (Option.getD · "") (hfields key hkey)
  have hobject := asObject?_insertField "repository_owner" (.str binding.repositoryOwner) h.object
  have hobject' := asObject?_insertField "repository_name" (.str binding.repositoryName) hobject
  exact
    { itemId := (hfields _ (by decide)).trans h.itemId
      stableMarkerKey := (hfields _ (by decide)).trans h.stableMarkerKey
      bodyHash := (hfields _ (by decide)).trans h.bodyHash
      headSha := (hfields _ (by decide)).trans h.headSha
      identified := ⟨hitem, hkey, hbody, hhead⟩
      owner := by
        refine ⟨text?_eq_some_iff.mpr ?_, howner⟩
        unfold acceptedWithBinding
        rw [get?_insertField_ne (by decide), get?_insertField_ne (by decide),
          get?_insertField_self h.object]
      name := by
        refine ⟨text?_eq_some_iff.mpr ?_, hname⟩
        unfold acceptedWithBinding
        rw [get?_insertField_ne (by decide), get?_insertField_self hobject]
      number := by
        refine requireU64_of_get? ?_ ?_
        · unfold acceptedWithBinding
          rw [get?_insertField_self hobject']
        · exact binding.prNumber.toNat_lt
      decided := by
        rw [hfields _ (by decide), hstrings _ (by decide)]
        exact h.decided
      action := by
        rw [hstrings _ (by decide)]
        exact h.action
      response := by
        rw [hstrings _ (by decide)]
        exact h.response }

theorem Carries.applyPolicy (h : Carries item value) :
    Carries item (applyLowConfidenceAcceptedPolicy item value) := by
  unfold applyLowConfidenceAcceptedPolicy
  split
  case isTrue => exact h
  case isFalse =>
    cases value with
    | obj entries =>
      have hfields : ∀ key ∈ ["item_id", "stable_marker_key", "body_hash", "head_sha"],
          ∀ fields : List (String × Json),
            fields.map Prod.fst = ["decision", "reason", "recommended_action", "response_text",
              "correctness", "delivery_scope"] →
            (Json.obj (fields.foldl (fun object field => Assoc.insert field.1 field.2 object)
              entries)).text? key = (Json.obj entries).text? key := by
        intro key hkey fields hnames
        refine congrArg (·.bind Json.asStr?) (Assoc.lookup_insertMany_ne ?_ entries)
        rw [hnames]
        simp only [List.mem_cons, List.not_mem_nil, or_false] at hkey
        rcases hkey with rfl | rfl | rfl | rfl <;> decide
      exact
        { itemId := (hfields _ (by simp) _ rfl).trans h.itemId
          stableMarkerKey := (hfields _ (by simp) _ rfl).trans h.stableMarkerKey
          bodyHash := (hfields _ (by simp) _ rfl).trans h.bodyHash
          headSha := (hfields _ (by simp) _ rfl).trans h.headSha }
    | null | bool | num | str | arr => exact h

theorem Carries.reusedResult (h : Carries item value) : Carries item (reusedResult value) :=
  (h.insertField (by decide)).insertField (by decide)

end Accepted

/-! ### One item -/

/-- What a pass has done with an item, where it is not left without an evaluation. -/
inductive Evaluated (binding : PrFollowupBinding) (stateEntries : List Json) (item : FeedbackItem)
    (before after : EvaluationPass) : Json → Prop where
  /-- The one evaluation of the state is reused. -/
  | reused (entry accepted : Json) (hfound : stateEntries.filter item.isAboutBy = [entry])
      (heligible : (entry.get? "reuse_eligible").bind Json.asBool? = some true)
      (haccepted : entry.get? "accepted_evaluation" = some accepted)
      (hreusable : Reusable binding item accepted) (hentries : after.entries = before.entries) :
      Evaluated binding stateEntries item before after
        (reusedResult (applyLowConfidenceAcceptedPolicy item accepted))
  /-- A new evaluation is made, and put into the state. -/
  | fresh (value : Json) (timestamp : Timestamp) (hfresh : FreshEvaluation item value)
      (hentries : after.entries = upsertStateEntry binding item value timestamp before.entries) :
      Evaluated binding stateEntries item before after value

def EvaluationPass.FlatAttempts (pass : EvaluationPass) : Prop :=
  ∀ attempt ∈ pass.sets.rejectedAttempts, attempt.depth ≤ 1

/-- Whether no item was left without an evaluation. -/
def EvaluationPass.Clean (pass : EvaluationPass) : Prop :=
  pass.sets.fatalReuseErrors = [] ∧ pass.sets.budgetExhaustedItems = [] ∧
    pass.sets.unevaluatedItems = []

section Item

variable {binding : PrFollowupBinding} {world : EvaluationWorld} {stateEntries : List Json}
  {item : FeedbackItem} {pass next : EvaluationPass} {answer : Option Json}

/-- What the attempts at an item leave of the pass. -/
structure Attempted (binding : PrFollowupBinding) (item : FeedbackItem) (answer : Option Json)
    (before after : EvaluationPass) : Prop where
  accepted : after.sets.acceptedResults = before.sets.acceptedResults
  fatal : after.sets.fatalReuseErrors = before.sets.fatalReuseErrors
  budget : after.sets.budgetExhaustedItems = before.sets.budgetExhaustedItems
  unevaluated : after.sets.unevaluatedItems = before.sets.unevaluatedItems
  reused : after.sets.reusedResultsCount = before.sets.reusedResultsCount
  flat : before.FlatAttempts → after.FlatAttempts
  entries : match answer with
    | none => after.entries = before.entries
    | some value => FreshEvaluation item value ∧ ∃ timestamp,
        after.entries = upsertStateEntry binding item value timestamp before.entries

theorem flatAttempts_rejectAttempt {attempt : Json} (h : pass.FlatAttempts)
    (hattempt : attempt.depth ≤ 1) : (pass.rejectAttempt attempt).FlatAttempts := by
  intro recorded hrecorded
  rcases List.mem_append.mp hrecorded with hold | hnew
  · exact h recorded hold
  · exact (List.mem_singleton.mp hnew).symm ▸ hattempt

theorem depth_rejectedAttempt {attempt : Nat} {rawPath reason : String}
    {details : List (String × Json)} (h : ∀ detail ∈ details, detail.2.depth = 0) :
    (rejectedAttempt item attempt rawPath reason details).depth ≤ 1 := by
  have hdetails := Json.depthEntries_le fun detail hdetail => (h detail hdetail).le
  simpa [rejectedAttempt, Json.depth, Json.depthEntries, Json.depthEntries_append] using hdetails

theorem runAttempt_attempted {attempt : Nat}
    (h : runAttempt binding world item attempt pass = .ok (answer, next)) :
    Attempted binding item answer pass next := by
  unfold runAttempt at h
  dsimp only at h
  cases hanswer : world.evaluate pass.requests (buildRequest binding item) with
  | error error =>
    rw [hanswer] at h
    obtain ⟨rawPath, -, h⟩ := bind_ok.mp h
    obtain ⟨rfl, rfl⟩ := Prod.mk.inj (Except.ok.inj h)
    refine ⟨rfl, rfl, rfl, rfl, rfl, fun hflat => ?_, rfl⟩
    refine flatAttempts_rejectAttempt hflat (depth_rejectedAttempt fun detail hdetail => ?_)
    simp only [List.mem_cons, List.not_mem_nil, or_false] at hdetail
    rcases hdetail with rfl | rfl | rfl <;> rfl
  | ok raw =>
    rw [hanswer] at h
    obtain ⟨rawPath, -, h⟩ := bind_ok.mp h
    cases hresponse : validateResponse world.reader raw (buildRequest binding item) with
    | ok response =>
      rw [hresponse] at h
      obtain ⟨rfl, rfl⟩ := Prod.mk.inj (Except.ok.inj h)
      exact ⟨rfl, rfl, rfl, rfl, rfl, id, fresh_acceptedResult hresponse _ attempt, _, rfl⟩
    | error rejected =>
      rw [hresponse] at h
      obtain ⟨rfl, rfl⟩ := Prod.mk.inj (Except.ok.inj h)
      refine ⟨rfl, rfl, rfl, rfl, rfl, fun hflat => ?_, rfl⟩
      refine flatAttempts_rejectAttempt hflat (depth_rejectedAttempt fun detail hdetail => ?_)
      simp only [List.mem_cons, List.not_mem_nil, or_false] at hdetail
      rcases hdetail with rfl | rfl <;> exact depth_jsonOfText _

theorem runAttempts_attempted {attempts : List Nat}
    (h : runAttempts binding world item attempts pass = .ok (answer, next)) :
    Attempted binding item answer pass next := by
  induction attempts generalizing pass with
  | nil =>
    obtain ⟨rfl, rfl⟩ := Prod.mk.inj (Except.ok.inj h)
    exact ⟨rfl, rfl, rfl, rfl, rfl, id, rfl⟩
  | cons attempt rest ih =>
    obtain ⟨⟨first, mid⟩, hfirst, hrest⟩ := bind_ok.mp h
    have hattempted := runAttempt_attempted hfirst
    cases first with
    | some accepted =>
      obtain ⟨rfl, rfl⟩ := Prod.mk.inj (Except.ok.inj hrest)
      exact hattempted
    | none =>
      have hlater := ih hrest
      have hentries : mid.entries = pass.entries := hattempted.entries
      exact
        { accepted := hlater.accepted.trans hattempted.accepted
          fatal := hlater.fatal.trans hattempted.fatal
          budget := hlater.budget.trans hattempted.budget
          unevaluated := hlater.unevaluated.trans hattempted.unevaluated
          reused := hlater.reused.trans hattempted.reused
          flat := fun hflat => hlater.flat (hattempted.flat hflat)
          entries := hentries ▸ hlater.entries }

theorem freshEvaluation_attempted
    (h : freshEvaluation binding world item pass = .ok (answer, next)) :
    Attempted binding item answer pass next := by
  unfold freshEvaluation at h
  cases hsummary : deterministicFeedbackEvaluation item (world.clock pass.readings) with
  | some accepted =>
    rw [hsummary] at h
    obtain ⟨rfl, rfl⟩ := Prod.mk.inj (Except.ok.inj h)
    exact ⟨rfl, rfl, rfl, rfl, rfl, id, fresh_deterministic hsummary, _, rfl⟩
  | none =>
    rw [hsummary] at h
    have hattempted := runAttempts_attempted h
    exact ⟨hattempted.accepted, hattempted.fatal, hattempted.budget, hattempted.unevaluated,
      hattempted.reused, hattempted.flat, hattempted.entries⟩

theorem reusableEntry_eq_reuse {entry value : Json}
    (h : reusableEntry binding item entry = .reuse value) :
    (entry.get? "reuse_eligible").bind Json.asBool? = some true ∧
      ∃ accepted, entry.get? "accepted_evaluation" = some accepted ∧
        Reusable binding item accepted ∧ value = applyLowConfidenceAcceptedPolicy item accepted := by
  unfold reusableEntry at h
  split at h
  case isTrue => simp at h
  case isFalse heligible =>
    refine ⟨not_not.mp heligible, ?_⟩
    cases haccepted : entry.get? "accepted_evaluation" with
    | none => simp [haccepted] at h
    | some accepted =>
      simp only [haccepted] at h
      split at h
      case isTrue => simp at h
      case isFalse hvalid =>
        refine ⟨accepted, rfl, validateReusableAccepted_iff.mp ?_, (ReuseLookup.reuse.inj h).symm⟩
        cases hchecked : validateReusableAccepted binding item accepted with
        | ok _ => rfl
        | error error => simp [hchecked, Except.isOk, Except.toBool] at hvalid

theorem reusableEvaluation_eq {entry accepted : Json} {entries : List Json}
    (hfound : entries.filter item.isAboutBy = [entry])
    (heligible : (entry.get? "reuse_eligible").bind Json.asBool? = some true)
    (haccepted : entry.get? "accepted_evaluation" = some accepted)
    (hreusable : Reusable binding item accepted) :
    reusableEvaluation binding item entries =
      .reuse (applyLowConfidenceAcceptedPolicy item accepted) := by
  unfold reusableEvaluation reusableEntry
  simp only [hfound, heligible, haccepted, ne_eq, not_true_eq_false, if_false,
    validateReusableAccepted_iff.mpr hreusable, Except.isOk, Except.toBool, Bool.true_eq_false]

theorem reusableEvaluation_eq_reuse {entries : List Json} {value : Json}
    (h : reusableEvaluation binding item entries = .reuse value) :
    ∃ entry accepted, entries.filter item.isAboutBy = [entry] ∧
      (entry.get? "reuse_eligible").bind Json.asBool? = some true ∧
      entry.get? "accepted_evaluation" = some accepted ∧ Reusable binding item accepted ∧
      value = applyLowConfidenceAcceptedPolicy item accepted := by
  unfold reusableEvaluation at h
  cases hfound : entries.filter item.isAboutBy with
  | nil => simp [hfound] at h
  | cons entry rest =>
    cases rest with
    | cons second rest => simp [hfound] at h
    | nil =>
      simp only [hfound] at h
      obtain ⟨heligible, accepted, haccepted, hreusable, hvalue⟩ := reusableEntry_eq_reuse h
      exact ⟨entry, accepted, rfl, heligible, haccepted, hreusable, hvalue⟩

/-- **What becomes of one item.** -/
theorem processItem_evaluated (h : processItem binding world stateEntries item pass = .ok next)
    (hclean : next.Clean) :
    pass.Clean ∧ (pass.FlatAttempts → next.FlatAttempts) ∧
      ∃ result, Evaluated binding stateEntries item pass next result ∧
        next.sets.acceptedResults = pass.sets.acceptedResults ++ [result] := by
  unfold processItem at h
  cases hlookup : reusableEvaluation binding item stateEntries with
  | reuse value =>
    rw [hlookup] at h
    obtain rfl := Except.ok.inj h
    obtain ⟨entry, accepted, hfound, heligible, haccepted, hreusable, rfl⟩ :=
      reusableEvaluation_eq_reuse hlookup
    exact ⟨hclean, id, _, .reused entry accepted hfound heligible haccepted hreusable rfl, rfl⟩
  | fatal reason =>
    rw [hlookup] at h
    obtain rfl := Except.ok.inj h
    exact absurd hclean.1 (by simp)
  | noMatch =>
    rw [hlookup] at h
    obtain ⟨⟨answer, mid⟩, hfresh, h⟩ := bind_ok.mp h
    have hattempted := freshEvaluation_attempted hfresh
    cases answer with
    | none =>
      obtain rfl := Except.ok.inj h
      exact absurd hclean.2.1 (by simp)
    | some value =>
      obtain rfl := Except.ok.inj h
      obtain ⟨hvalue, timestamp, hentries⟩ := hattempted.entries
      refine ⟨⟨?_, ?_, ?_⟩, hattempted.flat, value, .fresh value timestamp hvalue hentries, ?_⟩
      · exact hattempted.fatal.symm.trans hclean.1
      · exact hattempted.budget.symm.trans hclean.2.1
      · exact hattempted.unevaluated.symm.trans hclean.2.2
      · exact congrArg (· ++ [value]) hattempted.accepted

theorem Evaluated.carries {result : Json}
    (h : Evaluated binding stateEntries item pass next result) : Carries item result := by
  cases h with
  | reused entry accepted hfound heligible haccepted hreusable hentries =>
    exact hreusable.toCarries.applyPolicy.reusedResult
  | fresh value timestamp hfresh hentries => exact hfresh.toCarries

end Item

/-! ### The items of a pass -/

/-- What the entries of a state need for an item to be found again. -/
def Findable (binding : PrFollowupBinding) (entries : List Json) (item : FeedbackItem) : Prop :=
  ∃ entry accepted, entries.filter item.isAboutBy = [entry] ∧
    (entry.get? "reuse_eligible").bind Json.asBool? = some true ∧
    entry.get? "accepted_evaluation" = some accepted ∧ Reusable binding item accepted

/-- A result that is the stored evaluation of its item. -/
def IsStored (entries : List Json) (item : FeedbackItem) (result : Json) : Prop :=
  ∃ entry accepted, entries.filter item.isAboutBy = [entry] ∧
    entry.get? "accepted_evaluation" = some accepted ∧
    result = reusedResult (applyLowConfidenceAcceptedPolicy item accepted)

/-- The item has all its names. -/
structure FeedbackItem.Named (item : FeedbackItem) : Prop where
  itemId : item.itemId ≠ ""
  stableMarkerKey : item.stableMarkerKey ≠ ""
  bodyHash : item.bodyHash ≠ ""

section Items

variable {binding : PrFollowupBinding} {world : EvaluationWorld} {stateEntries entries : List Json}
  {item : FeedbackItem} {items : List FeedbackItem} {pass next : EvaluationPass} {bound : Nat}

theorem findable_congr {others : List Json}
    (h : others.filter item.isAboutBy = entries.filter item.isAboutBy) :
    Findable binding others item ↔ Findable binding entries item := by
  unfold Findable
  rw [h]

variable {result : Json}

theorem Evaluated.filter_ne {other : FeedbackItem}
    (h : Evaluated binding stateEntries item pass next result)
    (hother : other.reuseKey ≠ item.reuseKey) :
    next.entries.filter other.isAboutBy = pass.entries.filter other.isAboutBy := by
  cases h with
  | reused entry accepted hfound heligible haccepted hreusable hentries => rw [hentries]
  | fresh value timestamp hfresh hentries => rw [hentries, filter_upsertStateEntry_ne hother]

/-- **An item is found again once it has its evaluation.** -/
theorem Evaluated.findable (h : Evaluated binding stateEntries item pass next result)
    (hitem : item.Named) (hhead : item.headSha ≠ "") (howner : binding.repositoryOwner ≠ "")
    (hname : binding.repositoryName ≠ "")
    (hsame : pass.entries.filter item.isAboutBy = stateEntries.filter item.isAboutBy) :
    Findable binding next.entries item := by
  cases h with
  | reused entry accepted hfound heligible haccepted hreusable hentries =>
    refine ⟨entry, accepted, ?_, heligible, haccepted, hreusable⟩
    rw [hentries, hsame, hfound]
  | fresh value timestamp hfresh hentries =>
    refine ⟨_, _, hentries ▸ filter_upsertStateEntry_self, rfl, rfl, ?_⟩
    exact hfresh.reusable hitem.itemId hitem.stableMarkerKey hitem.bodyHash hhead howner hname

theorem Evaluated.depth (h : Evaluated binding stateEntries item pass next result)
    (hbound : 2 ≤ bound) (hstate : ∀ entry ∈ stateEntries, entry.depth ≤ bound)
    (hentries : ∀ entry ∈ pass.entries, entry.depth ≤ bound) :
    (∀ entry ∈ next.entries, entry.depth ≤ bound) ∧ result.depth ≤ bound := by
  cases h with
  | reused entry accepted hfound heligible haccepted hreusable hsame =>
    refine ⟨hsame ▸ hentries, ?_⟩
    have hmem : entry ∈ stateEntries :=
      (List.mem_filter.mp (hfound ▸ List.mem_singleton_self entry)).1
    have hentry := hstate entry hmem
    have haccepted := Json.depth_lt_of_get? haccepted
    have hpolicy : (applyLowConfidenceAcceptedPolicy item accepted).depth ≤
        max accepted.depth 1 := by
      unfold applyLowConfidenceAcceptedPolicy
      split
      case isTrue => exact Nat.le_max_left _ _
      case isFalse =>
        cases accepted with
        | obj fields =>
          refine Nat.le_trans (Nat.succ_le_succ (Json.depthEntries_insertMany
            (fun field hfield => ?_) (Nat.le_refl _))) (Nat.le_max_left _ _)
          simp only [List.mem_cons, List.not_mem_nil, or_false] at hfield
          rcases hfield with rfl | rfl | rfl | rfl | rfl | rfl <;> exact Nat.zero_le _
        | null | bool | num | str | arr => exact Nat.le_max_left _ _
    have hsource := depth_insertField "source" (.str "reused")
      (applyLowConfidenceAcceptedPolicy item accepted)
    have hreused := depth_insertField "reuse_state" (.str "reused_from_state")
      (insertField "source" (.str "reused") (applyLowConfidenceAcceptedPolicy item accepted))
    have hstr : ∀ text, (Json.str text).depth = 0 := fun _ => rfl
    rw [hstr] at hsource hreused
    show (insertField _ _ _).depth ≤ bound
    omega
  | fresh value timestamp hfresh hsame =>
    have hvalue := hfresh.flat
    refine ⟨fun entry hentry => ?_, by omega⟩
    rw [hsame] at hentry
    rcases List.mem_append.mp hentry with hold | hnew
    · exact hentries entry (List.mem_filter.mp hold).1
    · rw [List.mem_singleton.mp hnew]
      have howner := depth_insertField "repository_owner" (.str binding.repositoryOwner) result
      have hname := depth_insertField "repository_name" (.str binding.repositoryName)
        (insertField "repository_owner" (.str binding.repositoryOwner) result)
      have hnumber := depth_insertField "pr_number" (.num binding.prNumber.toNat)
        (insertField "repository_name" (.str binding.repositoryName)
          (insertField "repository_owner" (.str binding.repositoryOwner) result))
      have hstr : ∀ text, (Json.str text).depth = 0 := fun _ => rfl
      have hnum : ∀ n, (Json.num n).depth = 0 := fun _ => rfl
      rw [hstr] at howner hname
      rw [hnum] at hnumber
      have haccepted : (acceptedWithBinding binding result).depth ≤ 1 := by
        show (insertField _ _ _).depth ≤ 1
        omega
      refine Nat.le_trans ?_ hbound
      simp [stateEntry, FeedbackItem.identityFields, Json.depth, Json.depthEntries,
        haccepted]

/-- What a pass over items has come to, where none is left without an evaluation. -/
structure ItemsEvaluated (binding : PrFollowupBinding) (stateEntries : List Json)
    (items : List FeedbackItem) (before after : EvaluationPass) (results : List Json) : Prop where
  clean : before.Clean
  accepted : after.sets.acceptedResults = before.sets.acceptedResults ++ results
  carries : List.Forall₂ Carries items results
  flat : before.FlatAttempts → after.FlatAttempts
  shallow : ∀ bound, 2 ≤ bound → (∀ entry ∈ stateEntries, entry.depth ≤ bound) →
    (∀ entry ∈ before.entries, entry.depth ≤ bound) →
    (∀ entry ∈ after.entries, entry.depth ≤ bound) ∧ ∀ result ∈ results, result.depth ≤ bound
  others : ∀ other : FeedbackItem, other.reuseKey ∉ items.map FeedbackItem.reuseKey →
    after.entries.filter other.isAboutBy = before.entries.filter other.isAboutBy
  findable : (items.map FeedbackItem.reuseKey).Nodup →
    (∀ item ∈ items, item.Named ∧ item.headSha ≠ "") → binding.repositoryOwner ≠ "" →
    binding.repositoryName ≠ "" →
    (∀ item ∈ items,
      before.entries.filter item.isAboutBy = stateEntries.filter item.isAboutBy) →
    ∀ item ∈ items, Findable binding after.entries item

/-- **What becomes of the items of a pass.** -/
theorem processItems_evaluated
    (h : processItems binding world stateEntries items pass = .ok next) (hclean : next.Clean) :
    ∃ results, ItemsEvaluated binding stateEntries items pass next results := by
  induction items generalizing pass with
  | nil =>
    obtain rfl := Except.ok.inj h
    exact ⟨[],
      { clean := hclean
        accepted := (List.append_nil _).symm
        carries := .nil
        flat := id
        shallow := fun bound _ _ hentries => ⟨hentries, by simp⟩
        others := fun _ _ => rfl
        findable := fun _ _ _ _ _ => by simp }⟩
  | cons item rest ih =>
    obtain ⟨mid, hitem, hrest⟩ := bind_ok.mp h
    obtain ⟨results, hresults⟩ := ih hrest
    obtain ⟨hpass, hflat, result, hresult, haccepted⟩ :=
      processItem_evaluated hitem hresults.clean
    refine ⟨result :: results, ?_⟩
    exact
      { clean := hpass
        accepted := by rw [hresults.accepted, haccepted, List.append_assoc]; rfl
        carries := .cons hresult.carries hresults.carries
        flat := fun h => hresults.flat (hflat h)
        shallow := fun bound hbound hstate hentries => by
          obtain ⟨hmid, hdepth⟩ := hresult.depth hbound hstate hentries
          obtain ⟨hafter, hdepths⟩ := hresults.shallow bound hbound hstate hmid
          exact ⟨hafter, List.forall_mem_cons.mpr ⟨hdepth, hdepths⟩⟩
        others := fun other hother => by
          rw [List.map_cons, List.mem_cons, not_or] at hother
          rw [hresults.others other hother.2, hresult.filter_ne hother.1]
        findable := fun hkeys hnamed howner hname hsame => by
          rw [List.map_cons, List.nodup_cons] at hkeys
          obtain ⟨⟨hself, hhead⟩, hnamed⟩ := List.forall_mem_cons.mp hnamed
          obtain ⟨hsame, hothers⟩ := List.forall_mem_cons.mp hsame
          have hfound := hresult.findable hself hhead howner hname hsame
          refine List.forall_mem_cons.mpr ⟨?_, ?_⟩
          · exact (findable_congr (hresults.others item hkeys.1)).mpr hfound
          · refine hresults.findable hkeys.2 hnamed howner hname fun other hother => ?_
            have hne : other.reuseKey ≠ item.reuseKey := by
              intro heq
              exact hkeys.1 (heq ▸ List.mem_map_of_mem hother)
            rw [hresult.filter_ne hne, hothers other hother] }

/-! ### A pass that reuses -/

theorem processItem_reused (world : EvaluationWorld) (pass : EvaluationPass)
    (h : Findable binding entries item) :
    ∃ result, IsStored entries item result ∧
      processItem binding world entries item pass = .ok
        { pass with
          sets := { pass.sets with
            acceptedResults := pass.sets.acceptedResults ++ [result]
            reusedResultsCount := pass.sets.reusedResultsCount + 1 } } := by
  obtain ⟨entry, accepted, hfound, heligible, haccepted, hreusable⟩ := h
  refine ⟨_, ⟨entry, accepted, hfound, haccepted, rfl⟩, ?_⟩
  unfold processItem
  rw [reusableEvaluation_eq hfound heligible haccepted hreusable]

/-- **Where every item is found, every one is reused, and nobody is asked.** -/
theorem processItems_reused (world : EvaluationWorld) (pass : EvaluationPass)
    (h : ∀ item ∈ items, Findable binding entries item) :
    ∃ results, List.Forall₂ (IsStored entries) items results ∧
      processItems binding world entries items pass = .ok
        { pass with
          sets := { pass.sets with
            acceptedResults := pass.sets.acceptedResults ++ results
            reusedResultsCount := pass.sets.reusedResultsCount + items.length } } := by
  induction items generalizing pass with
  | nil => exact ⟨[], .nil, by simp [processItems]⟩
  | cons item rest ih =>
    obtain ⟨hitem, hrest⟩ := List.forall_mem_cons.mp h
    obtain ⟨result, hstored, hprocess⟩ := processItem_reused world pass hitem
    obtain ⟨results, hresults, hprocessed⟩ := ih { pass with
      sets := { pass.sets with
        acceptedResults := pass.sets.acceptedResults ++ [result]
        reusedResultsCount := pass.sets.reusedResultsCount + 1 } } hrest
    refine ⟨result :: results, .cons hstored hresults, ?_⟩
    unfold processItems
    rw [hprocess]
    refine hprocessed.trans ?_
    simp only [List.append_assoc, List.singleton_append, List.length_cons, Nat.add_assoc,
      Nat.add_comm 1]

/-! ### One evaluation for every item -/

theorem map_acceptedKey_of_carries {accepted : List Json}
    (h : List.Forall₂ Carries items accepted) :
    accepted.map Luther.acceptedKey = items.map FeedbackItem.acceptedKey := by
  induction h with
  | nil => rfl
  | cons hitem _ ih => rw [List.map_cons, List.map_cons, hitem.acceptedKey, ih]

/-- **No two items of an evaluation that is complete have their identity in common.** -/
theorem nodup_of_exactlyOne {accepted : List Json} (hcarries : List.Forall₂ Carries items accepted)
    (h : exactlyOneAcceptedPerItem items accepted) :
    (items.map FeedbackItem.acceptedKey).Nodup := by
  unfold exactlyOneAcceptedPerItem at h
  simp only [Bool.and_eq_true, List.all_eq_true, beq_iff_eq] at h
  refine List.nodup_iff_count_eq_one.mpr fun key hkey => ?_
  obtain ⟨item, hitem, rfl⟩ := List.mem_map.mp hkey
  rw [← map_acceptedKey_of_carries hcarries]
  exact h.1 item hitem

end Items

/-! ### The artifacts of an evaluation -/

theorem named_of_feedbackItem {value : Json} {item : FeedbackItem}
    (h : feedbackItem value = .ok item) : item.Named := by
  unfold feedbackItem at h
  simp only [bind_ok, requireString_iff, Except.ok.injEq] at h
  obtain ⟨itemId, ⟨-, hid⟩, key, ⟨-, hkey⟩, bodyHash, ⟨-, hbody⟩, head, -, body, -, rfl⟩ := h
  exact ⟨hid, hkey, hbody⟩

theorem named_of_feedbackItems {feedback : Json} {items : List FeedbackItem}
    (h : feedbackItems feedback = .ok items) : ∀ item ∈ items, item.Named := by
  intro item hitem
  unfold feedbackItems at h
  split at h
  case h_1 elements helements =>
    obtain ⟨element, -, helement⟩ := of_mem_mapM h item hitem
    exact named_of_feedbackItem helement
  case h_2 => simp at h

section Execution

variable {validate : FamilyInvariants} {pr : PrFollowupBinding}
  {run again : FeedbackEvaluationRun} {store after later : ArtifactStore} {feedback : Json}
  {items : List FeedbackItem} {pass : EvaluationPass}

theorem feedbackFamily_plain : PlainFamily feedbackFamily := by decide +kernel

theorem feedbackStateFamily_plain : PlainFamily feedbackStateFamily := by decide +kernel

theorem Ledger.readStateEntries_eq (h : Ledger validate pr store)
    (hbinding : validateSequenceBinding pr run.step.binding) {state : Json}
    (hstate : store.document run.step.binding feedbackStateFamily = some state) :
    readStateEntries validate run store =
      .ok (arrayField state "state_entries") := by
  have hread := (h.readCurrentJson_iff feedbackStateFamily_plain hbinding).mpr hstate
  unfold ArtifactStore.document at hstate
  unfold readStateEntries
  cases hfile : store.currentFile run.step.binding feedbackStateFamily with
  | none => simp [hfile] at hstate
  | some file =>
    simp only [hread]
    rfl

variable {entries : List Json}

theorem Ledger.depth_stateEntries (h : Ledger validate pr store)
    (hbinding : validateSequenceBinding pr run.step.binding)
    (hread : readStateEntries validate run store = .ok entries) :
    ∀ entry ∈ entries, entry.depth ≤ 125 := by
  intro entry hentry
  unfold readStateEntries at hread
  split at hread
  case h_1 file hfile =>
    obtain ⟨state, hstate, hread⟩ := bind_ok.mp hread
    obtain rfl := Except.ok.inj hread
    have hdocument := (h.readCurrentJson_iff feedbackStateFamily_plain hbinding).mp hstate
    obtain ⟨snapshot, hmem, -, hcontent⟩ := h.document_mem feedbackStateFamily_plain hdocument
    have hshallow := (h.snapshots snapshot hmem).shallow
    rw [hcontent] at hshallow
    have hdepth := depth_of_mem_arrayField hentry
    omega
  case h_2 =>
    obtain rfl := Except.ok.inj hread
    have hdepth := depth_of_mem_arrayField hentry
    have hshallow := run.step.shallow
    omega

theorem evaluationPass_ok
    (h : evaluationPass validate run feedback store = .ok (items, pass)) :
    ∃ collected entries, feedbackItems feedback = .ok collected ∧
      items = collected.insertionSort FeedbackItem.le ∧
      readStateEntries validate run store = .ok entries ∧
      processItems run.step.binding run.world entries items { entries := entries } = .ok pass := by
  unfold evaluationPass at h
  obtain ⟨collected, hcollected, h⟩ := bind_ok.mp h
  obtain ⟨entries, hentries, h⟩ := bind_ok.mp h
  obtain ⟨next, hprocess, h⟩ := bind_ok.mp h
  obtain ⟨rfl, rfl⟩ := Prod.mk.inj (Except.ok.inj h)
  exact ⟨collected, entries, hcollected, rfl, hentries, hprocess⟩

theorem stateRequest_wellFormed (hbinding : validateSequenceBinding pr run.step.binding)
    (hentries : ∀ entry ∈ entries, entry.depth ≤ 125) :
    WellFormed pr (evaluationRequest run feedbackStateFamily (statePayload entries) none) where
  binding := hbinding
  producer := run.step.identified
  unnamed := rfl
  successful := fun _ => rfl
  shallow := by
    refine Nat.lt_succ_of_le ?_
    simp only [evaluationRequest, statePayload, Json.depth, Json.depthEntries, Json.depthList,
      Nat.max_le, Nat.reduceLeDiff, Nat.zero_le, Json.depthList_le hentries, and_self]
  details := by simp [evaluationRequest]

theorem depth_evaluatorSourceArtifact (h : Sourced feedback) (family : String) :
    (evaluatorSourceArtifact feedback family).depth ≤ 1 := by
  have hartifact : ((feedback.get? "artifact_sequence").getD .null).depth = 0 := h.artifact
  simp [evaluatorSourceArtifact, Json.depth, Json.depthEntries, hartifact, h.write, h.producer]

theorem evaluationsRequest_wellFormed
    (hbinding : validateSequenceBinding pr run.step.binding) (hfeedback : Sourced feedback)
    (hclean : pass.Clean) (hflat : pass.FlatAttempts)
    (hresults : ∀ result ∈ pass.sets.acceptedResults, result.depth ≤ 125) (state : String)
    (count : Nat) :
    WellFormed pr (evaluationRequest run evaluationsFamily
      (feedbackEvaluationArtifact state count pass.sets
        [evaluatorSourceArtifact feedback feedbackFamily]) none) where
  binding := hbinding
  producer := run.step.identified
  unnamed := rfl
  successful := fun _ => rfl
  shallow := by
    obtain ⟨-, hbudget, hunevaluated⟩ := hclean
    have hattempts := Nat.le_trans (Json.depthList_le hflat) (by decide : 1 ≤ 125)
    have hsource := Nat.le_trans (depth_evaluatorSourceArtifact hfeedback feedbackFamily)
      (by decide : 1 ≤ 125)
    refine Nat.lt_succ_of_le ?_
    simp only [evaluationRequest, feedbackEvaluationArtifact, hbudget, hunevaluated, Json.depth,
      Json.depthEntries, Json.depthList, Nat.max_le, Nat.reduceLeDiff, Nat.zero_le,
      Json.depthList_le hresults, hattempts, hsource, and_self]
  details := by simp [evaluationRequest]

/-- **The artifacts of an evaluation that succeeds are written one after the other.** -/
theorem finalizeEvaluation_success
    (h : (finalizeEvaluation validate run feedback items pass).ends store =
      (.ok .success, after)) :
    pass.sets.complete items = true ∧ ∃ mid,
      (writeEvaluationStepArtifact validate run feedbackStateFamily
        (statePayload pass.entries) none run.publishState).ends store = (.ok (), mid) ∧
      (writeEvaluationArtifact validate run
        (feedbackEvaluationArtifact "complete" items.length pass.sets
          [evaluatorSourceArtifact feedback feedbackFamily]) none).ends mid = (.ok (), after) := by
  unfold finalizeEvaluation at h
  dsimp only at h
  by_cases hcomplete : pass.sets.complete items = true
  · rw [if_pos hcomplete, ends_bind] at h
    refine ⟨hcomplete, ?_⟩
    generalize hstate : (writeEvaluationStepArtifact validate run
      feedbackStateFamily (statePayload pass.entries) none run.publishState).ends store = written
      at h
    obtain ⟨_ | ⟨⟨⟩⟩, mid⟩ := written
    · simp at h
    · refine ⟨mid, rfl, ?_⟩
      simp only [deriveEvaluationState, hcomplete, if_true] at h
      rw [ends_bind] at h
      generalize hevaluations : (writeEvaluationArtifact validate run
        (feedbackEvaluationArtifact "complete" items.length pass.sets
          [evaluatorSourceArtifact feedback feedbackFamily]) none).ends mid = written at h ⊢
      obtain ⟨_ | ⟨⟨⟩⟩, last⟩ := written
      · simp at h
      · obtain ⟨-, rfl⟩ := Prod.mk.inj h
        rfl
  · rw [if_neg hcomplete, ends_bind] at h
    split at h
    case h_1 => exact absurd (Prod.mk.inj h).1 (by simp)
    case h_2 => exact absurd (Prod.mk.inj h).1 (by simp)

/-- **What an evaluation that succeeds has read, and what it has come to.** -/
theorem evaluateCoderabbitFeedback_success
    (h : (evaluateCoderabbitFeedback validate run).ends store =
      (.ok .success, after)) :
    ∃ feedback items pass,
      readCurrentJson validate run.step.binding feedbackFamily store =
        .ok feedback ∧
      evaluationPass validate run feedback store = .ok (items, pass) ∧
      (finalizeEvaluation validate run feedback items pass).ends store =
        (.ok .success, after) := by
  have hfatal : ∀ {payload : Json} {failure : Option ArtifactFailure},
      ((writeEvaluationArtifact validate run payload failure >>= fun _ =>
        (pure StepOutcome.fatal : Effect ArtifactStore StepOutcome)).ends store) ≠
          (.ok .success, after) := by
    intro payload failure hend
    rw [ends_bind] at hend
    split at hend
    case h_1 => exact absurd (Prod.mk.inj hend).1 (by simp)
    case h_2 => exact absurd (Prod.mk.inj hend).1 (by simp)
  unfold evaluateCoderabbitFeedback at h
  rw [ends_bind, ends_state] at h
  dsimp only at h
  cases hread : readCurrentJson validate run.step.binding feedbackFamily store with
  | error error =>
    rw [hread] at h
    exact absurd h hfatal
  | ok feedback =>
    rw [hread] at h
    dsimp only at h
    split at h
    case isTrue => exact absurd h hfatal
    case isFalse =>
      cases hpass : evaluationPass validate run feedback store with
      | error error => simp [hpass] at h
      | ok passed =>
        obtain ⟨items, pass⟩ := passed
        rw [hpass] at h
        exact ⟨feedback, items, pass, rfl, hpass, h⟩

/-- An evaluation that reuses: every result is the stored one, and nobody is asked. -/
structure ReusesAll (entries : List Json) (items : List FeedbackItem) (pass : EvaluationPass) :
    Prop where
  silent : pass.requests = []
  counted : pass.sets.reusedResultsCount = items.length
  stored : List.Forall₂ (IsStored entries) items pass.sets.acceptedResults

/-- What the items need to be told apart in the state, and to be read back. -/
structure Distinguished (items : List FeedbackItem) : Prop where
  keys : (items.map FeedbackItem.reuseKey).Nodup
  heads : ∀ item ∈ items, item.headSha ≠ ""

/-- What an evaluation that succeeds leaves behind. -/
structure EvaluationEnd (validate : FamilyInvariants) (pr : PrFollowupBinding)
    (run : FeedbackEvaluationRun) (items : List FeedbackItem) (pass : EvaluationPass)
    (after : ArtifactStore) : Prop where
  ledger : Ledger validate pr after
  state : ∃ state, after.document run.step.binding feedbackStateFamily = some state ∧
    arrayField state "state_entries" = pass.entries
  evaluations : ∃ evaluations,
    after.document run.step.binding evaluationsFamily = some evaluations ∧
      arrayField evaluations "accepted_results" = pass.sets.acceptedResults

theorem clean_of_complete (h : pass.sets.complete items) :
    pass.Clean ∧ exactlyOneAcceptedPerItem items pass.sets.acceptedResults = true := by
  simp only [EvaluationOutcomeSets.complete, Bool.and_eq_true, List.isEmpty_iff] at h
  obtain ⟨⟨⟨hfatal, hbudget⟩, hunevaluated⟩, hexactly⟩ := h
  exact ⟨⟨hfatal, hbudget, hunevaluated⟩, hexactly⟩

theorem Ledger.writeEvaluationStepArtifact_ok (h : Ledger validate pr store)
    {family : String} {payload : Json} {failure : Option ArtifactFailure}
    {publication : Publication}
    (hrequest : WellFormed pr (evaluationRequest run family payload failure))
    (hwritten : (writeEvaluationStepArtifact validate run family payload failure
      publication).ends store = (.ok (), after)) :
    Ledger validate pr after ∧
      (∃ value, after.document run.step.binding family = some value ∧
        ∀ field ∉ storeFieldNames, value.get? field = payload.get? field) ∧
      ∀ other, PlainFamily other → family ≠ other → ∀ binding,
        after.document binding other = store.document binding other := by
  unfold writeEvaluationStepArtifact at hwritten
  rw [ends_of] at hwritten
  dsimp only at hwritten
  obtain ⟨hledger, hdocuments⟩ := h.write_document run.order hrequest publication
  obtain ⟨hanswer, rfl⟩ := Prod.mk.inj hwritten
  refine ⟨hledger, ?_⟩
  rcases hdocuments with ⟨herror, -⟩ | ⟨record, value, -, hvalue, hfound, hothers⟩
  · cases hresult : (writeJsonArtifactLocked validate run.order
      (evaluationRequest run family payload failure) publication store).1 with
    | ok record => simp [hresult, Except.isOk, Except.toBool] at herror
    | error error => simp [hresult, Except.map] at hanswer
  · exact ⟨⟨value, hfound, fun field hfield => get?_payload hvalue hfield⟩,
      fun other hplain hne binding => hothers binding other hplain hne⟩

theorem arrayField_congr {value other : Json} {field : String}
    (h : value.get? field = other.get? field) : arrayField value field = arrayField other field := by
  unfold arrayField
  rw [h]

/-- **The two artifacts of an evaluation that succeeds.** -/
theorem Ledger.finalizeEvaluation_end (h : Ledger validate pr store)
    (hbinding : validateSequenceBinding pr run.step.binding)
    (hfeedback : store.document run.step.binding feedbackFamily = some feedback)
    (hpass : evaluationPass validate run feedback store = .ok (items, pass))
    (hend : (finalizeEvaluation validate run feedback items pass).ends store =
      (.ok .success, after)) :
    EvaluationEnd validate pr run items pass after := by
  obtain ⟨hcomplete, mid, hstate, hevaluations⟩ := finalizeEvaluation_success hend
  obtain ⟨hclean, -⟩ := clean_of_complete hcomplete
  obtain ⟨collected, entries, -, -, hentries, hprocess⟩ := evaluationPass_ok hpass
  obtain ⟨results, hresults⟩ := processItems_evaluated hprocess hclean
  have hdepth := h.depth_stateEntries hbinding hentries
  obtain ⟨hpassDepth, hresultDepth⟩ := hresults.shallow 125 (by decide) hdepth hdepth
  have hsourced : Sourced feedback := by
    obtain ⟨snapshot, hmem, -, rfl⟩ := h.document_mem feedbackFamily_plain hfeedback
    exact (h.snapshots snapshot hmem).sourced
  have haccepted : ∀ result ∈ pass.sets.acceptedResults, result.depth ≤ 125 := by
    rw [hresults.accepted]
    simpa using hresultDepth
  have hflat : pass.FlatAttempts := hresults.flat (by simp [EvaluationPass.FlatAttempts])
  obtain ⟨hmid, ⟨state, hstateFound, hstateFields⟩, -⟩ :=
    h.writeEvaluationStepArtifact_ok (stateRequest_wellFormed hbinding hpassDepth) hstate
  obtain ⟨hafter, ⟨evaluations, hfound, hfields⟩, hothers⟩ :=
    hmid.writeEvaluationStepArtifact_ok
      (evaluationsRequest_wellFormed hbinding hsourced hclean hflat haccepted _ _) hevaluations
  refine ⟨hafter, ⟨state, ?_, ?_⟩, evaluations, hfound, ?_⟩
  · rw [hothers _ feedbackStateFamily_plain (by decide), hstateFound]
  · rw [arrayField_congr (hstateFields "state_entries" (by decide))]
    rfl
  · rw [arrayField_congr (hfields "accepted_results" (by decide))]
    rfl

/-- **A later evaluation of the same items reuses every stored result, and asks nobody.** -/
theorem Ledger.reusesAll (h : Ledger validate pr later)
    (hbinding : validateSequenceBinding pr again.step.binding)
    {state : Json}
    (hstate : later.document again.step.binding feedbackStateFamily = some state)
    (hentries : arrayField state "state_entries" = entries)
    (hfindable : ∀ item ∈ items, Findable again.step.binding entries item)
    {collected : List FeedbackItem} (hcollected : feedbackItems feedback = .ok collected)
    (hsame : collected.Perm items) :
    ∃ items' pass', evaluationPass validate again feedback later = .ok (items', pass') ∧
      ReusesAll entries items' pass' := by
  have hread := h.readStateEntries_eq hbinding hstate
  rw [hentries] at hread
  have hsorted : (collected.insertionSort FeedbackItem.le).Perm items :=
    (List.perm_insertionSort FeedbackItem.le collected).trans hsame
  obtain ⟨results, hstored, hprocess⟩ := processItems_reused again.world { entries := entries }
    fun item hitem => hfindable item (hsorted.mem_iff.mp hitem)
  have hpass : evaluationPass validate again feedback later =
      .ok (collected.insertionSort FeedbackItem.le,
        { entries := entries
          sets := { acceptedResults := [] ++ results
                    reusedResultsCount := 0 + (collected.insertionSort FeedbackItem.le).length } })
      := by
    unfold evaluationPass
    rw [hcollected, hread]
    show (processItems _ _ _ _ _ >>= _) = _
    rw [hprocess]
    rfl
  exact ⟨_, _, hpass, rfl, Nat.zero_add _, by simpa using hstored⟩

end Execution

end Luther
