/-
What a success of the validation says of the plan.

The validation goes through the items of a plan by their keys.  An item without a type or an id
has no key, and of two items with one key the earlier is dropped.  So a success says that every
item is satisfied by an answer of its own exactly where every item has a key, and no two have
the same.
-/
import Luther.Proofs.VerifiedPush

namespace Luther

/-- Just one entry of a list has the property. -/
def ExactlyOne {Entry : Type} (p : Entry → Prop) (entries : List Entry) : Prop :=
  ∃ before entry after, entries = before ++ entry :: after ∧ p entry
    ∧ ∀ other ∈ before ++ after, ¬ p other

theorem exactlyOne_of_countP {Entry : Type} {p : Entry → Prop} {test : Entry → Bool}
    {entries : List Entry} (hcount : entries.countP test = 1)
    (htest : ∀ entry, p entry → test entry = true) {entry : Entry} (hmem : entry ∈ entries)
    (hp : p entry) : ExactlyOne p entries := by
  obtain ⟨before, after, rfl⟩ := List.append_of_mem hmem
  refine ⟨before, entry, after, rfl, hp, ?_⟩
  intro other hother hpother
  rw [List.countP_append, List.countP_cons_of_pos (htest entry hp)] at hcount
  have hnone : (before ++ after).countP test = 0 := by
    rw [List.countP_append]
    omega
  exact List.countP_eq_zero.mp hnone other hother (htest other hpother)

theorem eq_of_countP_one {Entry : Type} {test : Entry → Bool} {entries : List Entry}
    (hcount : entries.countP test = 1) {left right : Entry} (hleft : left ∈ entries)
    (hleftTest : test left) (hright : right ∈ entries) (hrightTest : test right) :
    left = right := by
  obtain ⟨before, entry, after, rfl, -, hothers⟩ : ExactlyOne (test · = true) entries :=
    exactlyOne_of_countP hcount (fun _ h => h) hleft hleftTest
  have hsame : ∀ other ∈ before ++ entry :: after, test other = true → other = entry := by
    intro other hother htest
    by_contra hne
    refine hothers other ?_ htest
    simpa [hne] using hother
  exact (hsame left hleft hleftTest).trans (hsame right hright hrightTest).symm

/-- **Every item of the plan is satisfied, by an answer of its own.** -/
structure ResultSound (binding : PrFollowupBinding) (plan result : Json) : Prop where
  answered : ∀ planItem ∈ arrayField plan "must_fix",
    ExactlyOne (Satisfies binding (stringField result "output_head_sha" "") planItem)
      (arrayField result "results")
  known : ∀ item ∈ arrayField result "results", ∃ planItem ∈ arrayField plan "must_fix",
    Satisfies binding (stringField result "output_head_sha" "") planItem item
  separate : (arrayField plan "must_fix").Pairwise fun left right =>
    ∀ item ∈ arrayField result "results",
      ¬ (Satisfies binding (stringField result "output_head_sha" "") left item
        ∧ Satisfies binding (stringField result "output_head_sha" "") right item)

/-- Every item of the plan has a type and an id, and a key of its own. -/
def KeysDistinct (plan : Json) : Prop :=
  (∀ item ∈ arrayField plan "must_fix", isNamed item = true)
    ∧ ((arrayField plan "must_fix").map itemKey).Nodup

section Soundness

variable {binding : PrFollowupBinding} {plan result : Json} {scope : RemediationRetryScope}
  {outputHeadSha : String} {planItem item : Json}

theorem Satisfies.sameItem (h : Satisfies binding outputHeadSha planItem item) :
    sameItem item planItem :=
  ⟨stringField_congr h.sourceType, stringField_congr h.sourceId⟩

theorem KeysDistinct.lookup (h : KeysDistinct plan)
    (hmem : planItem ∈ arrayField plan "must_fix") :
    (planItemsByKey plan).lookup (itemKey planItem) = some planItem := by
  have hfound : ((planItemsByKey plan).lookup (itemKey planItem)).isSome = true :=
    Assoc.isSome_lookup_index
      (Or.inl ⟨planItem, List.mem_filter.mpr ⟨hmem, h.1 planItem hmem⟩, rfl⟩)
  obtain ⟨found, hlookup⟩ := Option.isSome_iff_exists.mp hfound
  obtain ⟨hfoundMem, -, hkey⟩ := planItemsByKey_lookup hlookup
  rw [hlookup, List.inj_on_of_nodup_map h.2 hfoundMem hmem hkey]

/-- **An accepted result is sound where the keys of the plan are distinct.** -/
theorem Accepted.sound (h : Accepted binding plan result scope) (hkeys : KeysDistinct plan) :
    ResultSound binding plan result where
  answered := by
    intro planItem hmem
    have hcount := h.counted hmem (hkeys.1 planItem hmem)
    obtain ⟨item, hitem, hkey⟩ := h.covered hmem (hkeys.1 planItem hmem)
    obtain ⟨found, hlookup, hsatisfies⟩ := h.satisfies hitem
    rw [hkey, hkeys.lookup hmem, Option.some.injEq] at hlookup
    subst hlookup
    refine exactlyOne_of_countP hcount ?_ hitem hsatisfies
    intro other hother
    exact beq_iff_eq.mpr (itemKey_congr hother.sameItem)
  known := by
    intro item hitem
    obtain ⟨found, hlookup, hsatisfies⟩ := h.satisfies hitem
    exact ⟨found, (planItemsByKey_lookup hlookup).1, hsatisfies⟩
  separate := by
    refine (List.pairwise_map.mp hkeys.2).imp ?_
    intro left right hne item _ hboth
    exact hne ((itemKey_congr hboth.1.sameItem).symm.trans (itemKey_congr hboth.2.sameItem))

theorem Accepted.keysDistinct (h : Accepted binding plan result scope)
    (hsound : ResultSound binding plan result) : KeysDistinct plan := by
  -- An answer is found for each item, and the key of the answer belongs to an item with a name.
  have hanswer : ∀ planItem ∈ arrayField plan "must_fix",
      ∃ item ∈ arrayField result "results",
        Satisfies binding (stringField result "output_head_sha" "") planItem item := by
    intro planItem hmem
    obtain ⟨before, item, after, heq, hsatisfies, -⟩ := hsound.answered planItem hmem
    exact ⟨item, by simp [heq], hsatisfies⟩
  have hnamed : ∀ planItem ∈ arrayField plan "must_fix", isNamed planItem = true := by
    intro planItem hmem
    obtain ⟨item, hitem, hsatisfies⟩ := hanswer planItem hmem
    obtain ⟨found, hlookup, hfound⟩ := h.satisfies hitem
    rw [← isNamed_congr hsatisfies.sameItem, isNamed_congr hfound.sameItem]
    exact (planItemsByKey_lookup hlookup).2.1
  refine ⟨hnamed, List.pairwise_map.mpr ?_⟩
  refine List.Pairwise.imp_of_mem ?_ hsound.separate
  intro left right hleft hright hseparate hkeys
  obtain ⟨item, hitem, hsatisfies⟩ := hanswer left hleft
  obtain ⟨item', hitem', hsatisfies'⟩ := hanswer right hright
  -- One answer has the key, so it is the answer of both.
  have hkey : itemKey item = itemKey left := itemKey_congr hsatisfies.sameItem
  have hkey' : itemKey item' = itemKey left := (itemKey_congr hsatisfies'.sameItem).trans hkeys.symm
  have hsame : item = item' := eq_of_countP_one (h.counted hleft (hnamed left hleft)) hitem
    (beq_iff_eq.mpr hkey) hitem' (beq_iff_eq.mpr hkey')
  rw [← hsame] at hsatisfies'
  exact hseparate item hitem ⟨hsatisfies, hsatisfies'⟩

/-- **A success of the validation is sound exactly where the keys of the plan are distinct.** -/
theorem remediation_success_sound_iff {enginePresent advance : Bool}
    {validation : RemediationResultValidation}
    (h : evaluateRemediationResult binding plan result scope enginePresent advance =
      .ok validation) (hsuccess : validation.outcome = .success) :
    ResultSound binding plan result ↔ KeysDistinct plan :=
  ⟨(accepted_of_success h hsuccess).keysDistinct, (accepted_of_success h hsuccess).sound⟩

end Soundness

def failedChecksPlan (failures : List String) : Json :=
  .obj
    [("artifact_sequence", .num 5),
     ("must_fix", .arr (failures.map fun failureId =>
      ciMustFixItem shortBinding .null 0 (.obj [("failure_id", .str failureId)])))]

def namedVerdict (failures answered : List String) : Except String RemediationResultValidation :=
  evaluateRemediationResult shortBinding (failedChecksPlan failures) (namedResult answered)
    exampleResultScope true true

/-- Two checks have failed, and each is answered. -/
theorem remediation_success_sound_check :
    ResultSound shortBinding (failedChecksPlan ["build", "lint"])
      (namedResult ["build", "lint"]) := by
  have hsuccess : (namedVerdict ["build", "lint"] ["build", "lint"]).map (·.outcome) = .ok .success
      ∧ (arrayField (failedChecksPlan ["build", "lint"]) "must_fix").all isNamed = true
      ∧ ((arrayField (failedChecksPlan ["build", "lint"]) "must_fix").map itemKey).Nodup := by
    decide +kernel
  obtain ⟨hverdict, hnamed, hnodup⟩ := hsuccess
  cases h : namedVerdict ["build", "lint"] ["build", "lint"] with
  | error e =>
    rw [h] at hverdict
    cases hverdict
  | ok validation =>
    rw [h] at hverdict
    exact (remediation_success_sound_iff h (Except.ok.inj hverdict)).mpr
      ⟨List.all_eq_true.mp hnamed, hnodup⟩

/-- **Two failures with one id are satisfied by one answer.** -/
theorem remediation_success_unsound :
    (namedVerdict ["build", "build"] ["build"]).map (·.outcome) = .ok .success
      ∧ ¬ ResultSound shortBinding (failedChecksPlan ["build", "build"])
        (namedResult ["build"]) := by
  have hfacts : (namedVerdict ["build", "build"] ["build"]).map (·.outcome) = .ok .success
      ∧ ¬ ((arrayField (failedChecksPlan ["build", "build"]) "must_fix").map itemKey).Nodup := by
    decide +kernel
  obtain ⟨hverdict, hrepeated⟩ := hfacts
  refine ⟨hverdict, fun hsound => hrepeated ?_⟩
  cases h : namedVerdict ["build", "build"] ["build"] with
  | error e =>
    rw [h] at hverdict
    cases hverdict
  | ok validation =>
    rw [h] at hverdict
    exact ((accepted_of_success h (Except.ok.inj hverdict)).keysDistinct hsound).2

end Luther
