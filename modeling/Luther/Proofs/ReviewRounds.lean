/-
The rounds of review stay within their caps, and which heads are replayed.

`ReviewBounded` is what every call keeps: the counts are within the caps, so that they are the
numbers of reviews and not remainders of them, each delta starts where the review before it
ended, and nothing but a final follows a final.

A head that was reviewed is not always known again.  The gate asks first whether the head is
the last that was reviewed, then whether a round is left, and only then looks among the deltas,
and never at the initial review.
-/
import Luther.Scope.Review
import Mathlib.Data.List.Chain

namespace Luther

/-- What holds of the history of a run after any calls. -/
structure ReviewBounded (caps : CanonicalReviewCaps) (history : ReviewHistory) : Prop where
  initial : (history.ofKind .initialFull).length ≤ 1
  deltas : (history.ofKind .delta).length ≤ caps.maxDeltaReviews.toNat
  rounds : history.mutatingRemediationRounds ≤ caps.maxMutatingRemediationRounds
  finals : (history.ofKind .finalAcceptance).length ≤ caps.finalAcceptanceReviews.toNat
  counter : history.mutatingRemediationRounds.toNat = (history.ofKind .delta).length
  /-- A delta is not the first review, and starts where the one before it ended. -/
  notFirst : ∀ review ∈ history.reviews.head?, review.reviewKind ≠ .delta
  chained : history.reviews.IsChain fun earlier later =>
    later.reviewKind = .delta → later.fromSha = earlier.toSha
  closed : history.reviews.Pairwise fun earlier later =>
    earlier.reviewKind = .finalAcceptance → later.reviewKind = .finalAcceptance

/-! ### Counting -/

theorem ofKind_append (kind : ReviewKind) (history : ReviewHistory) (reviews : List ReviewScope)
    (review : ReviewScope) (h : history.reviews = reviews ++ [review]) :
    history.ofKind kind = (reviews.filter (·.reviewKind == kind)) ++
      if review.reviewKind = kind then [review] else [] := by
  unfold ReviewHistory.ofKind
  rw [h, List.filter_append]
  by_cases hkind : review.reviewKind = kind
  · simp [hkind]
  · simp [hkind]

section Counts

variable {caps : CanonicalReviewCaps} {history : ReviewHistory}

section

variable (h : ReviewBounded caps history)

include h

section

variable (kind : ReviewKind)

theorem ReviewBounded.length_lt : (history.ofKind kind).length < 2 ^ 32 := by
  cases kind with
  | initialFull =>
    have hinitial := h.initial
    omega
  | delta => exact Nat.lt_of_le_of_lt h.deltas caps.maxDeltaReviews.toNat_lt
  | finalAcceptance => exact Nat.lt_of_le_of_lt h.finals caps.finalAcceptanceReviews.toNat_lt

theorem ReviewBounded.toNat_countByKind :
    (countByKind history kind).toNat = (history.ofKind kind).length :=
  UInt32.toNat_ofNat_of_lt' (h.length_lt kind)

theorem ReviewBounded.countByKind_pos :
    0 < countByKind history kind ↔ history.ofKind kind ≠ [] := by
  rw [UInt32.lt_iff_toNat_lt, h.toNat_countByKind kind, ← List.length_pos_iff]
  rfl

theorem ReviewBounded.countByKind_eq_zero :
    countByKind history kind = 0 ↔ history.ofKind kind = [] := by
  rw [← UInt32.toNat_inj, h.toNat_countByKind kind, ← List.length_eq_zero_iff]
  rfl

end

end

end Counts

theorem reviewBounded_empty (caps : CanonicalReviewCaps) (runId : String) :
    ReviewBounded caps { runId := runId } where
  initial := Nat.zero_le _
  deltas := Nat.zero_le _
  rounds := UInt32.le_iff_toNat_le.mpr (Nat.zero_le _)
  finals := Nat.zero_le _
  counter := rfl
  notFirst := by simp
  chained := List.IsChain.nil
  closed := List.Pairwise.nil

/-! ### One more review -/

section Push

variable {caps : CanonicalReviewCaps} {history next : ReviewHistory} {review : ReviewScope}

/-- **A review that is within its cap, starts where the last ended where it is a delta, and does
not come after a final, may be added.** -/
theorem ReviewBounded.push (h : ReviewBounded caps history)
    (hreviews : next.reviews = history.reviews ++ [review])
    (hinitial : review.reviewKind = .initialFull → history.ofKind .initialFull = [])
    (hdelta : review.reviewKind = .delta →
      (history.ofKind .delta).length < caps.maxDeltaReviews.toNat ∧
        history.mutatingRemediationRounds < caps.maxMutatingRemediationRounds ∧
        next.mutatingRemediationRounds = history.mutatingRemediationRounds + 1 ∧
        history.reviews.getLast?.map (·.toSha) = some review.fromSha)
    (hother : review.reviewKind ≠ .delta →
      next.mutatingRemediationRounds = history.mutatingRemediationRounds)
    (hfinal : review.reviewKind = .finalAcceptance →
      (history.ofKind .finalAcceptance).length < caps.finalAcceptanceReviews.toNat)
    (hclosed : review.reviewKind ≠ .finalAcceptance → history.ofKind .finalAcceptance = []) :
    ReviewBounded caps next := by
  have hcount : ∀ kind, (next.ofKind kind).length = (history.ofKind kind).length +
      if review.reviewKind = kind then 1 else 0 := by
    intro kind
    rw [ofKind_append kind next history.reviews review hreviews, List.length_append]
    by_cases hkind : review.reviewKind = kind
    · simp [hkind, ReviewHistory.ofKind]
    · simp [hkind, ReviewHistory.ofKind]
  have hround : review.reviewKind = .delta → next.mutatingRemediationRounds.toNat =
      history.mutatingRemediationRounds.toNat + 1 := by
    intro hkind
    obtain ⟨-, hlt, hnext, -⟩ := hdelta hkind
    have hlt' := UInt32.lt_iff_toNat_lt.mp hlt
    have hmax := caps.maxMutatingRemediationRounds.toNat_lt
    rw [hnext, UInt32.toNat_add]
    exact Nat.mod_eq_of_lt (by simp; omega)
  constructor
  case initial =>
    rw [hcount]
    by_cases hkind : review.reviewKind = .initialFull
    · simp [hkind, hinitial hkind]
    · simpa [hkind] using h.initial
  case deltas =>
    rw [hcount]
    by_cases hkind : review.reviewKind = .delta
    · have hlt := (hdelta hkind).1
      simp only [hkind, if_true]
      omega
    · simpa [hkind] using h.deltas
  case rounds =>
    by_cases hkind : review.reviewKind = .delta
    · have hlt := UInt32.lt_iff_toNat_lt.mp (hdelta hkind).2.1
      rw [UInt32.le_iff_toNat_le, hround hkind]
      omega
    · rw [hother hkind]
      exact h.rounds
  case finals =>
    rw [hcount]
    by_cases hkind : review.reviewKind = .finalAcceptance
    · have hlt := hfinal hkind
      simp only [hkind, if_true]
      omega
    · simpa [hkind] using h.finals
  case counter =>
    rw [hcount]
    by_cases hkind : review.reviewKind = .delta
    · rw [hround hkind, h.counter]
      simp [hkind]
    · rw [hother hkind, h.counter]
      simp [hkind]
  case notFirst =>
    intro first hfirst hkind
    rw [hreviews] at hfirst
    cases hempty : history.reviews with
    | nil =>
      rw [hempty] at hfirst
      obtain rfl : review = first := by simpa using hfirst
      have hlast := (hdelta hkind).2.2.2
      simp [hempty] at hlast
    | cons head rest =>
      rw [hempty] at hfirst
      obtain rfl : head = first := by simpa using hfirst
      exact h.notFirst head (by simp [hempty]) hkind
  case chained =>
    rw [hreviews]
    refine h.chained.append (List.IsChain.singleton _) ?_
    intro last hlast other hreview hkind
    obtain rfl : review = other := by simpa using hreview
    have hsha := (hdelta hkind).2.2.2
    rw [Option.mem_def.mp hlast] at hsha
    exact (Option.some.inj hsha).symm
  case closed =>
    rw [hreviews, List.pairwise_append]
    refine ⟨h.closed, List.pairwise_singleton _ _, ?_⟩
    intro earlier hearlier later hlater hkind
    obtain rfl := List.mem_singleton.mp hlater
    refine Classical.byContradiction fun hnot => ?_
    have hnone := hclosed hnot
    have hmem : earlier ∈ history.ofKind .finalAcceptance :=
      List.mem_filter.mpr ⟨hearlier, by simp [hkind]⟩
    rw [hnone] at hmem
    simp at hmem

end Push

/-! ### Which head was reviewed last -/

theorem ofKind_eq_nil {history : ReviewHistory} {kind : ReviewKind} :
    history.ofKind kind = [] ↔ ∀ review ∈ history.reviews, review.reviewKind ≠ kind := by
  unfold ReviewHistory.ofKind
  rw [List.filter_eq_nil_iff]
  simp

theorem lastReviewedHead_eq {history : ReviewHistory}
    (h : history.ofKind .finalAcceptance = []) :
    lastReviewedHead history = history.reviews.getLast?.map (·.toSha) := by
  have hkinds := ofKind_eq_nil.mp h
  unfold lastReviewedHead
  rw [List.getLast?_eq_head?_reverse]
  cases hreverse : history.reviews.reverse with
  | nil => rfl
  | cons last before =>
    have hmem : last ∈ history.reviews := by
      rw [← List.mem_reverse, hreverse]
      simp
    have hkind := hkinds last hmem
    cases hlast : last.reviewKind with
    | initialFull => simp [hlast]
    | delta => simp [hlast]
    | finalAcceptance => exact absurd hlast hkind

theorem checkInitial_eq_allowed {history : ReviewHistory}
    (h : history.ofKind .initialFull = []) (headSha : String) :
    checkInitial history headSha = .allowed := by
  have hnone : history.reviews.find? (·.reviewKind == .initialFull) = none := by
    rw [List.find?_eq_none]
    intro review hreview
    simpa using ofKind_eq_nil.mp h review hreview
  unfold checkInitial
  rw [hnone]

/-! ### One call -/

section Step

variable {runId : String} {caps : CanonicalReviewCaps} {artifacts : ReviewArtifacts}

@[simp] theorem readReviewHistory_writeReviewHistory (history : ReviewHistory) :
    readReviewHistory runId (writeReviewHistory history artifacts) = history := rfl

theorem checkDelta_eq_allowed {history : ReviewHistory} (h : ReviewBounded caps history)
    {headSha : String} (hallowed : checkDelta history headSha caps = .allowed) :
    history.ofKind .finalAcceptance = [] ∧
      (history.ofKind .delta).length < caps.maxDeltaReviews.toNat := by
  unfold checkDelta at hallowed
  split at hallowed
  · simp at hallowed
  · split at hallowed
    · simp at hallowed
    · rename_i hfinal
      split at hallowed
      · simp at hallowed
      · dsimp only at hallowed
        split at hallowed
        · simp at hallowed
        · rename_i hcap
          refine ⟨?_, ?_⟩
          · rw [h.countByKind_pos] at hfinal
            exact Classical.not_not.mp hfinal
          · have hlt := UInt32.lt_iff_toNat_lt.mp (UInt32.not_le.mp hcap)
            rwa [h.toNat_countByKind] at hlt

theorem handleDeltaExhaustion_history (history : ReviewHistory)
    (request : PreLaunchReviewRequest) (outcome : ReviewCheckOutcome) :
    readReviewHistory runId (handleDeltaExhaustion history request outcome artifacts).2 =
      readReviewHistory runId artifacts := by
  unfold handleDeltaExhaustion
  split <;> rfl

section

variable (h : ReviewBounded caps (readReviewHistory runId artifacts))

include h

/-- **The gate keeps the rounds within their caps.** -/
theorem ReviewBounded.gate {request : PreLaunchReviewRequest} (hrun : request.runId = runId)
    (hcaps : request.caps = caps) :
    ReviewBounded caps (readReviewHistory runId (preLaunchReviewGate request artifacts).2) := by
  subst hrun hcaps
  unfold preLaunchReviewGate
  dsimp only
  split
  · exact h
  · rename_i hfinal
    have hopen : (readReviewHistory request.runId artifacts).ofKind .finalAcceptance = [] := by
      rw [h.countByKind_pos] at hfinal
      exact Classical.not_not.mp hfinal
    split
    · rename_i hinitial
      unfold evaluateDelta
      dsimp only
      split
      · exact h
      · split
        · exact h
        · rename_i hrounds
          split
          · rename_i hallowed
            obtain ⟨-, hdeltas⟩ := checkDelta_eq_allowed h hallowed
            rw [readReviewHistory_writeReviewHistory]
            refine h.push rfl (by simp [buildReviewScope]) ?_ (by simp [buildReviewScope])
              (by simp [buildReviewScope]) (fun _ => hopen)
            intro _
            refine ⟨hdeltas, UInt32.not_le.mp hrounds, rfl, ?_⟩
            -- There is an initial review, so there is a last one.
            have hsome : lastReviewedHead (readReviewHistory request.runId artifacts) ≠ none := by
              rw [lastReviewedHead_eq hopen]
              intro hnone
              have hempty : (readReviewHistory request.runId artifacts).reviews = [] := by
                simpa using hnone
              rw [h.countByKind_pos] at hinitial
              exact hinitial (by simp [ReviewHistory.ofKind, hempty])
            obtain ⟨sha, hsha⟩ := Option.ne_none_iff_exists'.mp hsome
            rw [← lastReviewedHead_eq hopen, hsha]
            rfl
          · exact h
          · rw [handleDeltaExhaustion_history]
            exact h
    · rename_i hinitial
      have hnone : (readReviewHistory request.runId artifacts).ofKind .initialFull = [] := by
        rw [h.countByKind_pos] at hinitial
        exact Classical.not_not.mp hinitial
      rw [checkInitial_eq_allowed hnone]
      exact h.push rfl (fun _ => hnone) (by simp [buildReviewScope]) (fun _ => rfl)
        (by simp [buildReviewScope]) (fun _ => hopen)

/-- **The final acceptance keeps the rounds within their caps.** -/
theorem ReviewBounded.recordFinal (headSha mergeBase charterDigest : String) :
    ReviewBounded caps (readReviewHistory runId
      (recordFinalAcceptance runId headSha mergeBase charterDigest caps artifacts).2) := by
  unfold recordFinalAcceptance recordReview
  dsimp only
  split
  · rename_i hallowed
    rw [readReviewHistory_writeReviewHistory]
    refine h.push rfl (by simp) (by simp) (fun _ => rfl) (fun _ => ?_) (by simp)
    unfold checkFinal at hallowed
    split at hallowed
    · simp at hallowed
    · dsimp only at hallowed
      split at hallowed
      · simp at hallowed
      · rename_i hcap
        have hlt := UInt32.lt_iff_toNat_lt.mp (UInt32.not_le.mp hcap)
        rwa [h.toNat_countByKind] at hlt
  · exact h

end

end Step

/-! ### Runs -/

/-- Whether a review that is recorded covers a head. -/
def ReviewHistory.Covers (headSha : String) (history : ReviewHistory) : Prop :=
  ∃ review ∈ history.reviews, review.reviewKind ≠ .finalAcceptance ∧ review.toSha = headSha

/-- **Which heads are replayed**: the last that was reviewed, and, while a round is left, those of
the deltas. -/
theorem gate_replays_iff {runId : String} {caps : CanonicalReviewCaps}
    {artifacts : ReviewArtifacts} (h : ReviewBounded caps (readReviewHistory runId artifacts))
    {request : PreLaunchReviewRequest} (hrun : request.runId = runId)
    (hcaps : request.caps = caps)
    (hcovered : (readReviewHistory runId artifacts).Covers request.headSha)
    (hopen : (readReviewHistory runId artifacts).ofKind .finalAcceptance = []) :
    ((preLaunchReviewGate request artifacts).1 = .sameHeadReplay ∧
        readReviewHistory runId (preLaunchReviewGate request artifacts).2 =
          readReviewHistory runId artifacts) ↔
      (readReviewHistory runId artifacts).reviews.getLast?.map (·.toSha) = some request.headSha ∨
        ((readReviewHistory runId artifacts).mutatingRemediationRounds <
            caps.maxMutatingRemediationRounds ∧
          ∃ review ∈ (readReviewHistory runId artifacts).reviews,
            review.reviewKind = .delta ∧ review.toSha = request.headSha) := by
  subst hrun hcaps
  generalize hhistory : readReviewHistory request.runId artifacts = history at *
  have hinitial : history.ofKind .initialFull ≠ [] := by
    obtain ⟨covering, hmem, -⟩ := hcovered
    cases hreviews : history.reviews with
    | nil => simp [hreviews] at hmem
    | cons first rest =>
      have hnotDelta := h.notFirst first (by simp [hreviews])
      have hnotFinal := ofKind_eq_nil.mp hopen first (by simp [hreviews])
      intro hnone
      have hnotInitial := ofKind_eq_nil.mp hnone first (by simp [hreviews])
      cases hkind : first.reviewKind
      · exact hnotInitial hkind
      · exact hnotDelta hkind
      · exact hnotFinal hkind
  have hfinalCount : ¬ 0 < countByKind history .finalAcceptance := by
    rw [h.countByKind_pos]
    exact not_not_intro hopen
  have hinitialCount : 0 < countByKind history .initialFull := (h.countByKind_pos _).mpr hinitial
  have hinitialZero : countByKind history .initialFull ≠ 0 := by
    rw [ne_eq, h.countByKind_eq_zero]
    exact hinitial
  unfold preLaunchReviewGate
  dsimp only
  rw [hhistory, if_neg hfinalCount, if_pos hinitialCount]
  unfold evaluateDelta
  dsimp only
  rw [lastReviewedHead_eq hopen]
  by_cases hlast : history.reviews.getLast?.map (·.toSha) = some request.headSha
  · rw [if_pos hlast]
    simp [hlast, hhistory]
  · rw [if_neg hlast]
    by_cases hround : request.caps.maxMutatingRemediationRounds ≤
        history.mutatingRemediationRounds
    · rw [if_pos hround]
      simp [hlast, UInt32.not_lt.mpr hround]
    · rw [if_neg hround]
      have hleft := UInt32.not_le.mp hround
      by_cases hdelta : ∃ review ∈ history.reviews,
          review.reviewKind = .delta ∧ review.toSha = request.headSha
      · have hany : (history.reviews.any fun r =>
            r.reviewKind == .delta && r.toSha == request.headSha) = true := by
          obtain ⟨review, hmem, hkind, hsha⟩ := hdelta
          exact List.any_eq_true.mpr ⟨review, hmem, by simp [hkind, hsha]⟩
        have hreplay : checkDelta history request.headSha request.caps = .sameHeadReplay := by
          unfold checkDelta
          rw [if_neg hinitialZero, if_neg hfinalCount, if_pos hany]
        rw [hreplay]
        simp [hleft, hdelta, hhistory]
      · have hany : ¬ (history.reviews.any fun r =>
            r.reviewKind == .delta && r.toSha == request.headSha) = true := by
          intro hfound
          obtain ⟨review, hmem, hmatch⟩ := List.any_eq_true.mp hfound
          simp only [Bool.and_eq_true, beq_iff_eq] at hmatch
          exact hdelta ⟨review, hmem, hmatch⟩
        have hnot : ∀ answer : ReviewCheckOutcome × ReviewArtifacts, answer.1 ≠ .sameHeadReplay →
            ((answer.1 = .sameHeadReplay ∧
              readReviewHistory request.runId answer.2 = history) ↔
                history.reviews.getLast?.map (·.toSha) = some request.headSha ∨
                  (history.mutatingRemediationRounds <
                      request.caps.maxMutatingRemediationRounds ∧
                    ∃ review ∈ history.reviews,
                      review.reviewKind = .delta ∧ review.toSha = request.headSha)) := by
          intro answer hanswer
          simp [hanswer, hlast, hdelta]
        refine hnot _ ?_
        unfold checkDelta
        rw [if_neg hinitialZero, if_neg hfinalCount, if_neg hany]
        dsimp only
        by_cases hcap : request.caps.maxDeltaReviews ≤ countByKind history .delta
        · rw [if_pos hcap]
          simp [handleDeltaExhaustion]
        · rw [if_neg hcap]
          simp

/-- **The rounds of review are bounded, and the heads that are replayed are known exactly.**
After any calls of the gate and of the final acceptance, the history is within the caps; and
before a final, a head that a recorded review covers is answered as a replay, and the history
left as it is, exactly where it is the head reviewed last, or a round of remediation is left and
the head is that of a delta. -/
theorem review_rounds (runId : String) (caps : CanonicalReviewCaps) (start : ReviewArtifacts)
    (hstart : (reviewMachine runId caps).start start) (calls : List ReviewCall) :
    let m := reviewMachine runId caps
    let artifacts := m.run start calls
    let history := readReviewHistory runId artifacts
    ReviewBounded caps history ∧
      ∀ request, history.Covers request.headSha → history.ofKind .finalAcceptance = [] →
        ((m.answer artifacts (.gate request) = .sameHeadReplay ∧
            readReviewHistory runId (m.next artifacts (.gate request)) = history) ↔
          history.reviews.getLast?.map (·.toSha) = some request.headSha ∨
            (history.mutatingRemediationRounds < caps.maxMutatingRemediationRounds ∧
              ∃ review ∈ history.reviews,
                review.reviewKind = .delta ∧ review.toSha = request.headSha)) := by
  intro m artifacts history
  have hbounded : ReviewBounded caps history := by
    refine StateMachine.run_keeps
      (P := fun a => ReviewBounded caps (readReviewHistory runId a)) ?_ ?_ calls
    · intro a call h
      cases call with
      | gate request => exact h.gate rfl rfl
      | recordFinal headSha mergeBase charterDigest =>
        exact h.recordFinal headSha mergeBase charterDigest
    · have hempty : start.history = none := hstart
      unfold readReviewHistory
      rw [hempty]
      exact reviewBounded_empty caps runId
  refine ⟨hbounded, fun request hcovered hopen => ?_⟩
  have hrequest : history.Covers
      { request with runId := runId, caps := caps }.headSha := hcovered
  exact gate_replays_iff hbounded rfl rfl hrequest hopen

def exampleGate (headSha : String) : ReviewCall :=
  .gate
    { runId := "run-1"
      headSha := headSha
      mergeBase := "base"
      changedFiles := []
      changedTests := []
      charterDigest := "charter"
      caps := ⟨1, 2, 1, 2⟩
      nowRfc3339 := "" }

/-- The answers of the gate for some heads, one after the other. -/
def exampleAnswers (heads : List String) : List ReviewCheckOutcome :=
  ((reviewMachine "run-1" ⟨1, 2, 1, 2⟩).log {} (heads.map exampleGate)).map Prod.snd

/-- The head of a delta is replayed, while a round is left. -/
theorem review_rounds_example :
    (reviewMachine "run-1" ⟨1, 3, 1, 3⟩).answer
      ((reviewMachine "run-1" ⟨1, 3, 1, 3⟩).run {} (["a", "b", "c"].map exampleGate))
      (exampleGate "b") = .sameHeadReplay := by
  have hrounds := review_rounds "run-1" ⟨1, 3, 1, 3⟩ {} rfl (["a", "b", "c"].map exampleGate)
  refine ((hrounds.2 _ ?_ (by decide)).mpr (Or.inr ⟨by decide, ?_⟩)).1
  · refine ⟨_, List.mem_cons_of_mem _ (List.mem_cons_self ..), by decide, rfl⟩
  · exact ⟨_, List.mem_cons_of_mem _ (List.mem_cons_self ..), rfl, rfl⟩

/-- The head of the initial review is reviewed once more when it comes back; and the head of a
delta is refused when it comes back after the last round. -/
theorem review_rounds_limits :
    exampleAnswers ["a", "b", "a"] = [.allowed, .allowed, .allowed] ∧
      exampleAnswers ["a", "b", "c", "b"] =
        [.allowed, .allowed, .allowed, .mutatingRemediationExhausted 2 2] := by
  decide

end Luther
