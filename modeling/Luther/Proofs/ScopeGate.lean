/-
What the barrier lets through, and which blocks can be resolved.

The barrier is sound for any files: it lets a patch that exceeds the charter through only for an
approval of this very patch under this very charter.  That a block can be resolved depends on
which file of a request was modified last.  A measurement that comes back keeps the file it has,
and so the request of the measurement in between stays the one that is read.
-/
import Luther.Scope.Decision
import Mathlib.Data.String.Basic

namespace Luther

/-! ### Which request is read -/

theorem generationFileName_inj {digest digest' : String}
    (h : generationFileName digest = generationFileName digest') : digest = digest' :=
  (String.append_left_inj _).mp h

instance : Std.Total Generation.newerFirst where
  total a b := by
    unfold Generation.newerFirst
    rcases lt_trichotomy a.mtime b.mtime with hlt | heq | hgt
    · exact Or.inr (Or.inl hlt)
    · rcases le_total b.name a.name with hle | hle
      · exact Or.inl (Or.inr ⟨heq, hle⟩)
      · exact Or.inr (Or.inr ⟨heq.symm, hle⟩)
    · exact Or.inl (Or.inl hgt)

instance : IsTrans Generation Generation.newerFirst where
  trans a b c hab hbc := by
    unfold Generation.newerFirst at *
    rcases hab with hab | ⟨hab, hname⟩
    · rcases hbc with hbc | ⟨hbc, -⟩
      · exact Or.inl (lt_trans hbc hab)
      · exact Or.inl (hbc ▸ hab)
    · rcases hbc with hbc | ⟨hbc, hname'⟩
      · exact Or.inl (hab ▸ hbc)
      · exact Or.inr ⟨hab.trans hbc, le_trans hname' hname⟩

/-- **The request that is read is that of the file modified last.** -/
theorem readLatestGeneration_eq_some {generations : List Generation}
    {request : ScopeExpansionRequest} (h : readLatestGeneration generations = some request) :
    ∃ generation ∈ generations, generation.request = request ∧
      ∀ other ∈ generations, generation.newerFirst other := by
  unfold readLatestGeneration at h
  obtain ⟨generation, hhead, hrequest⟩ := Option.map_eq_some_iff.mp h
  obtain ⟨rest, hsorted⟩ := List.head?_eq_some_iff.mp hhead
  have hpairwise := List.pairwise_insertionSort Generation.newerFirst generations
  rw [hsorted] at hpairwise
  have hmem : ∀ g, g ∈ generations ↔ g ∈ generation :: rest := by
    intro g
    rw [← hsorted, List.mem_insertionSort]
  refine ⟨generation, (hmem _).mpr (by simp), hrequest, fun other hother => ?_⟩
  rcases List.mem_cons.mp ((hmem other).mp hother) with rfl | hrest
  · exact (Std.Total.total (r := Generation.newerFirst) other other).elim id id
  · exact (List.pairwise_cons.mp hpairwise).1 other hrest

theorem readLatestGeneration_isSome {generations : List Generation} (h : generations ≠ []) :
    ∃ request, readLatestGeneration generations = some request := by
  unfold readLatestGeneration
  cases hsorted : generations.insertionSort Generation.newerFirst with
  | nil =>
    have hlength := List.length_insertionSort Generation.newerFirst generations
    rw [hsorted] at hlength
    exact absurd (List.length_eq_zero_iff.mp hlength.symm) h
  | cons generation rest => exact ⟨generation.request, rfl⟩

/-! ### The gate -/

/-- Whether a patch exceeds the charter. -/
def ScopeEvaluation.Exceeds (evaluation : ScopeEvaluation) : Prop :=
  ¬ (evaluation.withinBudget = true ∧ evaluation.violations = [])

instance (evaluation : ScopeEvaluation) : Decidable evaluation.Exceeds :=
  inferInstanceAs (Decidable (¬ _))

/-- A resolution that answers the request for this very patch, under this very charter. -/
structure Answers (digest : String) (charter : CanonicalTaskCharter)
    (resolution : ScopeExpansionResolution) (artifacts : ScopeArtifacts) : Prop where
  stored : artifacts.resolution = some resolution
  answered : resolution.measurementDigest = digest
  request : ∃ request, readExpansionRequest artifacts = some request ∧
    request.measurementDigest = digest ∧ request.charterDigest = charter.digest

section Gate

variable {measurementDigest : MeasurementDigest} {charter : CanonicalTaskCharter}
  {measurement : PatchMeasurement} {evaluation : ScopeEvaluation} {artifacts : ScopeArtifacts}

theorem checkScopeGate_of_answers (hexceeds : evaluation.Exceeds)
    {resolution : ScopeExpansionResolution}
    (h : Answers (measurementDigest measurement) charter resolution artifacts) :
    checkScopeGate measurementDigest charter measurement evaluation artifacts =
      if resolution.decision.authorizesExpansion then .withinBudgetWithPriorResolution
      else .denied resolution.decision := by
  obtain ⟨request, hread, hdigest, hcharter⟩ := h.request
  unfold checkScopeGate
  rw [if_neg hexceeds]
  simp only [hread, h.stored, h.answered, hdigest, hcharter, ne_eq, not_true_eq_false, or_self,
    if_false]

theorem checkScopeGate_of_not_answers (hexceeds : evaluation.Exceeds)
    (h : ¬ ∃ resolution, Answers (measurementDigest measurement) charter resolution artifacts) :
    checkScopeGate measurementDigest charter measurement evaluation artifacts =
        .overBudgetNeedsRequest ∨
      checkScopeGate measurementDigest charter measurement evaluation artifacts =
        .pendingResolution := by
  unfold checkScopeGate
  rw [if_neg hexceeds]
  dsimp only
  cases hread : readExpansionRequest artifacts with
  | none => exact Or.inl rfl
  | some request =>
    cases hresolution : artifacts.resolution with
    | none => exact Or.inr rfl
    | some resolution =>
      simp only
      split
      · exact Or.inl rfl
      · rename_i hagree
        simp only [ne_eq, not_or, not_not] at hagree
        obtain ⟨hcharter, hanswered, hdigest⟩ := hagree
        exact absurd ⟨resolution, hresolution, hanswered, request, hread, hdigest, hcharter⟩ h

theorem checkScopeGate_of_within (hwithin : ¬ evaluation.Exceeds) :
    (checkScopeGate measurementDigest charter measurement evaluation artifacts).allowsMutation =
      true := by
  unfold checkScopeGate
  rw [if_pos (Classical.not_not.mp hwithin)]
  split <;> rfl

end Gate

/-! ### The barrier -/

section Barrier

variable {measurementDigest : MeasurementDigest} {runId : String} {now : Timestamp}
  {charter : CanonicalTaskCharter} {measurement : PatchMeasurement} {artifacts : ScopeArtifacts}

section

variable (hcharter : artifacts.charter = some charter)

include hcharter

theorem enforceScopeBarrier_of_within (hwithin : ¬ (evaluate measurement charter).Exceeds) :
    enforceScopeBarrier measurementDigest runId now (.ok measurement) artifacts =
      (.ok .allow, artifacts) := by
  unfold enforceScopeBarrier
  simp only [hcharter, checkScopeGate_of_within hwithin, if_true]

theorem enforceScopeBarrier_of_answers
    (hexceeds : (evaluate measurement charter).Exceeds) {resolution : ScopeExpansionResolution}
    (h : Answers (measurementDigest measurement) charter resolution artifacts) :
    enforceScopeBarrier measurementDigest runId now (.ok measurement) artifacts =
      (.ok (if resolution.decision.authorizesExpansion then .allow
        else .denied resolution.decision), artifacts) := by
  unfold enforceScopeBarrier
  simp only [hcharter, checkScopeGate_of_answers hexceeds h]
  cases resolution.decision.authorizesExpansion <;> rfl

theorem enforceScopeBarrier_of_not_answers (hexceeds : (evaluate measurement charter).Exceeds)
    (h : ¬ ∃ resolution, Answers (measurementDigest measurement) charter resolution artifacts) :
    enforceScopeBarrier measurementDigest runId now (.ok measurement) artifacts =
      match writeExpansionRequest now (buildExpansionRequest measurementDigest now runId charter
        measurement (evaluate measurement charter)) artifacts with
      | (.error error, next) => (.error error.text, next)
      | (.ok (), next) => (.ok .blocked, next) := by
  unfold enforceScopeBarrier
  rcases checkScopeGate_of_not_answers hexceeds h with hneeds | hpending
  · simp only [hcharter, hneeds]
    rfl
  · simp only [hcharter, hpending]
    rfl

end

/-- **The barrier lets a patch through where it is within its charter, or approved as it is.** -/
theorem enforceScopeBarrier_allow_iff (patch : Except String PatchMeasurement) :
    (enforceScopeBarrier measurementDigest runId now patch artifacts).1 = .ok .allow ↔
      ∃ charter measurement, artifacts.charter = some charter ∧ patch = .ok measurement ∧
        ((evaluate measurement charter).Exceeds → ∃ resolution,
          resolution.decision = .approveExpandedScope ∧
            Answers (measurementDigest measurement) charter resolution artifacts) := by
  cases hcharter : artifacts.charter with
  | none =>
    unfold enforceScopeBarrier
    simp [hcharter]
  | some charter =>
    cases patch with
    | error error =>
      unfold enforceScopeBarrier
      simp [hcharter]
    | ok measurement =>
      by_cases hexceeds : (evaluate measurement charter).Exceeds
      · by_cases hanswers : ∃ resolution,
            Answers (measurementDigest measurement) charter resolution artifacts
        · obtain ⟨resolution, hanswer⟩ := hanswers
          rw [enforceScopeBarrier_of_answers hcharter hexceeds hanswer]
          constructor
          · intro hallow
            refine ⟨charter, measurement, rfl, rfl, fun _ => ⟨resolution, ?_, hanswer⟩⟩
            cases hdecision : resolution.decision <;>
              simp_all [ScopeExpansionDecision.authorizesExpansion]
          · rintro ⟨_, _, hsome, hpatch, happroved⟩
            obtain rfl := Option.some.inj hsome
            obtain rfl := Except.ok.inj hpatch
            obtain ⟨approval, hdecision, happroval⟩ := happroved hexceeds
            have hsame := hanswer.stored.symm.trans happroval.stored
            obtain rfl := Option.some.inj hsame
            simp [hdecision, ScopeExpansionDecision.authorizesExpansion]
        · rw [enforceScopeBarrier_of_not_answers hcharter hexceeds hanswers]
          constructor
          · intro hallow
            split at hallow <;> simp at hallow
          · rintro ⟨_, _, hsome, hpatch, happroved⟩
            obtain rfl := Option.some.inj hsome
            obtain rfl := Except.ok.inj hpatch
            obtain ⟨approval, -, happroval⟩ := happroved hexceeds
            exact absurd ⟨approval, happroval⟩ hanswers
      · rw [enforceScopeBarrier_of_within hcharter hexceeds]
        simp only [true_iff]
        exact ⟨charter, measurement, rfl, rfl, fun h => absurd h hexceeds⟩

end Barrier

/-! ### The poller -/

section Poll

variable {artifacts : ScopeArtifacts} {request : ScopeExpansionRequest}
  {resolution : ScopeExpansionResolution}

theorem pollScopeDecision_of_same (hread : readExpansionRequest artifacts = some request)
    (h : resolution.measurementDigest = request.measurementDigest) (now : Timestamp)
    {record : WaitStateRecord}
    (hroot : (record.waitCondition.get? "artifact_root").bind Json.asStr? ≠ none) :
    (pollScopeDecision now record (writeExpansionResolution resolution artifacts)).classification =
      .readyToResume := by
  unfold pollScopeDecision
  cases hpath : (record.waitCondition.get? "artifact_root").bind Json.asStr? with
  | none => exact absurd hpath hroot
  | some root =>
    have hkept : readExpansionRequest (writeExpansionResolution resolution artifacts) =
        some request := hread
    simp only [hkept]
    unfold writeExpansionResolution
    simp only [h, if_true]

theorem pollScopeDecision_of_other
    (h : ∀ request, readExpansionRequest artifacts = some request →
      resolution.measurementDigest ≠ request.measurementDigest) (now : Timestamp)
    (record : WaitStateRecord) :
    (pollScopeDecision now record (writeExpansionResolution resolution artifacts)).classification =
      .stillWaiting := by
  unfold pollScopeDecision
  cases (record.waitCondition.get? "artifact_root").bind Json.asStr? with
  | none => rfl
  | some root =>
    have hkept : readExpansionRequest (writeExpansionResolution resolution artifacts) =
        readExpansionRequest artifacts := rfl
    cases hread : readExpansionRequest artifacts with
    | none => simp only [hkept, hread]
    | some request =>
      simp only [hkept, hread]
      unfold writeExpansionResolution
      simp only [h request hread, if_false]

end Poll

/-! ### The requests of a run -/

def ScopeArtifacts.requests (artifacts : ScopeArtifacts) : List Generation :=
  artifacts.generations.getD []

/-- What holds of the requests after any calls. -/
structure RequestLedger (artifacts : ScopeArtifacts) : Prop where
  names : ∀ generation ∈ artifacts.requests,
    generation.name = generationFileName generation.request.measurementDigest
  nodup : (artifacts.requests.map (·.name)).Nodup
  charter : ∀ charter, artifacts.charter = some charter → ∀ generation ∈ artifacts.requests,
    generation.request.charterDigest = charter.digest

/-- When the request for a measurement was written, or is. -/
def requestTime (digest : String) (now : Timestamp) (artifacts : ScopeArtifacts) : Timestamp :=
  ((artifacts.requests.find? (·.name == generationFileName digest)).map (·.mtime)).getD now

/-- No request for another measurement was written later; of two written at one time that with
the larger name counts. -/
def IsCurrent (digest : String) (now : Timestamp) (artifacts : ScopeArtifacts) : Prop :=
  ∀ other ∈ artifacts.requests, other.mtime < requestTime digest now artifacts ∨
    (other.mtime = requestTime digest now artifacts ∧ other.name ≤ generationFileName digest)

/-- The request for a measurement is the one that counts: its file is there, and none was
modified after it.  Before there are such files, the request of the old form counts. -/
def RequestCounts (digest : String) (artifacts : ScopeArtifacts) : Prop :=
  match artifacts.generations with
  | none => ∃ request, artifacts.legacyRequest = some request ∧ request.measurementDigest = digest
  | some generations => ∃ generation ∈ generations, generation.name = generationFileName digest ∧
      ∀ other ∈ generations, generation.newerFirst other

/-- A block that an operator can resolve: the request that is read is for the measurement, and a
resolution of it ends the wait and decides the next call. -/
structure Resolvable (measurementDigest : MeasurementDigest) (runId : String)
    (measurement : PatchMeasurement) (artifacts : ScopeArtifacts) : Prop where
  request : (readExpansionRequest artifacts).map (·.measurementDigest) =
    some (measurementDigest measurement)
  ready : ∀ resolution : ScopeExpansionResolution,
    resolution.measurementDigest = measurementDigest measurement → ∀ now record,
      (record.waitCondition.get? "artifact_root").bind Json.asStr? ≠ none →
        (pollScopeDecision now record (writeExpansionResolution resolution artifacts)
          ).classification = .readyToResume
  decided : ∀ resolution : ScopeExpansionResolution,
    resolution.measurementDigest = measurementDigest measurement → ∀ now,
      (enforceScopeBarrier measurementDigest runId now (.ok measurement)
        (writeExpansionResolution resolution artifacts)).1 =
          .ok (if resolution.decision.authorizesExpansion then .allow
            else .denied resolution.decision)

section Requests

variable {measurementDigest : MeasurementDigest} {runId : String} {now : Timestamp}
  {charter : CanonicalTaskCharter} {measurement : PatchMeasurement} {artifacts : ScopeArtifacts}

theorem requestLedger_empty (h : artifacts.generations = none) : RequestLedger artifacts where
  names := by simp [ScopeArtifacts.requests, h]
  nodup := by simp [ScopeArtifacts.requests, h]
  charter := by simp [ScopeArtifacts.requests, h]

/-- What a write of a request does: its file is there then, with the time it had or gets. -/
structure Requested (request : ScopeExpansionRequest) (now : Timestamp)
    (artifacts next : ScopeArtifacts) : Prop where
  ledger : RequestLedger next
  charter : next.charter = artifacts.charter
  written : next.generations = some next.requests
  own : ∃ own, own.name = generationFileName request.measurementDigest ∧
    own.mtime = requestTime request.measurementDigest now artifacts ∧
    ∀ generation, generation ∈ next.requests ↔ generation = own ∨ generation ∈ artifacts.requests

/-- **A request can be written, and has its file afterwards.** -/
theorem RequestLedger.write (h : RequestLedger artifacts) {request : ScopeExpansionRequest}
    (hcharter : artifacts.charter = some charter)
    (hrequest : request.charterDigest = charter.digest) (now : Timestamp) :
    ∃ next, writeExpansionRequest now request artifacts = (.ok (), next) ∧
      Requested request now artifacts next := by
  unfold writeExpansionRequest
  dsimp only
  cases hfound : artifacts.requests.find?
      (·.name == generationFileName request.measurementDigest) with
  | some existing =>
    have hmem := List.mem_of_find?_eq_some hfound
    have hname : existing.name = generationFileName request.measurementDigest := by
      simpa using List.find?_some hfound
    have hdigest : existing.request.measurementDigest = request.measurementDigest :=
      generationFileName_inj ((h.names existing hmem).symm.trans hname)
    unfold ScopeArtifacts.requests at hfound
    rw [hfound]
    simp only [hdigest, if_true]
    refine ⟨_, rfl, ⟨⟨h.names, h.nodup, h.charter⟩, rfl, rfl, existing, hname, ?_, ?_⟩⟩
    · unfold requestTime ScopeArtifacts.requests
      rw [hfound]
      rfl
    · intro generation
      refine ⟨Or.inr, fun hor => ?_⟩
      rcases hor with rfl | hold
      · exact hmem
      · exact hold
  | none =>
    have hnew : generationFileName request.measurementDigest ∉
        artifacts.requests.map (·.name) := by
      intro hmem
      obtain ⟨generation, hgeneration, hname⟩ := List.mem_map.mp hmem
      have hno := List.find?_eq_none.mp hfound generation hgeneration
      simp [hname] at hno
    have htime : requestTime request.measurementDigest now artifacts = now := by
      unfold requestTime
      rw [hfound]
      rfl
    have hfound' := hfound
    unfold ScopeArtifacts.requests at hfound'
    rw [hfound']
    refine ⟨_, rfl, ⟨⟨?_, ?_, ?_⟩, rfl, rfl,
      ⟨generationFileName request.measurementDigest, now, request⟩, rfl, htime.symm, ?_⟩⟩
    · intro generation hgeneration
      rcases List.mem_append.mp hgeneration with hold | hadded
      · exact h.names generation hold
      · rw [List.mem_singleton.mp hadded]
    · show ((artifacts.requests ++ [(⟨generationFileName request.measurementDigest, now,
        request⟩ : Generation)]).map (·.name)).Nodup
      rw [List.map_append]
      refine List.Nodup.append h.nodup (List.nodup_singleton _) ?_
      intro name hold hadded
      obtain rfl := List.mem_singleton.mp hadded
      exact hnew hold
    · intro charter' hcharter' generation hgeneration
      rcases List.mem_append.mp hgeneration with hold | hadded
      · exact h.charter charter' hcharter' generation hold
      · rw [List.mem_singleton.mp hadded]
        have hsame := hcharter.symm.trans hcharter'
        rw [← Option.some.inj hsame]
        exact hrequest
    · intro generation
      show generation ∈ artifacts.requests ++ [(⟨generationFileName request.measurementDigest,
        now, request⟩ : Generation)] ↔ _
      rw [List.mem_append, List.mem_singleton, or_comm]

theorem Generation.name_eq_of_newerFirst {a b : Generation} (hab : a.newerFirst b)
    (hba : b.newerFirst a) : a.name = b.name := by
  unfold Generation.newerFirst at hab hba
  rcases hab with hlt | ⟨heq, hle⟩
  · rcases hba with hgt | ⟨heq, -⟩
    · exact absurd hgt (lt_asymm hlt)
    · exact absurd hlt (by rw [heq]; exact lt_irrefl _)
  · rcases hba with hgt | ⟨-, hle'⟩
    · exact absurd hgt (by rw [heq]; exact lt_irrefl _)
    · exact le_antisymm hle' hle

/-- **The request that is read is the one that counts.** -/
theorem RequestLedger.read_iff (h : RequestLedger artifacts) (digest : String) :
    (∃ request, readExpansionRequest artifacts = some request ∧
      request.measurementDigest = digest) ↔ RequestCounts digest artifacts := by
  unfold readExpansionRequest RequestCounts
  cases hgenerations : artifacts.generations with
  | none => rfl
  | some generations =>
    have hnames : ∀ generation ∈ generations,
        generation.name = generationFileName generation.request.measurementDigest := by
      intro generation hgeneration
      refine h.names generation ?_
      unfold ScopeArtifacts.requests
      rw [hgenerations]
      exact hgeneration
    constructor
    · rintro ⟨request, hread, hdigest⟩
      obtain ⟨generation, hgeneration, hrequest, hnewest⟩ := readLatestGeneration_eq_some hread
      refine ⟨generation, hgeneration, ?_, hnewest⟩
      rw [hnames generation hgeneration, hrequest, hdigest]
    · rintro ⟨generation, hgeneration, hname, hnewest⟩
      obtain ⟨request, hread⟩ := readLatestGeneration_isSome (List.ne_nil_of_mem hgeneration)
      obtain ⟨latest, hlatest, hrequest, hfirst⟩ := readLatestGeneration_eq_some hread
      have hsame : latest.name = generation.name :=
        Generation.name_eq_of_newerFirst (hfirst generation hgeneration) (hnewest latest hlatest)
      refine ⟨request, hread, generationFileName_inj ?_⟩
      rw [← hname, ← hsame, hnames latest hlatest, hrequest]

/-- **The request that was written counts where no other was written later.** -/
theorem Requested.counts_iff {request : ScopeExpansionRequest} {next : ScopeArtifacts}
    (h : Requested request now artifacts next) :
    RequestCounts request.measurementDigest next ↔
      IsCurrent request.measurementDigest now artifacts := by
  obtain ⟨own, hname, htime, hmem⟩ := h.own
  have hown : own ∈ next.requests := (hmem own).mpr (Or.inl rfl)
  unfold RequestCounts
  rw [h.written]
  constructor
  · rintro ⟨generation, hgeneration, hfile, hnewest⟩ other hother
    have hsame : generation = own :=
      List.inj_on_of_nodup_map h.ledger.nodup hgeneration hown (hfile.trans hname.symm)
    have hlater := hnewest other ((hmem other).mpr (Or.inr hother))
    rw [hsame] at hlater
    unfold Generation.newerFirst at hlater
    rw [htime, hname] at hlater
    exact hlater.imp id fun hsame => ⟨hsame.1.symm, hsame.2⟩
  · intro hcurrent
    refine ⟨own, hown, hname, fun other hother => ?_⟩
    rcases (hmem other).mp hother with rfl | hold
    · exact Or.inr ⟨rfl, le_refl _⟩
    · unfold Generation.newerFirst
      rw [htime, hname]
      exact (hcurrent other hold).imp id fun hsame => ⟨hsame.1.symm, hsame.2⟩

theorem Requested.resolvable_iff {next : ScopeArtifacts}
    (hcharter : artifacts.charter = some charter)
    (hexceeds : (evaluate measurement charter).Exceeds)
    (h : Requested (buildExpansionRequest measurementDigest now runId charter measurement
      (evaluate measurement charter)) now artifacts next) :
    Resolvable measurementDigest runId measurement next ↔
      IsCurrent (measurementDigest measurement) now artifacts := by
  have hiff := h.ledger.read_iff (measurementDigest measurement)
  have hcounts : RequestCounts (measurementDigest measurement) next ↔
      IsCurrent (measurementDigest measurement) now artifacts := h.counts_iff
  rw [← hcounts, ← hiff]
  constructor
  · intro hresolvable
    exact Option.map_eq_some_iff.mp hresolvable.request
  · rintro ⟨latest, hread, hmatch⟩
    refine ⟨by rw [hread, ← hmatch]; rfl, ?_, ?_⟩
    · intro resolution hresolution now record hroot
      exact pollScopeDecision_of_same hread (hresolution.trans hmatch.symm) now hroot
    · intro resolution hresolution later
      have hnext : (writeExpansionResolution resolution next).charter = some charter :=
        h.charter.trans hcharter
      have hanswers : Answers (measurementDigest measurement) charter resolution
          (writeExpansionResolution resolution next) :=
        { stored := rfl
          answered := hresolution
          request := ⟨latest, hread, hmatch, by
            unfold readExpansionRequest at hread
            rw [h.written] at hread
            obtain ⟨generation, hgeneration, hrequest, -⟩ := readLatestGeneration_eq_some hread
            rw [← hrequest]
            exact h.ledger.charter charter hnext generation hgeneration⟩ }
      rw [enforceScopeBarrier_of_answers hnext hexceeds hanswers]

end Requests

/-! ### The blocks of a run -/

section Runs

variable {measurementDigest : MeasurementDigest} {runId : String}

/-- What the calls of a run keep: its charter, and what holds of its requests. -/
structure ScopeRun (start artifacts : ScopeArtifacts) : Prop where
  charter : artifacts.charter = start.charter
  ledger : RequestLedger artifacts

/-- **The barrier changes nothing, or blocks, and then the request for the patch is there.** -/
theorem enforceScopeBarrier_cases (measurementDigest : MeasurementDigest) (runId : String)
    {artifacts : ScopeArtifacts} (h : RequestLedger artifacts) (now : Timestamp)
    (patch : Except String PatchMeasurement) :
    (∃ answer, answer ≠ .ok .blocked ∧
      enforceScopeBarrier measurementDigest runId now patch artifacts = (answer, artifacts)) ∨
    ∃ charter measurement next, artifacts.charter = some charter ∧ patch = .ok measurement ∧
      (evaluate measurement charter).Exceeds ∧
      enforceScopeBarrier measurementDigest runId now patch artifacts = (.ok .blocked, next) ∧
      Requested (buildExpansionRequest measurementDigest now runId charter measurement
        (evaluate measurement charter)) now artifacts next := by
  cases hcharter : artifacts.charter with
  | none =>
    refine Or.inl ⟨.error "scope charter unavailable: IO error: No such file or directory",
      by simp, ?_⟩
    unfold enforceScopeBarrier
    simp only [hcharter]
  | some charter =>
    cases patch with
    | error error =>
      refine Or.inl ⟨.error error, by simp, ?_⟩
      unfold enforceScopeBarrier
      simp only [hcharter]
    | ok measurement =>
      by_cases hexceeds : (evaluate measurement charter).Exceeds
      · by_cases hanswers : ∃ resolution,
            Answers (measurementDigest measurement) charter resolution artifacts
        · obtain ⟨resolution, hanswer⟩ := hanswers
          refine Or.inl ⟨_, ?_, enforceScopeBarrier_of_answers hcharter hexceeds hanswer⟩
          split <;> simp
        · have hdigest : (buildExpansionRequest measurementDigest now runId charter measurement
              (evaluate measurement charter)).charterDigest = charter.digest := rfl
          obtain ⟨next, hwrite, hrequested⟩ := h.write hcharter hdigest now
          refine Or.inr ⟨charter, measurement, next, rfl, rfl, hexceeds, ?_, hrequested⟩
          rw [enforceScopeBarrier_of_not_answers hcharter hexceeds hanswers, hwrite]
      · exact Or.inl ⟨_, by simp, enforceScopeBarrier_of_within hcharter hexceeds⟩

variable {start : ScopeArtifacts}

theorem ScopeRun.next {artifacts : ScopeArtifacts} (h : ScopeRun start artifacts)
    (call : ScopeCall) :
    ScopeRun start ((scopeMachine measurementDigest runId).next artifacts call) := by
  cases call with
  | barrier now patch =>
    show ScopeRun start (enforceScopeBarrier measurementDigest runId now patch artifacts).2
    rcases enforceScopeBarrier_cases measurementDigest runId
      h.ledger now patch with ⟨answer, -, heq⟩ | ⟨_, _, next, -, -, -, heq, hrequested⟩
    · rw [heq]
      exact h
    · rw [heq]
      exact ⟨hrequested.charter.trans h.charter, hrequested.ledger⟩
  | resolve now resolution => exact ⟨h.charter, h.ledger.names, h.ledger.nodup, h.ledger.charter⟩

theorem scopeRun_run (hstart : (scopeMachine measurementDigest runId).start start)
    (calls : List ScopeCall) :
    ScopeRun start ((scopeMachine measurementDigest runId).run start calls) :=
  StateMachine.run_keeps (P := ScopeRun start) (fun _ call h => h.next call)
    ⟨rfl, requestLedger_empty hstart.1⟩ calls

/-- **The gate is sound, and a block can be resolved where its request is the one read.**

In every run the barrier lets a patch that exceeds its charter through only for an approval of
this patch under this charter.  Where it blocks, the block can be resolved exactly where no
request for another patch was written after the request for this one. -/
theorem scope_blocks (measurementDigest : MeasurementDigest) (runId : String)
    {start : ScopeArtifacts} (hstart : (scopeMachine measurementDigest runId).start start)
    (calls : List ScopeCall) (now : Timestamp) (measurement : PatchMeasurement)
    (charter : CanonicalTaskCharter) (hcharter : start.charter = some charter) :
    ((scopeMachine measurementDigest runId).answer
          ((scopeMachine measurementDigest runId).run start calls)
          (.barrier now (.ok measurement)) = some (.ok .allow) →
        (evaluate measurement charter).Exceeds → ∃ resolution,
          resolution.decision = .approveExpandedScope ∧
            Answers (measurementDigest measurement) charter resolution
              ((scopeMachine measurementDigest runId).run start calls)) ∧
      ((scopeMachine measurementDigest runId).answer
          ((scopeMachine measurementDigest runId).run start calls)
          (.barrier now (.ok measurement)) = some (.ok .blocked) →
        (Resolvable measurementDigest runId measurement
            ((scopeMachine measurementDigest runId).next
              ((scopeMachine measurementDigest runId).run start calls)
              (.barrier now (.ok measurement))) ↔
          IsCurrent (measurementDigest measurement) now
            ((scopeMachine measurementDigest runId).run start calls))) := by
  have hrun := scopeRun_run hstart calls
  generalize (scopeMachine measurementDigest runId).run start calls = artifacts at hrun
  have hhere : artifacts.charter = some charter := hrun.charter.trans hcharter
  constructor
  · intro hallow hexceeds
    have hanswer : (enforceScopeBarrier measurementDigest runId now (.ok measurement)
        artifacts).1 = .ok .allow := Option.some.inj hallow
    obtain ⟨_, _, hsome, hpatch, happroved⟩ := (enforceScopeBarrier_allow_iff _).mp hanswer
    obtain rfl := Option.some.inj (hhere.symm.trans hsome)
    obtain rfl := Except.ok.inj hpatch
    exact happroved hexceeds
  · intro hblocked
    have hanswer : (enforceScopeBarrier measurementDigest runId now (.ok measurement)
        artifacts).1 = .ok .blocked := Option.some.inj hblocked
    rcases enforceScopeBarrier_cases measurementDigest runId
      hrun.ledger now (.ok measurement) with
      ⟨answer, hother, heq⟩ | ⟨_, _, next, hsome, hpatch, hexceeds, heq, hrequested⟩
    · rw [heq] at hanswer
      exact absurd hanswer hother
    · obtain rfl := Option.some.inj (hhere.symm.trans hsome)
      obtain rfl := Except.ok.inj hpatch
      have hnext : (scopeMachine measurementDigest runId).next artifacts
          (.barrier now (.ok measurement)) = next := by
        show (enforceScopeBarrier measurementDigest runId now (.ok measurement) artifacts).2 = next
        rw [heq]
      rw [hnext]
      exact hrequested.resolvable_iff hhere hexceeds

end Runs

/-- A charter that allows one file, of the documentation. -/
def oneFileCharter : CanonicalTaskCharter where
  schemaVersion := 1
  charterId := "charter"
  issueNumber := 142
  runId := "run"
  mergeBase := "base"
  acceptanceCriteria := []
  nonGoals := []
  subsystems := [("docs", ["docs/**"])]
  budget := ⟨1, 100, 0, 0, 0⟩
  reviewCaps := ⟨1, 2, 1, 3⟩
  mandatoryGates := []
  digest := "charter digest"

/-- A patch of so many files of the documentation. -/
def docsPatch (contentDigest : String) (filesChanged : UInt32) : PatchMeasurement where
  mergeBase := "base"
  headSha := "head"
  divergence := 0
  filesChanged := filesChanged
  addedLines := 10
  binaryFiles := 0
  newModules := 0
  dependenciesAdded := 0
  publicApisAdded := 0
  contentDigest := contentDigest
  changedPaths := ["docs/guide.md"]
  changedSubsystems := ["docs"]
  fileDetails := []

/-- A run that has its charter, and nothing else yet. -/
def charteredRun : ScopeArtifacts := { charter := some oneFileCharter }

/-- The first patch is approved and passes; the second is blocked, and can be resolved. -/
theorem scope_blocks_example :
    (∃ resolution : ScopeExpansionResolution,
      resolution.decision = .approveExpandedScope ∧
        resolution.measurementDigest = "first") ∧
      Resolvable (·.contentDigest) "run" (docsPatch "second" 2)
        ((scopeMachine (·.contentDigest) "run").next
          ((scopeMachine (·.contentDigest) "run").run charteredRun
            [.barrier 1 (.ok (docsPatch "first" 2)),
              .resolve 2 ⟨"run", "first", .approveExpandedScope, "wanted", 2⟩])
          (.barrier 3 (.ok (docsPatch "second" 2)))) := by
  have hstart : (scopeMachine (·.contentDigest) "run").start charteredRun := ⟨rfl, rfl⟩
  have happroved := (scope_blocks (·.contentDigest) "run" hstart
    [.barrier 1 (.ok (docsPatch "first" 2)),
      .resolve 2 ⟨"run", "first", .approveExpandedScope, "wanted", 2⟩] 3 (docsPatch "first" 2)
    oneFileCharter rfl).1 (by decide +kernel) (by decide +kernel)
  have hblocked := (scope_blocks (·.contentDigest) "run" hstart
    [.barrier 1 (.ok (docsPatch "first" 2)),
      .resolve 2 ⟨"run", "first", .approveExpandedScope, "wanted", 2⟩] 3 (docsPatch "second" 2)
    oneFileCharter rfl).2 (by decide +kernel)
  refine ⟨?_, hblocked.mpr (by unfold IsCurrent; decide +kernel)⟩
  obtain ⟨resolution, hdecision, hanswers⟩ := happroved
  exact ⟨resolution, hdecision, hanswers.answered⟩

/-- **A patch that comes back is blocked for good.**  Its request is there, but the request of
the patch in between is read: an approval of the patch leaves the run waiting. -/
theorem scope_blocks_unresolved :
    ∃ calls : List ScopeCall, ∃ blocked : ScopeArtifacts,
      (scopeMachine (·.contentDigest) "run").step
          ((scopeMachine (·.contentDigest) "run").run charteredRun calls)
          (.barrier 3 (.ok (docsPatch "first" 2))) = (some (.ok .blocked), blocked) ∧
        (readExpansionRequest blocked).map (·.measurementDigest) = some "second" ∧
        ∀ resolution : ScopeExpansionResolution, resolution.measurementDigest = "first" →
          ∀ now record, (pollScopeDecision now record
            (writeExpansionResolution resolution blocked)).classification = .stillWaiting := by
  refine ⟨[.barrier 1 (.ok (docsPatch "first" 2)), .barrier 2 (.ok (docsPatch "second" 2))],
    _, Prod.ext (by decide +kernel) rfl, by decide +kernel, ?_⟩
  intro resolution hresolution now record
  refine pollScopeDecision_of_other (fun request hread hsame => ?_) now record
  have hlatest : request.measurementDigest = "second" := by
    have hdigest := congrArg (Option.map (·.measurementDigest)) hread
    exact (Option.some.inj (hdigest.symm.trans (by decide +kernel)))
  rw [hlatest, hresolution] at hsame
  exact absurd hsame (by decide)

end Luther
