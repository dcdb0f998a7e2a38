/-
The rounds that the guard counts, over any number of executions.

Every guard names the one before it, so the history of the guard is one chain, and the last
guard of the chain is found whatever the order in which files are listed.  The count of rounds
is right in every state.  The count of the rounds that only a reviewer asked for is right as
long as no round was one: the failures of the round that is over are those of the head before,
and the guard asks for those of the head that is new.
-/
import Luther.Proofs.ArtifactReading
import Luther.Remediation.IterationGuard

namespace Luther

open Numbering

/-! ### The guards of a history -/

/-- The documents of the guard, in the order they were written. -/
def guardFiles (store : ArtifactStore) : List ContainedFile :=
  store.history.filter (·.family == guardFamily)

def ArtifactStore.lastGuard (store : ArtifactStore) : Option Json :=
  (guardFiles store).getLast?.map (·.content)

/-- What a guard says: its round, how many of the rounds were a reviewer's, and its head. -/
structure GuardRecord where
  iterationIndex : Nat
  reviewIterationIndex : Nat
  headSha : String
  deriving DecidableEq

/-- The document says what the record says. -/
structure GuardDocument (value : Json) (record : GuardRecord) : Prop where
  state : (value.get? "guard_state").bind Json.asStr? = some "proceed" ∨
    (value.get? "guard_state").bind Json.asStr? = some "max_iterations_exceeded"
  iteration : value.u64? "iteration_index" = some record.iterationIndex
  maximum : value.u64? "max_post_pr_remediation_iterations" ≠ none
  review : value.u64? "review_iteration_index" = some record.reviewIterationIndex
  head : (value.get? "head_sha").bind Json.asStr? = some record.headSha

/-- The later document names the earlier one as the one before it. -/
def Follows (earlier later : ContainedFile) : Prop :=
  later.content.u64? "predecessor_artifact_sequence" = some earlier.artifactSequence

/-- What holds of the files of a pull request after any executions of the guard. -/
structure GuardLedger (validate : FamilyInvariants) (pr : PrFollowupBinding)
    (store : ArtifactStore) : Prop where
  ledger : Ledger validate pr store
  ordered : (store.history.map (·.artifactSequence)).Pairwise (· < ·)
  /-- No guard counts more rounds than there were documents before it. -/
  documents : ∀ file ∈ guardFiles store, ∃ record, GuardDocument file.content record ∧
    record.reviewIterationIndex ≤ record.iterationIndex ∧
    record.iterationIndex < file.artifactSequence
  chained : (guardFiles store).IsChain Follows

theorem plainFamily_guard : PlainFamily guardFamily := by decide +kernel

theorem plainFamily_ciFailures : PlainFamily ciFailuresFamily := by decide +kernel

section Reading

variable {validate : FamilyInvariants} {pr binding : PrFollowupBinding}
  {store : ArtifactStore} {file : ContainedFile}

theorem mem_guardFiles : file ∈ guardFiles store ↔
    file ∈ store.history ∧ file.family = guardFamily := by
  simp [guardFiles]

theorem GuardDocument.snapshot {value : Json} {record : GuardRecord}
    (h : GuardDocument value record) (path : FilePath) : validateGuardSnapshot value path =
      .ok () := by
  unfold validateGuardSnapshot
  rw [if_neg]
  rintro (hstate | hiteration | hmaximum | hhead)
  · exact hstate h.state
  · rw [h.iteration] at hiteration
    simp at hiteration
  · exact h.maximum hmaximum
  · rw [h.head] at hhead
    simp at hhead

theorem Snapshot.u64_artifactSequence {root : String}
    (h : Snapshot validate pr root file) :
    file.content.u64? "artifact_sequence" = some file.artifactSequence := by
  have hread := h.artifact
  unfold requireU64 at hread
  unfold Json.u64?
  cases hvalue : (file.content.get? "artifact_sequence").bind Json.asU64? with
  | none => simp [hvalue] at hread
  | some n =>
    simp only [hvalue] at hread
    rw [Except.ok.inj hread]

theorem Ledger.artifactSequence_pos (h : Ledger validate pr store)
    (hfile : file ∈ store.history) : 0 < file.artifactSequence :=
  h.numbered.artifacts.pos (List.mem_map_of_mem hfile)

def guardCandidate (file : ContainedFile) : RecoverableHistoryCandidate :=
  ⟨file.path, some file.content, none⟩

/-- **The loop over a chain of guards ends with the last.** -/
theorem latestGuardFrom_eq {files : List ContainedFile} {latest : Option ContainedFile}
    {sequences : List Nat}
    (hfiles : ∀ file ∈ files, (∃ record, GuardDocument file.content record) ∧
      file.content.u64? "artifact_sequence" = some file.artifactSequence ∧
      0 < file.artifactSequence ∧ file.artifactSequence ∉ sequences)
    (hlatest : ∀ last ∈ latest,
      last.content.u64? "artifact_sequence" = some last.artifactSequence)
    (hordered : files.Pairwise fun a b => a.artifactSequence < b.artifactSequence)
    (hchained : (latest.toList ++ files).IsChain Follows) :
    latestGuardFrom (files.map guardCandidate) (latest.map (·.content)) sequences =
      .ok ((files.getLast?.or latest).map (·.content)) := by
  induction files generalizing latest sequences with
  | nil => simp [latestGuardFrom]
  | cons file rest ih =>
    obtain ⟨⟨record, hdocument⟩, hsequence, hpos, hnew⟩ := hfiles file (by simp)
    have hlink : ¬ (((latest.map (·.content)).bind (Json.u64? "artifact_sequence")).isSome = true
        ∧ file.content.u64? "predecessor_artifact_sequence" ≠
          (latest.map (·.content)).bind (Json.u64? "artifact_sequence")) := by
      rintro ⟨hsome, hbroken⟩
      cases latest with
      | none => simp at hsome
      | some last =>
        have hfollows : Follows last file := by
          simp only [Option.toList_some, List.singleton_append] at hchained
          exact (List.isChain_cons_cons.mp hchained).1
        refine hbroken ?_
        rw [Option.map_some, Option.bind_some, hlatest last rfl]
        exact hfollows
    have hrest : latestGuardFrom (rest.map guardCandidate) ((some file).map (·.content))
        (file.artifactSequence :: sequences) =
          .ok ((rest.getLast?.or (some file)).map (·.content)) := by
      refine ih ?_ ?_ (List.pairwise_cons.mp hordered).2 ?_
      · intro other hother
        obtain ⟨hrecord, hnumber, hpositive, hunseen⟩ := hfiles other (by simp [hother])
        refine ⟨hrecord, hnumber, hpositive, ?_⟩
        have hlater := (List.pairwise_cons.mp hordered).1 other hother
        simp only [List.mem_cons, not_or]
        exact ⟨by omega, hunseen⟩
      · rintro last hlast
        rw [← Option.some.inj hlast]
        exact hsequence
      · exact hchained.suffix (List.suffix_append _ _)
    have hfilter : (file.content.u64? "artifact_sequence").filter (0 < ·) =
        some file.artifactSequence := by
      rw [hsequence]
      simp [hpos]
    rw [List.map_cons, latestGuardFrom]
    simp only [guardCandidate, hfilter, bind, Except.bind, if_neg hnew,
      hdocument.snapshot file.path, if_neg hlink]
    rw [List.getLast?_cons]
    refine Eq.trans hrest ?_
    cases rest.getLast? <;> rfl

theorem Ledger.familyFiles_guard_perm (h : Ledger validate pr store)
    (hbinding : validateSequenceBinding pr binding) (order : ListingOrder) :
    (familyFiles order binding guardFamily store).Perm (guardFiles store) := by
  have hroot : historyRootForFamily store.root binding guardFamily =
      historyRootForFamily store.root pr guardFamily := by
    unfold historyRootForFamily
    rw [bindingRoot_eq hbinding]
  have hfilter : guardFiles store = store.history.filter fun file =>
      file.path.parent == historyRootForFamily store.root binding guardFamily := by
    refine List.filter_congr fun file hfile => ?_
    have hiff := (h.snapshots file hfile).parent_iff plainFamily_guard
    rw [hroot]
    by_cases hfamily : file.family = guardFamily
    · simp [hfamily, hiff.mpr hfamily]
    · have hparent := mt hiff.mp hfamily
      simp [hfamily, hparent]
  rw [hfilter]
  exact (order.perm store.history).filter _

theorem Ledger.readPrIdentityHistoryCandidates_guard
    (h : Ledger validate pr store)
    (hbinding : validateSequenceBinding pr binding)
    (hlength : (guardFiles store).length ≤ maxArtifactScanFiles) (order : ListingOrder) :
    ∃ candidates, readPrIdentityHistoryCandidates validate order binding
        guardFamily store = .ok candidates ∧
      candidates.Perm ((guardFiles store).map guardCandidate) := by
  have hfiles := h.familyFiles_guard_perm hbinding order
  unfold readPrIdentityHistoryCandidates recoverableHistoryCandidates
  dsimp only
  rw [if_neg (by rw [hfiles.length_eq]; exact Nat.not_lt_of_le hlength)]
  refine ⟨_, rfl, ?_⟩
  refine (((List.perm_insertionSort _ _).map _).trans ?_)
  rw [List.map_map]
  refine (hfiles.map _).trans (List.Perm.of_eq ?_)
  refine List.map_congr_left fun file hfile => ?_
  obtain ⟨hmem, hfamily⟩ := mem_guardFiles.mp hfile
  have hchecked := h.snapshots file hmem
  obtain ⟨error, hcandidate⟩ := hchecked.recoverableHistoryCandidate_eq binding guardFamily
  rw [Function.comp_apply, hcandidate, ← hfamily, hchecked.prIdentityCandidate_eq hbinding]
  rfl

/-- **The guard before is the one that was written last.** -/
theorem GuardLedger.latestGuardForCurrentRun_eq (h : GuardLedger validate pr store)
    (hbinding : validateSequenceBinding pr binding)
    (hlength : (guardFiles store).length ≤ maxArtifactScanFiles) (order : ListingOrder) :
    latestGuardForCurrentRun validate order binding store =
      .ok store.lastGuard := by
  obtain ⟨candidates, hread, hperm⟩ :=
    h.ledger.readPrIdentityHistoryCandidates_guard hbinding hlength order
  have hnumber : ∀ file ∈ guardFiles store,
      (guardCandidate file).artifactSequence = file.artifactSequence := by
    intro file hfile
    have hsequence := (h.ledger.snapshots file (mem_guardFiles.mp hfile).1).u64_artifactSequence
    unfold RecoverableHistoryCandidate.artifactSequence guardCandidate
    rw [Option.bind_some, hsequence]
    rfl
  have hordered : (guardFiles store).Pairwise fun a b => a.artifactSequence < b.artifactSequence :=
    (List.pairwise_map.mp h.ordered).filter _
  have hsorted : candidates.insertionSort (fun a b => a.artifactSequence ≤ b.artifactSequence) =
      (guardFiles store).map guardCandidate := by
    refine List.Perm.eq_of_pairwise ?_ (List.pairwise_insertionSort _ _) ?_
      ((List.perm_insertionSort _ _).trans hperm)
    · intro a b ha hb hab hba
      obtain ⟨file, hfile, rfl⟩ := List.mem_map.mp
        (((List.perm_insertionSort _ _).trans hperm).mem_iff.mp ha)
      obtain ⟨other, hother, rfl⟩ := List.mem_map.mp hb
      rw [hnumber file hfile, hnumber other hother] at hab hba
      rw [h.ledger.eq_of_artifactSequence (mem_guardFiles.mp hfile).1
        (mem_guardFiles.mp hother).1 (Nat.le_antisymm hab hba)]
    · rw [List.pairwise_map]
      refine hordered.imp_of_mem fun ha hb hlt => ?_
      rw [hnumber _ ha, hnumber _ hb]
      exact Nat.le_of_lt hlt
  unfold latestGuardForCurrentRun
  simp only [hread, bind, Except.bind, hsorted]
  have hfiles : ∀ file ∈ guardFiles store, (∃ record, GuardDocument file.content record) ∧
      file.content.u64? "artifact_sequence" = some file.artifactSequence ∧
      0 < file.artifactSequence ∧ file.artifactSequence ∉ ([] : List Nat) := by
    intro file hfile
    obtain ⟨hmem, -⟩ := mem_guardFiles.mp hfile
    obtain ⟨record, hdocument, -⟩ := h.documents file hfile
    exact ⟨⟨record, hdocument⟩, (h.ledger.snapshots file hmem).u64_artifactSequence,
      h.ledger.artifactSequence_pos hmem, by simp⟩
  have hnone : ∀ last ∈ (none : Option ContainedFile),
      last.content.u64? "artifact_sequence" = some last.artifactSequence := by simp
  have hlast := latestGuardFrom_eq hfiles hnone hordered (by simpa using h.chained)
  rw [Option.or_none] at hlast
  exact hlast

end Reading

/-! ### What an execution counts -/

def readGuardRecord (value : Json) : GuardRecord where
  iterationIndex := (value.u64? "iteration_index").getD 0
  reviewIterationIndex := (value.u64? "review_iteration_index").getD 0
  headSha := ((value.get? "head_sha").bind Json.asStr?).getD ""

theorem GuardDocument.read {value : Json} {record : GuardRecord} (h : GuardDocument value record) :
    readGuardRecord value = record := by
  unfold readGuardRecord
  rw [h.iteration, h.review, h.head]
  rfl

/-- The counts that are persisted, and the head that they are about. -/
def ArtifactStore.lastRecord (store : ArtifactStore) : Option GuardRecord :=
  store.lastGuard.map readGuardRecord

/-- The record that follows another: a round more where the head is new, and a reviewer's where
no failure was read. -/
def GuardRecord.next (headSha : String) (hadCiFailures : Bool) : Option GuardRecord → GuardRecord
  | none => ⟨0, 0, headSha⟩
  | some record =>
    if record.headSha = headSha then record
    else
      ⟨record.iterationIndex + 1,
        if hadCiFailures then record.reviewIterationIndex else record.reviewIterationIndex + 1,
        headSha⟩

/-- Whether the record is over one of the budgets of a call. -/
def GuardRecord.exceeds (params : Json) (record : GuardRecord) : Bool :=
  decide (u64Param params "max_post_pr_remediation_iterations" 3 < record.iterationIndex) ||
    decide (u64Param params "max_review_remediation_iterations" 2 < record.reviewIterationIndex)

section Execution

variable {validate : FamilyInvariants} {pr : PrFollowupBinding}
  {store : ArtifactStore} {call : GuardCall}

theorem GuardLedger.lastGuard_cases (h : GuardLedger validate pr store) :
    (store.lastGuard = none ∧ store.lastRecord = none ∧ guardFiles store = []) ∨
      ∃ file record, (guardFiles store).getLast? = some file ∧
        store.lastGuard = some file.content ∧ store.lastRecord = some record ∧
        GuardDocument file.content record ∧
        record.reviewIterationIndex ≤ record.iterationIndex ∧
        record.iterationIndex < file.artifactSequence := by
  unfold ArtifactStore.lastRecord ArtifactStore.lastGuard
  cases hlast : (guardFiles store).getLast? with
  | none => exact Or.inl ⟨rfl, rfl, List.getLast?_eq_none_iff.mp hlast⟩
  | some file =>
    obtain ⟨record, hdocument, hreview, hiteration⟩ :=
      h.documents file (List.mem_of_getLast? hlast)
    refine Or.inr ⟨file, record, rfl, rfl, ?_, hdocument, hreview, hiteration⟩
    rw [Option.map_some, Option.map_some, hdocument.read]

theorem Ledger.previousRoundHadCiFailures_ok (h : Ledger validate pr store)
    {binding : PrFollowupBinding} (hbinding : validateSequenceBinding pr binding) :
    ∃ hadCiFailures,
      previousRoundHadCiFailures validate binding store = .ok hadCiFailures := by
  have hread := h.readOptionalCurrentJsonForHead_eq plainFamily_ciFailures hbinding
  unfold previousRoundHadCiFailures
  cases hfile : store.currentFile binding ciFailuresFamily with
  | none =>
    rw [hfile] at hread
    rw [hread]
    exact ⟨true, rfl⟩
  | some file =>
    rw [hfile] at hread
    obtain ⟨actual, -, -, hvalue⟩ := hread
    rw [hvalue]
    simp only [bind, Except.bind]
    split
    · exact ⟨true, rfl⟩
    · split <;> exact ⟨_, rfl⟩

variable {hadCiFailures : Bool} {value : Json} {failure : Option (Nat × ArtifactFailure)}
  {record : GuardRecord} {next : ArtifactStore}

/-- **An execution finds the round that follows the last one.** -/
theorem GuardLedger.guardReading_eq (h : GuardLedger validate pr store)
    (hbinding : validateSequenceBinding pr call.binding)
    (hlength : (guardFiles store).length ≤ maxArtifactScanFiles)
    (hround : previousRoundHadCiFailures validate call.binding store =
      .ok hadCiFailures) :
    ∃ budget, guardReading validate call store = .ok (store.lastGuard, budget) ∧
      let record := GuardRecord.next call.binding.headSha hadCiFailures store.lastRecord
      (nextIteration call.binding store.lastGuard).1 = record.iterationIndex ∧
        budget.reviewIterationIndex = record.reviewIterationIndex ∧
        budget.exceeded = record.exceeds call.params := by
  have hlatest := h.latestGuardForCurrentRun_eq hbinding hlength call.order
  unfold guardReading
  simp only [hlatest, bind, Except.bind]
  unfold RemediationBudget.evaluate
  rcases h.lastGuard_cases with ⟨hnone, hrecord, -⟩ |
    ⟨file, record, hmem, hguard, hrecord, hdocument, hreview, hiteration⟩
  · rw [hnone, hrecord]
    refine ⟨_, rfl, rfl, rfl, rfl⟩
  · have hsmall : file.artifactSequence < 2 ^ 64 := by
      obtain ⟨hfile, -⟩ := mem_guardFiles.mp (List.mem_of_getLast? hmem)
      exact requireU64_lt (h.ledger.snapshots file hfile).artifact
    rw [hguard, hrecord]
    simp only [nextIteration, GuardRecord.next, hdocument.iteration, hdocument.head,
      Option.getD_some, Option.some.injEq]
    by_cases hsame : record.headSha = call.binding.headSha
    · simp only [if_pos hsame, Luther.reviewIterationIndex, hdocument.iteration, hdocument.review,
        Option.getD_some, if_true, bind, Except.bind]
      refine ⟨_, rfl, trivial, rfl, rfl⟩
    · have hother : ¬ record.iterationIndex + 1 = record.iterationIndex := by omega
      have hsaturated : min (record.reviewIterationIndex + 1) (2 ^ 64 - 1) =
          record.reviewIterationIndex + 1 := by omega
      simp only [if_neg hsame, Luther.reviewIterationIndex, hdocument.iteration,
        hdocument.review, Option.getD_some, hother, if_false, hround, hsaturated, bind,
        Except.bind]
      refine ⟨_, rfl, trivial, rfl, rfl⟩

/-! ### The document of an execution -/

variable {key root headSha : String} {previous : Option Json} {budget : RemediationBudget}
  {sequence : ArtifactSequenceMetadata} {last : Option GuardRecord}

theorem u64Param_lt {params : Json} {default : Nat} (h : default < 2 ^ 64) :
    u64Param params key default < 2 ^ 64 := by
  unfold u64Param Json.u64?
  cases hread : (params.get? key).bind Json.asU64? with
  | none => exact h
  | some n =>
    obtain ⟨v, -, hv⟩ := Option.bind_eq_some_iff.mp hread
    exact asU64?_lt hv

theorem u64?_of_get? {n : Nat} (hget : value.get? key = some (.num n))
    (h : n < 2 ^ 64) : value.u64? key = some n := by
  unfold Json.u64?
  rw [hget, Option.bind_some, Json.asU64?_natCast h]

/-- **The document of an execution says what the execution has counted.** -/
theorem guardDocument_of_envelope
    (h : envelope root (guardRequest call previous budget) sequence failure = .ok value)
    (hiteration : (nextIteration call.binding previous).1 = record.iterationIndex)
    (hreview : budget.reviewIterationIndex = record.reviewIterationIndex)
    (hhead : record.headSha = call.binding.headSha)
    (hsmall : record.iterationIndex < 2 ^ 64 ∧ record.reviewIterationIndex < 2 ^ 64) :
    GuardDocument value record := by
  constructor
  case state =>
    rw [get?_payload h (by decide)]
    show some budget.guardState = _ ∨ some budget.guardState = _
    unfold RemediationBudget.guardState
    by_cases hexceeded : budget.exceeded = true
    · exact Or.inr (by rw [if_pos hexceeded])
    · exact Or.inl (by rw [if_neg hexceeded])
  case iteration =>
    refine u64?_of_get? ?_ hsmall.1
    rw [get?_payload h (by decide), ← hiteration]
    rfl
  case maximum =>
    have hmaximum : value.u64? "max_post_pr_remediation_iterations" =
        some (u64Param call.params "max_post_pr_remediation_iterations" 3) := by
      refine u64?_of_get? ?_ (u64Param_lt (by decide))
      rw [get?_payload h (by decide)]
      rfl
    rw [hmaximum]
    simp
  case review =>
    refine u64?_of_get? ?_ hsmall.2
    rw [get?_payload h (by decide), ← hreview]
    rfl
  case head =>
    have hget : value.get? "head_sha" = some (.str call.binding.headSha) :=
      get?_binding h (by simp [bindingFields, guardRequest] : ("head_sha", _) ∈ _)
    rw [hget, hhead]
    rfl

theorem guardRequest_wellFormed (hbinding : validateSequenceBinding pr call.binding)
    (budget : RemediationBudget)
    (hprevious : ∀ guard ∈ previous, ∃ record, GuardDocument guard record) :
    WellFormed pr (guardRequest call previous budget) where
  binding := hbinding
  producer := by simp [guardRequest]
  unnamed := rfl
  successful := fun _ => rfl
  shallow := by
    have hhead : (nextIteration call.binding previous).2.1.depth = 0 := by
      unfold nextIteration
      cases previous with
      | none => rfl
      | some guard =>
        obtain ⟨record, hdocument⟩ := hprevious guard rfl
        obtain ⟨head, hget, hstr⟩ := Option.bind_eq_some_iff.mp hdocument.head
        dsimp only
        split
        · rfl
        · rw [hget]
          cases head <;> first | rfl | simp [Json.asStr?] at hstr
    have hsequence : (jsonOfSequence
        (previous.bind (Json.u64? "artifact_sequence"))).depth = 0 := by
      unfold jsonOfSequence
      split <;> rfl
    simp [guardRequest, Json.depth, Json.depthEntries, Json.depthList, hhead, hsequence]
  details := by
    intro failure hfailure
    have hdetails : (guardRequest call previous budget).failure =
        budget.failure (nextIteration call.binding previous).1
          (u64Param call.params "max_post_pr_remediation_iterations" 3)
          (u64Param call.params "max_review_remediation_iterations" 2) := rfl
    rw [hdetails] at hfailure
    unfold RemediationBudget.failure at hfailure
    by_cases hexceeded : budget.exceeded = true
    · rw [if_pos hexceeded] at hfailure
      rw [← Option.some.inj hfailure]
      show Json.depthEntries _ + 1 < 127
      simp only [Json.depthEntries, Json.depth]
      decide
    · rw [if_neg hexceeded] at hfailure
      simp at hfailure

/-! ### One more document -/

variable {file : ContainedFile}

theorem guardFiles_append_guard (hfamily : file.family = guardFamily) :
    guardFiles (store.append file) = guardFiles store ++ [file] := by
  simp [guardFiles, ArtifactStore.append, hfamily]

theorem guardFiles_append_other (hfamily : file.family ≠ guardFamily) :
    guardFiles (store.append file) = guardFiles store := by
  simp [guardFiles, ArtifactStore.append, hfamily]

theorem guardFiles_congr (h : next.history = store.history) :
    guardFiles next = guardFiles store := by
  unfold guardFiles
  rw [h]

/-- **A guard that names the last one is added behind it.** -/
theorem GuardLedger.append_guard (h : GuardLedger validate pr store)
    (hledger : Ledger validate pr (store.append file))
    (hnumber : file.artifactSequence = largest (store.history.map (·.artifactSequence)) + 1)
    (hfamily : file.family = guardFamily) (hdocument : GuardDocument file.content record)
    (hreview : record.reviewIterationIndex ≤ record.iterationIndex)
    (hiteration : record.iterationIndex < file.artifactSequence)
    (hfollows : ∀ last ∈ (guardFiles store).getLast?, Follows last file) :
    GuardLedger validate pr (store.append file) where
  ledger := hledger
  ordered := ordered_append h.ordered hnumber
  documents := by
    intro other hother
    rw [guardFiles_append_guard hfamily] at hother
    rcases List.mem_append.mp hother with hold | hnew
    · exact h.documents other hold
    · rw [List.mem_singleton.mp hnew]
      exact ⟨record, hdocument, hreview, hiteration⟩
  chained := by
    rw [guardFiles_append_guard hfamily]
    refine List.isChain_append.mpr ⟨h.chained, List.isChain_singleton _, ?_⟩
    intro last hlast first hfirst
    rw [← Option.some.inj hfirst]
    exact hfollows last hlast

theorem GuardLedger.append_other (h : GuardLedger validate pr store)
    (hledger : Ledger validate pr (store.append file))
    (hnumber : file.artifactSequence = largest (store.history.map (·.artifactSequence)) + 1)
    (hfamily : file.family ≠ guardFamily) :
    GuardLedger validate pr (store.append file) where
  ledger := hledger
  ordered := ordered_append h.ordered hnumber
  documents := by
    rw [guardFiles_append_other hfamily]
    exact h.documents
  chained := by
    rw [guardFiles_append_other hfamily]
    exact h.chained

theorem GuardLedger.of_history (h : GuardLedger validate pr store)
    (hledger : Ledger validate pr next) (hhistory : next.history = store.history) :
    GuardLedger validate pr next where
  ledger := hledger
  ordered := hhistory ▸ h.ordered
  documents := guardFiles_congr hhistory ▸ h.documents
  chained := guardFiles_congr hhistory ▸ h.chained

theorem lastRecord_of_guardFiles {files : List ContainedFile}
    (h : guardFiles next = files ++ [file]) (hdocument : GuardDocument file.content record) :
    next.lastRecord = some record := by
  unfold ArtifactStore.lastRecord ArtifactStore.lastGuard
  rw [h, List.getLast?_append_of_ne_nil _ (by simp)]
  simp [hdocument.read]

/-! ### One execution -/

/-- What an execution that writes its artifact leaves, and answers. -/
structure Guarded (store : ArtifactStore) (call : GuardCall) (hadCiFailures : Bool)
    (answer : Except String StepOutcome) (next : ArtifactStore) : Prop where
  written : ∃ file, next.history = store.history ++ [file]
  record : next.lastRecord =
    some (GuardRecord.next call.binding.headSha hadCiFailures store.lastRecord)
  outcome : ∀ outcome, answer = .ok outcome → outcome =
    if (GuardRecord.next call.binding.headSha hadCiFailures store.lastRecord).exceeds call.params
    then .fatal else .success

theorem next_review_le (h : ∀ record ∈ last, record.reviewIterationIndex ≤ record.iterationIndex) :
    (GuardRecord.next headSha hadCiFailures last).reviewIterationIndex ≤
      (GuardRecord.next headSha hadCiFailures last).iterationIndex := by
  unfold GuardRecord.next
  cases last with
  | none => exact Nat.le_refl 0
  | some record =>
    have hrecord := h record rfl
    dsimp only
    split
    · exact hrecord
    · dsimp only
      split <;> omega

theorem next_headSha (last : Option GuardRecord) (headSha : String) (hadCiFailures : Bool) :
    (GuardRecord.next headSha hadCiFailures last).headSha = headSha := by
  unfold GuardRecord.next
  cases last with
  | none => rfl
  | some record =>
    dsimp only
    split
    · assumption
    · rfl

theorem next_iteration_le {bound : Nat} (h : ∀ record ∈ last, record.iterationIndex < bound) :
    (GuardRecord.next headSha hadCiFailures last).iterationIndex ≤ bound := by
  unfold GuardRecord.next
  cases last with
  | none => exact Nat.zero_le bound
  | some record =>
    have hrecord := h record rfl
    dsimp only
    split
    · exact Nat.le_of_lt hrecord
    · exact hrecord

section

variable (h : GuardLedger validate pr store)

include h

theorem GuardLedger.documented :
    ∀ guard ∈ store.lastGuard, ∃ record, GuardDocument guard record := by
  intro guard hguard
  rcases h.lastGuard_cases with ⟨hnone, -⟩ | ⟨file, record, -, hsome, -, hdocument, -⟩
  · simp [hnone] at hguard
  · rw [hsome] at hguard
    exact ⟨record, Option.some.inj hguard ▸ hdocument⟩

theorem GuardLedger.review_le :
    ∀ record ∈ store.lastRecord, record.reviewIterationIndex ≤ record.iterationIndex := by
  intro last hlast
  rcases h.lastGuard_cases with ⟨-, hnone, -⟩ | ⟨file, record, -, -, hsome, -, hreview, -⟩
  · simp [hnone] at hlast
  · rw [hsome] at hlast
    exact Option.some.inj hlast ▸ hreview

theorem GuardLedger.iteration_lt :
    ∀ record ∈ store.lastRecord,
      record.iterationIndex < largest (store.history.map (·.artifactSequence)) := by
  intro last hlast
  rcases h.lastGuard_cases with ⟨-, hnone, -⟩ | ⟨file, record, hmem, -, hsome, -, -, hlt⟩
  · simp [hnone] at hlast
  · rw [hsome] at hlast
    obtain rfl := Option.some.inj hlast
    have hfile := (mem_guardFiles.mp (List.mem_of_getLast? hmem)).1
    exact Nat.lt_of_lt_of_le hlt (le_largest (List.mem_map_of_mem hfile))

theorem follows_of_envelope
    (hvalue : envelope root (guardRequest call store.lastGuard budget) sequence failure
      = .ok value) :
    ∀ last ∈ (guardFiles store).getLast?,
      Follows last (historyFile root (guardRequest call store.lastGuard budget) sequence
        value) := by
  intro last hlast
  have hmem := (mem_guardFiles.mp (List.mem_of_getLast? hlast)).1
  have hchecked := h.ledger.snapshots last hmem
  refine u64?_of_get? ?_ (requireU64_lt hchecked.artifact)
  refine (get?_payload hvalue (by decide)).trans ?_
  show some (jsonOfSequence (store.lastGuard.bind (Json.u64? "artifact_sequence"))) = _
  have hguard : store.lastGuard = some last.content := by
    unfold ArtifactStore.lastGuard
    rw [Option.mem_def.mp hlast]
    rfl
  rw [hguard, Option.bind_some, hchecked.u64_artifactSequence]
  rfl

omit h in
theorem guardReading_of_long (hbinding : validateSequenceBinding pr call.binding)
    (hlength : maxArtifactScanFiles < (guardFiles store).length) (h : Ledger validate pr store) :
    ∃ error, guardReading validate call store = .error error := by
  have hfiles := h.familyFiles_guard_perm hbinding call.order
  unfold guardReading latestGuardForCurrentRun readPrIdentityHistoryCandidates
    recoverableHistoryCandidates
  dsimp only
  rw [if_pos (by rw [hfiles.length_eq]; exact hlength)]
  exact ⟨_, rfl⟩

/-- **An execution leaves the store as it is, without an outcome, or writes the round that
follows the last one.** -/
theorem GuardLedger.execute_cases (hbinding : validateSequenceBinding pr call.binding)
    (hgate : call.scopeReviewGate = .ok true) :
    ∃ hadCiFailures, previousRoundHadCiFailures validate call.binding store =
        .ok hadCiFailures ∧
      let result := executeGuard validate call store
      GuardLedger validate pr result.2 ∧
        ((result.2 = store ∧ result.1.isOk = false) ∨
          Guarded store call hadCiFailures result.1 result.2) := by
  obtain ⟨hadCiFailures, hround⟩ := h.ledger.previousRoundHadCiFailures_ok hbinding
  refine ⟨hadCiFailures, hround, ?_⟩
  unfold executeGuard
  rw [hgate]
  by_cases hlength : (guardFiles store).length ≤ maxArtifactScanFiles
  · obtain ⟨budget, hreading, hiteration, hreview, hexceeded⟩ :=
      h.guardReading_eq hbinding hlength hround
    have hrequest := guardRequest_wellFormed hbinding budget h.documented
    simp only [hreading]
    generalize hrecord : GuardRecord.next call.binding.headSha hadCiFailures store.lastRecord =
      record at hiteration hreview hexceeded
    have hcases := h.ledger.write_cases call.order hrequest call.publication
    generalize writeJsonArtifactLocked validate call.order
      (guardRequest call store.lastGuard budget) call.publication store = result at hcases
    obtain ⟨written, next⟩ := result
    rcases hcases with ⟨hsame, herror⟩ |
      ⟨value, hvalue, hfamily, hnumber, happend, hledger, hhistory⟩
    · obtain rfl : next = store := hsame
      refine ⟨h, Or.inl ⟨rfl, ?_⟩⟩
      cases written with
      | error error => rfl
      | ok written => simp [Except.isOk, Except.toBool] at herror
    · have hlarge : record.iterationIndex ≤ largest (store.history.map (·.artifactSequence)) :=
        hrecord ▸ next_iteration_le h.iteration_lt
      have hreviewed : record.reviewIterationIndex ≤ record.iterationIndex :=
        hrecord ▸ next_review_le h.review_le
      have hsmall := requireU64_lt
        (happend.snapshots _ (List.mem_append_right _ (List.mem_singleton_self _))).artifact
      rw [hnumber] at hsmall
      have hdocument := guardDocument_of_envelope hvalue hiteration hreview
        (hrecord ▸ next_headSha _ _ _) ⟨by omega, by omega⟩
      have hadded := h.append_guard happend hnumber hfamily hdocument hreviewed (by omega)
        (follows_of_envelope h hvalue)
      have hfiles := (guardFiles_congr hhistory).trans (guardFiles_append_guard hfamily)
      refine ⟨hadded.of_history hledger hhistory, Or.inr ⟨⟨_, hhistory⟩, ?_, ?_⟩⟩
      · rw [hrecord]
        exact lastRecord_of_guardFiles hfiles hdocument
      · intro outcome houtcome
        rw [hrecord, ← hexceeded]
        cases written with
        | error error => simp [Except.map] at houtcome
        | ok written => exact (Except.ok.inj houtcome).symm
  · obtain ⟨error, hrefused⟩ := guardReading_of_long hbinding (Nat.lt_of_not_le hlength) h.ledger
    simp only [hrefused]
    exact ⟨h, Or.inl ⟨trivial, rfl⟩⟩

theorem GuardLedger.write_other {call : WriteCall} (hrequest : WellFormed pr call.request)
    (hfamily : call.request.artifactFamily ≠ guardFamily) :
    let next := (writeJsonArtifactLocked validate call.order call.request
      call.publication store).2
    GuardLedger validate pr next ∧ next.lastRecord = store.lastRecord := by
  intro next
  rcases h.ledger.write_cases call.order hrequest call.publication with ⟨hsame, -⟩ |
    ⟨value, -, hwritten, hnumber, happend, hledger, hhistory⟩
  · have hnext : next = store := hsame
    rw [hnext]
    exact ⟨h, rfl⟩
  · have hother := hwritten ▸ hfamily
    have hfiles : guardFiles next = guardFiles store :=
      (guardFiles_congr hhistory).trans (guardFiles_append_other hother)
    refine ⟨(h.append_other happend hnumber hother).of_history hledger hhistory, ?_⟩
    unfold ArtifactStore.lastRecord ArtifactStore.lastGuard
    rw [hfiles]

theorem GuardLedger.execute_failed (hbinding : validateSequenceBinding pr call.binding)
    (hgate : call.scopeReviewGate = .ok true) {error : String}
    (hpublication : call.publication = .failed error) :
    (executeGuard validate call store).2 = store := by
  obtain ⟨hadCiFailures, hround⟩ := h.ledger.previousRoundHadCiFailures_ok hbinding
  unfold executeGuard
  rw [hgate]
  by_cases hlength : (guardFiles store).length ≤ maxArtifactScanFiles
  · obtain ⟨budget, hreading, -⟩ := h.guardReading_eq hbinding hlength hround
    have hrequest := guardRequest_wellFormed hbinding budget h.documented
    simp only [hreading, hpublication]
    exact h.ledger.write_failed call.order hrequest error
  · obtain ⟨error, hrefused⟩ := guardReading_of_long hbinding (Nat.lt_of_not_le hlength) h.ledger
    simp only [hrefused]

theorem GuardLedger.execute_published (hbinding : validateSequenceBinding pr call.binding)
    (hgate : call.scopeReviewGate = .ok true)
    (hlength : store.history.length ≤ maxArtifactScanFiles)
    (hpublication : call.publication = .published)
    (haccepted : ∀ value, validate guardFamily value = .ok ()) :
    (executeGuard validate call store).1.isOk = true := by
  obtain ⟨hadCiFailures, hround⟩ := h.ledger.previousRoundHadCiFailures_ok hbinding
  have hguards : (guardFiles store).length ≤ maxArtifactScanFiles :=
    Nat.le_trans (List.length_filter_le _ _) hlength
  obtain ⟨budget, hreading, -⟩ := h.guardReading_eq hbinding hguards hround
  have hrequest := guardRequest_wellFormed hbinding budget h.documented
  have hwritten := (h.ledger.write ⟨call.order, guardRequest call store.lastGuard budget,
    call.publication⟩ hrequest hlength).2.published hpublication ⟨_, rfl⟩
    fun value _ => haccepted value
  unfold StateMachine.answer artifactMachine at hwritten
  dsimp only at hwritten
  unfold executeGuard
  rw [hgate]
  simp only [hreading]
  generalize writeJsonArtifactLocked validate call.order
    (guardRequest call store.lastGuard budget) call.publication store = result at hwritten
  obtain ⟨written, next⟩ := result
  cases written with
  | error error => simp [Except.isOk, Except.toBool] at hwritten
  | ok written => rfl

end

end Execution


/-! ### The rounds of a run -/

def namesNoFailure : Except String (Option Json) → Bool
  | .ok (some ciFailures) => ciFailures.get? "failures" == some (.arr [])
  | _ => false

/-- Whether the head has a current `ci-failures` artifact that can be read, and names none. -/
def headIsGreen (validate : FamilyInvariants) (binding : PrFollowupBinding)
    (headSha : String) (store : ArtifactStore) : Bool :=
  match store.currentFile binding ciFailuresFamily with
  | none => false
  | some file =>
    match bindingFromValue file.content with
    | .error _ => false
    | .ok actual => actual.headSha == headSha && namesNoFailure
        (readOptionalCurrentJsonForHead validate actual ciFailuresFamily store)

/-- An execution whose artifact was written: its head, and whether no check had failed of the
head before it. -/
structure CompletedExecution where
  headSha : String
  previousHeadGreen : Bool

/-- The store, and the executions whose artifacts it has, the latest first. -/
structure GuardWorld where
  store : ArtifactStore
  completed : List CompletedExecution := []

def headChanges : List CompletedExecution → Nat
  | [] => 0
  | [_] => 0
  | later :: earlier :: rest =>
    (if earlier.headSha = later.headSha then 0 else 1) + headChanges (earlier :: rest)

/-- How often the head has changed after a round in which no check had failed. -/
def reviewRounds : List CompletedExecution → Nat
  | [] => 0
  | [_] => 0
  | later :: earlier :: rest =>
    (if earlier.headSha = later.headSha then 0 else if later.previousHeadGreen then 1 else 0) +
      reviewRounds (earlier :: rest)

/-- The record that the completed executions ask for. -/
def expectedRecord (completed : List CompletedExecution) : Option GuardRecord :=
  completed.head?.map fun last => ⟨headChanges completed, reviewRounds completed, last.headSha⟩

/-- The executions of the guard and the writes of the other producers, in any order. -/
def guardMachine (validate : FamilyInvariants) :
    StateMachine GuardWorld GuardStep (Except String (Option StepOutcome)) where
  start world := world.store.history = [] ∧ world.store.current = [] ∧ world.completed = []
  step world
    | .guard call =>
      let (answer, store) := executeGuard validate call world.store
      let green := world.completed.head?.any fun last =>
        headIsGreen validate call.binding last.headSha world.store
      let completed :=
        if store.history.length = world.store.history.length then world.completed
        else ⟨call.binding.headSha, green⟩ :: world.completed
      (answer.map some, { store := store, completed := completed })
    | .write call =>
      let (written, store) := writeJsonArtifactLocked validate call.order
        call.request call.publication world.store
      (written.map fun _ => none, { world with store := store })

/-- The steps of a run: executions for the pull request that scope control permits, and writes
of other families. -/
def GuardStep.Permitted (pr : PrFollowupBinding) : GuardStep → Prop
  | .guard call => validateSequenceBinding pr call.binding = true ∧ call.scopeReviewGate = .ok true
  | .write call => WellFormed pr call.request ∧ call.request.artifactFamily ≠ guardFamily

/-- The head and base that the current `ci-failures` artifact is about, where it names no
failure. -/
def ArtifactStore.greenRevision (binding : PrFollowupBinding) (store : ArtifactStore) :
    Option (String × Option String) :=
  match store.currentFile binding ciFailuresFamily with
  | none => none
  | some file =>
    if file.content.get? "failures" = some (.arr []) then
      (bindingFromValue file.content).toOption.map fun actual =>
        (actual.headSha, actual.baseSha)
    else none

/-- Where an execution that can write finds a new head, the current `ci-failures` artifact names
a failure, or is neither about the head before nor about the new one. -/
def RoundRecognized (world : GuardWorld) : GuardStep → Prop
  | .guard call => (∀ error, call.publication ≠ .failed error) →
      ∀ last ∈ world.completed.head?, last.headSha ≠ call.binding.headSha →
        ∀ revision ∈ world.store.greenRevision call.binding,
          revision.1 ≠ last.headSha ∧ revision ≠ (call.binding.headSha, call.binding.baseSha)
  | .write _ => True

section Rounds

variable {validate : FamilyInvariants} {pr binding : PrFollowupBinding}
  {store : ArtifactStore}

theorem currentFile_binding {actual : PrFollowupBinding}
    (hbinding : validateSequenceBinding pr binding)
    (hactual : validateSequenceBinding pr actual) (family : String) :
    store.currentFile actual family = store.currentFile binding family := by
  unfold ArtifactStore.currentFile canonicalPath
  rw [bindingRoot_eq hbinding, bindingRoot_eq hactual]

/-- **A head is green where the revision that names no failure is its own.** -/
theorem Ledger.headIsGreen_iff (h : Ledger validate pr store)
    (hbinding : validateSequenceBinding pr binding) (headSha : String) :
    headIsGreen validate binding headSha store = true ↔
      ∃ revision ∈ store.greenRevision binding, revision.1 = headSha := by
  have hread := h.readOptionalCurrentJsonForHead_eq plainFamily_ciFailures hbinding
  unfold headIsGreen ArtifactStore.greenRevision
  cases hfile : store.currentFile binding ciFailuresFamily with
  | none => simp
  | some file =>
    rw [hfile] at hread
    obtain ⟨actual, hactual, hpr, -⟩ := hread
    have hown := h.readOptionalCurrentJsonForHead_eq plainFamily_ciFailures hpr
    rw [currentFile_binding hbinding hpr, hfile] at hown
    obtain ⟨actual', hactual', -, hvalue⟩ := hown
    obtain rfl : actual' = actual := Except.ok.inj (hactual'.symm.trans hactual)
    simp only [hactual, hvalue, if_true, namesNoFailure, Except.toOption, Option.map_some,
      Bool.and_eq_true, beq_iff_eq]
    by_cases hempty : file.content.get? "failures" = some (.arr [])
    · simp [hempty]
    · simp [hempty]

/-- **No failure is read of the round before where the revision that names none is the new
one.** -/
theorem Ledger.previousRoundHadCiFailures_iff (h : Ledger validate pr store)
    (hbinding : validateSequenceBinding pr binding) :
    previousRoundHadCiFailures validate binding store = .ok false ↔
      (binding.headSha, binding.baseSha) ∈ store.greenRevision binding := by
  have hread := h.readOptionalCurrentJsonForHead_eq plainFamily_ciFailures hbinding
  unfold previousRoundHadCiFailures ArtifactStore.greenRevision
  cases hfile : store.currentFile binding ciFailuresFamily with
  | none =>
    rw [hfile] at hread
    simp [hread, bind, Except.bind]
  | some file =>
    rw [hfile] at hread
    obtain ⟨actual, hactual, hpr, hvalue⟩ := hread
    have hsame := binding_eq_iff hpr hbinding
    rw [hvalue]
    simp only [bind, Except.bind, hactual, Except.toOption, Option.map_some]
    by_cases hown : actual = binding
    · obtain ⟨hhead, hbase⟩ := hsame.mp hown
      rw [if_pos hown]
      simp only [hhead, hbase]
      cases hfailures : file.content.get? "failures" with
      | none => simp
      | some failures =>
        cases failures with
        | arr failures => cases failures <;> simp
        | null | bool | num | str | obj => simp
    · rw [if_neg hown]
      have hother : actual.headSha = binding.headSha → ¬ actual.baseSha = binding.baseSha :=
        fun hhead hbase => hown (hsame.mpr ⟨hhead, hbase⟩)
      by_cases hempty : file.content.get? "failures" = some (.arr [])
      · simpa [hempty] using hother
      · simp [hempty]

/-! ### One step of a run -/

/-- What holds in every state of a run: the persisted counts are those of the completed
executions. -/
structure GuardCounts (validate : FamilyInvariants) (pr : PrFollowupBinding)
    (world : GuardWorld) : Prop where
  ledger : GuardLedger validate pr world.store
  counted : world.store.lastRecord = expectedRecord world.completed

theorem expectedRecord_cons (headSha : String) (green : Bool)
    (completed : List CompletedExecution) :
    expectedRecord (⟨headSha, green⟩ :: completed) =
      some (GuardRecord.next headSha (!green) (expectedRecord completed)) := by
  unfold expectedRecord GuardRecord.next
  cases completed with
  | nil => rfl
  | cons earlier rest =>
    simp only [List.head?_cons, Option.map_some, headChanges, reviewRounds]
    by_cases hsame : earlier.headSha = headSha
    · simp [hsame]
    · cases green <;> simp [hsame, Nat.add_comm]

variable {world : GuardWorld}

variable {call : GuardCall}

theorem GuardCounts.green_eq {hadCiFailures : Bool}
    (h : GuardCounts validate pr world)
    (hbinding : validateSequenceBinding pr call.binding)
    (hround : previousRoundHadCiFailures validate call.binding world.store =
      .ok hadCiFailures) {last : CompletedExecution}
    (hrecognized : ∀ revision ∈ world.store.greenRevision call.binding,
      revision.1 ≠ last.headSha ∧ revision ≠ (call.binding.headSha, call.binding.baseSha)) :
    headIsGreen validate call.binding last.headSha world.store = false ∧
      hadCiFailures = true := by
  constructor
  · rw [Bool.eq_false_iff, ne_eq, h.ledger.ledger.headIsGreen_iff hbinding]
    rintro ⟨revision, hrevision, hhead⟩
    exact (hrecognized revision hrevision).1 hhead
  · have hread := h.ledger.ledger.previousRoundHadCiFailures_iff hbinding
    rw [hround] at hread
    by_cases hfalse : hadCiFailures = false
    · exact absurd rfl (hrecognized _ (hread.mp (by rw [hfalse]))).2
    · simpa using hfalse

theorem next_of_same {last : GuardRecord} {headSha : String} (h : last.headSha = headSha)
    (hadCiFailures : Bool) : GuardRecord.next headSha hadCiFailures (some last) = last :=
  if_pos h

/-- **What an execution that writes its artifact leaves is counted.** -/
theorem GuardCounts.guarded {hadCiFailures : Bool}
    {answer : Except String StepOutcome} {next : ArtifactStore}
    (h : GuardCounts validate pr world)
    (hbinding : validateSequenceBinding pr call.binding)
    (hround : previousRoundHadCiFailures validate call.binding world.store =
      .ok hadCiFailures) (hwritten : Guarded world.store call hadCiFailures answer next)
    (hrecognized : ∀ last ∈ world.completed.head?, last.headSha ≠ call.binding.headSha →
      ∀ revision ∈ world.store.greenRevision call.binding,
        revision.1 ≠ last.headSha ∧ revision ≠ (call.binding.headSha, call.binding.baseSha)) :
    next.lastRecord = expectedRecord (⟨call.binding.headSha, world.completed.head?.any fun last =>
      headIsGreen validate call.binding last.headSha world.store⟩ ::
        world.completed) := by
  rw [hwritten.record, expectedRecord_cons, h.counted]
  cases hlast : world.completed.head? with
  | none =>
    unfold expectedRecord
    rw [hlast]
    rfl
  | some last =>
    unfold expectedRecord
    simp only [hlast, Option.map_some, Option.any_some]
    by_cases hsame : last.headSha = call.binding.headSha
    · rw [next_of_same hsame, next_of_same hsame]
    · obtain ⟨hgreen, hfailures⟩ :=
        h.green_eq hbinding hround (hrecognized last hlast hsame)
      rw [hgreen, hfailures]
      rfl

/-- **A step of a run keeps the counts.** -/
theorem GuardCounts.next {step : GuardStep} (h : GuardCounts validate pr world)
    (hpermitted : step.Permitted pr) (hrecognized : RoundRecognized world step) :
    GuardCounts validate pr
      ((guardMachine validate).next world step) := by
  cases step with
  | guard call =>
    obtain ⟨hbinding, hgate⟩ := hpermitted
    obtain ⟨hadCiFailures, hround, hledger, hcases⟩ := h.ledger.execute_cases hbinding hgate
    unfold StateMachine.next guardMachine
    rcases hcases with ⟨hsame, -⟩ | hwritten
    · simp only [hsame, if_true]
      exact h
    · obtain ⟨file, hhistory⟩ := hwritten.written
      have hgrew : ¬ (executeGuard validate call world.store).2.history.length =
          world.store.history.length := by
        rw [hhistory, List.length_append, List.length_singleton]
        omega
      have hpublication : ∀ error, call.publication ≠ .failed error := by
        intro error hfailed
        exact hgrew (by rw [h.ledger.execute_failed hbinding hgate hfailed])
      simp only [hgrew, if_false]
      exact ⟨hledger, h.guarded hbinding hround hwritten (hrecognized hpublication)⟩
  | write call =>
    obtain ⟨hrequest, hfamily⟩ := hpermitted
    obtain ⟨hledger, hrecord⟩ := h.ledger.write_other hrequest hfamily
    exact ⟨hledger, hrecord.trans h.counted⟩

/-! ### Runs -/

/-- What an execution answers, and what it leaves of the counts. -/
structure GuardAnswers (validate : FamilyInvariants) (world : GuardWorld)
    (call : GuardCall) : Prop where
  /-- Where it comes to an outcome, the persisted counts decide which. -/
  outcome : ∀ outcome, (executeGuard validate call world.store).1 = .ok outcome →
    ∃ record, (executeGuard validate call world.store).2.lastRecord =
        some record ∧
      (outcome = .fatal ∨ outcome = .success) ∧
      (outcome = .fatal ↔
        u64Param call.params "max_post_pr_remediation_iterations" 3 < record.iterationIndex ∨
          u64Param call.params "max_review_remediation_iterations" 2 <
            record.reviewIterationIndex)
  /-- The head it has seen before changes no count. -/
  reentry : ∀ last ∈ world.completed.head?, last.headSha = call.binding.headSha →
    (executeGuard validate call world.store).2.lastRecord =
      world.store.lastRecord
  /-- It comes to an outcome where its artifact is published. -/
  answers : world.store.history.length ≤ maxArtifactScanFiles → call.publication = .published →
    (∀ value, validate guardFamily value = .ok ()) →
    (executeGuard validate call world.store).1.isOk = true

theorem GuardCounts.answers (h : GuardCounts validate pr world)
    (hbinding : validateSequenceBinding pr call.binding) (hgate : call.scopeReviewGate = .ok true) :
    GuardAnswers validate world call := by
  obtain ⟨hadCiFailures, -, -, hcases⟩ := h.ledger.execute_cases hbinding hgate
  constructor
  case outcome =>
    intro outcome houtcome
    rcases hcases with ⟨-, herror⟩ | hwritten
    · rw [houtcome] at herror
      simp [Except.isOk, Except.toBool] at herror
    · refine ⟨_, hwritten.record, ?_⟩
      rw [hwritten.outcome outcome houtcome]
      unfold GuardRecord.exceeds
      split
      · rename_i hexceeded
        rw [Bool.or_eq_true, decide_eq_true_eq, decide_eq_true_eq] at hexceeded
        exact ⟨Or.inl rfl, fun _ => hexceeded, fun _ => rfl⟩
      · rename_i hwithin
        rw [Bool.or_eq_true, decide_eq_true_eq, decide_eq_true_eq] at hwithin
        exact ⟨Or.inr rfl, fun hfatal => absurd hfatal (by decide), fun hover =>
          absurd hover hwithin⟩
  case reentry =>
    intro last hlast hsame
    rcases hcases with ⟨hstore, -⟩ | hwritten
    · rw [hstore]
    · rw [hwritten.record, h.counted]
      unfold expectedRecord
      rw [Option.mem_def.mp hlast, Option.map_some, next_of_same hsame]
  case answers =>
    intro hlength hpublication haccepted
    exact h.ledger.execute_published hbinding hgate hlength hpublication haccepted

theorem guardCounts_of_start (h : (guardMachine validate).start world) :
    GuardCounts validate pr world := by
  obtain ⟨hhistory, hcurrent, hcompleted⟩ := h
  have hfiles : guardFiles world.store = [] := by
    unfold guardFiles
    rw [hhistory]
    rfl
  refine ⟨⟨ledger_of_empty hhistory hcurrent, by simp [hhistory], by simp [hfiles], ?_⟩, ?_⟩
  · rw [hfiles]
    exact List.isChain_nil
  · unfold ArtifactStore.lastRecord ArtifactStore.lastGuard
    rw [hfiles, hcompleted]
    rfl

/-- **The guard counts the rounds, as long as each round is recognized.**  In every state of a
run, the persisted counts are the numbers of the changes of the head, and of those after a round
without failures; and whatever execution follows, its outcome is fatal exactly where a count is
over its budget, and a head that it has seen before changes no count. -/
theorem guard_counts_rounds (validate : FamilyInvariants)
    {pr : PrFollowupBinding} {world : GuardWorld} {steps : List GuardStep}
    (hstart : (guardMachine validate).start world)
    (hsteps : (guardMachine validate).Along
      (fun world step => step.Permitted pr ∧ RoundRecognized world step) world steps) :
    let next := (guardMachine validate).run world steps
    next.store.lastRecord = expectedRecord next.completed ∧
      ∀ call, (GuardStep.guard call).Permitted pr →
        GuardAnswers validate next call := by
  have hcounts : GuardCounts validate pr
      ((guardMachine validate).run world steps) :=
    hsteps.invariant (fun _ _ hstep h => h.next hstep.1 hstep.2) (guardCounts_of_start hstart)
  exact ⟨hcounts.counted, fun call hcall => hcounts.answers hcall.1 hcall.2⟩

end Rounds

/-! ### A run in which a round is not recognized -/

section

variable (headSha : String)

def exampleHead : PrFollowupBinding := { exampleBinding with headSha := headSha }

def exampleGuard : GuardStep :=
  .guard
    { order := ⟨id, fun files => List.Perm.refl files⟩
      binding := exampleHead headSha
      params := .obj []
      updatedAt := 0
      writtenAt := 0
      publication := .published }

/-- The collector writes what has failed of a head. -/
def exampleCollect (failures : List Json) : GuardStep :=
  .write
    { order := ⟨id, fun files => List.Perm.refl files⟩
      request :=
        { exampleDocument ciFailuresFamily [("failures", .arr failures)] with
          binding := exampleHead headSha }
      publication := .published }

def exampleGuardWorld (steps : List GuardStep) : GuardWorld :=
  (guardMachine exampleInvariants).run { store := { root := "root" } } steps

theorem exampleGuard_permitted (h : headSha ≠ "") :
    (exampleGuard headSha).Permitted exampleBinding := by
  refine ⟨?_, rfl⟩
  simp [validateSequenceBinding, exampleHead, exampleBinding, h]

theorem exampleCollect_permitted (h : headSha ≠ "") {failures : List Json}
    (hfailures : Json.depthList failures < 126) :
    (exampleCollect headSha failures).Permitted exampleBinding := by
  refine ⟨?_, (by decide : ciFailuresFamily ≠ guardFamily)⟩
  constructor
  case binding => simp [validateSequenceBinding, exampleHead, exampleBinding, h]
  case producer => exact (by decide : "step" ≠ "")
  case unnamed => rfl
  case successful => exact fun _ => rfl
  case shallow =>
    show max (Json.depthList failures + 1) 0 + 1 < 128
    omega
  case details => simp [exampleDocument]

end

/-- A check of the first head has failed, and is fixed. -/
def objectiveRound : List GuardStep :=
  [exampleGuard "a", exampleCollect "a" [.obj []], exampleGuard "b"]

theorem guard_counts_rounds_objective :
    (exampleGuardWorld objectiveRound).store.lastRecord =
      expectedRecord (exampleGuardWorld objectiveRound).completed := by
  have hgreen : ((guardMachine exampleInvariants).run { store := { root := "root" } }
      [exampleGuard "a", exampleCollect "a" [.obj []]]).store.greenRevision (exampleHead "b") =
        none := by decide +kernel
  have hstart : (guardMachine exampleInvariants).start { store := { root := "root" } } :=
    ⟨rfl, rfl, rfl⟩
  have hrecognized : RoundRecognized ((guardMachine exampleInvariants).run
      { store := { root := "root" } } [exampleGuard "a", exampleCollect "a" [.obj []]])
      (exampleGuard "b") := by
    intro _ _ _ _ revision hrevision
    have hnone := hgreen ▸ hrevision
    simp at hnone
  have hsteps : (guardMachine exampleInvariants).Along
      (fun world step => step.Permitted exampleBinding ∧ RoundRecognized world step)
      { store := { root := "root" } } objectiveRound :=
    ⟨⟨exampleGuard_permitted "a" (by decide), fun _ last hlast => by simp at hlast⟩,
      ⟨exampleCollect_permitted "a" (by decide) (by decide), trivial⟩,
      ⟨exampleGuard_permitted "b" (by decide), hrecognized⟩, trivial⟩
  exact (guard_counts_rounds exampleInvariants hstart hsteps).1

/-- No check of the first head has failed; a reviewer wants a change, and it is made. -/
def reviewRound : List GuardStep :=
  [exampleGuard "a", exampleCollect "a" [], exampleGuard "b"]

/-- The round that only a reviewer asked for is not counted as one: the failures that are read
are to be those of the new head, and the artifact is about the head before. -/
theorem guard_misses_review_round :
    (∀ step ∈ reviewRound, step.Permitted exampleBinding) ∧
      (exampleGuardWorld reviewRound).store.lastRecord = some ⟨1, 0, "b"⟩ ∧
      expectedRecord (exampleGuardWorld reviewRound).completed = some ⟨1, 1, "b"⟩ := by
  refine ⟨?_, by decide +kernel, by decide +kernel⟩
  unfold reviewRound
  intro step hstep
  simp only [List.mem_cons, List.not_mem_nil, or_false] at hstep
  rcases hstep with rfl | rfl | rfl
  · exact exampleGuard_permitted "a" (by decide)
  · exact exampleCollect_permitted "a" (by decide) (by decide)
  · exact exampleGuard_permitted "b" (by decide)

end Luther
