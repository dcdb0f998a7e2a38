/-
What recovery finds in a history whose numbers are contiguous.

The files of a history are listed in any order, so what recovery knows after some of them is
said about these files as they come, and does not depend on the order: which numbers it has
seen, and the largest of each kind.  A file whose numbers are new is accepted, and so a
history whose numbers are contiguous is read to its end, and what recovery knows then is
contiguous in its turn.
-/
import Luther.Proofs.ArtifactDocument

namespace Luther

open Numbering

/-- The numbers that the documents of a family have in it. -/
def writesOf (family : String) (files : List ContainedFile) : List Nat :=
  (files.filter (·.family == family)).map (·.writeSequence)

/-- The numbers of the failures among the documents. -/
def failuresOf (files : List ContainedFile) : List Nat := files.filterMap (·.failureSequence)

/-- The numbers of the documents are contiguous: those of all, those of each family, and those
of the failures. -/
structure Numbered (files : List ContainedFile) : Prop where
  artifacts : Contiguous (files.map (·.artifactSequence))
  writes : ∀ family, Contiguous (writesOf family files)
  failures : Contiguous (failuresOf files)

/-- What recovery knows when it has read some files. -/
structure Recovered (files : List ContainedFile) (state : RecoveredSequenceState) : Prop where
  artifacts : state.seenArtifactSequences.Perm (files.map (·.artifactSequence))
  artifactsSorted : state.seenArtifactSequences.Pairwise (· ≤ ·)
  maxArtifact : state.maxArtifactSequence = largest (files.map (·.artifactSequence))
  failures : state.seenFailureSequences.Perm (failuresOf files)
  failuresSorted : state.seenFailureSequences.Pairwise (· ≤ ·)
  maxFailure : state.maxFailureSequence = largest (failuresOf files)
  familyWrites : ∀ family n, (family, n) ∈ state.seenFamilyWrites ↔ n ∈ writesOf family files
  writes : ∀ family, (state.seenWrites family).Perm (writesOf family files)
  writesSorted : ∀ family, (state.seenWrites family).Pairwise (· ≤ ·)
  maxWrite : ∀ family, state.maxWriteSequence family = largest (writesOf family files)
  families : (state.seenWritesByFamily.map Prod.fst).Nodup

/-! ### The order of the files does not matter -/

variable {files files' : List ContainedFile} {file : ContainedFile}
  {state : RecoveredSequenceState}

theorem writesOf_perm (h : files.Perm files') (family : String) :
    (writesOf family files).Perm (writesOf family files') :=
  (h.filter _).map _

theorem failuresOf_perm (h : files.Perm files') : (failuresOf files).Perm (failuresOf files') :=
  h.filterMap _

theorem Numbered.perm (h : Numbered files) (hp : files'.Perm files) : Numbered files' where
  artifacts := h.artifacts.perm (hp.map _)
  writes := fun family => (h.writes family).perm (writesOf_perm hp family)
  failures := h.failures.perm (failuresOf_perm hp)

theorem Recovered.perm (h : Recovered files state) (hp : files.Perm files') :
    Recovered files' state where
  artifacts := h.artifacts.trans (hp.map _)
  artifactsSorted := h.artifactsSorted
  maxArtifact := h.maxArtifact.trans (largest_perm (hp.map _))
  failures := h.failures.trans (failuresOf_perm hp)
  failuresSorted := h.failuresSorted
  maxFailure := h.maxFailure.trans (largest_perm (failuresOf_perm hp))
  familyWrites := fun family n =>
    (h.familyWrites family n).trans (writesOf_perm hp family).mem_iff
  writes := fun family => (h.writes family).trans (writesOf_perm hp family)
  writesSorted := h.writesSorted
  maxWrite := fun family => (h.maxWrite family).trans (largest_perm (writesOf_perm hp family))
  families := h.families

theorem recovered_nil : Recovered [] {} where
  artifacts := List.Perm.refl _
  artifactsSorted := List.Pairwise.nil
  maxArtifact := rfl
  failures := List.Perm.refl _
  failuresSorted := List.Pairwise.nil
  maxFailure := rfl
  familyWrites := by simp [writesOf]
  writes := fun _ => List.Perm.refl _
  writesSorted := fun _ => List.Pairwise.nil
  maxWrite := fun _ => rfl
  families := List.nodup_nil

/-! ### One more file -/

theorem writesOf_cons_self : writesOf file.family (file :: files) =
    file.writeSequence :: writesOf file.family files := by
  simp [writesOf]

theorem writesOf_cons_ne {family : String} (h : family ≠ file.family) :
    writesOf family (file :: files) = writesOf family files := by
  simp [writesOf, h.symm]

theorem writesOf_append (family : String) (files files' : List ContainedFile) :
    writesOf family (files ++ files') = writesOf family files ++ writesOf family files' := by
  simp [writesOf]

theorem failuresOf_append (files files' : List ContainedFile) :
    failuresOf (files ++ files') = failuresOf files ++ failuresOf files' :=
  List.filterMap_append

/-- The numbers of a file are new, beside those of others. -/
structure FreshNumbers (files : List ContainedFile) (file : ContainedFile) : Prop where
  positive : 0 < file.artifactSequence ∧ 0 < file.writeSequence
  artifact : file.artifactSequence ∉ files.map (·.artifactSequence)
  write : file.writeSequence ∉ writesOf file.family files
  failure : ∀ n ∈ file.failureSequence, 0 < n ∧ n ∉ failuresOf files

/-- **Where numbers are contiguous, each file's are new beside the others'.** -/
theorem Numbered.fresh {rest seen : List ContainedFile}
    (h : Numbered (file :: rest ++ seen)) : FreshNumbers seen file := by
  have hwrites := h.writes file.family
  rw [List.cons_append] at hwrites
  rw [writesOf_cons_self] at hwrites
  constructor
  · refine ⟨h.artifacts.pos (by simp), hwrites.pos (by simp)⟩
  · have hartifacts : Contiguous (file.artifactSequence ::
        (rest.map (·.artifactSequence) ++ seen.map (·.artifactSequence))) := by
      simpa using h.artifacts
    have hnew := (List.nodup_cons.mp hartifacts.nodup).1
    exact fun hmem => hnew (List.mem_append_right _ hmem)
  · have hnew := (List.nodup_cons.mp hwrites.nodup).1
    refine fun hmem => hnew ?_
    rw [writesOf_append]
    exact List.mem_append_right _ hmem
  · intro n hn
    have hfailures := h.failures
    have hcons : failuresOf (file :: rest ++ seen) = n :: failuresOf (rest ++ seen) := by
      simp [failuresOf, Option.mem_def.mp hn]
    rw [hcons] at hfailures
    refine ⟨hfailures.pos (by simp), fun hmem => (List.nodup_cons.mp hfailures.nodup).1 ?_⟩
    rw [failuresOf_append]
    exact List.mem_append_right _ hmem

theorem failuresOf_cons : failuresOf (file :: files) =
    file.failureSequence.toList ++ failuresOf files := by
  unfold failuresOf
  cases hfailure : file.failureSequence <;> simp [hfailure]

theorem acceptFailure_of_fresh (h : Recovered files state)
    (hfresh : ∀ n ∈ file.failureSequence, 0 < n ∧ n ∉ failuresOf files) (path : String) :
    ∃ seen largestSeen, state.acceptFailure file.failureSequence path =
        .ok { state with seenFailureSequences := seen, maxFailureSequence := largestSeen } ∧
      seen.Perm (failuresOf (file :: files)) ∧ seen.Pairwise (· ≤ ·) ∧
      largestSeen = largest (failuresOf (file :: files)) := by
  unfold RecoveredSequenceState.acceptFailure
  rw [failuresOf_cons]
  cases hfailure : file.failureSequence with
  | none => exact ⟨_, _, rfl, h.failures, h.failuresSorted, h.maxFailure⟩
  | some n =>
    obtain ⟨hpositive, hnew⟩ := hfresh n hfailure
    have haccepted : ¬ (n = 0 ∨ n ∈ state.seenFailureSequences) := by
      rw [h.failures.mem_iff]
      exact not_or.mpr ⟨Nat.pos_iff_ne_zero.mp hpositive, hnew⟩
    refine ⟨_, _, if_neg haccepted, ?_, ?_, ?_⟩
    · exact (List.perm_orderedInsert _ n _).trans (h.failures.cons n)
    · exact h.failuresSorted.orderedInsert n _
    · rw [h.maxFailure, Nat.max_comm]
      rfl

theorem lookup_insert_getD {Value : Type} (family family' : String) (v default : Value)
    (m : List (String × Value)) :
    ((Assoc.insert family v m).lookup family').getD default =
      if family' = family then v else (m.lookup family').getD default := by
  by_cases hfamily : family' = family
  · simp [hfamily]
  · simp [hfamily]

/-- **The numbers of a file are accepted where they are new.** -/
theorem acceptSnapshot_of_fresh (h : Recovered files state) (hfresh : FreshNumbers files file)
    (hartifact : requireU64 "artifact_sequence" file.content = .ok file.artifactSequence)
    (hwrite : requireU64 "write_sequence" file.content = .ok file.writeSequence)
    (path : String) :
    ∃ state', state.acceptSnapshot file.family file.content path = .ok state' ∧
      Recovered (file :: files) state' := by
  have hpositive : ¬ (file.artifactSequence = 0 ∨ file.writeSequence = 0) := by
    have := hfresh.positive
    omega
  have hartifactNew : file.artifactSequence ∉ state.seenArtifactSequences :=
    fun hmem => hfresh.artifact (h.artifacts.mem_iff.mp hmem)
  have hwriteNew : (file.family, file.writeSequence) ∉ state.seenFamilyWrites :=
    fun hmem => hfresh.write ((h.familyWrites _ _).mp hmem)
  obtain ⟨seen, largestSeen, haccepted, hseen, hsorted, hlargest⟩ :=
    acceptFailure_of_fresh h hfresh.failure path
  have hstate : state.acceptSnapshot file.family file.content path = .ok
      { state with
        seenFailureSequences := seen
        maxFailureSequence := largestSeen
        seenArtifactSequences :=
          state.seenArtifactSequences.orderedInsert (· ≤ ·) file.artifactSequence
        seenFamilyWrites := (file.family, file.writeSequence) :: state.seenFamilyWrites
        maxArtifactSequence := max state.maxArtifactSequence file.artifactSequence
        maxWriteSequenceByFamily :=
          Assoc.insert file.family (max (state.maxWriteSequence file.family) file.writeSequence)
            state.maxWriteSequenceByFamily
        seenWritesByFamily :=
          Assoc.insert file.family
            ((state.seenWrites file.family).orderedInsert (· ≤ ·) file.writeSequence)
            state.seenWritesByFamily } := by
    have hfailure : (file.content.get? "failure_sequence").bind Json.asU64? =
        file.failureSequence := rfl
    unfold RecoveredSequenceState.acceptSnapshot
    simp only [hartifact, hwrite, hfailure, haccepted, bind, Except.bind, if_neg hpositive,
      if_neg hartifactNew, if_neg hwriteNew]
    rfl
  refine ⟨_, hstate, ?_⟩
  constructor
  case artifacts => exact (List.perm_orderedInsert _ _ _).trans (h.artifacts.cons _)
  case artifactsSorted => exact h.artifactsSorted.orderedInsert _ _
  case maxArtifact =>
    show max state.maxArtifactSequence file.artifactSequence = _
    rw [h.maxArtifact, Nat.max_comm]
    rfl
  case failures => exact hseen
  case failuresSorted => exact hsorted
  case maxFailure => exact hlargest
  case familyWrites =>
    intro family n
    rw [List.mem_cons, Prod.mk.injEq, h.familyWrites]
    by_cases hfamily : family = file.family
    · rw [hfamily, writesOf_cons_self, List.mem_cons]
      simp
    · rw [writesOf_cons_ne hfamily]
      simp [hfamily]
  case writes =>
    intro family
    unfold RecoveredSequenceState.seenWrites
    rw [lookup_insert_getD]
    by_cases hfamily : family = file.family
    · rw [if_pos hfamily, hfamily, writesOf_cons_self]
      exact (List.perm_orderedInsert _ _ _).trans ((h.writes file.family).cons _)
    · rw [if_neg hfamily, writesOf_cons_ne hfamily]
      exact h.writes family
  case writesSorted =>
    intro family
    unfold RecoveredSequenceState.seenWrites
    rw [lookup_insert_getD]
    by_cases hfamily : family = file.family
    · rw [if_pos hfamily]
      exact (h.writesSorted file.family).orderedInsert _ _
    · rw [if_neg hfamily]
      exact h.writesSorted family
  case maxWrite =>
    intro family
    unfold RecoveredSequenceState.maxWriteSequence
    rw [lookup_insert_getD]
    by_cases hfamily : family = file.family
    · rw [if_pos hfamily, hfamily, writesOf_cons_self, largest_cons, Nat.max_comm]
      exact congrArg (max file.writeSequence) (h.maxWrite file.family)
    · rw [if_neg hfamily, writesOf_cons_ne hfamily]
      exact h.maxWrite family
  case families => exact Assoc.nodup_keys_insert h.families

/-! ### All files -/

section Recovery

variable {validate : FamilyInvariants} {pr binding : PrFollowupBinding}
  {root : String}

theorem recoverHistoryFile_of_snapshot (h : Recovered files state)
    (hsnapshot : Snapshot validate pr root file) (hfresh : FreshNumbers files file)
    (hbinding : validateSequenceBinding pr binding) :
    ∃ state', recoverHistoryFile validate binding state file = .ok state' ∧
      Recovered (file :: files) state' := by
  obtain ⟨state', haccepted, hrecovered⟩ :=
    acceptSnapshot_of_fresh h hfresh hsnapshot.artifact hsnapshot.write file.path.text
  refine ⟨state', ?_, hrecovered⟩
  have hparsed : Json.fromText file.content = .ok file.content := if_pos hsnapshot.shallow
  obtain ⟨actual, hactual, hsame⟩ := hsnapshot.binding
  have hvalid : validateSequenceArtifactValue binding file.family file.content = .ok () := by
    unfold validateSequenceArtifactValue
    simp only [hactual, bind, Except.bind, validateSequenceBinding_trans hbinding hsame,
      hsnapshot.metadata]
    rfl
  have hchecked : validateHistorySnapshot validate file.family file.content
      file.path = .ok () := by
    have hfamily : metadataString "artifact_family" file.content = some file.family :=
      hsnapshot.family
    unfold validateHistorySnapshot
    simp only [hfamily, hsnapshot.metadata, hsnapshot.invariants, bind, Except.bind, ne_eq,
      not_true_eq_false, if_false]
  unfold recoverHistoryFile
  simp only [hparsed, Except.mapError, bind, Except.bind, hsnapshot.family, hvalid, hchecked,
    hsnapshot.filename, hsnapshot.embedded, haccepted]

/-- **A history whose numbers are contiguous is read to its end.** -/
theorem recoverHistoryFiles_of_numbered {rest seen : List ContainedFile}
    (h : Recovered seen state) (hnumbered : Numbered (rest ++ seen))
    (hsnapshots : ∀ file ∈ rest, Snapshot validate pr root file)
    (hbinding : validateSequenceBinding pr binding) (last : Option FilePath) :
    ∃ state' last', recoverHistoryFiles validate binding rest state last =
        .ok (state', last') ∧ Recovered (rest ++ seen) state' := by
  induction rest generalizing seen state last with
  | nil => exact ⟨state, last, rfl, h⟩
  | cons file rest ih =>
    obtain ⟨accepted, haccepted, hrecovered⟩ :=
      recoverHistoryFile_of_snapshot h (hsnapshots file (by simp)) hnumbered.fresh hbinding
    have hmiddle : (rest ++ file :: seen).Perm (file :: rest ++ seen) := List.perm_middle
    obtain ⟨state', last', hread, hall⟩ :=
      ih hrecovered (hnumbered.perm hmiddle) (fun f hf => hsnapshots f (by simp [hf]))
        (some file.path)
    refine ⟨state', last', ?_, hall.perm hmiddle⟩
    unfold recoverHistoryFiles
    rw [haccepted]
    exact hread

/-! ### Contiguity -/

theorem requireContiguousFrom_range' (name path : String) (largestSeen : Nat) {from_ n : Nat}
    (h : from_ + n < 2 ^ 64) :
    requireContiguousFrom name path largestSeen from_ (List.range' from_ n) = .ok () := by
  induction n generalizing from_ with
  | zero => rfl
  | succ n ih =>
    rw [List.range'_succ]
    unfold requireContiguousFrom
    rw [if_neg (by simp), if_neg (by omega)]
    exact ih (by omega)

theorem requireContiguousSequence_of_contiguous {numbers seen : List Nat} {largestSeen : Nat}
    (h : Contiguous numbers) (hseen : seen.Perm numbers) (hsorted : seen.Pairwise (· ≤ ·))
    (hlargest : largestSeen = largest numbers) (hlength : numbers.length + 1 < 2 ^ 64)
    (name path : String) :
    requireContiguousSequence name seen largestSeen path = .ok () := by
  have hcontiguous : Contiguous seen := h.perm hseen
  have hrange := hcontiguous.eq_range' hsorted
  have hlast : seen.getLastD 0 = largestSeen := by
    rw [hlargest, ← largest_perm hseen, hcontiguous.largest]
    generalize seen.length = n at hrange
    rw [hrange]
    cases n with
    | zero => rfl
    | succ n =>
      rw [List.range'_concat]
      simp [Nat.add_comm]
  have hfrom : requireContiguousFrom name path largestSeen 1 seen = .ok () := by
    rw [hrange]
    refine requireContiguousFrom_range' name path largestSeen ?_
    rw [hseen.length_eq]
    omega
  unfold requireContiguousSequence
  rw [hfrom]
  simp only [bind, Except.bind, hlast, ne_eq, not_true_eq_false, if_false]
  rfl

theorem forM_eq_ok {α : Type} {check : α → Except String Unit} {xs : List α}
    (h : ∀ x ∈ xs, check x = .ok ()) : xs.forM check = .ok () := by
  induction xs with
  | nil => rfl
  | cons x rest ih =>
    have hrest := ih fun y hy => h y (by simp [hy])
    show (check x >>= fun _ => rest.forM check) = _
    rw [h x (by simp)]
    exact hrest

theorem length_writesOf_le (family : String) (files : List ContainedFile) :
    (writesOf family files).length ≤ files.length := by
  unfold writesOf
  rw [List.length_map]
  exact List.length_filter_le _ _

theorem length_failuresOf_le (files : List ContainedFile) :
    (failuresOf files).length ≤ files.length :=
  List.length_filterMap_le _ _

/-- **What recovery knows of a history whose numbers are contiguous is contiguous.** -/
theorem Recovered.contiguous (h : Recovered files state) (hnumbered : Numbered files)
    (hlength : files.length + 1 < 2 ^ 64) (path : String) :
    state.validateMonotonicSequenceContiguity path = .ok () := by
  have hartifacts : requireContiguousSequence "artifact_sequence" state.seenArtifactSequences
      state.maxArtifactSequence path = .ok () :=
    requireContiguousSequence_of_contiguous hnumbered.artifacts h.artifacts h.artifactsSorted
      h.maxArtifact (by simpa using hlength) _ _
  have hfailures : requireContiguousSequence "failure_sequence" state.seenFailureSequences
      state.maxFailureSequence path = .ok () := by
    refine requireContiguousSequence_of_contiguous hnumbered.failures h.failures
      h.failuresSorted h.maxFailure ?_ _ _
    have := length_failuresOf_le files
    omega
  have hwrites : state.seenWritesByFamily.forM (fun entry =>
      requireContiguousSequence s!"write_sequence for {entry.1}" entry.2
        (state.maxWriteSequence entry.1) path) = .ok () := by
    refine forM_eq_ok fun entry hmem => ?_
    obtain ⟨family, writes⟩ := entry
    have hseen : state.seenWrites family = writes := by
      unfold RecoveredSequenceState.seenWrites
      rw [Assoc.lookup_of_mem h.families hmem]
      rfl
    have hperm := h.writes family
    have hsorted := h.writesSorted family
    rw [hseen] at hperm hsorted
    refine requireContiguousSequence_of_contiguous (hnumbered.writes family) hperm hsorted
      (h.maxWrite family) ?_ _ _
    have := length_writesOf_le family files
    omega
  unfold RecoveredSequenceState.validateMonotonicSequenceContiguity
  rw [hartifacts]
  simp only [bind, Except.bind]
  rw [hwrites]
  exact hfailures

/-! ### Canonical files -/

theorem recoverCurrentFile_of_mem {snapshot : ContainedFile} {recovery : CurrentRecovery}
    (h : Recovered files recovery.state) (hmem : snapshot ∈ files)
    (hsnapshot : Snapshot validate pr root snapshot)
    (hcontent : file.content = snapshot.content) (binding : PrFollowupBinding)
    (consumedFamily : Option String) :
    ∃ lastPath, recoverCurrentFile validate root binding consumedFamily file
      recovery = .ok { recovery with lastPath := lastPath } := by
  have hparsed : Json.fromText file.content = .ok snapshot.content := by
    rw [hcontent]
    exact if_pos hsnapshot.shallow
  obtain ⟨actual, hactual, -⟩ := hsnapshot.binding
  have hartifactSeen : snapshot.artifactSequence ∈ recovery.state.seenArtifactSequences :=
    h.artifacts.mem_iff.mpr (List.mem_map_of_mem hmem)
  have hwriteSeen :
      (snapshot.family, snapshot.writeSequence) ∈ recovery.state.seenFamilyWrites := by
    refine (h.familyWrites _ _).mpr ?_
    unfold writesOf
    exact List.mem_map_of_mem (List.mem_filter.mpr ⟨hmem, by simp⟩)
  have hreconciled : ∀ path, reconcileCanonical validate root actual
      snapshot.family snapshot.content path recovery.state = .ok (recovery.state, none) := by
    intro path
    unfold reconcileCanonical
    simp only [hsnapshot.artifact, hsnapshot.write, bind, Except.bind, hartifactSeen, hwriteSeen,
      decide_true]
  unfold recoverCurrentFile
  simp only [hparsed, hsnapshot.family]
  split
  · exact ⟨recovery.lastPath, rfl⟩
  · split
    · exact ⟨recovery.lastPath, rfl⟩
    · refine ⟨some file.path, ?_⟩
      simp only [hactual, hreconciled, bind, Except.bind]
      simp

theorem recoverCurrentFiles_of_mem {currentFiles : List ContainedFile}
    (recovery : CurrentRecovery) (h : Recovered files recovery.state)
    (hsnapshots : ∀ file ∈ files, Snapshot validate pr root file)
    (hcurrent : ∀ file ∈ currentFiles, ∃ snapshot ∈ files, file.content = snapshot.content)
    (binding : PrFollowupBinding) (consumedFamily : Option String) :
    ∃ lastPath, recoverCurrentFiles validate root binding consumedFamily
      currentFiles recovery = .ok { recovery with lastPath := lastPath } := by
  induction currentFiles generalizing recovery with
  | nil => exact ⟨recovery.lastPath, rfl⟩
  | cons file rest ih =>
    obtain ⟨snapshot, hmem, hcontent⟩ := hcurrent file (by simp)
    obtain ⟨firstPath, hfirst⟩ := recoverCurrentFile_of_mem h hmem
      (hsnapshots snapshot hmem) hcontent binding consumedFamily
    obtain ⟨lastPath, hrest⟩ := ih { recovery with lastPath := firstPath } h
      fun f hf => hcurrent f (by simp [hf])
    refine ⟨lastPath, ?_⟩
    unfold recoverCurrentFiles
    rw [hfirst]
    exact hrest

end Recovery

end Luther
