/-
The ledger of a pull request, over any number of writes.

`Ledger` is what every write keeps: the files of the history pass the checks of recovery, the
numbers of each kind are contiguous, and a canonical file is a copy of one of the history.
It is kept wherever the process goes down, because the history is written first, and because
recovery then only finds in the canonical files what it has found in the history.
-/
import Luther.Proofs.ArtifactRecovery

namespace Luther

open Numbering

/-- What holds of the files of a pull request after any writes. -/
structure Ledger (validate : FamilyInvariants) (pr : PrFollowupBinding)
    (store : ArtifactStore) : Prop where
  snapshots : ∀ file ∈ store.history, Snapshot validate pr store.root file
  numbered : Numbered store.history
  current : ∀ file ∈ store.current, ∃ snapshot ∈ store.history,
    file.content = snapshot.content ∧ file.path = canonicalPath store.root pr snapshot.family
  /-- A family has one canonical file. -/
  currentPaths : (store.current.map (·.path)).Nodup

section Ledger

variable {validate : FamilyInvariants} {pr : PrFollowupBinding}
  {store : ArtifactStore}

theorem ledger_of_empty (hhistory : store.history = []) (hcurrent : store.current = []) :
    Ledger validate pr store where
  snapshots := by simp [hhistory]
  numbered := by
    rw [hhistory]
    exact ⟨contiguous_nil, fun _ => contiguous_nil, contiguous_nil⟩
  current := by simp [hcurrent]
  currentPaths := by simp [hcurrent]

theorem Ledger.length_current_le (h : Ledger validate pr store) :
    store.current.length ≤ store.history.length := by
  have hsubset : store.current.map (·.path) ⊆
      store.history.map fun file => canonicalPath store.root pr file.family := by
    intro path hpath
    obtain ⟨file, hfile, rfl⟩ := List.mem_map.mp hpath
    obtain ⟨snapshot, hmem, -, heq⟩ := h.current file hfile
    exact List.mem_map.mpr ⟨snapshot, hmem, heq.symm⟩
  simpa using (List.subperm_of_subset h.currentPaths hsubset).length_le

/-! ### Recovery -/

/-- **Recovery of a ledger succeeds, finds its numbers, and writes nothing.** -/
theorem Ledger.recoverSequenceState_eq (h : Ledger validate pr store)
    (hlength : store.history.length ≤ maxArtifactScanFiles) (order : ListingOrder)
    {binding : PrFollowupBinding} (hbinding : validateSequenceBinding pr binding)
    (consumedFamily : Option String) :
    ∃ state, recoverSequenceState validate order binding consumedFamily store =
        (.ok state, store) ∧ Recovered store.history state := by
  have hlist := order.perm store.history
  have hlisted : Numbered (order.list store.history ++ []) := by
    rw [List.append_nil]
    exact h.numbered.perm hlist
  obtain ⟨state, lastPath, hread, hall⟩ :=
    recoverHistoryFiles_of_numbered recovered_nil hlisted
      (fun file hfile => h.snapshots file (hlist.mem_iff.mp hfile)) hbinding none
  have hrecovered : Recovered store.history state := by
    rw [List.append_nil] at hall
    exact hall.perm hlist
  have hcontiguous : ∀ path, state.validateMonotonicSequenceContiguity path = .ok () :=
    hrecovered.contiguous h.numbered (by unfold maxArtifactScanFiles at hlength; omega)
  have hstrict : recoverStrictHistory validate order binding store =
      .ok (state, lastPath) := by
    unfold recoverStrictHistory
    rw [if_neg (Nat.not_lt_of_le hlength)]
    exact hread
  have hcurrentLength : ¬ maxArtifactScanFiles < store.current.length := by
    have := h.length_current_le
    omega
  have hcopies : ∀ file ∈ store.current.insertionSort (fun left right =>
      left.path.text ≤ right.path.text), ∃ snapshot ∈ store.history,
        file.content = snapshot.content := by
    intro file hfile
    obtain ⟨snapshot, hmem, hcontent, -⟩ := h.current file ((List.mem_insertionSort _).mp hfile)
    exact ⟨snapshot, hmem, hcontent⟩
  obtain ⟨currentPath, hcurrent⟩ := recoverCurrentFiles_of_mem
    { state := state, lastPath := lastPath } hrecovered h.snapshots hcopies binding consumedFamily
  refine ⟨state, ?_, hrecovered⟩
  have hrecovery : recoverSequences validate order binding consumedFamily store =
      .ok { state := state, lastPath := currentPath } := by
    unfold recoverSequences
    simp only [hstrict, bind, Except.bind, if_neg hcurrentLength]
    cases lastPath <;> cases currentPath <;> simp only [hcontiguous, hcurrent]
  unfold recoverSequenceState
  rw [hrecovery]
  rfl

/-! ### One write -/

/-- The numbers that a write gets, and that of its failure where it is one. -/
def nextNumbers (store : ArtifactStore) (request : JsonArtifactWriteRequest) :
    ArtifactSequenceMetadata × Option (Nat × ArtifactFailure) :=
  (⟨largest (store.history.map (·.artifactSequence)) + 1,
      largest (writesOf request.artifactFamily store.history) + 1, request.producerStepId⟩,
    request.failure.map fun failure => (largest (failuresOf store.history) + 1, failure))

theorem checkedNextSequence_of_lt {n : Nat} (h : n + 1 < 2 ^ 64) (name : String) :
    checkedNextSequence n name = .ok (n + 1) :=
  if_pos h

theorem Ledger.largest_le (h : Ledger validate pr store) :
    largest (store.history.map (·.artifactSequence)) ≤ store.history.length ∧
      (∀ family, largest (writesOf family store.history) ≤ store.history.length) ∧
      largest (failuresOf store.history) ≤ store.history.length := by
  refine ⟨?_, fun family => ?_, ?_⟩
  · rw [h.numbered.artifacts.largest, List.length_map]
  · rw [(h.numbered.writes family).largest]
    exact length_writesOf_le family store.history
  · rw [h.numbered.failures.largest]
    exact length_failuresOf_le store.history

theorem Ledger.nextSequences_eq (h : Ledger validate pr store)
    (hlength : store.history.length ≤ maxArtifactScanFiles) {state : RecoveredSequenceState}
    (hstate : Recovered store.history state) (request : JsonArtifactWriteRequest) :
    nextSequences request state = .ok (nextNumbers store request) := by
  obtain ⟨hartifact, hwrite, hfailure⟩ := h.largest_le
  have hwrite' := hwrite request.artifactFamily
  unfold maxArtifactScanFiles at hlength
  unfold nextSequences nextNumbers
  rw [hstate.maxArtifact, hstate.maxWrite, hstate.maxFailure,
    checkedNextSequence_of_lt (by omega), checkedNextSequence_of_lt (by omega)]
  cases request.failure with
  | none => rfl
  | some failure =>
    simp only [bind, Except.bind]
    rw [checkedNextSequence_of_lt (by omega)]
    rfl

def writeRecord (store : ArtifactStore) (request : JsonArtifactWriteRequest) :
    ArtifactWriteRecord :=
  { sequence := (nextNumbers store request).1
    canonicalPath := canonicalPath store.root request.binding request.artifactFamily
    historyPath := historyPath store.root request.binding request.artifactFamily
      (nextNumbers store request).1
    failureSequence := (nextNumbers store request).2.map Prod.fst }

def ArtifactStore.append (file : ContainedFile) (store : ArtifactStore) : ArtifactStore :=
  { store with history := store.history ++ [file] }

theorem Ledger.createHistory_eq (h : Ledger validate pr store)
    (request : JsonArtifactWriteRequest) (value : Json) :
    store.createHistory (historyFile store.root request (nextNumbers store request).1 value) =
      .ok (store.append (historyFile store.root request (nextNumbers store request).1 value)) := by
  have hnew : ∀ file ∈ store.history, file.path ≠
      historyPath store.root request.binding request.artifactFamily
        (nextNumbers store request).1 := by
    intro file hfile heq
    obtain ⟨producer, hplace⟩ := (h.snapshots file hfile).place
    have hnumber := historyPath_inj (hplace.symm.trans heq)
    have hle : file.artifactSequence ≤ largest (store.history.map (·.artifactSequence)) :=
      le_largest (List.mem_map_of_mem hfile)
    simp only [nextNumbers] at hnumber
    omega
  unfold ArtifactStore.createHistory
  rw [if_neg ?_]
  · rfl
  · simpa [historyFile] using hnew

variable {request : JsonArtifactWriteRequest} {file : ContainedFile}

theorem Ledger.write_eq (h : Ledger validate pr store)
    (hlength : store.history.length ≤ maxArtifactScanFiles) (order : ListingOrder)
    (hrequest : WellFormed pr request) (publication : Publication) :
    writeJsonArtifactLocked validate order request publication store =
      match (do
        let value ← envelope store.root request (nextNumbers store request).1
          (nextNumbers store request).2
        validate request.artifactFamily value
        Except.ok value), publication with
      | .error error, _ => (.error error, store)
      | .ok _, .failed error => (.error error, store)
      | .ok value, .crashed => (.error "the process is gone",
          store.append (historyFile store.root request (nextNumbers store request).1 value))
      | .ok value, .published => (.ok (writeRecord store request),
          (store.append (historyFile store.root request (nextNumbers store request).1
            value)).replaceCurrent
            ⟨canonicalPath store.root request.binding request.artifactFamily, value⟩) := by
  obtain ⟨state, hrecovery, hstate⟩ :=
    h.recoverSequenceState_eq hlength order hrequest.binding (some request.artifactFamily)
  have hcreate : ∀ value, store.createHistory
      ⟨historyPath store.root request.binding request.artifactFamily
        (nextNumbers store request).1, value⟩ =
      .ok (store.append (historyFile store.root request (nextNumbers store request).1 value)) :=
    fun value => h.createHistory_eq request value
  unfold writeJsonArtifactLocked
  rw [hrecovery]
  simp only [h.nextSequences_eq hlength hstate request, bind, Except.bind]
  cases henvelope : envelope store.root request (nextNumbers store request).1
      (nextNumbers store request).2 with
  | error error => rfl
  | ok value =>
    simp only
    cases hinvariants : validate request.artifactFamily value with
    | error error => rfl
    | ok _ =>
      unfold publishArtifact
      cases publication with
      | failed error => rfl
      | crashed => simp only [hcreate]
      | published =>
        simp only [hcreate]
        rfl

/-! ### What a write leaves -/

theorem nextNumbers_failure (store : ArtifactStore) (request : JsonArtifactWriteRequest) :
    (nextNumbers store request).2.map Prod.snd = request.failure := by
  unfold nextNumbers
  cases request.failure <;> rfl

theorem Ledger.numbers_of_envelope (h : Ledger validate pr store)
    (hlength : store.history.length ≤ maxArtifactScanFiles) (hrequest : WellFormed pr request)
    {value : Json}
    (hvalue : envelope store.root request (nextNumbers store request).1
      (nextNumbers store request).2 = .ok value) :
    (historyFile store.root request (nextNumbers store request).1 value).family =
        request.artifactFamily ∧
      (historyFile store.root request (nextNumbers store request).1 value).artifactSequence =
        largest (store.history.map (·.artifactSequence)) + 1 ∧
      (historyFile store.root request (nextNumbers store request).1 value).writeSequence =
        largest (writesOf request.artifactFamily store.history) + 1 ∧
      (historyFile store.root request (nextNumbers store request).1 value).failureSequence =
        request.failure.map (fun _ => largest (failuresOf store.history) + 1) := by
  obtain ⟨hartifact, hwrite, hfailure⟩ := h.largest_le
  have hwrite' := hwrite request.artifactFamily
  unfold maxArtifactScanFiles at hlength
  obtain ⟨hfamily, hartifactNumber, hwriteNumber⟩ := Luther.numbers_of_envelope hvalue
    (by simp only [nextNumbers]; omega) (by simp only [nextNumbers]; omega)
  refine ⟨?_, hartifactNumber, hwriteNumber, ?_⟩
  · unfold ContainedFile.family historyFile
    rw [hfamily]
    rfl
  · rw [failureSequence_of_envelope hvalue hrequest (nextNumbers_failure store request)]
    · simp [nextNumbers, Function.comp_def]
    · intro f hf
      simp only [nextNumbers, Option.mem_map] at hf
      obtain ⟨failure, -, rfl⟩ := hf
      show largest (failuresOf store.history) + 1 < 2 ^ 64
      omega

/-- **A file with the next numbers keeps a history numbered.** -/
theorem Numbered.append {files : List ContainedFile} (h : Numbered files)
    (hartifact : file.artifactSequence = largest (files.map (·.artifactSequence)) + 1)
    (hwrite : file.writeSequence = largest (writesOf file.family files) + 1)
    (hfailure : ∀ n ∈ file.failureSequence, n = largest (failuresOf files) + 1) :
    Numbered (files ++ [file]) where
  artifacts := by
    rw [List.map_append, List.map_singleton, hartifact, h.artifacts.largest]
    exact h.artifacts.next
  writes := by
    intro family
    rw [writesOf_append]
    by_cases hfamily : family = file.family
    · have hnext := (h.writes family).next
      have hone : writesOf family [file] = [(writesOf family files).length + 1] := by
        rw [hfamily, writesOf_cons_self, hwrite, (h.writes file.family).largest]
        rfl
      rwa [hone]
    · rw [writesOf_cons_ne hfamily]
      simpa [writesOf] using h.writes family
  failures := by
    rw [failuresOf_append]
    cases hcase : file.failureSequence with
    | none => simpa [failuresOf, hcase] using h.failures
    | some n =>
      have hone : failuresOf [file] = [(failuresOf files).length + 1] := by
        rw [← h.failures.largest, ← hfailure n hcase]
        simp [failuresOf, hcase]
      rw [hone]
      exact h.failures.next

/-- **A history that gets one more document stays a ledger.** -/
theorem Ledger.append (h : Ledger validate pr store)
    (hlength : store.history.length ≤ maxArtifactScanFiles) (hrequest : WellFormed pr request)
    {value : Json}
    (hvalue : envelope store.root request (nextNumbers store request).1
      (nextNumbers store request).2 = .ok value)
    (hinvariants : validate request.artifactFamily value = .ok ()) :
    Ledger validate pr
      (store.append (historyFile store.root request (nextNumbers store request).1 value)) where
  snapshots := by
    intro file hfile
    rcases List.mem_append.mp hfile with hold | hnew
    · exact h.snapshots file hold
    · obtain ⟨hartifact, hwrite, -⟩ := h.largest_le
      have hwrite' := hwrite request.artifactFamily
      unfold maxArtifactScanFiles at hlength
      rw [List.mem_singleton.mp hnew]
      refine snapshot_of_envelope hvalue hrequest (nextNumbers_failure store request) rfl ?_ ?_
        hinvariants
      · simp only [nextNumbers]
        omega
      · simp only [nextNumbers]
        omega
  numbered := by
    obtain ⟨hfamily, hartifact, hwrite, hfailure⟩ :=
      h.numbers_of_envelope hlength hrequest hvalue
    refine h.numbered.append hartifact (by rw [hfamily]; exact hwrite) fun n hn => ?_
    rw [hfailure] at hn
    obtain ⟨failure, -, rfl⟩ := Option.mem_map.mp hn
    rfl
  current := by
    intro file hfile
    obtain ⟨snapshot, hmem, hcopy⟩ := h.current file hfile
    exact ⟨snapshot, List.mem_append_left _ hmem, hcopy⟩
  currentPaths := h.currentPaths

/-- **The canonical file of a document of the history may replace the one before it.** -/
theorem Ledger.replaceCurrent (h : Ledger validate pr store)
    {snapshot : ContainedFile} (hmem : snapshot ∈ store.history)
    (hcontent : file.content = snapshot.content)
    (hpath : file.path = canonicalPath store.root pr snapshot.family) :
    Ledger validate pr (store.replaceCurrent file) where
  snapshots := h.snapshots
  numbered := h.numbered
  current := by
    intro other hother
    rcases List.mem_append.mp hother with hold | hnew
    · exact h.current other (List.mem_of_mem_filter hold)
    · rw [List.mem_singleton.mp hnew]
      exact ⟨snapshot, hmem, hcontent, hpath⟩
  currentPaths := by
    unfold ArtifactStore.replaceCurrent
    rw [List.map_append]
    refine List.Nodup.append ?_ (List.nodup_singleton _) ?_
    · exact h.currentPaths.sublist (List.filter_sublist.map _)
    · intro path hold hnew
      obtain ⟨other, hother, rfl⟩ := List.mem_map.mp hold
      have hne := (List.mem_filter.mp hother).2
      simp only [List.map_cons, List.map_nil, List.mem_singleton] at hnew
      simp [hnew] at hne

/-! ### Any write -/

/-- What a write may do: leave the store as it is, with an error, or add one file to the
history, with the next number of each kind.  One that is published, of an object that its
family accepts, adds the file and answers with its numbers. -/
structure Written (validate : FamilyInvariants) (store : ArtifactStore)
    (call : WriteCall) (answer : Except String ArtifactWriteRecord) (next : ArtifactStore) :
    Prop where
  added : (next = store ∧ answer.isOk = false) ∨ ∃ file,
    next.history = store.history ++ [file] ∧ file.family = call.request.artifactFamily ∧
      file.artifactSequence = largest (store.history.map (·.artifactSequence)) + 1 ∧
      file.writeSequence =
        largest (writesOf call.request.artifactFamily store.history) + 1 ∧
      file.failureSequence =
        call.request.failure.map (fun _ => largest (failuresOf store.history) + 1)
  recorded : ∀ record, answer = .ok record → ∃ file, next.history = store.history ++ [file] ∧
    record.historyPath = file.path ∧
    record.sequence.artifactSequence = file.artifactSequence ∧
    record.sequence.writeSequence = file.writeSequence ∧
    record.failureSequence = file.failureSequence
  published : call.publication = .published → (∃ entries, call.request.payload = .obj entries) →
    (∀ value, envelope store.root call.request (nextNumbers store call.request).1
        (nextNumbers store call.request).2 = .ok value →
      validate call.request.artifactFamily value = .ok ()) →
    answer.isOk = true

/-- **A write of a ledger leaves a ledger, and adds what its numbers say.** -/
theorem Ledger.write (h : Ledger validate pr store) (call : WriteCall)
    (hrequest : WellFormed pr call.request)
    (hlength : store.history.length ≤ maxArtifactScanFiles) :
    Ledger validate pr
        ((artifactMachine validate).next store call) ∧
      Written validate store call
        ((artifactMachine validate).answer store call)
        ((artifactMachine validate).next store call) := by
  have hstep := h.write_eq hlength call.order hrequest call.publication
  unfold StateMachine.next StateMachine.answer artifactMachine
  simp only
  rw [hstep]
  cases hvalue : envelope store.root call.request (nextNumbers store call.request).1
      (nextNumbers store call.request).2 with
  | error error =>
    refine ⟨h, Or.inl ⟨rfl, rfl⟩, fun record hrecord => by simp [bind, Except.bind] at hrecord, ?_⟩
    rintro - ⟨entries, hobject⟩ -
    unfold envelope injectStoreFields at hvalue
    rw [hobject] at hvalue
    simp [Json.asObject?] at hvalue
  | ok value =>
    cases hinvariants : validate call.request.artifactFamily value with
    | error error =>
      refine ⟨?_, ?_, ?_, ?_⟩
      · simpa [bind, Except.bind, hinvariants] using h
      · exact Or.inl (by simp [bind, Except.bind, hinvariants, Except.isOk, Except.toBool])
      · simp [bind, Except.bind, hinvariants]
      · intro _ _ haccepted
        rw [haccepted value hvalue] at hinvariants
        simp at hinvariants
    | ok _ =>
      have hledger := h.append hlength hrequest hvalue hinvariants
      obtain ⟨hfamily, hnumbers⟩ := h.numbers_of_envelope hlength hrequest hvalue
      simp only [bind, Except.bind, hinvariants]
      cases hpublication : call.publication with
      | failed error => exact ⟨h, Or.inl ⟨rfl, rfl⟩, by simp, by simp [hpublication]⟩
      | crashed =>
        exact ⟨hledger, Or.inr ⟨_, rfl, hfamily, hnumbers⟩, by simp, by simp [hpublication]⟩
      | published =>
        have hpath : canonicalPath store.root call.request.binding
            call.request.artifactFamily =
            canonicalPath store.root pr (historyFile store.root call.request
              (nextNumbers store call.request).1 value).family := by
          rw [hfamily]
          unfold canonicalPath
          rw [bindingRoot_eq hrequest.binding]
        refine ⟨hledger.replaceCurrent (List.mem_append_right _ (List.mem_singleton_self _))
          rfl hpath, Or.inr ⟨_, rfl, hfamily, hnumbers⟩, ?_, by simp [Except.isOk, Except.toBool]⟩
        intro record hrecord
        obtain ⟨hartifact, hwrite, hfailure⟩ := hnumbers
        refine ⟨_, rfl, ?_⟩
        rw [← Except.ok.inj hrecord, hartifact, hwrite, hfailure]
        refine ⟨rfl, rfl, rfl, ?_⟩
        simp [writeRecord, nextNumbers, Function.comp_def]

theorem recoverSequenceState_of_long (validate : FamilyInvariants)
    (hlength : maxArtifactScanFiles < store.history.length) (order : ListingOrder)
    (binding : PrFollowupBinding) (consumedFamily : Option String) :
    ∃ error, recoverSequenceState validate order binding consumedFamily store =
      (.error error, store) := by
  unfold recoverSequenceState recoverSequences recoverStrictHistory
  rw [if_pos hlength]
  exact ⟨_, rfl⟩

/-- **What every write keeps.** -/
theorem Ledger.next (h : Ledger validate pr store) {call : WriteCall}
    (hrequest : WellFormed pr call.request) :
    Ledger validate pr
      ((artifactMachine validate).next store call) := by
  by_cases hlength : store.history.length ≤ maxArtifactScanFiles
  · exact (h.write call hrequest hlength).1
  · obtain ⟨error, hrefused⟩ := recoverSequenceState_of_long validate
      (Nat.lt_of_not_le hlength) call.order call.request.binding
      (some call.request.artifactFamily)
    unfold StateMachine.next artifactMachine writeJsonArtifactLocked
    simp only [hrefused]
    exact h

/-- **A write leaves the store as it is, or adds one file.** -/
theorem Ledger.write_cases (h : Ledger validate pr store) (order : ListingOrder)
    (hrequest : WellFormed pr request) (publication : Publication) :
    ((writeJsonArtifactLocked validate order request publication store).2 = store ∧
      (writeJsonArtifactLocked validate order request publication store).1.isOk =
        false) ∨
      ∃ value, envelope store.root request (nextNumbers store request).1
          (nextNumbers store request).2 = .ok value ∧
        let file := historyFile store.root request (nextNumbers store request).1 value
        let next :=
          (writeJsonArtifactLocked validate order request publication store).2
        file.family = request.artifactFamily ∧
          file.artifactSequence = largest (store.history.map (·.artifactSequence)) + 1 ∧
          Ledger validate pr (store.append file) ∧
          Ledger validate pr next ∧
          next.history = (store.append file).history := by
  by_cases hlength : store.history.length ≤ maxArtifactScanFiles
  · have hwrite := h.write ⟨order, request, publication⟩ hrequest hlength
    have hnext := hwrite.1
    unfold StateMachine.next artifactMachine at hnext
    simp only at hnext
    have hstep := h.write_eq hlength order hrequest publication
    cases hvalue : envelope store.root request (nextNumbers store request).1
        (nextNumbers store request).2 with
    | error error =>
      refine Or.inl ?_
      rw [hstep, hvalue]
      exact ⟨rfl, rfl⟩
    | ok value =>
      cases hinvariants : validate request.artifactFamily value with
      | error error =>
        refine Or.inl ?_
        rw [hstep, hvalue]
        simp only [bind, Except.bind, hinvariants]
        exact ⟨trivial, rfl⟩
      | ok _ =>
        obtain ⟨hfamily, hnumber, -⟩ := h.numbers_of_envelope hlength hrequest hvalue
        have happend := h.append hlength hrequest hvalue hinvariants
        rw [hvalue] at hstep
        simp only [bind, Except.bind, hinvariants] at hstep
        cases publication with
        | failed error => exact Or.inl (by rw [hstep]; exact ⟨rfl, rfl⟩)
        | crashed =>
          refine Or.inr ⟨value, rfl, hfamily, hnumber, happend, hnext, ?_⟩
          rw [hstep]
        | published =>
          refine Or.inr ⟨value, rfl, hfamily, hnumber, happend, hnext, ?_⟩
          rw [hstep]
          rfl
  · obtain ⟨error, hrefused⟩ := recoverSequenceState_of_long validate
      (Nat.lt_of_not_le hlength) order request.binding (some request.artifactFamily)
    refine Or.inl ?_
    unfold writeJsonArtifactLocked
    simp only [hrefused]
    exact ⟨trivial, rfl⟩

theorem Ledger.write_failed (h : Ledger validate pr store) (order : ListingOrder)
    (hrequest : WellFormed pr request) (error : String) :
    (writeJsonArtifactLocked validate order request (.failed error) store).2 =
      store := by
  by_cases hlength : store.history.length ≤ maxArtifactScanFiles
  · rw [h.write_eq hlength order hrequest (.failed error)]
    split <;> first | rfl | contradiction
  · obtain ⟨error, hrefused⟩ := recoverSequenceState_of_long validate
      (Nat.lt_of_not_le hlength) order request.binding (some request.artifactFamily)
    unfold writeJsonArtifactLocked
    simp only [hrefused]

theorem ordered_append (h : (store.history.map (·.artifactSequence)).Pairwise (· < ·))
    (hfile : file.artifactSequence = largest (store.history.map (·.artifactSequence)) + 1) :
    ((store.append file).history.map (·.artifactSequence)).Pairwise (· < ·) := by
  unfold ArtifactStore.append
  rw [List.map_append, List.pairwise_append]
  refine ⟨h, List.pairwise_singleton _ _, ?_⟩
  intro n hn m hm
  obtain rfl := List.mem_singleton.mp hm
  have hle := le_largest hn
  show n < file.artifactSequence
  omega

end Ledger

/-! ### The history only grows -/

/-- Files were added to a history, and none took the place of another. -/
structure Grew (store next : ArtifactStore) : Prop where
  history : store.history <+: next.history
  paths : (store.history.map (·.path)).Nodup → (next.history.map (·.path)).Nodup

instance : Std.Refl Grew := ⟨fun _ => ⟨List.prefix_refl _, id⟩⟩

instance : IsTrans ArtifactStore Grew :=
  ⟨fun _ _ _ first second =>
    ⟨first.history.trans second.history, second.paths ∘ first.paths⟩⟩

theorem grew_createHistory {file : ContainedFile} {store next : ArtifactStore}
    (h : store.createHistory file = .ok next) : Grew store next := by
  unfold ArtifactStore.createHistory at h
  split at h
  · simp at h
  · rename_i hnew
    obtain rfl := Except.ok.inj h
    refine ⟨List.prefix_append _ _, fun hpaths => ?_⟩
    rw [List.map_append]
    refine List.Nodup.append hpaths (List.nodup_singleton _) ?_
    intro path hold hpath
    obtain ⟨existing, hexisting, rfl⟩ := List.mem_map.mp hold
    refine hnew (List.any_eq_true.mpr ⟨existing, hexisting, ?_⟩)
    simpa using hpath

theorem grew_createBackfills (backfills : List ContainedFile) (store : ArtifactStore) :
    Grew store (createBackfills backfills store).2 := by
  induction backfills generalizing store with
  | nil => exact Std.Refl.refl store
  | cons backfill rest ih =>
    unfold createBackfills
    cases hcreated : store.createHistory backfill with
    | error error => exact Std.Refl.refl store
    | ok created => exact IsTrans.trans _ _ _ (grew_createHistory hcreated) (ih created)

theorem grew_recoverSequenceState (validate : FamilyInvariants)
    (order : ListingOrder) (binding : PrFollowupBinding) (consumedFamily : Option String)
    (store : ArtifactStore) :
    Grew store (recoverSequenceState validate order binding consumedFamily
      store).2 := by
  unfold recoverSequenceState
  cases recoverSequences validate order binding consumedFamily store with
  | error error => exact Std.Refl.refl store
  | ok recovery =>
    have hgrew := grew_createBackfills
      (recovery.backfills.insertionSort fun a b => a.artifactSequence ≤ b.artifactSequence) store
    simp only
    split <;> rename_i heq <;> rwa [heq] at hgrew

theorem grew_publishArtifact (history canonical : FilePath) (value : Json)
    (publication : Publication) (store : ArtifactStore) :
    Grew store (publishArtifact history canonical value publication store).2 := by
  unfold publishArtifact
  cases publication with
  | failed error => exact Std.Refl.refl store
  | crashed =>
    cases hcreated : store.createHistory ⟨history, value⟩ with
    | error error => exact Std.Refl.refl store
    | ok created => exact grew_createHistory hcreated
  | published =>
    cases hcreated : store.createHistory ⟨history, value⟩ with
    | error error => exact Std.Refl.refl store
    | ok created =>
      have hgrew := grew_createHistory hcreated
      exact ⟨hgrew.history, hgrew.paths⟩

/-- **No write takes a file out of the history, or replaces one.** -/
theorem grew_write (validate : FamilyInvariants) (store : ArtifactStore)
    (call : WriteCall) :
    Grew store ((artifactMachine validate).next store call) := by
  have hrecovery := grew_recoverSequenceState validate call.order
    call.request.binding (some call.request.artifactFamily) store
  unfold StateMachine.next artifactMachine writeJsonArtifactLocked
  simp only
  split
  · rename_i heq
    rwa [heq] at hrecovery
  · rename_i recovered heq
    rw [heq] at hrecovery
    split
    · exact hrecovery
    · refine IsTrans.trans _ _ _ hrecovery ?_
      have hpublished := grew_publishArtifact
      split <;> rename_i hpublish
      all_goals
        have hgrew := congrArg Prod.snd hpublish
        exact hgrew ▸ hpublished _ _ _ _ _

/-! ### Runs -/

/-- **The ledger of a pull request, after any writes to it.**  Recovery succeeds, up to the
number of files that a scan reads; the next write gets the next number of each kind, those of
documents and of failures counted over the pull request and those of writes over a family; no
file of the history is taken out or replaced, by these writes or any other; and a canonical
file is a copy of a file of the history. -/
theorem artifact_ledger_integrity (validate : FamilyInvariants)
    {pr : PrFollowupBinding} (empty : ArtifactStore) (calls : List WriteCall)
    (hstart : (artifactMachine validate).start empty)
    (hcalls : (artifactMachine validate).Along
      (fun _ call => WellFormed pr call.request) empty calls) :
    let m := artifactMachine validate
    let store := m.run empty calls
    (store.history.length ≤ maxArtifactScanFiles →
      (∀ order binding consumedFamily, validateSequenceBinding pr binding = true →
        ∃ state, recoverSequenceState validate order binding consumedFamily store =
          (.ok state, store)) ∧
      ∀ call, WellFormed pr call.request →
        Written validate store call (m.answer store call) (m.next store call)) ∧
    ((store.history.map (·.path)).Nodup ∧ ∀ more, Grew store (m.run store more)) ∧
    ∀ file ∈ store.current, ∃ snapshot ∈ store.history, file.content = snapshot.content := by
  intro m store
  have hledger : Ledger validate pr store :=
    hcalls.invariant (fun _ _ hrequest h => h.next hrequest)
      (ledger_of_empty hstart.1 hstart.2)
  refine ⟨fun hlength => ⟨?_, fun call hrequest => (hledger.write call hrequest hlength).2⟩,
    ⟨?_, fun more => ?_⟩, fun file hfile => ?_⟩
  · intro order binding consumedFamily hbinding
    obtain ⟨state, hrecovered, -⟩ :=
      hledger.recoverSequenceState_eq hlength order hbinding consumedFamily
    exact ⟨state, hrecovered⟩
  · have hgrew : Grew empty store :=
      StateMachine.run_rel (grew_write validate) empty calls
    refine hgrew.paths ?_
    rw [hstart.1]
    exact List.nodup_nil
  · exact StateMachine.run_rel (grew_write validate) store more
  · obtain ⟨snapshot, hmem, hcontent, -⟩ := hledger.current file hfile
    exact ⟨snapshot, hmem, hcontent⟩

def exampleBinding : PrFollowupBinding where
  schemaVersion := 1
  runId := "run-1"
  repositoryOwner := "owner"
  repositoryName := "repo"
  prNumber := 7
  headRef := "feature"
  headSha := "abc"
  baseRef := "main"
  baseSha := none

def exampleDocument (artifactFamily : String) (payload : List (String × Json)) :
    JsonArtifactWriteRequest where
  binding := exampleBinding
  artifactFamily := artifactFamily
  producerStepId := "step"
  stepOrderIndex := 0
  writtenAt := 0
  producedAt := 0
  payload := .obj payload

/-- The write, by a process that lists files in the order of their creation. -/
def exampleCall (request : JsonArtifactWriteRequest) (publication : Publication) : WriteCall :=
  ⟨⟨id, fun files => List.Perm.refl files⟩, request, publication⟩

def exampleInvariants : FamilyInvariants := fun _ _ => .ok ()

def exampleStore (calls : List WriteCall) : ArtifactStore :=
  (artifactMachine exampleInvariants).run { root := "root" } calls

theorem exampleDocument_wellFormed : WellFormed exampleBinding (exampleDocument "ci" []) where
  binding := by decide
  producer := by decide
  unnamed := by decide
  successful := fun _ => by decide
  shallow := by decide
  details := by simp [exampleDocument]

/-- Two writes, of which the second is gone before the canonical file is replaced. -/
theorem artifact_ledger_integrity_example :
    let store := exampleStore [exampleCall (exampleDocument "ci" []) .published,
      exampleCall (exampleDocument "ci" []) .crashed]
    store.history.length = 2 ∧ store.current.length = 1 ∧
      ∃ state, recoverSequenceState exampleInvariants ⟨id, fun files => List.Perm.refl files⟩
        exampleBinding none store = (.ok state, store) := by
  have hledger := artifact_ledger_integrity exampleInvariants { root := "root" }
    [exampleCall (exampleDocument "ci" []) .published,
      exampleCall (exampleDocument "ci" []) .crashed]
    ⟨rfl, rfl⟩ ⟨exampleDocument_wellFormed, exampleDocument_wellFormed, trivial⟩
  have hlength : (exampleStore [exampleCall (exampleDocument "ci" []) .published,
      exampleCall (exampleDocument "ci" []) .crashed]).history.length = 2 := by decide +kernel
  refine ⟨hlength, by decide +kernel, ?_⟩
  refine (hledger.1 ?_).1 _ _ _ (by decide)
  exact Nat.le_trans (Nat.le_of_eq hlength) (by decide)

theorem exampleStore_replicate {n : Nat} (h : n ≤ maxArtifactScanFiles + 1) :
    (exampleStore (List.replicate n (exampleCall (exampleDocument "ci" []) .published))
      ).history.length = n ∧
    Ledger exampleInvariants exampleBinding
      (exampleStore (List.replicate n (exampleCall (exampleDocument "ci" []) .published))) := by
  induction n with
  | zero => exact ⟨rfl, ledger_of_empty rfl rfl⟩
  | succ n ih =>
    obtain ⟨hlength, hledger⟩ := ih (by omega)
    have hnext : exampleStore
        (List.replicate (n + 1) (exampleCall (exampleDocument "ci" []) .published)) =
        (artifactMachine exampleInvariants).next
          (exampleStore (List.replicate n (exampleCall (exampleDocument "ci" []) .published)))
          (exampleCall (exampleDocument "ci" []) .published) := by
      unfold exampleStore
      rw [List.replicate_succ', StateMachine.run_append]
      rfl
    obtain ⟨hkept, hwritten⟩ := hledger.write
      (exampleCall (exampleDocument "ci" []) .published) exampleDocument_wellFormed (by omega)
    have hdone := hwritten.published rfl ⟨[], rfl⟩ fun _ _ => rfl
    rw [hnext]
    refine ⟨?_, hkept⟩
    rcases hwritten.added with ⟨-, hrefused⟩ | ⟨file, hhistory, -⟩
    · rw [hdone] at hrefused
      simp at hrefused
    · rw [hhistory, List.length_append, hlength]
      rfl

/-- Whether the numbers of the pull request can be recovered after some writes. -/
def recoveredAfter (calls : List WriteCall) : Bool :=
  (recoverSequenceState exampleInvariants ⟨id, fun files => List.Perm.refl files⟩ exampleBinding
    none (exampleStore calls)).1.isOk

def nested : Nat → Json
  | 0 => .null
  | n + 1 => .arr [nested n]

/-- The first document of a family does not get the first number where another family has a
document.  One document whose payload has a name, or the number of a failure that is none, or
is too deep, or one without a producer or a head, and recovery fails ever after; so it does
after more documents than a scan reads. -/
theorem artifact_ledger_limits :
    ((artifactMachine exampleInvariants).answer
        (exampleStore [exampleCall (exampleDocument "ci" []) .published])
        (exampleCall (exampleDocument "review" []) .published)).toOption.map
          (·.sequence.artifactSequence) = some 2 ∧
      recoveredAfter
        [exampleCall (exampleDocument "ci" [("artifact_name", .str "log")]) .published] = false ∧
      recoveredAfter
        [exampleCall (exampleDocument "ci" [("failure_sequence", .num 7)]) .published] = false ∧
      recoveredAfter
        [exampleCall (exampleDocument "ci" [("deep", nested 127)]) .published] = false ∧
      recoveredAfter
        [exampleCall { exampleDocument "ci" [] with producerStepId := "" } .published] = false ∧
      recoveredAfter
        [exampleCall { exampleDocument "ci" [] with
          binding := { exampleBinding with headSha := "" } } .published] = false ∧
      recoveredAfter
        (List.replicate 100001 (exampleCall (exampleDocument "ci" []) .published)) = false := by
  refine ⟨by decide +kernel, by decide +kernel, by decide +kernel, by decide +kernel,
    by decide +kernel, by decide +kernel, ?_⟩
  have hlong : maxArtifactScanFiles < (exampleStore (List.replicate 100001
      (exampleCall (exampleDocument "ci" []) .published))).history.length := by
    rw [(exampleStore_replicate (n := 100001) (by decide)).1]
    decide
  obtain ⟨error, hrefused⟩ := recoverSequenceState_of_long exampleInvariants hlong
    ⟨id, fun files => List.Perm.refl files⟩ exampleBinding none
  unfold recoveredAfter
  rw [hrefused]
  rfl

end Luther
