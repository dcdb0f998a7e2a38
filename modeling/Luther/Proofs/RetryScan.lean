/-
What a scan of the retry history finds.

`RetryLedger` is the ledger of the store, with what the retry states add to it: the documents
are numbered in the order they were written, every retry document is the document of a state,
and in each scope every state names the one before it.  Files are listed in any order, so a
scan meets a scope's states in any order; it sorts them by their numbers, and that is the order
they were written in.
-/
import Luther.Proofs.RetryDocument

namespace Luther

/-! ### The states of a history -/

/-- The state of a document, with the number of the document. -/
def retryEntry (file : ContainedFile) : Option (Nat × RetryState) :=
  (RetryState.fromJson file.content).toOption.map fun state => (file.artifactSequence, state)

/-- The retry documents, in the order they were written. -/
def retryFiles (store : ArtifactStore) : List ContainedFile :=
  store.history.filter (·.family == retryStateFamily)

def scopeFiles (scope : RetryScopeKey) (files : List ContainedFile) : List ContainedFile :=
  files.filter fun file => candidateScope file.content == some scope

/-- The states of a scope, in the order they were written, with the numbers of their
documents. -/
def retryEntries (scope : RetryScopeKey) (store : ArtifactStore) : List (Nat × RetryState) :=
  (scopeFiles scope (retryFiles store)).filterMap retryEntry

/-- Every state names the number of the one before it. -/
def Linked : Option Nat → List (Nat × RetryState) → Prop
  | _, [] => True
  | previous, (sequence, state) :: rest =>
    state.predecessorArtifactSequence.map UInt64.toNat = previous ∧ Linked (some sequence) rest

/-- The file is the document of the state. -/
structure RetryDocument (binding : PrFollowupBinding) (file : ContainedFile) (state : RetryState) :
    Prop where
  reads : ReadsAs file.content state
  binding : bindingFromValue file.content = .ok binding
  unreset : state.historyChainReset = false

/-- What holds of the files of a binding after any persists. -/
structure RetryLedger (validate : FamilyInvariants) (binding : PrFollowupBinding)
    (store : ArtifactStore) : Prop where
  ledger : Ledger validate binding store
  ordered : (store.history.map (·.artifactSequence)).Pairwise (· < ·)
  documents : ∀ file ∈ store.history, file.family = retryStateFamily →
    ∃ state, RetryDocument binding file state
  linked : ∀ scope, Linked none (retryEntries scope store)

/-! ### One document -/

section Document

variable {binding : PrFollowupBinding} {file : ContainedFile} {state : RetryState}

theorem RetryDocument.entry (h : RetryDocument binding file state) :
    retryEntry file = some (file.artifactSequence, state) := by
  unfold retryEntry
  rw [fromJson_of_readsAs h.reads]
  rfl

theorem RetryDocument.scope (h : RetryDocument binding file state) :
    candidateScope file.content = some state.scope := by
  unfold candidateScope
  rw [h.reads.scope, Option.bind_some, RetryScopeKey.fromJson_toJson]
  rfl

theorem RetryDocument.deserialize (h : RetryDocument binding file state)
    (parse : Rfc3339Parser) :
    deserializeRetryState parse file.content =
      (validateStateInvariants parse state).map fun () => state := by
  unfold deserializeRetryState
  rw [fromJson_of_readsAs h.reads]
  simp only [Except.mapError, bind, Except.bind]
  cases validateStateInvariants parse state <;> rfl

end Document

/-! ### The families of files -/

theorem plainFamily_retryState : PlainFamily retryStateFamily := by decide +kernel

/-! ### Scanning -/

section Scan

variable {validate : FamilyInvariants} {binding : PrFollowupBinding}
  {store : ArtifactStore}

variable {file : ContainedFile}

theorem validateArtifactValue_of_document {root : String} {state : RetryState}
    (hbinding : binding.Complete) (hsnapshot : Snapshot validate binding root file)
    (hfamily : file.family = retryStateFamily) (h : RetryDocument binding file state) :
    validateArtifactValue binding retryStateFamily file.content = .ok () := by
  rw [← hfamily]
  exact hsnapshot.artifactValue h.binding hbinding

theorem candidate_of_document {root : String} {state : RetryState} (hbinding : binding.Complete)
    (hsnapshot : Snapshot validate binding root file) (hfamily : file.family = retryStateFamily)
    (h : RetryDocument binding file state) :
    recoverableHistoryCandidate validate binding retryStateFamily file =
      ⟨file.path, some file.content, none⟩ := by
  have hfilename := hsnapshot.filename
  have hhistory := hsnapshot.historySnapshot
  rw [hfamily] at hfilename hhistory
  unfold recoverableHistoryCandidate
  simp only [hsnapshot.fromText, validateArtifactValue_of_document hbinding hsnapshot hfamily h,
    hhistory, hfilename, hsnapshot.embedded, bind, Except.bind]

/-- What a scan knows of the files it has visited. -/
structure Scanned (parse : Rfc3339Parser) (scope : RetryScopeKey) (files : List ContainedFile)
    (history : CompactRetryHistory) : Prop where
  count : history.candidateCount = files.length
  inScope : history.«scoped».Perm ((scopeFiles scope files).map fun file =>
    (file.artifactSequence, ⟨file.path, none, deserializeRetryState parse file.content⟩))
  sorted : history.«scoped».Pairwise fun a b => a.1 ≤ b.1
  unscoped : history.unscoped = []
  duplicate : history.duplicate = none
  latest : match history.latestValue with
    | none => scopeFiles scope files = []
    | some (sequence, value) => ∃ file ∈ scopeFiles scope files,
        sequence = file.artifactSequence ∧ value = file.content ∧
          ∀ other ∈ scopeFiles scope files, other.artifactSequence ≤ sequence

variable {files : List ContainedFile} {history : CompactRetryHistory} {parse : Rfc3339Parser}
  {scope : RetryScopeKey}

/-- **One more file is visited.** -/
theorem Scanned.visit {scope' : RetryScopeKey}
    (h : Scanned parse scope files history) (hscope : candidateScope file.content = some scope')
    (hsequence : historyFilenameArtifactSequence file.path = file.artifactSequence)
    (hnew : ∀ other ∈ files, other.artifactSequence ≠ file.artifactSequence) :
    Scanned parse scope (file :: files)
      (history.visit parse scope ⟨file.path, some file.content, none⟩) := by
  have hkeys : file.artifactSequence ∉ history.«scoped».map Prod.fst := by
    intro hmem
    have hperm := h.inScope.map Prod.fst
    rw [List.map_map] at hperm
    obtain ⟨other, hother, hsame⟩ := List.mem_map.mp (hperm.mem_iff.mp hmem)
    exact hnew other (List.mem_of_mem_filter hother) hsame
  unfold CompactRetryHistory.visit
  simp only [hsequence, hscope]
  by_cases hmatch : scope' = scope
  · subst hmatch
    have hcons : scopeFiles scope' (file :: files) = file :: scopeFiles scope' files := by
      simp [scopeFiles, hscope]
    rw [if_neg (by simp), if_neg hkeys]
    constructor
    case count => simp [h.count]
    case inScope =>
      rw [hcons]
      exact (List.perm_orderedInsert _ _ _).trans (h.inScope.cons _)
    case sorted => exact List.Pairwise.orderedInsert _ _ h.sorted
    case unscoped => exact h.unscoped
    case duplicate => exact h.duplicate
    case latest =>
      have hlatest := h.latest
      rw [hcons]
      cases hvalue : history.latestValue with
      | none =>
        rw [hvalue] at hlatest
        refine ⟨file, by simp, rfl, rfl, ?_⟩
        simp [hlatest]
      | some entry =>
        obtain ⟨sequence, value⟩ := entry
        rw [hvalue] at hlatest
        obtain ⟨last, hlast, hlastSequence, hlastValue, hlargest⟩ := hlatest
        by_cases hlater : sequence < file.artifactSequence
        · simp only [Option.map_some, Option.all_some, hlater, decide_true, if_true]
          refine ⟨file, by simp, rfl, rfl, ?_⟩
          intro other hother
          rcases List.mem_cons.mp hother with rfl | hold
          · exact Nat.le_refl _
          · exact Nat.le_of_lt (Nat.lt_of_le_of_lt (hlargest other hold) hlater)
        · simp only [Option.map_some, Option.all_some, hlater, decide_false]
          refine ⟨last, by simp [hlast], hlastSequence, hlastValue, ?_⟩
          intro other hother
          rcases List.mem_cons.mp hother with rfl | hold
          · exact Nat.le_of_not_lt hlater
          · exact hlargest other hold
  · have hcons : scopeFiles scope (file :: files) = scopeFiles scope files := by
      simp [scopeFiles, hscope, hmatch]
    rw [if_pos (by simpa using hmatch), if_neg (by simp)]
    exact
      { count := by simp [h.count]
        inScope := by rw [hcons]; exact h.inScope
        sorted := h.sorted
        unscoped := h.unscoped
        duplicate := h.duplicate
        latest := by rw [hcons]; exact h.latest }

theorem Scanned.perm {files' : List ContainedFile} (h : Scanned parse scope files history)
    (hp : files.Perm files') :
    Scanned parse scope files' history where
  count := h.count.trans hp.length_eq
  inScope := h.inScope.trans ((hp.filter _).map _)
  sorted := h.sorted
  unscoped := h.unscoped
  duplicate := h.duplicate
  latest := by
    have hscope : (scopeFiles scope files).Perm (scopeFiles scope files') := hp.filter _
    have hlatest := h.latest
    cases hvalue : history.latestValue with
    | none =>
      rw [hvalue] at hlatest
      rw [hlatest] at hscope
      exact hscope.symm.eq_nil
    | some entry =>
      rw [hvalue] at hlatest
      obtain ⟨file, hfile, hsequence, hcontent, hlargest⟩ := hlatest
      exact ⟨file, hscope.mem_iff.mp hfile, hsequence, hcontent,
        fun other hother => hlargest other (hscope.mem_iff.mpr hother)⟩

theorem scanned_nil (parse : Rfc3339Parser) (scope : RetryScopeKey) :
    Scanned parse scope [] {} where
  count := rfl
  inScope := List.Perm.refl _
  sorted := List.Pairwise.nil
  unscoped := rfl
  duplicate := rfl
  latest := rfl

/-- What a file must be, to be visited. -/
structure Visitable (file : ContainedFile) (candidate : RecoverableHistoryCandidate) : Prop where
  candidate : candidate = ⟨file.path, some file.content, none⟩
  scope : ∃ scope, candidateScope file.content = some scope
  sequence : historyFilenameArtifactSequence file.path = file.artifactSequence

/-- **All files are visited.** -/
theorem scanned_foldl {candidateOf : ContainedFile → RecoverableHistoryCandidate}
    {rest seen : List ContainedFile} (h : Scanned parse scope seen history)
    (hvisitable : ∀ file ∈ rest, Visitable file (candidateOf file))
    (hnew : ((rest ++ seen).map (·.artifactSequence)).Nodup) :
    Scanned parse scope (rest ++ seen)
      ((rest.map candidateOf).foldl (CompactRetryHistory.visit parse scope) history) := by
  induction rest generalizing seen history with
  | nil => exact h
  | cons file rest ih =>
    obtain ⟨hcandidate, ⟨scope', hscope⟩, hsequence⟩ := hvisitable file (by simp)
    have hdistinct : ∀ other ∈ seen, other.artifactSequence ≠ file.artifactSequence := by
      intro other hother hsame
      rw [List.cons_append, List.map_cons, List.nodup_cons] at hnew
      refine hnew.1 (List.mem_map.mpr ⟨other, ?_, hsame⟩)
      exact List.mem_append_right _ hother
    have hvisited := h.visit hscope hsequence hdistinct
    have hmiddle : (rest ++ file :: seen).Perm (file :: rest ++ seen) := List.perm_middle
    rw [List.map_cons, List.foldl_cons, hcandidate]
    refine (ih hvisited (fun f hf => hvisitable f (by simp [hf])) ?_).perm hmiddle
    exact (hmiddle.map _).nodup_iff.mpr hnew

section

variable (h : RetryLedger validate binding store)

include h

theorem familyFiles_perm (order : ListingOrder) :
    (familyFiles order binding retryStateFamily store).Perm (retryFiles store) := by
  have hfilter : retryFiles store = store.history.filter fun file =>
      file.path.parent == historyRootForFamily store.root binding retryStateFamily := by
    refine List.filter_congr fun file hfile => ?_
    have hiff := (h.ledger.snapshots file hfile).parent_iff plainFamily_retryState
    by_cases hfamily : file.family = retryStateFamily
    · simp [hfamily, hiff.mpr hfamily]
    · have hparent := mt hiff.mp hfamily
      simp [hfamily, hparent]
  rw [hfilter]
  exact (order.perm store.history).filter _

omit h in
theorem mem_retryFiles :
    file ∈ retryFiles store ↔ file ∈ store.history ∧ file.family = retryStateFamily := by
  simp [retryFiles]

theorem RetryLedger.visitable (hbinding : binding.Complete) (hfile : file ∈ retryFiles store) :
    Visitable file
      (recoverableHistoryCandidate validate binding retryStateFamily file) := by
  obtain ⟨hmem, hfamily⟩ := mem_retryFiles.mp hfile
  have hsnapshot := h.ledger.snapshots file hmem
  obtain ⟨state, hdocument⟩ := h.documents file hmem hfamily
  obtain ⟨producer, hplace⟩ := hsnapshot.place
  refine ⟨candidate_of_document hbinding hsnapshot hfamily hdocument,
    ⟨state.scope, hdocument.scope⟩, ?_⟩
  rw [hplace]
  exact historyFilenameArtifactSequence_historyPath _ _ _ (requireU64_lt hsnapshot.artifact)

theorem RetryLedger.scopeFiles_ordered (scope : RetryScopeKey) :
    (scopeFiles scope (retryFiles store)).Pairwise fun a b =>
      a.artifactSequence < b.artifactSequence := by
  have hordered : store.history.Pairwise fun a b => a.artifactSequence < b.artifactSequence :=
    List.pairwise_map.mp h.ordered
  exact (hordered.filter _).filter _

omit h in
theorem eq_getLast?_of_ordered
    (hordered : files.Pairwise fun a b => a.artifactSequence < b.artifactSequence)
    (hmem : file ∈ files)
    (hlargest : ∀ other ∈ files, other.artifactSequence ≤ file.artifactSequence) :
    files.getLast? = some file := by
  obtain ⟨before, after, rfl⟩ := List.append_of_mem hmem
  have hafter : after = [] := by
    refine List.eq_nil_iff_forall_not_mem.mpr fun other hother => ?_
    have hlater := (List.pairwise_cons.mp (List.pairwise_append.mp hordered).2.1).1 other hother
    have hle := hlargest other (by simp [hother])
    omega
  simp [hafter]

/-- **A scan finds the documents of its scope in the order they were written.** -/
theorem RetryLedger.scan (hbinding : binding.Complete)
    (hlength : (retryFiles store).length ≤ maxArtifactScanFiles) (parse : Rfc3339Parser)
    (order : ListingOrder) (scope : RetryScopeKey) :
    ∃ history, scanRetryHistory validate parse order binding scope store =
        .ok history ∧
      history.candidateCount = (retryFiles store).length ∧
      history.unscoped = [] ∧ history.duplicate = none ∧
      (history.«scoped» = (scopeFiles scope (retryFiles store)).map fun file =>
        (file.artifactSequence,
          ⟨file.path, none, deserializeRetryState parse file.content⟩)) ∧
      history.latestValue = (scopeFiles scope (retryFiles store)).getLast?.map fun file =>
        (file.artifactSequence, file.content) := by
  have hfiles := familyFiles_perm h order
  have hnodup : ((retryFiles store).map (·.artifactSequence)).Nodup := by
    have hall : (store.history.map (·.artifactSequence)).Nodup := h.ordered.imp Nat.ne_of_lt
    exact hall.sublist (List.filter_sublist.map _)
  have hvisitable : ∀ file ∈ familyFiles order binding retryStateFamily store,
      Visitable file
        (recoverableHistoryCandidate validate binding retryStateFamily file) :=
    fun file hfile => h.visitable hbinding (hfiles.mem_iff.mp hfile)
  have hlisted := scanned_foldl (scanned_nil parse scope) hvisitable
    (by rw [List.append_nil]; exact (hfiles.map _).nodup_iff.mpr hnodup)
  rw [List.append_nil] at hlisted
  have hscanned := hlisted.perm hfiles
  have hordered := h.scopeFiles_ordered scope
  refine ⟨_, ?_, hscanned.count, hscanned.unscoped, hscanned.duplicate, ?_, ?_⟩
  · unfold scanRetryHistory recoverableHistoryCandidates
    dsimp only
    rw [if_neg (by rw [hfiles.length_eq]; exact Nat.not_lt_of_le hlength)]
    rfl
  · refine hscanned.inScope.eq_of_pairwise ?_ hscanned.sorted ?_
    · intro a b ha hb hab hba
      obtain ⟨file, hfile, rfl⟩ := List.mem_map.mp (hscanned.inScope.mem_iff.mp ha)
      obtain ⟨file', hfile', rfl⟩ := List.mem_map.mp hb
      have hsame : file.artifactSequence = file'.artifactSequence := Nat.le_antisymm hab hba
      have hinj := List.inj_on_of_nodup_map hnodup (List.mem_of_mem_filter hfile)
        (List.mem_of_mem_filter hfile') hsame
      rw [hinj]
    · rw [List.pairwise_map]
      exact hordered.imp Nat.le_of_lt
  · have hlatest := hscanned.latest
    generalize List.foldl _ _ _ = history at hlatest ⊢
    cases hvalue : history.latestValue with
    | none =>
      rw [hvalue] at hlatest
      rw [hlatest]
      rfl
    | some entry =>
      obtain ⟨sequence, value⟩ := entry
      rw [hvalue] at hlatest
      obtain ⟨file, hfile, rfl, rfl, hlargest⟩ := hlatest
      rw [eq_getLast?_of_ordered hordered hfile hlargest]
      rfl

end

end Scan

end Luther
