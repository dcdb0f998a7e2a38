/-
What loading a scope gives.

The history of a scope is a chain, and the last of the chain is the state.  What the canonical
file adds is only whether it is there: where it is not, an empty scope cannot be told from one
whose documents were lost.  `RetryLedger.load_eq` says so exactly: `Loadable` is when a scope
can be loaded, and it is then loaded with its last state, and the canonical file put right.
-/
import Luther.Proofs.RetryScan

namespace Luther

/-! ### The chain of a scope -/

section Chain

variable {binding : PrFollowupBinding} {files : List ContainedFile}

def retryCandidates (parse : Rfc3339Parser) (files : List ContainedFile) :
    List (Nat × CompactRetryCandidate) :=
  files.map fun file =>
    (file.artifactSequence, ⟨file.path, none, deserializeRetryState parse file.content⟩)

/-- **A chain is accepted where its states are valid, and its last state is found.** -/
theorem validateRetryChain_eq (parse : Rfc3339Parser) (latest : Option (Nat × RetryState))
    (hdocuments : ∀ file ∈ files, ∃ state, RetryDocument binding file state)
    (hlinked : Linked (latest.map Prod.fst) (files.filterMap retryEntry))
    (result : Option (Nat × RetryState)) :
    validateRetryChain (retryCandidates parse files) latest = .ok result ↔
      (∀ entry ∈ files.filterMap retryEntry, validateStateInvariants parse entry.2 = .ok ()) ∧
        result = (files.filterMap retryEntry).getLast?.or latest := by
  induction files generalizing latest with
  | nil =>
    simp only [retryCandidates, List.map_nil, validateRetryChain, List.filterMap_nil,
      List.not_mem_nil, List.getLast?_nil, Option.none_or]
    constructor
    · intro h
      exact ⟨fun _ hmem => hmem.elim, (Except.ok.inj h).symm⟩
    · intro h
      rw [h.2]
  | cons file rest ih =>
    obtain ⟨state, hdocument⟩ := hdocuments file (by simp)
    have hentries : (file :: rest).filterMap retryEntry =
        (file.artifactSequence, state) :: rest.filterMap retryEntry := by
      rw [List.filterMap_cons, hdocument.entry]
    rw [hentries] at hlinked ⊢
    obtain ⟨hpredecessor, hrest⟩ := hlinked
    unfold retryCandidates
    rw [List.map_cons]
    unfold validateRetryChain
    simp only [hdocument.deserialize]
    cases hvalid : validateStateInvariants parse state with
    | error error =>
      simp only [Except.map]
      constructor
      · intro h
        simp at h
      · intro h
        have hfirst := h.1 (file.artifactSequence, state) (by simp)
        rw [hvalid] at hfirst
        simp at hfirst
    | ok _ =>
      simp only [Except.map, hpredecessor, ne_eq, not_true_eq_false, if_false]
      have hchain := ih (some (file.artifactSequence, state))
        (fun other hother => hdocuments other (by simp [hother])) hrest
      unfold retryCandidates at hchain
      rw [hchain]
      have hlast : ((file.artifactSequence, state) :: rest.filterMap retryEntry).getLast?.or
          latest = (rest.filterMap retryEntry).getLast?.or
            (some (file.artifactSequence, state)) := by
        rw [List.getLast?_cons]
        cases (rest.filterMap retryEntry).getLast? <;> rfl
      rw [hlast]
      constructor
      · intro h
        refine ⟨fun entry hentry => ?_, h.2⟩
        rcases List.mem_cons.mp hentry with rfl | hmem
        · exact hvalid
        · exact h.1 entry hmem
      · intro h
        exact ⟨fun entry hentry => h.1 entry (List.mem_cons_of_mem _ hentry), h.2⟩

theorem getLast?_filterMap_retryEntry
    (hdocuments : ∀ file ∈ files, ∃ state, RetryDocument binding file state) :
    (files.filterMap retryEntry).getLast? = files.getLast?.bind retryEntry := by
  rcases List.eq_nil_or_concat files with rfl | ⟨before, last, rfl⟩
  · rfl
  · obtain ⟨state, hdocument⟩ := hdocuments last (by simp)
    simp [hdocument.entry]

end Chain

/-! ### The history of a scope -/

section Load

variable {validate : FamilyInvariants} {parse : Rfc3339Parser}
  {binding : PrFollowupBinding} {store : ArtifactStore} {scope : RetryScopeKey}

/-- The last document of a scope, with its state. -/
def lastSnapshot (scope : RetryScopeKey) (store : ArtifactStore) :
    Option (Nat × Json × RetryState) :=
  (scopeFiles scope (retryFiles store)).getLast?.bind fun file =>
    (retryEntry file).map fun entry => (entry.1, file.content, entry.2)

def lastState (scope : RetryScopeKey) (store : ArtifactStore) : Option RetryState :=
  (retryEntries scope store).getLast?.map Prod.snd

section

variable (h : RetryLedger validate binding store)

include h

theorem RetryLedger.scopeDocuments
    (scope : RetryScopeKey) : ∀ file ∈ scopeFiles scope (retryFiles store),
      ∃ state, RetryDocument binding file state := by
  intro file hfile
  obtain ⟨hmem, hfamily⟩ := mem_retryFiles.mp (List.mem_of_mem_filter hfile)
  exact h.documents file hmem hfamily

theorem RetryLedger.lastSnapshot_cases (scope : RetryScopeKey) :
    (retryEntries scope store = [] ∧ scopeFiles scope (retryFiles store) = [] ∧
        lastSnapshot scope store = none ∧ lastState scope store = none) ∨
      ∃ file state, (scopeFiles scope (retryFiles store)).getLast? = some file ∧
        RetryDocument binding file state ∧
        (retryEntries scope store).getLast? = some (file.artifactSequence, state) ∧
        lastSnapshot scope store = some (file.artifactSequence, file.content, state) ∧
        lastState scope store = some state := by
  have hdocuments := h.scopeDocuments scope
  unfold lastSnapshot lastState retryEntries
  rw [getLast?_filterMap_retryEntry hdocuments]
  generalize scopeFiles scope (retryFiles store) = files at hdocuments ⊢
  cases hlast : files.getLast? with
  | none =>
    rw [List.getLast?_eq_none_iff.mp hlast]
    exact Or.inl ⟨rfl, rfl, rfl, rfl⟩
  | some file =>
    obtain ⟨state, hdocument⟩ := hdocuments file (List.mem_of_getLast? hlast)
    refine Or.inr ⟨file, state, rfl, hdocument, ?_⟩
    simp [hdocument.entry]

/-- **The history of a scope gives its last document, where every state of it is valid.** -/
theorem RetryLedger.latestCompactRetrySnapshot_eq (hbinding : binding.Complete)
    (hlength : (retryFiles store).length ≤ maxArtifactScanFiles) (parse : Rfc3339Parser)
    (order : ListingOrder) (scope : RetryScopeKey) :
    ∃ history, scanRetryHistory validate parse order binding scope store =
        .ok history ∧
      history.candidateCount = (retryFiles store).length ∧
      if ∀ entry ∈ retryEntries scope store, validateStateInvariants parse entry.2 = .ok () then
        latestCompactRetrySnapshot history = .ok (lastSnapshot scope store)
      else ∃ error, latestCompactRetrySnapshot history = .error error := by
  obtain ⟨history, hscan, hcount, hunscoped, hduplicate, hscoped, hlatestValue⟩ :=
    h.scan hbinding hlength parse order scope
  refine ⟨history, hscan, hcount, ?_⟩
  have hdocuments := h.scopeDocuments scope
  have hunreset : ∀ entry ∈ history.«scoped».reverse, entry.2.isReset = false := by
    intro entry hentry
    rw [List.mem_reverse, hscoped] at hentry
    obtain ⟨file, hfile, rfl⟩ := List.mem_map.mp hentry
    obtain ⟨state, hdocument⟩ := hdocuments file hfile
    unfold CompactRetryCandidate.isReset
    simp only [hdocument.deserialize]
    cases validateStateInvariants parse state with
    | error error => rfl
    | ok _ => simp [Except.map, hdocument.unreset]
  have hreset : (history.«scoped».reverse.find? fun entry => entry.2.isReset) = none := by
    rw [List.find?_eq_none]
    intro entry hentry
    rw [hunreset entry hentry]
    simp
  have hall : (history.«scoped».filter fun entry => sinceReset none entry.1) =
      retryCandidates parse (scopeFiles scope (retryFiles store)) := by
    rw [hscoped]
    exact List.filter_eq_self.mpr fun _ _ => rfl
  have hchain := validateRetryChain_eq parse none hdocuments (h.linked scope)
  unfold latestCompactRetrySnapshot
  simp only [hduplicate, hreset, hunscoped, Option.map_none, List.find?_nil, hall, bind,
    Except.bind]
  by_cases hvalid : ∀ entry ∈ retryEntries scope store,
      validateStateInvariants parse entry.2 = .ok ()
  · rw [if_pos hvalid, (hchain _).mpr ⟨hvalid, rfl⟩]
    simp only [hlatestValue]
    rcases h.lastSnapshot_cases scope with ⟨hentries, hfiles, hnone, -⟩ |
      ⟨file, state, hfile, -, hentry, hsome, -⟩
    · unfold retryEntries at hentries
      rw [hentries, hnone]
      rfl
    · unfold retryEntries at hentry
      rw [hentry, hsome, hfile]
      simp
  · rw [if_neg hvalid]
    cases hresult : validateRetryChain (retryCandidates parse
        (scopeFiles scope (retryFiles store))) none with
    | error error => exact ⟨error, rfl⟩
    | ok result => exact absurd ((hchain result).mp hresult).1 hvalid

end

/-! ### The canonical file -/

variable {file snapshot : ContainedFile}

theorem RetryLedger.currentFile_mem (h : RetryLedger validate binding store)
    (hfile : store.currentFile binding retryStateFamily = some file) :
    ∃ snapshot ∈ retryFiles store, file.content = snapshot.content := by
  obtain ⟨snapshot, hmem, hfamily, hcontent⟩ :=
    h.ledger.currentFile_mem plainFamily_retryState hfile
  exact ⟨snapshot, mem_retryFiles.mpr ⟨hmem, hfamily⟩, hcontent⟩

theorem RetryLedger.validateCanonicalMatchesImmutableHistory_eq
    (h : RetryLedger validate binding store) (hbinding : binding.Complete)
    (hsnapshot : snapshot ∈ retryFiles store) :
    validateCanonicalMatchesImmutableHistory validate binding retryStateFamily
      snapshot.content store = .ok () := by
  obtain ⟨hmem, hfamily⟩ := mem_retryFiles.mp hsnapshot
  obtain ⟨state, hdocument⟩ := h.documents snapshot hmem hfamily
  rw [← hfamily]
  exact h.ledger.validateCanonicalMatchesImmutableHistory_eq hmem hdocument.binding hbinding

/-- **The canonical file, where there is one, is a valid document.** -/
theorem RetryLedger.readRecoverableCurrentJson_eq (h : RetryLedger validate binding store)
    (hbinding : binding.Complete) :
    readRecoverableCurrentJson validate binding retryStateFamily store =
      match store.currentFile binding retryStateFamily with
      | none => .missing
      | some file => .valid file.content := by
  unfold readRecoverableCurrentJson
  cases hfile : store.currentFile binding retryStateFamily with
  | none => rfl
  | some file =>
    obtain ⟨snapshot, hsnapshot, hcontent⟩ := h.currentFile_mem hfile
    obtain ⟨hmem, hfamily⟩ := mem_retryFiles.mp hsnapshot
    obtain ⟨state, hdocument⟩ := h.documents snapshot hmem hfamily
    have hchecked := h.ledger.snapshots snapshot hmem
    have hvalue := validateArtifactValue_of_document hbinding hchecked hfamily hdocument
    have hcanonical := hchecked.canonical
    have hinvariants := hchecked.invariants
    rw [hfamily] at hcanonical hinvariants
    simp only [hcontent, hchecked.fromText, hvalue, hcanonical, hinvariants,
      h.validateCanonicalMatchesImmutableHistory_eq hbinding hsnapshot, bind, Except.bind]

theorem RetryLedger.restore_eq (h : RetryLedger validate binding store)
    (hbinding : binding.Complete) (hsnapshot : snapshot ∈ retryFiles store) :
    restoreCanonicalFromHistoryLocked binding retryStateFamily snapshot.content store =
      .ok (store.replaceCurrent
        ⟨canonicalPath store.root binding retryStateFamily, snapshot.content⟩) := by
  obtain ⟨hmem, hfamily⟩ := mem_retryFiles.mp hsnapshot
  obtain ⟨state, hdocument⟩ := h.documents snapshot hmem hfamily
  have hchecked := h.ledger.snapshots snapshot hmem
  have hvalue := validateArtifactValue_of_document hbinding hchecked hfamily hdocument
  obtain ⟨hhistory, hcanonical⟩ := hchecked.embeddedPaths
  rw [hfamily] at hcanonical
  unfold restoreCanonicalFromHistoryLocked
  simp only [hvalue, hhistory, hchecked.ofText_path, hchecked.embedded, hcanonical, bind,
    Except.bind, ne_eq, not_true_eq_false, if_false]

theorem RetryLedger.replaceCurrent (h : RetryLedger validate binding store)
    (hsnapshot : snapshot ∈ retryFiles store) :
    RetryLedger validate binding (store.replaceCurrent
      ⟨canonicalPath store.root binding retryStateFamily, snapshot.content⟩) where
  ledger := by
    obtain ⟨hmem, hfamily⟩ := mem_retryFiles.mp hsnapshot
    exact h.ledger.replaceCurrent hmem rfl (by rw [hfamily])
  ordered := h.ordered
  documents := h.documents
  linked := h.linked

theorem currentFile_replaceCurrent (value : Json) :
    (store.replaceCurrent ⟨canonicalPath store.root binding retryStateFamily, value⟩).currentFile
        binding retryStateFamily =
      some ⟨canonicalPath store.root binding retryStateFamily, value⟩ := by
  unfold ArtifactStore.currentFile ArtifactStore.replaceCurrent
  rw [List.find?_append, List.find?_eq_none.mpr ?_]
  · simp
  · intro file hfile
    have hother := (List.mem_filter.mp hfile).2
    simpa using hother

/-! ### Loading -/

/-- When a scope can be loaded. -/
structure Loadable (parse : Rfc3339Parser) (binding : PrFollowupBinding) (scope : RetryScopeKey)
    (store : ArtifactStore) : Prop where
  length : (retryFiles store).length ≤ maxArtifactScanFiles
  chain : ∀ entry ∈ retryEntries scope store, validateStateInvariants parse entry.2 = .ok ()
  canonical : ∀ file, store.currentFile binding retryStateFamily = some file →
    ∃ state, deserializeRetryState parse file.content = .ok state
  known : store.currentFile binding retryStateFamily ≠ none ∨ retryFiles store = [] ∨
    retryEntries scope store ≠ []

/-- The store that a scope was loaded from: its canonical file is right, where the scope has a
state. -/
structure Loaded (validate : FamilyInvariants) (binding : PrFollowupBinding)
    (scope : RetryScopeKey) (store next : ArtifactStore) : Prop where
  history : next.history = store.history
  root : next.root = store.root
  ledger : RetryLedger validate binding next
  sequence : ∀ entry, (retryEntries scope store).getLast? = some entry →
    stateSequenceLocked validate binding next =
      .ok (some (UInt64.ofNat entry.1))

section

variable (h : RetryLedger validate binding store)

include h

theorem RetryLedger.artifactSequence_eq (hfile : file ∈ store.history) :
    artifactSequence file.content = .ok file.artifactSequence := by
  have hread := (h.ledger.snapshots file hfile).artifact
  have hpositive : 0 < file.artifactSequence :=
    h.ledger.numbered.artifacts.pos (List.mem_map_of_mem hfile)
  have hnumber : (file.content.get? "artifact_sequence").bind Json.asU64? =
      some file.artifactSequence := by
    unfold requireU64 at hread
    split at hread
    · rename_i heq
      rw [heq, Except.ok.inj hread]
    · simp at hread
  have hkept : ((file.content.get? "artifact_sequence").bind Json.asU64?).filter (0 < ·) =
      some file.artifactSequence := by
    rw [hnumber]
    simp [hpositive]
  unfold artifactSequence
  rw [hkept]

theorem RetryLedger.stateSequenceLocked_eq (hbinding : binding.Complete)
    (hfile : store.currentFile binding retryStateFamily = some file)
    (hsnapshot : snapshot ∈ store.history) (hcontent : file.content = snapshot.content) :
    stateSequenceLocked validate binding store =
      .ok (some (UInt64.ofNat snapshot.artifactSequence)) := by
  unfold stateSequenceLocked
  rw [h.readRecoverableCurrentJson_eq hbinding, hfile]
  simp only [hcontent, h.artifactSequence_eq hsnapshot]
  rfl

/-- **A scope is put back from its history.** -/
theorem RetryLedger.recoverLatestRetrySnapshot_eq
    (hbinding : binding.Complete) (scope : RetryScopeKey) :
    ∃ next, recoverLatestRetrySnapshot binding (lastSnapshot scope store) store =
        (.ok (lastState scope store), next) ∧
      Loaded validate binding scope store next := by
  rcases h.lastSnapshot_cases scope with ⟨hentries, -, hnone, hstate⟩ |
    ⟨file, state, hfile, -, hentry, hsome, hstate⟩
  · refine ⟨store, ?_, rfl, rfl, h, ?_⟩
    · rw [hnone, hstate]
      rfl
    · rw [hentries]
      simp
  · have hmem : file ∈ retryFiles store := List.mem_of_mem_filter (List.mem_of_getLast? hfile)
    refine ⟨store.replaceCurrent
      ⟨canonicalPath store.root binding retryStateFamily, file.content⟩, ?_, rfl, rfl,
      h.replaceCurrent hmem, ?_⟩
    · unfold recoverLatestRetrySnapshot
      rw [hsome, hstate]
      simp only [h.restore_eq hbinding hmem]
    · intro entry hlast
      rw [hentry] at hlast
      obtain rfl := Option.some.inj hlast
      exact (h.replaceCurrent hmem).stateSequenceLocked_eq hbinding
        (currentFile_replaceCurrent file.content) (mem_retryFiles.mp hmem).1 rfl

omit h in
theorem le_getLast?_of_ordered {files : List ContainedFile} {last : ContainedFile}
    (hordered : files.Pairwise fun a b => a.artifactSequence < b.artifactSequence)
    (hlast : files.getLast? = some last) (hfile : file ∈ files) :
    file.artifactSequence ≤ last.artifactSequence := by
  obtain ⟨before, rfl⟩ := List.getLast?_eq_some_iff.mp hlast
  rcases List.mem_append.mp hfile with hbefore | hsame
  · have hlt := (List.pairwise_append.mp hordered).2.2 file hbefore last (by simp)
    exact Nat.le_of_lt hlt
  · rw [List.mem_singleton.mp hsame]

theorem RetryLedger.loadFromCanonical_eq (hbinding : binding.Complete) (parse : Rfc3339Parser)
    (scope : RetryScopeKey) (hfile : store.currentFile binding retryStateFamily = some file) :
    ((∃ state, deserializeRetryState parse file.content = .ok state) →
      ∃ next, loadFromCanonical parse binding scope (lastSnapshot scope store) file.content store =
          (.ok (lastState scope store), next) ∧
        Loaded validate binding scope store next) ∧
    ((¬ ∃ state, deserializeRetryState parse file.content = .ok state) →
      ∃ error, loadFromCanonical parse binding scope (lastSnapshot scope store) file.content
        store = (.error error, store)) := by
  obtain ⟨snapshot, hsnapshot, hcontent⟩ := h.currentFile_mem hfile
  obtain ⟨hmem, hfamily⟩ := mem_retryFiles.mp hsnapshot
  obtain ⟨state, hdocument⟩ := h.documents snapshot hmem hfamily
  unfold loadFromCanonical
  simp only [hcontent, h.artifactSequence_eq hmem, hdocument.deserialize, bind, Except.bind]
  cases hvalid : validateStateInvariants parse state with
  | error error =>
    refine ⟨fun hread => ?_, fun _ => ⟨_, rfl⟩⟩
    obtain ⟨state', hread⟩ := hread
    simp [Except.map] at hread
  | ok _ =>
    refine ⟨fun _ => ?_, fun hread => absurd ⟨state, rfl⟩ hread⟩
    simp only [Except.map]
    by_cases hscope : state.scope = scope
    · -- The canonical file is of the scope, so the scope has a last document.
      have hinScope : snapshot ∈ scopeFiles scope (retryFiles store) := by
        refine List.mem_filter.mpr ⟨hsnapshot, ?_⟩
        rw [hdocument.scope, hscope]
        simp
      rw [if_neg (not_not_intro hscope)]
      rcases h.lastSnapshot_cases scope with ⟨-, hempty, -⟩ |
        ⟨last, lastState', hlast, hlastDocument, hentry, hsome, hstate⟩
      · rw [hempty] at hinScope
        simp at hinScope
      · have hle := le_getLast?_of_ordered (h.scopeFiles_ordered scope) hlast hinScope
        rw [hsome]
        simp only
        rw [if_neg (Nat.not_lt_of_le hle)]
        by_cases hbehind : snapshot.artifactSequence < last.artifactSequence ∨
            last.content ≠ snapshot.content
        · rw [if_pos hbehind, ← hsome]
          exact h.recoverLatestRetrySnapshot_eq hbinding scope
        · rw [if_neg hbehind]
          rw [not_or, not_not] at hbehind
          have hlastMem := (mem_retryFiles.mp
            (List.mem_of_mem_filter (List.mem_of_getLast? hlast))).1
          obtain rfl : last = snapshot := h.ledger.eq_of_artifactSequence hlastMem hmem (by omega)
          have hstates := hlastDocument.entry.symm.trans hdocument.entry
          simp only [Option.some.injEq, Prod.mk.injEq, true_and] at hstates
          refine ⟨store, by rw [hstate, hstates], rfl, rfl, h, fun entry hlastEntry => ?_⟩
          rw [hentry] at hlastEntry
          obtain rfl := Option.some.inj hlastEntry
          exact h.stateSequenceLocked_eq hbinding hfile hmem hcontent
    · rw [if_pos hscope]
      exact h.recoverLatestRetrySnapshot_eq hbinding scope

/-- **A scope that can be loaded is loaded with its last state; another is an error, and nothing
is written.** -/
theorem RetryLedger.load_eq (hbinding : binding.Complete)
    (parse : Rfc3339Parser) (order : ListingOrder) (scope : RetryScopeKey) :
    (Loadable parse binding scope store →
      ∃ next, loadMatchingStateLocked validate parse order binding scope store =
          (.ok (lastState scope store), next) ∧
        Loaded validate binding scope store next) ∧
    (¬ Loadable parse binding scope store →
      ∃ error, loadMatchingStateLocked validate parse order binding scope store =
        (.error error, store)) := by
  unfold loadMatchingStateLocked loadMatchingStateClassifiedLocked
  by_cases hlength : (retryFiles store).length ≤ maxArtifactScanFiles
  · obtain ⟨history, hscan, hcount, hlatest⟩ :=
      h.latestCompactRetrySnapshot_eq hbinding hlength parse order scope
    simp only [hscan]
    by_cases hvalid : ∀ entry ∈ retryEntries scope store,
        validateStateInvariants parse entry.2 = .ok ()
    · rw [if_pos hvalid] at hlatest
      simp only [hlatest, h.readRecoverableCurrentJson_eq hbinding]
      cases hfile : store.currentFile binding retryStateFamily with
      | some file =>
        simp only
        obtain ⟨hread, hunread⟩ := h.loadFromCanonical_eq hbinding parse scope hfile
        refine ⟨fun hloadable => ?_, fun hnot => ?_⟩
        · obtain ⟨next, hloaded, hnext⟩ := hread (hloadable.canonical file hfile)
          exact ⟨next, by rw [hloaded]; rfl, hnext⟩
        · obtain ⟨error, herror⟩ := hunread fun hstate => hnot
            { length := hlength
              chain := hvalid
              canonical := fun other hother => by
                rw [hfile] at hother
                rwa [← Option.some.inj hother]
              known := Or.inl (by simp [hfile]) }
          exact ⟨error.text, by rw [herror]; rfl⟩
      | none =>
        simp only [hcount]
        have hnone : lastSnapshot scope store = none ↔ retryEntries scope store = [] := by
          rcases h.lastSnapshot_cases scope with ⟨hempty, -, hsnapshot, -⟩ |
            ⟨file, state, -, -, hentry, hsnapshot, -⟩
          · simp [hempty, hsnapshot]
          · rw [hsnapshot]
            simp only [reduceCtorEq, false_iff]
            intro hempty
            simp [hempty] at hentry
        by_cases hlost : (lastSnapshot scope store).isNone = true ∧
            (retryFiles store).length ≠ 0
        · rw [if_pos hlost]
          refine ⟨fun hloadable => ?_, fun _ => ⟨_, rfl⟩⟩
          rcases hloadable.known with hcurrent | hempty | hentries
          · exact absurd hfile hcurrent
          · exact absurd (List.length_eq_zero_iff.mpr hempty) hlost.2
          · exact absurd (hnone.mp (Option.isNone_iff_eq_none.mp hlost.1)) hentries
        · rw [if_neg hlost]
          obtain ⟨next, hrecovered, hnext⟩ := h.recoverLatestRetrySnapshot_eq hbinding scope
          refine ⟨fun _ => ⟨next, by rw [hrecovered]; rfl, hnext⟩, fun hnot => ?_⟩
          refine absurd ?_ hnot
          exact
            { length := hlength
              chain := hvalid
              canonical := fun file hcurrent => by simp [hfile] at hcurrent
              known := by
                refine Or.inr ?_
                by_cases hempty : retryFiles store = []
                · exact Or.inl hempty
                · refine Or.inr fun hentries => hlost ⟨?_, ?_⟩
                  · rw [hnone.mpr hentries]
                    rfl
                  · rwa [ne_eq, List.length_eq_zero_iff] }
    · rw [if_neg hvalid] at hlatest
      obtain ⟨error, herror⟩ := hlatest
      simp only [herror]
      exact ⟨fun hloadable => absurd hloadable.chain hvalid, fun _ => ⟨_, rfl⟩⟩
  · have hscan : ∃ error, scanRetryHistory validate parse order binding scope
        store = .error error := by
      have hperm := familyFiles_perm h order
      unfold scanRetryHistory recoverableHistoryCandidates
      dsimp only
      rw [if_pos (by rw [hperm.length_eq]; omega)]
      exact ⟨_, rfl⟩
    obtain ⟨error, herror⟩ := hscan
    simp only [herror]
    exact ⟨fun hloadable => absurd hloadable.length hlength, fun _ => ⟨_, rfl⟩⟩

end

end Load

end Luther
