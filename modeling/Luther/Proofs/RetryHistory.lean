/-
The retry states of a binding, over any number of persists and crashes.

What is written is found again, whichever scopes were written in between and wherever a persist
was cut short: the history is written first, the canonical file is only a copy of it, and each
state names the one before it in its own scope.  Only one thing is lost: while the very first
persist of a binding has not replaced the canonical file, no other scope can be loaded.
-/
import Luther.Proofs.RetryLoad

namespace Luther

open Numbering

/-! ### One more document -/

section Append

variable {validate : FamilyInvariants} {binding : PrFollowupBinding}
  {store : ArtifactStore}

variable {state : RetryState} {file : ContainedFile}

theorem linked_append {entries : List (Nat × RetryState)} {previous : Option Nat}
    (h : Linked previous entries) {sequence : Nat}
    (hstate : state.predecessorArtifactSequence.map UInt64.toNat =
      (entries.getLast?.map Prod.fst).or previous) :
    Linked previous (entries ++ [(sequence, state)]) := by
  induction entries generalizing previous with
  | nil => exact ⟨by simpa using hstate, trivial⟩
  | cons entry rest ih =>
    obtain ⟨first, firstState⟩ := entry
    refine ⟨h.1, ih h.2 ?_⟩
    rw [hstate, List.getLast?_cons]
    cases rest.getLast? <;> rfl

def addedEntries (scope : RetryScopeKey) (file : ContainedFile) : List (Nat × RetryState) :=
  (scopeFiles scope ([file].filter (·.family == retryStateFamily))).filterMap retryEntry

theorem retryEntries_append (scope : RetryScopeKey) (file : ContainedFile) :
    retryEntries scope (store.append file) =
      retryEntries scope store ++ addedEntries scope file := by
  unfold retryEntries retryFiles addedEntries scopeFiles ArtifactStore.append
  simp only [List.filter_append, List.filterMap_append]

theorem addedEntries_of_document (h : RetryDocument binding file state)
    (hfamily : file.family = retryStateFamily) (scope : RetryScopeKey) :
    addedEntries scope file =
      if state.scope = scope then [(file.artifactSequence, state)] else [] := by
  unfold addedEntries scopeFiles
  by_cases hscope : state.scope = scope
  · simp [hfamily, h.scope, h.entry, hscope]
  · simp [hfamily, h.scope, hscope]

theorem addedEntries_of_other (hfamily : file.family ≠ retryStateFamily) (scope : RetryScopeKey) :
    addedEntries scope file = [] := by
  unfold addedEntries scopeFiles
  simp [hfamily]

section

variable (h : RetryLedger validate binding store)

include h

/-- **A state is added behind the last of its scope.** -/
theorem RetryLedger.append_document (hledger : Ledger validate binding (store.append file))
    (hnumber : file.artifactSequence = largest (store.history.map (·.artifactSequence)) + 1)
    (hfamily : file.family = retryStateFamily) (hdocument : RetryDocument binding file state)
    (hlinked : state.predecessorArtifactSequence.map UInt64.toNat =
      (retryEntries state.scope store).getLast?.map Prod.fst) :
    RetryLedger validate binding (store.append file) where
  ledger := hledger
  ordered := ordered_append h.ordered hnumber
  documents := by
    intro other hother hretry
    rcases List.mem_append.mp hother with hold | hnew
    · exact h.documents other hold hretry
    · rw [List.mem_singleton.mp hnew]
      exact ⟨state, hdocument⟩
  linked := by
    intro scope
    rw [retryEntries_append, addedEntries_of_document hdocument hfamily]
    by_cases hscope : state.scope = scope
    · rw [if_pos hscope]
      refine linked_append (h.linked scope) ?_
      rw [hlinked, hscope, Option.or_none]
    · rw [if_neg hscope, List.append_nil]
      exact h.linked scope

theorem RetryLedger.append_other (hledger : Ledger validate binding (store.append file))
    (hnumber : file.artifactSequence = largest (store.history.map (·.artifactSequence)) + 1)
    (hfamily : file.family ≠ retryStateFamily) :
    RetryLedger validate binding (store.append file) where
  ledger := hledger
  ordered := ordered_append h.ordered hnumber
  documents := by
    intro other hother hretry
    rcases List.mem_append.mp hother with hold | hnew
    · exact h.documents other hold hretry
    · rw [List.mem_singleton.mp hnew] at hretry
      exact absurd hretry hfamily
  linked := by
    intro scope
    rw [retryEntries_append, addedEntries_of_other hfamily, List.append_nil]
    exact h.linked scope

omit h in
theorem retryEntries_congr {next : ArtifactStore} (h : next.history = store.history)
    (scope : RetryScopeKey) : retryEntries scope next = retryEntries scope store := by
  unfold retryEntries retryFiles
  rw [h]

theorem RetryLedger.of_history {next : ArtifactStore} (hledger : Ledger validate binding next)
    (hhistory : next.history = store.history) : RetryLedger validate binding next where
  ledger := hledger
  ordered := hhistory ▸ h.ordered
  documents := hhistory ▸ h.documents
  linked := by
    intro scope
    rw [retryEntries_congr hhistory scope]
    exact h.linked scope

/-! ### One write -/

omit h in
theorem retryDocument_of_envelope (hbinding : binding.Complete)
    (root : String) (writer : RetryWriter) (hunreset : state.historyChainReset = false)
    {sequence : ArtifactSequenceMetadata} {value : Json}
    (h : envelope root (persistRequest binding writer state) sequence none = .ok value) :
    RetryDocument binding (historyFile root (persistRequest binding writer state) sequence value)
      state where
  reads := readsAs_of_injectStoreFields h rfl
  binding := bindingFromValue_of_injectStoreFields h hbinding
  unreset := hunreset

/-- **A persist leaves the history as it is and gives an error, or adds the state to its scope.** -/
theorem RetryLedger.persist_cases
    (hbinding : binding.Complete) {writer : RetryWriter}
    (hproducer : writer.producerStepId ≠ "") (publication : Publication)
    (hunreset : state.historyChainReset = false)
    (hlinked : state.predecessorArtifactSequence.map UInt64.toNat =
      (retryEntries state.scope store).getLast?.map Prod.fst) :
    let next := (persist validate binding writer publication state store).2
    RetryLedger validate binding next ∧
      (next = store ∧ (persist validate binding writer publication state store).1.isOk = false ∨
        ∃ file, next.history = store.history ++ [file] ∧
        ∀ scope, retryEntries scope next = retryEntries scope store ++
          if state.scope = scope then [(file.artifactSequence, state)] else []) := by
  intro next
  have hrequest := persistRequest_wellFormed hbinding hproducer state
  rcases h.ledger.write_cases writer.order hrequest publication with ⟨hsame, hrefused⟩ |
    ⟨value, hvalue, hfamily, hnumber, happend, hledger, hhistory⟩
  · have hnext : next = store := hsame
    rw [hnext]
    refine ⟨h, Or.inl ⟨rfl, ?_⟩⟩
    rw [← hrefused]
    unfold persist
    obtain ⟨written, -⟩ := writeJsonArtifactLocked validate writer.order _ publication store
    cases written <;> rfl
  · have hdocument := retryDocument_of_envelope hbinding store.root writer hunreset hvalue
    have hadded := h.append_document happend hnumber hfamily hdocument hlinked
    have hnext : next.history = _ := hhistory
    refine ⟨hadded.of_history hledger hhistory, Or.inr ⟨_, hhistory, fun scope => ?_⟩⟩
    rw [retryEntries_congr hnext scope, retryEntries_append,
      addedEntries_of_document hdocument hfamily]

theorem RetryLedger.write_other {call : WriteCall} (hrequest : WellFormed binding call.request)
    (hfamily : call.request.artifactFamily ≠ retryStateFamily) :
    let next := (writeJsonArtifactLocked validate call.order call.request
      call.publication store).2
    RetryLedger validate binding next ∧
      ∀ scope, retryEntries scope next = retryEntries scope store := by
  intro next
  rcases h.ledger.write_cases call.order hrequest call.publication with ⟨hsame, -⟩ |
    ⟨value, -, hwritten, hnumber, happend, hledger, hhistory⟩
  · have hnext : next = store := hsame
    rw [hnext]
    exact ⟨h, fun _ => rfl⟩
  · have hother := (hwritten ▸ hfamily)
    have hadded := h.append_other happend hnumber hother
    have hnext : next.history = _ := hhistory
    refine ⟨hadded.of_history hledger hhistory, fun scope => ?_⟩
    rw [retryEntries_congr hnext scope, retryEntries_append, addedEntries_of_other hother,
      List.append_nil]

end

end Append

/-! ### One call -/

/-- A state, without the number of the one before it. -/
def RetryState.unlinked (state : RetryState) : RetryState :=
  { state with predecessorArtifactSequence := none }

/-- What a caller sees to: the states it persists are valid, and are no tombstones, and what it
writes beside them has another family. -/
def RetryCall.Permitted (parse : Rfc3339Parser) (binding : PrFollowupBinding) : RetryCall → Prop
  | .load _ _ => True
  | .persist writer state _ =>
    writer.producerStepId ≠ "" ∧ state.historyChainReset = false ∧
      validateStateInvariants parse state = .ok ()
  | .write call => WellFormed binding call.request ∧ call.request.artifactFamily ≠ retryStateFamily

/-- The state that a call puts on record in a scope: that of a persist which wrote the history,
whether or not it went on. -/
def RetryCall.recorded (scope : RetryScopeKey) (store next : ArtifactStore) :
    RetryCall → List RetryState
  | .persist _ state _ =>
    if state.scope = scope ∧ next.history ≠ store.history then [state.unlinked] else []
  | .load _ _ => []
  | .write _ => []

/-- A persist that answers has put its state on record. -/
def RetryCall.Kept (validate : FamilyInvariants) (parse : Rfc3339Parser)
    (binding : PrFollowupBinding) (store : ArtifactStore) (call : RetryCall) : Prop :=
  ∀ writer state publication, call = .persist writer state publication →
    ((retryMachine validate parse binding).answer store call).isOk = true →
      call.recorded state.scope store ((retryMachine validate parse binding).next store call) =
        [state.unlinked]

/-- What holds of the files of a binding whose states are valid. -/
structure RetryRecord (validate : FamilyInvariants) (parse : Rfc3339Parser)
    (binding : PrFollowupBinding) (store : ArtifactStore) : Prop where
  ledger : RetryLedger validate binding store
  valid : ∀ scope, ∀ entry ∈ retryEntries scope store,
    validateStateInvariants parse entry.2 = .ok ()

section Record

variable {validate : FamilyInvariants} {parse : Rfc3339Parser}
  {binding : PrFollowupBinding} {store : ArtifactStore}

theorem validateStateInvariants_linked {state : RetryState}
    (h : state.historyChainReset = false) (predecessor : Option UInt64) :
    validateStateInvariants parse { state with predecessorArtifactSequence := predecessor } =
      validateStateInvariants parse state := by
  unfold validateStateInvariants
  simp only [h, Bool.false_eq_true, false_and, if_false]

theorem RetryLedger.mem_retryEntries (h : RetryLedger validate binding store)
    {file : ContainedFile} (hfile : file ∈ retryFiles store) :
    ∃ state, RetryDocument binding file state ∧
      (file.artifactSequence, state) ∈ retryEntries state.scope store := by
  obtain ⟨hmem, hfamily⟩ := mem_retryFiles.mp hfile
  obtain ⟨state, hdocument⟩ := h.documents file hmem hfamily
  refine ⟨state, hdocument, List.mem_filterMap.mpr ⟨file, ?_, hdocument.entry⟩⟩
  refine List.mem_filter.mpr ⟨hfile, ?_⟩
  rw [hdocument.scope]
  simp

/-- **Where all states are valid, a scope can be loaded unless the canonical file is missing, and
other scopes have states where it has none.** -/
theorem RetryRecord.loadable_iff (h : RetryRecord validate parse binding store)
    (scope : RetryScopeKey) :
    Loadable parse binding scope store ↔
      (retryFiles store).length ≤ maxArtifactScanFiles ∧
        (store.currentFile binding retryStateFamily ≠ none ∨ retryFiles store = [] ∨
          retryEntries scope store ≠ []) := by
  refine ⟨fun hloadable => ⟨hloadable.length, hloadable.known⟩, fun hcondition => ?_⟩
  refine ⟨hcondition.1, h.valid scope, fun file hfile => ?_, hcondition.2⟩
  obtain ⟨snapshot, hsnapshot, hcontent⟩ := h.ledger.currentFile_mem hfile
  obtain ⟨state, hdocument, hmem⟩ := h.ledger.mem_retryEntries hsnapshot
  refine ⟨state, ?_⟩
  rw [hcontent, hdocument.deserialize, h.valid state.scope _ hmem]
  rfl

theorem RetryRecord.load (h : RetryRecord validate parse binding store)
    (hbinding : binding.Complete) (order : ListingOrder) (scope : RetryScopeKey) :
    let loaded := loadMatchingStateLocked validate parse order binding scope store
    RetryRecord validate parse binding loaded.2 ∧
      loaded.2.history = store.history ∧
      ∀ previous, loaded.1 = .ok previous → previous = lastState scope store ∧
        ∀ entry, (retryEntries scope store).getLast? = some entry →
          stateSequenceLocked validate binding loaded.2 =
            .ok (some (UInt64.ofNat entry.1)) := by
  intro loaded
  obtain ⟨hok, herror⟩ := h.ledger.load_eq hbinding parse order scope
  by_cases hloadable : Loadable parse binding scope store
  · obtain ⟨next, heq, hnext⟩ := hok hloadable
    have hloaded : loaded = (.ok (lastState scope store), next) := heq
    rw [hloaded]
    refine ⟨⟨hnext.ledger, fun scope' entry hentry => ?_⟩, hnext.history, ?_⟩
    · rw [retryEntries_congr hnext.history] at hentry
      exact h.valid scope' entry hentry
    · intro previous hprevious
      exact ⟨(Except.ok.inj hprevious).symm, hnext.sequence⟩
  · obtain ⟨error, heq⟩ := herror hloadable
    have hloaded : loaded = (.error error, store) := heq
    rw [hloaded]
    exact ⟨h, rfl, fun _ hprevious => by simp at hprevious⟩

/-- **A state that is put behind the last of its scope.** -/
theorem RetryRecord.persistLinked (h : RetryRecord validate parse binding store)
    (hbinding : binding.Complete) {writer : RetryWriter}
    {state : RetryState} (hproducer : writer.producerStepId ≠ "")
    (hunreset : state.historyChainReset = false)
    (hvalid : validateStateInvariants parse state = .ok ()) (publication : Publication)
    (hsequence : ∀ entry, (retryEntries state.scope store).getLast? = some entry →
      stateSequenceLocked validate binding store =
        .ok (some (UInt64.ofNat entry.1))) :
    let persisted := persistLinked validate binding writer publication
      (lastState state.scope store).isSome state store
    RetryRecord validate parse binding persisted.2 ∧
      (∀ scope, (retryEntries scope persisted.2).map (·.2.unlinked) =
        (retryEntries scope store).map (·.2.unlinked) ++
          if state.scope = scope ∧ persisted.2.history ≠ store.history then [state.unlinked]
          else []) ∧
      (persisted.1.isOk = true → persisted.2.history ≠ store.history) := by
  intro persisted
  -- The number that the state is linked to is that of the last state of its scope.
  have hlinked : ∃ predecessor : Option UInt64,
      (if (lastState state.scope store).isSome then
        stateSequenceLocked validate binding store else .ok none) =
          .ok predecessor ∧
      predecessor.map UInt64.toNat =
        (retryEntries state.scope store).getLast?.map Prod.fst := by
    unfold lastState
    cases hlast : (retryEntries state.scope store).getLast? with
    | none => exact ⟨none, rfl, rfl⟩
    | some entry =>
      refine ⟨_, hsequence entry hlast, ?_⟩
      obtain ⟨file, hfile, hentry⟩ := List.mem_filterMap.mp (List.mem_of_getLast? hlast)
      obtain ⟨hmem, -⟩ := mem_retryFiles.mp (List.mem_of_mem_filter hfile)
      obtain ⟨state', -, rfl⟩ := Option.map_eq_some_iff.mp hentry
      have hsmall := requireU64_lt (h.ledger.ledger.snapshots file hmem).artifact
      simp [UInt64.toNat_ofNat_of_lt' hsmall]
  obtain ⟨predecessor, hpredecessor, hnumber⟩ := hlinked
  have hvalid' := hvalid
  rw [← validateStateInvariants_linked hunreset predecessor] at hvalid'
  have hkept : { state with predecessorArtifactSequence := predecessor }.historyChainReset =
      false := hunreset
  have hcases := h.ledger.persist_cases hbinding hproducer publication hkept hnumber
  have hpersisted : persisted = ((persist validate binding writer publication
      { state with predecessorArtifactSequence := predecessor } store).1.map fun () =>
        { state with predecessorArtifactSequence := predecessor },
      (persist validate binding writer publication
        { state with predecessorArtifactSequence := predecessor } store).2) := by
    show Luther.persistLinked _ _ _ _ _ _ _ = _
    unfold Luther.persistLinked
    simp only [hpredecessor]
  rw [hpersisted]
  obtain ⟨hledger, ⟨hsame, hrefused⟩ | ⟨file, hhistory, hentries⟩⟩ := hcases
  · cases hanswer : (persist validate binding writer publication
      { state with predecessorArtifactSequence := predecessor } store).1 with
    | ok done => simp [hanswer, Except.isOk, Except.toBool] at hrefused
    | error error =>
      simp only [hsame]
      exact ⟨h, fun scope => by simp, fun hok => absurd hok Bool.false_ne_true⟩
  · refine ⟨⟨hledger, fun scope entry hentry => ?_⟩, fun scope => ?_, fun _ => by simp [hhistory]⟩
    · rw [hentries scope] at hentry
      rcases List.mem_append.mp hentry with hold | hnew
      · exact h.valid scope entry hold
      · split at hnew
        · rw [List.mem_singleton.mp hnew]
          exact hvalid'
        · simp at hnew
    · have hgrown : store.history ++ [file] ≠ store.history := by simp
      rw [hentries scope, hhistory]
      by_cases hscope : state.scope = scope
      · simp [hscope, RetryState.unlinked]
      · simp [hscope]

/-- **One call puts on record what it says, and nothing else.** -/
theorem RetryRecord.next (h : RetryRecord validate parse binding store)
    (hbinding : binding.Complete) {call : RetryCall} (hcall : call.Permitted parse binding) :
    let next := (retryMachine validate parse binding).next store call
    (RetryRecord validate parse binding next ∧
      ∀ scope, (retryEntries scope next).map (·.2.unlinked) =
        (retryEntries scope store).map (·.2.unlinked) ++ call.recorded scope store next) ∧
      call.Kept validate parse binding store := by
  intro next
  cases call with
  | load order scope =>
    obtain ⟨hrecord, hhistory, -⟩ := h.load hbinding order scope
    refine ⟨⟨hrecord, fun scope' => ?_⟩, ?_⟩
    · have hsame : retryEntries scope' next = retryEntries scope' store :=
        retryEntries_congr hhistory scope'
      rw [hsame]
      exact (List.append_nil _).symm
    · rintro _ _ _ ⟨⟩
  | persist writer state publication =>
    obtain ⟨hproducer, hunreset, hvalid⟩ := hcall
    obtain ⟨hrecord, hhistory, hprevious⟩ := h.load hbinding writer.order state.scope
    have hnext : next = ((retryMachine validate parse binding).step store
      (.persist writer state publication)).2 := rfl
    unfold retryMachine at hnext
    simp only at hnext
    cases hloaded : loadMatchingStateLocked validate parse writer.order binding
        state.scope store with
    | mk answer loaded =>
      rw [hloaded] at hrecord hhistory hprevious hnext
      simp only at hrecord hhistory hprevious
      have hentries := retryEntries_congr hhistory
      cases answer with
      | error error =>
        simp only at hnext
        rw [hnext]
        refine ⟨⟨hrecord, fun scope => ?_⟩, ?_⟩
        · simp [RetryCall.recorded, hentries, hhistory]
        · rintro _ _ _ ⟨⟩ hok
          simp [StateMachine.answer, retryMachine, hloaded, Except.isOk, Except.toBool] at hok
      | ok previous =>
        obtain ⟨hlast, hsequence⟩ := hprevious previous rfl
        have hlastState : previous = lastState state.scope loaded := by
          unfold lastState
          rw [hentries]
          exact hlast
        simp only [hlastState] at hnext
        rw [← hentries] at hsequence
        obtain ⟨hpersisted, hadded, hgrown⟩ :=
          hrecord.persistLinked hbinding hproducer hunreset hvalid publication hsequence
        refine ⟨?_, ?_⟩
        · rw [hnext]
          refine ⟨hpersisted, fun scope => ?_⟩
          rw [hadded scope, hentries, hhistory]
          rfl
        · rintro _ _ _ ⟨⟩ hok
          have hnew : next.history ≠ store.history := by
            rw [hnext, ← hhistory]
            refine hgrown ?_
            unfold StateMachine.answer retryMachine at hok
            simp only [hloaded, hlastState] at hok
            cases hpersist : (Luther.persistLinked validate binding writer publication
              (lastState state.scope loaded).isSome state loaded).1 with
            | error error => simp [hpersist, Except.map, Except.isOk, Except.toBool] at hok
            | ok state => rfl
          exact if_pos ⟨rfl, hnew⟩
  | write call =>
    obtain ⟨hrequest, hfamily⟩ := hcall
    obtain ⟨hledger, hentries⟩ := h.ledger.write_other hrequest hfamily
    have hsame : ∀ scope, retryEntries scope next = retryEntries scope store := hentries
    refine ⟨⟨⟨hledger, fun scope entry hentry => ?_⟩, fun scope => ?_⟩, ?_⟩
    · rw [hsame scope] at hentry
      exact h.valid scope entry hentry
    · rw [hsame scope]
      exact (List.append_nil _).symm
    · rintro _ _ _ ⟨⟩

/-! ### Runs -/

/-- The states that a run puts on record in a scope, in the order of its persists. -/
def recordedStates (validate : FamilyInvariants) (parse : Rfc3339Parser)
    (binding : PrFollowupBinding) (scope : RetryScopeKey) :
    ArtifactStore → List RetryCall → List RetryState
  | _, [] => []
  | store, call :: rest =>
    let next := (retryMachine validate parse binding).next store call
    call.recorded scope store next ++
      recordedStates validate parse binding scope next rest

/-- **A history holds what was put on record, in its order.** -/
theorem RetryRecord.run (h : RetryRecord validate parse binding store)
    (hbinding : binding.Complete) {calls : List RetryCall}
    (hcalls : (retryMachine validate parse binding).Along
      (fun _ call => call.Permitted parse binding) store calls) :
    let final := (retryMachine validate parse binding).run store calls
    RetryRecord validate parse binding final ∧
      ∀ scope, (retryEntries scope final).map (·.2.unlinked) =
        (retryEntries scope store).map (·.2.unlinked) ++
          recordedStates validate parse binding scope store calls := by
  induction calls generalizing store with
  | nil => exact ⟨h, fun scope => (List.append_nil _).symm⟩
  | cons call rest ih =>
    obtain ⟨hpermitted, hrest⟩ := hcalls
    obtain ⟨⟨hnext, hadded⟩, -⟩ := h.next hbinding hpermitted
    obtain ⟨hfinal, hall⟩ := ih hnext hrest
    refine ⟨hfinal, fun scope => ?_⟩
    rw [StateMachine.run_cons, hall scope, hadded scope, List.append_assoc]
    rfl

theorem retryRecord_of_empty (hhistory : store.history = []) (hcurrent : store.current = []) :
    RetryRecord validate parse binding store where
  ledger :=
    { ledger := ledger_of_empty hhistory hcurrent
      ordered := by simp [hhistory]
      documents := by simp [hhistory]
      linked := fun scope => by simp [retryEntries, retryFiles, scopeFiles, hhistory, Linked] }
  valid := by simp [retryEntries, retryFiles, scopeFiles, hhistory]

end Record

/-- **Retry states survive crashes and changes of scope.**  After any persists, over any scopes,
of which any may have been cut short when the history was written, a scope is loaded with the
state that was put on record in it last, and with none where there is no such state, exactly
where the scan can read the history, and the canonical file is there, or nothing was put on
record, or the scope has a state of its own; and what a persist that answers was given is on
record. -/
theorem retry_state_survives (validate : FamilyInvariants)
    (parse : Rfc3339Parser) {binding : PrFollowupBinding}
    (hbinding : validateSequenceBinding binding binding = true) (empty : ArtifactStore)
    (calls : List RetryCall)
    (hstart : (retryMachine validate parse binding).start empty)
    (hcalls : (retryMachine validate parse binding).Along
      (fun _ call => call.Permitted parse binding) empty calls) :
    (retryMachine validate parse binding).Along
      (fun store call => call.Kept validate parse binding store) empty calls ∧
    ∀ (order : ListingOrder) (scope : RetryScopeKey),
    let store := (retryMachine validate parse binding).run empty calls
    let recorded := recordedStates validate parse binding scope empty calls
    (loadMatchingStateLocked validate parse order binding scope store).1.map
        (Option.map RetryState.unlinked) = .ok recorded.getLast? ↔
      (retryFiles store).length ≤ maxArtifactScanFiles ∧
        (store.currentFile binding retryStateFamily ≠ none ∨ retryFiles store = [] ∨
          recorded ≠ []) := by
  have hempty : RetryRecord validate parse binding empty :=
    retryRecord_of_empty hstart.1 hstart.2
  refine ⟨hcalls.gives (fun _ _ hcall h => ?_) hempty, fun order scope => ?_⟩
  · obtain ⟨⟨hnext, -⟩, hkept⟩ := h.next hbinding hcall
    exact ⟨hnext, hkept⟩
  intro store recorded
  obtain ⟨hrecord, hentries⟩ := hempty.run hbinding hcalls
  have hstates : (retryEntries scope store).map (·.2.unlinked) = recorded := by
    rw [hentries scope]
    simp [retryEntries, retryFiles, scopeFiles, hstart.1, recorded]
  have hlast : (lastState scope store).map RetryState.unlinked = recorded.getLast? := by
    unfold lastState
    rw [← hstates, List.getLast?_map]
    simp [Function.comp_def]
  have hnone : recorded ≠ [] ↔ retryEntries scope store ≠ [] := by
    rw [← hstates, ne_eq, List.map_eq_nil_iff]
  rw [hnone, ← hrecord.loadable_iff scope]
  obtain ⟨hok, herror⟩ := hrecord.ledger.load_eq hbinding parse order scope
  refine ⟨fun hloaded => ?_, fun hloadable => ?_⟩
  · refine Classical.byContradiction fun hnot => ?_
    obtain ⟨error, heq⟩ := herror hnot
    have hrefused : (loadMatchingStateLocked validate parse order binding scope
      store).1 = .error error := congrArg Prod.fst heq
    rw [hrefused] at hloaded
    simp [Except.map] at hloaded
  · obtain ⟨next, heq, -⟩ := hok hloadable
    have hread : (loadMatchingStateLocked validate parse order binding scope
      store).1 = .ok (lastState scope store) := congrArg Prod.fst heq
    rw [hread, ← hlast]
    rfl

section

variable (remediationPlanSequence : UInt64)

def exampleScope : RetryScopeKey where
  runId := "run-1"
  repositoryOwner := "owner"
  repositoryName := "repo"
  prNumber := 7
  inputHeadSha := "abc"
  remediationPlanSequence := remediationPlanSequence

/-- The state of a scope whose only launch is done. -/
def exampleRetryState : RetryState where
  scope := exampleScope remediationPlanSequence
  budget := ⟨2, 2, 2⟩
  counters := ⟨1, 0, 0⟩
  transitionId := "transition"
  launchTransitionId := "transition"
  transitionType := "launch_completed"
  launchPhase := .completed
  launchOrdinal := 1
  remediationStepOrderIndex := 9
  predecessorArtifactSequence := none
  historyChainReset := false
  validationSourceId := none
  launchResultPromoted := false
  ownerToken := "token"
  leaseExpiry := none
  invocationTimeoutSeconds := 1800
  exhaustionReason := none

def examplePersist (publication : Publication) : RetryCall :=
  .persist ⟨⟨id, fun files => List.Perm.refl files⟩, "step", 0, 0⟩
    (exampleRetryState remediationPlanSequence) publication

end

def exampleLoad (calls : List RetryCall) (remediationPlanSequence : UInt64) :
    Except String (Option RetryState) :=
  (loadMatchingStateLocked exampleInvariants (fun _ => .ok 0)
    ⟨id, fun files => List.Perm.refl files⟩ exampleBinding (exampleScope remediationPlanSequence)
    ((retryMachine exampleInvariants (fun _ => .ok 0) exampleBinding).run { root := "root" }
      calls)).1

/-- A second persist, cut short, is loaded; and so is the absence of another plan's state. -/
theorem retry_state_survives_example :
    (exampleLoad [examplePersist 1 .published, examplePersist 1 .crashed] 1).map
        (Option.map RetryState.unlinked) = .ok (some (exampleRetryState 1)) ∧
      (exampleLoad [examplePersist 1 .published, examplePersist 1 .crashed] 2).map
        (Option.map RetryState.unlinked) = .ok none := by
  have hpermitted : (retryMachine exampleInvariants (fun _ => .ok 0) exampleBinding).Along
      (fun _ call => call.Permitted (fun _ => .ok 0) exampleBinding) { root := "root" }
      [examplePersist 1 .published, examplePersist 1 .crashed] :=
    ⟨⟨by decide, rfl, by decide⟩, ⟨by decide, rfl, by decide⟩, trivial⟩
  obtain ⟨-, hsurvives⟩ := retry_state_survives exampleInvariants (fun _ => .ok 0)
    (by decide) { root := "root" } [examplePersist 1 .published, examplePersist 1 .crashed]
    ⟨rfl, rfl⟩ hpermitted
  replace hsurvives := hsurvives ⟨id, fun files => List.Perm.refl files⟩
  refine ⟨((hsurvives (exampleScope 1)).mpr ⟨by decide +kernel, by decide +kernel⟩).trans ?_,
    ((hsurvives (exampleScope 2)).mpr ⟨by decide +kernel, by decide +kernel⟩).trans ?_⟩
  · decide +kernel
  · decide +kernel

/-- The first persist of a binding is cut short, and a plan that was never persisted cannot be
loaded. -/
theorem retry_state_lost :
    exampleLoad [examplePersist 1 .crashed] 2 =
      .error ("retry-state canonical is missing and latest immutable history has no valid "
        ++ "exact scope") := by
  decide +kernel

end Luther
