/-
What reading a ledger gives.

Every document of a ledger passes the checks of its reader, and a canonical file is a copy of
one of them.  So there is one thing only that a reader can find: the canonical file of its
family, where there is one, which is about the reader's head or about another.
-/
import Luther.Followup.Reading
import Luther.Proofs.ArtifactLedger

namespace Luther

/-! ### Paths -/

theorem digitChar_ne_slash : ∀ n < 16, Nat.digitChar n ≠ '/' := by decide

theorem notMem_sanitizePathSegment (text : String) : '/' ∉ (sanitizePathSegment text).toList := by
  unfold sanitizePathSegment
  dsimp only
  split
  · rename_i hreadable
    intro hmem
    have hslash := List.all_eq_true.mp hreadable.2.2.2 '/' hmem
    simp at hslash
  · rw [String.toList_append, String.toList_join]
    intro hmem
    rcases List.mem_append.mp hmem with htilde | hhex
    · simp at htilde
    · obtain ⟨digits, hdigits, hslash⟩ := List.mem_flatMap.mp hhex
      obtain ⟨byte, -, rfl⟩ := List.mem_map.mp hdigits
      have hbyte := byte.toNat_lt
      have hhigh := digitChar_ne_slash (byte.toNat / 16) (by omega)
      have hlow := digitChar_ne_slash (byte.toNat % 16) (by omega)
      simp [Ne.symm hhigh, Ne.symm hlow] at hslash

theorem notMem_historyStem (sequence : ArtifactSequenceMetadata) :
    '/' ∉ (historyStem sequence none).toList := by
  have htext : ∀ text : String, toString text = text := fun _ => rfl
  have hdigits : ∀ n : Nat, '/' ∉ n.repr.toList := by
    intro n hmem
    have hslash := isDigit_of_mem_repr hmem
    simp at hslash
  unfold historyStem
  simp only [htext, String.toList_append, List.mem_append]
  have hartifact := hdigits sequence.artifactSequence
  have hwrite := hdigits sequence.writeSequence
  have hproducer := notMem_sanitizePathSegment sequence.producerStepId
  simp_all

theorem takeWhile_dropWhile_of_stop {p : Char → Bool} {front : List Char} {c : Char}
    (rest : List Char) (hfront : ∀ a ∈ front, p a = true) (hc : p c = false) :
    (front ++ c :: rest).takeWhile p = front ∧ (front ++ c :: rest).dropWhile p = c :: rest := by
  refine ⟨?_, ?_⟩
  · rw [List.takeWhile_append_of_pos hfront]
    simp [hc]
  · rw [List.dropWhile_append_of_pos hfront]
    simp [hc]

/-- **A path is read back from its text.** -/
theorem FilePath.ofText_text {path : FilePath} (hstem : '/' ∉ path.fileStem.toList)
    (hextension : path.extension = "json") : FilePath.ofText path.text = path := by
  obtain ⟨parent, fileStem, extension⟩ := path
  simp only at hstem hextension
  subst hextension
  have htext : (FilePath.text ⟨parent, fileStem, "json"⟩).toList.reverse =
      (['n', 'o', 's', 'j', '.'] ++ fileStem.toList.reverse) ++
        '/' :: parent.toList.reverse := by
    unfold FilePath.text
    simp
  have hsuffix : ∀ c ∈ ['n', 'o', 's', 'j', '.'], decide (c ≠ '/') = true := by simp
  have hname : ∀ c ∈ ['n', 'o', 's', 'j', '.'] ++ fileStem.toList.reverse,
      decide (c ≠ '/') = true := by
    intro c hc
    rcases List.mem_append.mp hc with hmem | hmem
    · exact hsuffix c hmem
    · simp only [decide_eq_true_eq]
      rintro rfl
      exact hstem (List.mem_reverse.mp hmem)
  obtain ⟨htake, hdrop⟩ := takeWhile_dropWhile_of_stop parent.toList.reverse hname
    (c := '/') (by decide)
  have hextension : (['n', 'o', 's', 'j'] ++ '.' :: fileStem.toList.reverse).takeWhile
      (fun c => decide (c ≠ '.')) = ['n', 'o', 's', 'j'] :=
    (takeWhile_dropWhile_of_stop fileStem.toList.reverse (by simp) (by decide)).1
  unfold FilePath.ofText
  simp only [htext, htake, hdrop, List.reverse_reverse]
  have hextension' : (['n', 'o', 's', 'j', '.'] ++ fileStem.toList.reverse).takeWhile
      (fun c => decide (c ≠ '.')) = ['n', 'o', 's', 'j'] := hextension
  rw [hextension']
  simp

/-! ### The fields of a payload -/

/-- The names that the store may write into a document. -/
def storeFieldNames : List String :=
  ["schema_version", "run_id", "repository_owner", "repository_name", "pr_number", "head_ref",
    "head_sha", "base_ref", "base_sha", "artifact_sequence", "write_sequence",
    "producer_step_id", "step_order_index", "history_metadata", "semantic_state",
    "failure_reason", "failure_sequence", "produced_at", "failure_details"]

theorem storeFields_subset (context : StoreFieldContext) :
    (storeFields context).map Prod.fst ⊆ storeFieldNames := by
  intro field hfield
  cases hfailure : context.failure with
  | none =>
    simp only [storeFields, bindingFields, failureFields, hfailure, List.append_nil,
      List.map_append, List.map_cons, List.map_nil] at hfield
    exact List.mem_append_left _ hfield
  | some failure =>
    simp only [storeFields, bindingFields, failureFields, hfailure, List.map_append,
      List.map_cons, List.map_nil] at hfield
    exact hfield

variable {failure : Option (Nat × ArtifactFailure)} {value : Json}

variable {sequence : ArtifactSequenceMetadata} {field : String} {n : Nat}

/-- **A field that the store does not write is the payload's.** -/
theorem get?_payload {root : String} {request : JsonArtifactWriteRequest}
    (h : envelope root request sequence failure = .ok value)
    (hfield : field ∉ storeFieldNames) :
    value.get? field = request.payload.get? field :=
  get?_of_notMem_storeFields h fun hmem => hfield (storeFields_subset _ hmem)

theorem get?_binding {root : String} {request : JsonArtifactWriteRequest}
    (h : envelope root request sequence failure = .ok value)
    {entry : String × Json} (hentry : entry ∈ bindingFields request.binding) :
    value.get? entry.1 = some entry.2 :=
  get?_of_mem_storeFields h (by simp [storeFields, hentry])

/-! ### The families of files -/

/-- A name that stands for itself in a path, and that no other name stands for. -/
def PlainFamily (family : String) : Prop :=
  sanitizePathSegment family = family ∧ family.toList.head? ≠ some '~'

instance (family : String) : Decidable (PlainFamily family) :=
  inferInstanceAs (Decidable (_ ∧ _))

theorem PlainFamily.eq {family other : String} (h : PlainFamily family)
    (hsame : sanitizePathSegment other = sanitizePathSegment family) : other = family := by
  rw [h.1] at hsame
  unfold sanitizePathSegment at hsame
  dsimp only at hsame
  split at hsame
  · exact hsame
  · refine absurd ?_ h.2
    rw [← hsame]
    simp

theorem asU64?_lt (h : value.asU64? = some n) : n < 2 ^ 64 := by
  unfold Json.asU64? at h
  cases value with
  | num k =>
    simp only at h
    split at h
    · rename_i hbound
      have hk := Option.some.inj h
      omega
    · simp at h
  | null | bool | str | arr | obj => simp at h

theorem requireU64_lt (h : requireU64 field value = .ok n) :
    n < 2 ^ 64 := by
  unfold requireU64 at h
  cases hread : (value.get? field).bind Json.asU64? with
  | none => simp [hread] at h
  | some m =>
    simp only [hread] at h
    obtain rfl := Except.ok.inj h
    obtain ⟨v, -, hv⟩ := Option.bind_eq_some_iff.mp hread
    exact asU64?_lt hv

section Reading

variable {validate : FamilyInvariants} {pr binding : PrFollowupBinding}
  {root : String} {store : ArtifactStore} {file : ContainedFile} {family : String}

section

variable (h : Snapshot validate pr root file)

include h

theorem Snapshot.parent_iff (hplain : PlainFamily family) :
    file.path.parent = historyRootForFamily root pr family ↔ file.family = family := by
  obtain ⟨producer, hplace⟩ := h.place
  have hparent : file.path.parent = historyRootForFamily root pr file.family := by
    rw [hplace]
    rfl
  rw [hparent]
  constructor
  · intro hsame
    unfold historyRootForFamily at hsame
    rw [String.append_assoc, String.append_assoc] at hsame
    refine hplain.eq ?_
    exact String.append_right_inj _ |>.mp (String.append_right_inj _ |>.mp hsame)
  · intro hfamily
    rw [hfamily]

theorem Snapshot.embeddedPaths :
    metadataString "history_path" file.content = some file.path.text ∧
      metadataString "canonical_path" file.content =
        some (canonicalPath root pr file.family).text := by
  have hhistory := h.embedded
  have hcanonical := h.canonical
  unfold validateHistoryEmbeddedPath at hhistory
  unfold validateCanonicalEmbeddedPath at hcanonical
  refine ⟨?_, ?_⟩
  · split at hhistory
    · simp at hhistory
    · rename_i heq
      split at hhistory
      · rename_i hmatch
        rw [heq, eq_of_beq hmatch]
      · simp at hhistory
  · split at hcanonical
    · simp at hcanonical
    · rename_i heq
      split at hcanonical
      · rename_i hmatch
        rw [heq, eq_of_beq hmatch]
      · simp at hcanonical

theorem Snapshot.ofText_path : FilePath.ofText file.path.text = file.path := by
  obtain ⟨producer, hplace⟩ := h.place
  rw [hplace]
  exact FilePath.ofText_text (notMem_historyStem _) rfl

end

/-! ### Bindings -/

theorem validateBinding_self (h : binding.Complete) : validateBinding binding binding = true := by
  simp only [PrFollowupBinding.Complete, validateSequenceBinding, validateBinding,
    Bool.and_eq_true, beq_iff_eq, bne_iff_ne] at *
  grind

variable {actual left right : PrFollowupBinding} {value : Json} {request : JsonArtifactWriteRequest}

theorem validateSequenceBinding_self (h : validateSequenceBinding pr actual) :
    validateSequenceBinding actual actual = true := by
  simp only [validateSequenceBinding, Bool.and_eq_true, beq_iff_eq, bne_iff_ne] at *
  grind

section

variable (hleft : validateSequenceBinding pr left)

include hleft

section

variable (hright : validateSequenceBinding pr right)

include hright

theorem prIdentityMatches_of_sequence : left.prIdentityMatches right = true := by
  simp only [validateSequenceBinding, PrFollowupBinding.prIdentityMatches, Bool.and_eq_true,
    beq_iff_eq, bne_iff_ne] at *
  grind

theorem headRevisionMatches_iff : left.headRevisionMatches right = true ↔ right = left := by
  obtain ⟨⟩ := left
  obtain ⟨⟩ := right
  simp only [validateSequenceBinding, PrFollowupBinding.headRevisionMatches, Bool.and_eq_true,
    beq_iff_eq, bne_iff_ne, PrFollowupBinding.mk.injEq] at *
  grind

theorem binding_eq_iff :
    left = right ↔ left.headSha = right.headSha ∧ left.baseSha = right.baseSha := by
  obtain ⟨⟩ := left
  obtain ⟨⟩ := right
  simp only [validateSequenceBinding, Bool.and_eq_true, beq_iff_eq, bne_iff_ne,
    PrFollowupBinding.mk.injEq] at *
  grind

end

end

/-! ### One document -/

section

variable (h : Snapshot validate pr root file)

include h

theorem Snapshot.artifactValue (hactual : bindingFromValue file.content = .ok actual)
    (hpr : validateSequenceBinding pr actual) :
    validateArtifactValue actual file.family file.content = .ok () := by
  unfold validateArtifactValue
  simp only [hactual, bind, Except.bind, validateBinding_self (validateSequenceBinding_self hpr),
    h.metadata]
  rfl

theorem Snapshot.historySnapshot :
    validateHistorySnapshot validate file.family file.content file.path =
      .ok () := by
  have hread : metadataString "artifact_family" file.content = some file.family := h.family
  unfold validateHistorySnapshot
  simp only [hread, h.metadata, h.invariants, bind, Except.bind, ne_eq, not_true_eq_false,
    if_false]

theorem Snapshot.fromText : Json.fromText file.content = .ok file.content :=
  if_pos h.shallow

theorem Snapshot.recoverableHistoryCandidate_eq (binding : PrFollowupBinding)
    (family : String) : ∃ error,
      recoverableHistoryCandidate validate binding family file =
        ⟨file.path, some file.content, error⟩ := by
  unfold recoverableHistoryCandidate
  simp only [h.fromText]
  split <;> exact ⟨_, rfl⟩

theorem Snapshot.prIdentityCandidate_eq
    (hbinding : validateSequenceBinding pr binding) (error : Option String) :
    prIdentityCandidate validate binding file.family
        ⟨file.path, some file.content, error⟩ = ⟨file.path, some file.content, none⟩ := by
  obtain ⟨actual, hactual, hpr⟩ := h.binding
  unfold prIdentityCandidate
  simp only [hactual, prIdentityMatches_of_sequence hbinding hpr, h.metadata, h.historySnapshot,
    h.filename, h.embedded, bind, Except.bind]
  rfl

end

/-! ### The canonical file -/

section

variable (h : Ledger validate pr store)

include h

theorem Ledger.eq_of_artifactSequence
    {other : ContainedFile} (hfile : file ∈ store.history) (hother : other ∈ store.history)
    (hnumber : file.artifactSequence = other.artifactSequence) : file = other :=
  List.inj_on_of_nodup_map h.numbered.artifacts.nodup hfile hother hnumber

theorem Ledger.find?_path (hfile : file ∈ store.history) :
    (store.history.find? fun other => other.path == file.path) = some file := by
  cases hfound : store.history.find? fun other => other.path == file.path with
  | none =>
    have hno := List.find?_eq_none.mp hfound file hfile
    simp at hno
  | some other =>
    have hmem := List.mem_of_find?_eq_some hfound
    have hpath : other.path = file.path := by simpa using List.find?_some hfound
    obtain ⟨producer, hplace⟩ := (h.snapshots file hfile).place
    obtain ⟨producer', hplace'⟩ := (h.snapshots other hmem).place
    have hnumber : other.artifactSequence = file.artifactSequence :=
      historyPath_inj (hplace'.symm.trans (hpath.trans hplace))
    rw [h.eq_of_artifactSequence hmem hfile hnumber]

theorem Ledger.currentFile_mem
    (hplain : PlainFamily family) (hfile : store.currentFile binding family = some file) :
    ∃ snapshot ∈ store.history, snapshot.family = family ∧ file.content = snapshot.content := by
  unfold ArtifactStore.currentFile at hfile
  have hpath : file.path = canonicalPath store.root binding family := by
    simpa using List.find?_some hfile
  obtain ⟨snapshot, hmem, hcontent, hplace⟩ :=
    h.current file (List.mem_of_find?_eq_some hfile)
  have hstem := congrArg FilePath.fileStem (hplace.symm.trans hpath)
  exact ⟨snapshot, hmem, hplain.eq hstem, hcontent⟩

end

variable {snapshot : ContainedFile}

section

variable (h : Ledger validate pr store)

include h

theorem Ledger.validateCanonicalMatchesImmutableHistory_eq
    (hmem : snapshot ∈ store.history) (hactual : bindingFromValue snapshot.content = .ok actual)
    (hpr : validateSequenceBinding pr actual) :
    validateCanonicalMatchesImmutableHistory validate actual snapshot.family
      snapshot.content store = .ok () := by
  have hchecked := h.snapshots snapshot hmem
  have hroot : historyRootForFamily store.root actual snapshot.family =
      historyRootForFamily store.root pr snapshot.family := by
    unfold historyRootForFamily
    rw [bindingRoot_eq hpr]
  have hparent : snapshot.path.parent = historyRootForFamily store.root pr snapshot.family := by
    obtain ⟨producer, hplace⟩ := hchecked.place
    rw [hplace]
    rfl
  unfold validateCanonicalMatchesImmutableHistory
  simp only [hchecked.embeddedPaths.1, hchecked.ofText_path, hroot, hparent, h.find?_path hmem,
    hchecked.fromText, hchecked.artifactValue hactual hpr, hchecked.historySnapshot,
    hchecked.filename, hchecked.embedded, Except.mapError, bind, Except.bind, ne_eq,
    not_true_eq_false, if_false]
  rfl

theorem Ledger.checkCurrentDocument_eq (hbinding : validateSequenceBinding pr binding)
    (hmem : snapshot ∈ store.history) (hactual : bindingFromValue snapshot.content = .ok actual)
    (hpr : validateSequenceBinding pr actual) :
    checkCurrentDocument validate binding snapshot.family snapshot.content store =
      .ok actual := by
  have hchecked := h.snapshots snapshot hmem
  have hcanonical : canonicalPath store.root binding snapshot.family =
      canonicalPath store.root pr snapshot.family := by
    unfold canonicalPath
    rw [bindingRoot_eq hbinding]
  unfold checkCurrentDocument
  simp only [hactual, hchecked.metadata, hcanonical, hchecked.canonical, hchecked.invariants,
    h.validateCanonicalMatchesImmutableHistory_eq hmem hactual hpr, bind, Except.bind]

/-- **The canonical file of a family is read where it is about the reader's head, and is not
there where it is about another.** -/
theorem Ledger.readOptionalCurrentJsonForHead_eq
    (hplain : PlainFamily family) (hbinding : validateSequenceBinding pr binding) :
    match store.currentFile binding family with
    | none => readOptionalCurrentJsonForHead validate binding family store = .ok none
    | some file => ∃ actual, bindingFromValue file.content = .ok actual ∧
        validateSequenceBinding pr actual = true ∧
        readOptionalCurrentJsonForHead validate binding family store =
          .ok (if actual = binding then some file.content else none) := by
  unfold readOptionalCurrentJsonForHead
  cases hfile : store.currentFile binding family with
  | none => rfl
  | some file =>
    obtain ⟨snapshot, hmem, hfamily, hcontent⟩ := h.currentFile_mem hplain hfile
    have hchecked := h.snapshots snapshot hmem
    obtain ⟨actual, hactual, hpr⟩ := hchecked.binding
    have hdocument := h.checkCurrentDocument_eq hbinding hmem hactual hpr
    have hvalue := hchecked.artifactValue hactual hpr
    rw [hfamily] at hdocument hvalue
    refine ⟨actual, by rw [hcontent, hactual], hpr, ?_⟩
    simp only [hcontent, hchecked.fromText, Except.mapError, hdocument, bind, Except.bind]
    have hstale : binding.isStalePriorHeadOf actual = true ↔ actual ≠ binding := by
      unfold PrFollowupBinding.isStalePriorHeadOf
      rw [prIdentityMatches_of_sequence hbinding hpr, Bool.true_and, Bool.not_eq_true',
        Bool.eq_false_iff, ne_eq, headRevisionMatches_iff hbinding hpr]
    by_cases hsame : actual = binding
    · rw [if_neg (by simpa using mt hstale.mp (not_not.mpr hsame)), if_pos hsame, ← hsame, hvalue]
    · rw [if_pos (hstale.mpr hsame), if_neg hsame]

end

/-! ### The document of a family -/

/-- The canonical document of a family, where it is about the reader's head. -/
def ArtifactStore.document (binding : PrFollowupBinding) (artifactFamily : String)
    (store : ArtifactStore) : Option Json :=
  ((store.currentFile binding artifactFamily).map (·.content)).filter fun value =>
    (bindingFromValue value).toOption == some binding

/-- **What is read for a head is the document of the family, where there is one.** -/
theorem Ledger.readOptionalCurrentJsonForHead_document {family : String}
    (h : Ledger validate pr store) (hplain : PlainFamily family)
    (hbinding : validateSequenceBinding pr binding) :
    readOptionalCurrentJsonForHead validate binding family store =
      .ok (store.document binding family) := by
  have hread := h.readOptionalCurrentJsonForHead_eq hplain hbinding
  unfold ArtifactStore.document
  cases hfile : store.currentFile binding family with
  | none =>
    rw [hfile] at hread
    exact hread
  | some file =>
    rw [hfile] at hread
    obtain ⟨actual, hactual, -, hread⟩ := hread
    rw [hread, Option.map_some, Option.filter_some, hactual]
    by_cases hsame : actual = binding
    · simp [hsame, Except.toOption]
    · simp [hsame, Except.toOption]

theorem validateBinding_iff (h : validateSequenceBinding pr binding) :
    validateBinding binding actual = true ↔ actual = binding := by
  have hself := validateBinding_self (validateSequenceBinding_self h)
  constructor
  · intro hvalid
    simp only [validateBinding, Bool.and_eq_true, beq_iff_eq] at hvalid
    grind
  · rintro rfl
    exact hself

/-- **What is read is the document of the family.** -/
theorem Ledger.readCurrentJson_iff (h : Ledger validate pr store)
    (hplain : PlainFamily family) (hbinding : validateSequenceBinding pr binding) :
    readCurrentJson validate binding family store = .ok value ↔
      store.document binding family = some value := by
  unfold readCurrentJson ArtifactStore.document
  cases hfile : store.currentFile binding family with
  | none => simp
  | some file =>
    obtain ⟨snapshot, hmem, hfamily, hcontent⟩ := h.currentFile_mem hplain hfile
    have hchecked := h.snapshots snapshot hmem
    obtain ⟨actual, hactual, hpr⟩ := hchecked.binding
    obtain ⟨path, content⟩ := file
    obtain rfl : content = snapshot.content := hcontent
    rw [Option.map_some]
    by_cases hsame : actual = binding
    · subst hsame
      have hvalue := hchecked.artifactValue hactual hpr
      have hcanonical := hchecked.canonical
      have hinvariants := hchecked.invariants
      have hmatches := h.validateCanonicalMatchesImmutableHistory_eq hmem hactual hpr
      have hpath : canonicalPath store.root pr snapshot.family =
          canonicalPath store.root actual snapshot.family := by
        unfold canonicalPath
        rw [bindingRoot_eq hpr]
      rw [hpath] at hcanonical
      rw [hfamily] at hvalue hcanonical hinvariants hmatches
      simp only [hchecked.fromText, Except.mapError, hvalue, hcanonical, hinvariants, hmatches,
        bind, Except.bind, Except.ok.injEq]
      rw [Option.filter_some, hactual]
      simp [Except.toOption]
    · have hinvalid : validateBinding binding actual = false :=
        Bool.eq_false_iff.mpr (mt (validateBinding_iff hbinding).mp hsame)
      rw [Option.filter_some]
      simp only [hchecked.fromText, Except.mapError, validateArtifactValue, hactual, hinvalid,
        bind, Except.bind]
      simp [Except.toOption, hsame]

theorem Ledger.document_mem (h : Ledger validate pr store)
    (hplain : PlainFamily family) (hvalue : store.document binding family = some value) :
    ∃ snapshot ∈ store.history, snapshot.family = family ∧ snapshot.content = value := by
  unfold ArtifactStore.document at hvalue
  obtain ⟨hcontent, -⟩ := Option.filter_eq_some_iff.mp hvalue
  obtain ⟨file, hfile, rfl⟩ := Option.map_eq_some_iff.mp hcontent
  obtain ⟨snapshot, hmem, hfamily, hcopy⟩ := h.currentFile_mem hplain hfile
  exact ⟨snapshot, hmem, hfamily, hcopy.symm⟩

theorem document_congr {next : ArtifactStore} (hroot : next.root = store.root)
    (hcurrent : next.current = store.current) (binding : PrFollowupBinding) (family : String) :
    next.document binding family = store.document binding family := by
  unfold ArtifactStore.document ArtifactStore.currentFile
  rw [hroot, hcurrent]

theorem currentFile_replaceCurrent_self (value : Json) :
    (store.replaceCurrent ⟨canonicalPath store.root binding family, value⟩).currentFile binding
      family = some ⟨canonicalPath store.root binding family, value⟩ := by
  unfold ArtifactStore.currentFile ArtifactStore.replaceCurrent
  rw [List.find?_append, List.find?_eq_none.mpr ?_]
  · simp
  · intro file hfile
    have hother := (List.mem_filter.mp hfile).2
    simpa using hother

theorem currentFile_replaceCurrent_ne (hne : file.path ≠ canonicalPath store.root binding family) :
    (store.replaceCurrent file).currentFile binding family = store.currentFile binding family := by
  unfold ArtifactStore.currentFile ArtifactStore.replaceCurrent
  rw [List.find?_append]
  have hfile : (file.path == canonicalPath store.root binding family) = false := by simpa using hne
  rw [List.find?_cons_of_neg (by simp [hfile]), List.find?_nil, Option.or_none, List.find?_filter]
  congr 1
  funext other
  by_cases hpath : other.path = canonicalPath store.root binding family
  · simp [hpath, Ne.symm hne]
  · simp [hpath]

theorem Ledger.write_current (h : Ledger validate pr store) (order : ListingOrder)
    (hrequest : WellFormed pr request) (publication : Publication) :
    let written :=
      writeJsonArtifactLocked validate order request publication store
    Ledger validate pr written.2 ∧ written.2.root = store.root ∧
      ((written.1.isOk = false ∧ written.2.current = store.current) ∨
        ∃ record value, written.1 = .ok record ∧
          envelope store.root request (nextNumbers store request).1
            (nextNumbers store request).2 = .ok value ∧
          written.2.current = (store.replaceCurrent
            ⟨canonicalPath store.root request.binding request.artifactFamily, value⟩).current) := by
  have hnext : Ledger validate pr ((artifactMachine validate).next
      store ⟨order, request, publication⟩) := h.next hrequest
  unfold StateMachine.next artifactMachine at hnext
  refine ⟨hnext, ?_⟩
  by_cases hlength : store.history.length ≤ maxArtifactScanFiles
  · have hstep := h.write_eq hlength order hrequest publication
    cases hvalue : envelope store.root request (nextNumbers store request).1
        (nextNumbers store request).2 with
    | error error =>
      rw [hstep, hvalue]
      exact ⟨rfl, Or.inl ⟨rfl, rfl⟩⟩
    | ok value =>
      rw [hvalue] at hstep
      cases hinvariants : validate request.artifactFamily value with
      | error error =>
        rw [hstep]
        simp only [bind, Except.bind, hinvariants]
        exact ⟨trivial, Or.inl ⟨rfl, trivial⟩⟩
      | ok _ =>
        simp only [bind, Except.bind, hinvariants] at hstep
        cases publication with
        | failed error | crashed => rw [hstep]; exact ⟨rfl, Or.inl ⟨rfl, rfl⟩⟩
        | published => rw [hstep]; exact ⟨rfl, Or.inr ⟨_, value, rfl, rfl, rfl⟩⟩
  · obtain ⟨error, hrefused⟩ := recoverSequenceState_of_long validate
      (Nat.lt_of_not_le hlength) order request.binding (some request.artifactFamily)
    unfold writeJsonArtifactLocked
    simp only [hrefused]
    exact ⟨trivial, Or.inl ⟨rfl, trivial⟩⟩

theorem document_replaceCurrent_ne (hplain : PlainFamily family)
    (hfamily : request.artifactFamily ≠ family) (value : Json) (other : PrFollowupBinding) :
    (store.replaceCurrent ⟨canonicalPath store.root request.binding request.artifactFamily,
      value⟩).document other family = store.document other family := by
  unfold ArtifactStore.document
  rw [currentFile_replaceCurrent_ne]
  intro hpath
  exact hfamily (hplain.eq (congrArg FilePath.fileStem hpath))

theorem document_replaceCurrent_self (hrequest : WellFormed pr request)
    (hvalue : envelope root request sequence failure = .ok value) :
    (store.replaceCurrent ⟨canonicalPath store.root request.binding request.artifactFamily,
      value⟩).document request.binding request.artifactFamily = some value := by
  unfold ArtifactStore.document
  rw [currentFile_replaceCurrent_self, Option.map_some, Option.filter_some,
    bindingFromValue_of_injectStoreFields hvalue hrequest.binding]
  simp [Except.toOption]

/-- **A write that is published puts its document in place, and no other; one that is not leaves
the documents as they are.** -/
theorem Ledger.write_document (h : Ledger validate pr store) (order : ListingOrder)
    (hrequest : WellFormed pr request) (publication : Publication) :
    let written :=
      writeJsonArtifactLocked validate order request publication store
    Ledger validate pr written.2 ∧
      ((written.1.isOk = false ∧
          ∀ other family, written.2.document other family = store.document other family) ∨
        ∃ record value, written.1 = .ok record ∧
          envelope store.root request (nextNumbers store request).1
            (nextNumbers store request).2 = .ok value ∧
          written.2.document request.binding request.artifactFamily = some value ∧
          ∀ other family, PlainFamily family → request.artifactFamily ≠ family →
            written.2.document other family = store.document other family) := by
  intro written
  obtain ⟨hledger, hroot, hwritten⟩ := h.write_current order hrequest publication
  refine ⟨hledger, ?_⟩
  rcases hwritten with ⟨herror, hcurrent⟩ | ⟨record, value, hok, hvalue, hcurrent⟩
  · exact Or.inl ⟨herror, document_congr hroot hcurrent⟩
  · generalize hreplaced : store.replaceCurrent
      ⟨canonicalPath store.root request.binding request.artifactFamily, value⟩ = replaced at hcurrent
    have hsame : replaced.root = store.root := by
      rw [← hreplaced]
      rfl
    have hdocument := document_congr (hroot.trans hsame.symm) hcurrent
    refine Or.inr ⟨record, value, hok, hvalue, ?_, fun other family hplain hne => ?_⟩
    · rw [hdocument, ← hreplaced]
      exact document_replaceCurrent_self hrequest hvalue
    · rw [hdocument, ← hreplaced]
      exact document_replaceCurrent_ne hplain hne value other

end Reading

end Luther
