/-
A document that the store wrote passes the store's own checks.

The checks of a document read the fields that the store wrote last, so what the payload had
under their names does not matter.  They also read two names that the store does not always
write: `artifact_name`, which the checks expect in the name of the file, and
`failure_sequence`, which they count as a failure.  A payload that carries one of these is
what the checks take it for, and not what the store wrote; so the payloads here carry neither.
-/
import Luther.Followup.ArtifactStore
import Luther.Lib.Numbering
import Luther.Lib.Text
import Std.Data.String.ToNat

namespace Luther

/-! ### The bindings of one pull request -/

theorem validateSequenceBinding_trans {pr left right : PrFollowupBinding}
    (hleft : validateSequenceBinding pr left)
    (hright : validateSequenceBinding pr right) :
    validateSequenceBinding left right = true := by
  simp only [validateSequenceBinding, Bool.and_eq_true, beq_iff_eq, bne_iff_ne] at *
  grind

theorem bindingRoot_eq {pr binding : PrFollowupBinding}
    (h : validateSequenceBinding pr binding) (root collection : String) :
    bindingRoot root collection binding = bindingRoot root collection pr := by
  simp only [validateSequenceBinding, Bool.and_eq_true, beq_iff_eq, bne_iff_ne] at h
  unfold bindingRoot
  grind

/-! ### Reading what the store wrote -/

section Fields

variable {context : StoreFieldContext} {payload value : Json}

section

variable (h : injectStoreFields context payload = .ok value)

include h

theorem injectStoreFields_eq_ok :
    ∃ entries, payload = .obj entries ∧
      value = .obj ((storeFields context).foldl (fun object field =>
        Assoc.insert field.1 field.2 object) entries) := by
  unfold injectStoreFields at h
  cases payload with
  | obj entries => exact ⟨entries, rfl, (Except.ok.inj h).symm⟩
  | null | bool | num | str | arr => simp [Json.asObject?] at h

omit h in
theorem nodup_storeFields (context : StoreFieldContext) :
    ((storeFields context).map Prod.fst).Nodup := by
  unfold storeFields bindingFields failureFields
  cases context.failure <;> simp

/-- **A field that the store wrote is what is read.** -/
theorem get?_of_mem_storeFields
    {field : String} {v : Json} (hmem : (field, v) ∈ storeFields context) :
    value.get? field = some v := by
  obtain ⟨entries, -, rfl⟩ := injectStoreFields_eq_ok h
  exact Assoc.lookup_insertMany_mem (nodup_storeFields context) hmem entries

theorem get?_of_notMem_storeFields
    {field : String} (hmem : field ∉ (storeFields context).map Prod.fst) :
    value.get? field = payload.get? field := by
  obtain ⟨entries, rfl, rfl⟩ := injectStoreFields_eq_ok h
  exact Assoc.lookup_insertMany_ne hmem entries

end

end Fields

/-! ### Depth -/

theorem depth_storeFields {context : StoreFieldContext}
    (hdetails : ∀ failure ∈ context.failure, failure.2.details.depth < 127) :
    ∀ field ∈ storeFields context, field.2.depth ≤ 126 := by
  unfold storeFields bindingFields failureFields
  cases hfailure : context.failure with
  | none => cases context.binding.baseSha <;> simp [historyMetadata, Json.depth, Json.depthEntries]
  | some failure =>
    have hdeep := Nat.le_of_lt_succ (hdetails failure hfailure)
    cases context.binding.baseSha <;>
      simp [historyMetadata, Json.depth, Json.depthEntries, hdeep]

theorem depth_of_injectStoreFields {context : StoreFieldContext} {payload value : Json}
    (h : injectStoreFields context payload = .ok value) (hpayload : payload.depth < 128)
    (hdetails : ∀ failure ∈ context.failure, failure.2.details.depth < 127) :
    value.depth < 128 := by
  obtain ⟨entries, rfl, rfl⟩ := injectStoreFields_eq_ok h
  have hentries : Json.depthEntries entries ≤ 126 := by
    rw [Json.depth] at hpayload
    omega
  have hdepth := Json.depthEntries_insertMany (depth_storeFields hdetails) hentries
  rw [Json.depth]
  omega

/-! ### Fields that are required -/

variable {field : String}

variable {value : Json}

theorem requireU64_of_get? {n : Nat} (h : value.get? field = some (.num n))
    (hn : n < 2 ^ 64) : requireU64 field value = .ok n := by
  unfold requireU64
  rw [h, Option.bind_some, Json.asU64?_natCast hn]

theorem requireString_of_get? {text : String} (h : value.get? field = some (.str text))
    (htext : text ≠ "") : requireString field value = .ok text := by
  unfold requireString
  rw [h]
  simp [Json.asStr?, htext]

theorem requireBool_of_get? {b : Bool} (h : value.get? field = some (.bool b)) :
    requireBool field value = .ok b := by
  unfold requireBool
  rw [h]
  rfl

theorem FilePath.text_ne_empty (path : FilePath) : path.text ≠ "" := by
  unfold FilePath.text
  simp

theorem toRfc3339_ne_empty (t : Timestamp) : t.toRfc3339 ≠ "" := by
  unfold Timestamp.toRfc3339
  simp

/-! ### The checks -/

section Checks

variable {context : StoreFieldContext} {payload value : Json}

section

variable (h : injectStoreFields context payload = .ok value)

include h

/-- **The binding of a document is the one it was written for.** -/
theorem bindingFromValue_of_injectStoreFields
    {pr : PrFollowupBinding} (hpr : validateSequenceBinding pr context.binding) :
    bindingFromValue value = .ok context.binding := by
  have hread : ∀ {field : String} {v : Json}, (field, v) ∈ bindingFields context.binding →
      value.get? field = some v := by
    intro field v hmem
    refine get?_of_mem_storeFields h ?_
    unfold storeFields
    simp [hmem]
  simp only [validateSequenceBinding, Bool.and_eq_true, beq_iff_eq, bne_iff_ne] at hpr
  have hversion : requireU64 "schema_version" value = .ok context.binding.schemaVersion.toNat :=
    requireU64_of_get? (hread (by simp [bindingFields]))
      (Nat.lt_trans context.binding.schemaVersion.toNat_lt (by decide))
  have hnumber : requireU64 "pr_number" value = .ok context.binding.prNumber.toNat :=
    requireU64_of_get? (hread (by simp [bindingFields])) context.binding.prNumber.toNat_lt
  have htext : ∀ {field text : String}, (field, Json.str text) ∈ bindingFields context.binding →
      text ≠ "" → requireString field value = .ok text :=
    fun hmem hne => requireString_of_get? (hread hmem) hne
  have hbase : baseShaFromValue value = .ok context.binding.baseSha := by
    have hget : value.get? "base_sha" = some (context.binding.baseSha.elim .null .str) :=
      hread (by simp [bindingFields])
    unfold baseShaFromValue
    rw [hget]
    cases context.binding.baseSha <;> rfl
  have hrun : requireString "run_id" value = .ok context.binding.runId :=
    htext (by simp [bindingFields]) (by grind)
  have howner : requireString "repository_owner" value = .ok context.binding.repositoryOwner :=
    htext (by simp [bindingFields]) (by grind)
  have hname : requireString "repository_name" value = .ok context.binding.repositoryName :=
    htext (by simp [bindingFields]) (by grind)
  have hhead : requireString "head_ref" value = .ok context.binding.headRef :=
    htext (by simp [bindingFields]) (by grind)
  have hsha : requireString "head_sha" value = .ok context.binding.headSha :=
    htext (by simp [bindingFields]) (by grind)
  have hbaseRef : requireString "base_ref" value = .ok context.binding.baseRef :=
    htext (by simp [bindingFields]) (by grind)
  have hsmall : ¬ 2 ^ 32 ≤ context.binding.schemaVersion.toNat :=
    Nat.not_le_of_lt context.binding.schemaVersion.toNat_lt
  unfold bindingFromValue
  simp only [hversion, hrun, howner, hname, hnumber, hhead, hsha, hbaseRef, hbase, bind,
    Except.bind, if_neg hsmall]
  simp

theorem metadata_of_injectStoreFields :
    value.get? "history_metadata" = some (historyMetadata context) := by
  refine get?_of_mem_storeFields h ?_
  unfold storeFields
  simp

theorem metadataString_of_injectStoreFields (field : String) :
    metadataString field value = ((historyMetadata context).get? field).bind Json.asStr? := by
  unfold metadataString
  rw [metadata_of_injectStoreFields h]
  rfl

theorem sequence_of_injectStoreFields :
    value.get? "artifact_sequence" = some (.num context.sequence.artifactSequence) ∧
      value.get? "write_sequence" = some (.num context.sequence.writeSequence) ∧
      value.get? "producer_step_id" = some (.str context.sequence.producerStepId) ∧
      value.get? "step_order_index" = some (.num context.stepOrderIndex.toNat) := by
  refine ⟨?_, ?_, ?_, ?_⟩
  all_goals
    refine get?_of_mem_storeFields h ?_
    unfold storeFields
    simp

/-- **The store accepts what it says about its own document.** -/
theorem validateArtifactMetadata_of_injectStoreFields
    (hartifact : context.sequence.artifactSequence < 2 ^ 64)
    (hwrite : context.sequence.writeSequence < 2 ^ 64)
    (hproducer : context.sequence.producerStepId ≠ "") :
    validateArtifactMetadata context.artifactFamily value = .ok () := by
  obtain ⟨hartifactGet, hwriteGet, hproducerGet, hstepGet⟩ := sequence_of_injectStoreFields h
  have hstep := requireU64_of_get? hstepGet context.stepOrderIndex.toNat_lt
  have hcanonical : requireString "canonical_path" (historyMetadata context) =
      .ok context.canonicalPath.text :=
    requireString_of_get? rfl context.canonicalPath.text_ne_empty
  have hhistory : requireString "history_path" (historyMetadata context) =
      .ok context.historyPath.text :=
    requireString_of_get? rfl context.historyPath.text_ne_empty
  have hwritten : requireString "history_written_at" (historyMetadata context) =
      .ok context.writtenAt.toRfc3339 :=
    requireString_of_get? rfl (toRfc3339_ne_empty context.writtenAt)
  have hcanonicalFlag : requireBool "is_canonical" (historyMetadata context) = .ok true :=
    requireBool_of_get? rfl
  have hfamily : ((historyMetadata context).get? "artifact_family").bind Json.asStr? =
      some context.artifactFamily := rfl
  have hartifactNumber := requireU64_of_get? hartifactGet hartifact
  have hwriteNumber := requireU64_of_get? hwriteGet hwrite
  have hproducerText := requireString_of_get? hproducerGet hproducer
  obtain ⟨entries, hentries⟩ : ∃ entries, historyMetadata context = .obj entries := ⟨_, rfl⟩
  rw [hentries] at hcanonical hhistory hwritten hcanonicalFlag hfamily
  unfold validateArtifactMetadata
  rw [metadata_of_injectStoreFields h, hentries]
  simp only [Option.bind_some, Json.asObject?, bind, Except.bind, hfamily, hartifactNumber,
    hwriteNumber, hproducerText, hstep, hcanonical, hhistory, hcanonicalFlag, hwritten, ne_eq,
    not_true_eq_false, if_false]
  rfl

theorem get?_artifact_name : value.get? "artifact_name" = payload.get? "artifact_name" := by
  refine get?_of_notMem_storeFields h ?_
  unfold storeFields bindingFields failureFields
  cases context.failure <;> simp

theorem validateHistoryFilename_of_injectStoreFields {path : FilePath}
    (hpath : path.fileStem = historyStem context.sequence none)
    (hname : (payload.get? "artifact_name").bind Json.asStr? = none)
    (hartifact : 0 < context.sequence.artifactSequence ∧
      context.sequence.artifactSequence < 2 ^ 64)
    (hwrite : 0 < context.sequence.writeSequence ∧ context.sequence.writeSequence < 2 ^ 64)
    (hproducer : context.sequence.producerStepId ≠ "") (artifactFamily : String) :
    validateHistoryFilename artifactFamily value path = .ok () := by
  obtain ⟨hartifactGet, hwriteGet, hproducerGet, -⟩ := sequence_of_injectStoreFields h
  have hnameGet : value.get? "artifact_name" = payload.get? "artifact_name" := get?_artifact_name h
  have hstem : path.fileStem = historyStem ⟨context.sequence.artifactSequence,
      context.sequence.writeSequence, context.sequence.producerStepId⟩ none := hpath
  have hpositive : ¬ (context.sequence.artifactSequence = 0 ∨
      context.sequence.writeSequence = 0) := by omega
  have hartifactNumber : (value.get? "artifact_sequence").bind Json.asU64? =
      some context.sequence.artifactSequence := by
    rw [hartifactGet, Option.bind_some, Json.asU64?_natCast hartifact.2]
  have hwriteNumber : (value.get? "write_sequence").bind Json.asU64? =
      some context.sequence.writeSequence := by
    rw [hwriteGet, Option.bind_some, Json.asU64?_natCast hwrite.2]
  have hproducerText : (value.get? "producer_step_id").bind Json.asStr? =
      some context.sequence.producerStepId := by
    rw [hproducerGet]
    rfl
  rw [← hnameGet] at hname
  unfold validateHistoryFilename
  simp only [hartifactNumber, hwriteNumber, hproducerText, hname, bind, Except.bind,
    if_neg hpositive, if_neg hproducer, hstem, ne_eq, not_true_eq_false, if_false]
  rfl

end

end Checks

/-! ### Names of files -/

theorem historyStem_split (sequence : ArtifactSequenceMetadata) (name : Option String) :
    ∃ rest, (historyStem sequence name).toList =
      sequence.artifactSequence.repr.toList ++ '-' :: rest := by
  have htext : ∀ text : String, toString text = text := fun _ => rfl
  unfold historyStem
  cases name with
  | none | some name => exact ⟨_, by simp only [htext]; simp; rfl⟩

theorem historyStem_digits (sequence : ArtifactSequenceMetadata) (name : Option String) :
    (historyStem sequence name).toList.takeWhile Char.isDigit =
      sequence.artifactSequence.repr.toList := by
  obtain ⟨rest, hrest⟩ := historyStem_split sequence name
  rw [hrest, List.takeWhile_append_of_pos fun c hc => isDigit_of_mem_repr hc]
  simp

/-- **The number of a document is read off the name of its file.** -/
theorem historyStem_inj {left right : ArtifactSequenceMetadata} {name name' : Option String}
    (h : historyStem left name = historyStem right name') :
    left.artifactSequence = right.artifactSequence := by
  have hdigits := historyStem_digits left name
  rw [h, historyStem_digits right name'] at hdigits
  exact (Nat.repr_injective (String.toList_inj.mp hdigits)).symm

theorem historyPath_inj {root : String} {binding binding' : PrFollowupBinding}
    {family family' : String} {left right : ArtifactSequenceMetadata}
    (h : historyPath root binding family left = historyPath root binding' family' right) :
    left.artifactSequence = right.artifactSequence := by
  have hstem : historyStem left none = historyStem right none := congrArg FilePath.fileStem h
  exact historyStem_inj hstem

/-! ### The files of a history -/

def ContainedFile.family (file : ContainedFile) : String :=
  (artifactFamilyFromValue file.content).getD ""

def ContainedFile.writeSequence (file : ContainedFile) : Nat :=
  ((file.content.get? "write_sequence").bind Json.asU64?).getD 0

/-- The number of the failure that a document is about, where it is about one. -/
def ContainedFile.failureSequence (file : ContainedFile) : Option Nat :=
  (file.content.get? "failure_sequence").bind Json.asU64?

/-- A file of the history that passes every check of recovery. -/
structure Snapshot (validate : FamilyInvariants) (pr : PrFollowupBinding)
    (root : String) (file : ContainedFile) : Prop where
  shallow : file.content.depth < 128
  family : artifactFamilyFromValue file.content = some file.family
  binding : ∃ binding, bindingFromValue file.content = .ok binding ∧
    validateSequenceBinding pr binding = true
  metadata : validateArtifactMetadata file.family file.content = .ok ()
  invariants : validate file.family file.content = .ok ()
  artifact : requireU64 "artifact_sequence" file.content = .ok file.artifactSequence
  write : requireU64 "write_sequence" file.content = .ok file.writeSequence
  filename : validateHistoryFilename file.family file.content file.path = .ok ()
  embedded : validateHistoryEmbeddedPath file.content file.path = .ok ()
  canonical : validateCanonicalEmbeddedPath file.content (canonicalPath root pr file.family)
    = .ok ()
  place : ∃ producer, file.path = historyPath root pr file.family
    ⟨file.artifactSequence, file.writeSequence, producer⟩

/-- What may be asked of a write: the pull request and a head of it, a producer, and a payload
that says nothing in the store's place and is not too deep to be read again. -/
structure WellFormed (pr : PrFollowupBinding) (request : JsonArtifactWriteRequest) : Prop where
  binding : validateSequenceBinding pr request.binding = true
  producer : request.producerStepId ≠ ""
  unnamed : (request.payload.get? "artifact_name").bind Json.asStr? = none
  successful : request.failure = none →
    (request.payload.get? "failure_sequence").bind Json.asU64? = none
  shallow : request.payload.depth < 128
  details : ∀ failure ∈ request.failure, failure.details.depth < 127

/-! ### The document of a write -/

section Write

variable {validate : FamilyInvariants} {pr : PrFollowupBinding} {root : String}
  {request : JsonArtifactWriteRequest} {sequence : ArtifactSequenceMetadata}
  {failure : Option (Nat × ArtifactFailure)} {value : Json}

def historyFile (root : String) (request : JsonArtifactWriteRequest)
    (sequence : ArtifactSequenceMetadata) (value : Json) : ContainedFile :=
  ⟨historyPath root request.binding request.artifactFamily sequence, value⟩

section

variable (h : envelope root request sequence failure = .ok value)

include h

theorem numbers_of_envelope
    (hartifact : sequence.artifactSequence < 2 ^ 64) (hwrite : sequence.writeSequence < 2 ^ 64) :
    artifactFamilyFromValue value = some request.artifactFamily ∧
      (historyFile root request sequence value).artifactSequence = sequence.artifactSequence ∧
      (historyFile root request sequence value).writeSequence = sequence.writeSequence := by
  obtain ⟨hartifactGet, hwriteGet, -, -⟩ := sequence_of_injectStoreFields h
  refine ⟨?_, ?_, ?_⟩
  · exact metadataString_of_injectStoreFields h "artifact_family"
  · unfold ContainedFile.artifactSequence historyFile
    rw [hartifactGet, Option.bind_some, Json.asU64?_natCast hartifact]
    rfl
  · unfold ContainedFile.writeSequence historyFile
    rw [hwriteGet, Option.bind_some, Json.asU64?_natCast hwrite]
    rfl

theorem failureSequence_of_envelope (hrequest : WellFormed pr request)
    (hfailure : failure.map Prod.snd = request.failure) (hnumber : ∀ f ∈ failure, f.1 < 2 ^ 64) :
    (historyFile root request sequence value).failureSequence = failure.map Prod.fst := by
  unfold ContainedFile.failureSequence historyFile
  cases failure with
  | none =>
    have hget : value.get? "failure_sequence" = request.payload.get? "failure_sequence" := by
      refine get?_of_notMem_storeFields h ?_
      simp [storeFields, bindingFields, failureFields]
    rw [hget, hrequest.successful hfailure.symm]
    rfl
  | some f =>
    have hget : value.get? "failure_sequence" = some (.num f.1) := by
      refine get?_of_mem_storeFields h ?_
      simp [storeFields, bindingFields, failureFields]
    rw [hget, Option.bind_some, Json.asU64?_natCast (hnumber f rfl)]
    rfl

/-- **The document of a write passes every check of recovery.** -/
theorem snapshot_of_envelope
    (hrequest : WellFormed pr request) (hfailure : failure.map Prod.snd = request.failure)
    (hproducer : sequence.producerStepId = request.producerStepId)
    (hartifact : 0 < sequence.artifactSequence ∧ sequence.artifactSequence < 2 ^ 64)
    (hwrite : 0 < sequence.writeSequence ∧ sequence.writeSequence < 2 ^ 64)
    (hinvariants : validate request.artifactFamily value = .ok ()) :
    Snapshot validate pr root (historyFile root request sequence value) := by
  obtain ⟨hfamily, hartifactNumber, hwriteNumber⟩ := numbers_of_envelope h hartifact.2 hwrite.2
  have hfamily' : (historyFile root request sequence value).family = request.artifactFamily := by
    unfold ContainedFile.family historyFile
    rw [hfamily]
    rfl
  have hproducer' : sequence.producerStepId ≠ "" := hproducer ▸ hrequest.producer
  have hpath : metadataString "history_path" value =
      some (historyPath root request.binding request.artifactFamily sequence).text :=
    metadataString_of_injectStoreFields h "history_path"
  have hcanonical : metadataString "canonical_path" value =
      some (canonicalPath root request.binding request.artifactFamily).text :=
    metadataString_of_injectStoreFields h "canonical_path"
  have hdetails : ∀ f ∈ failure, f.2.details.depth < 127 := by
    intro f hf
    refine hrequest.details f.2 ?_
    rw [← hfailure, Option.mem_def.mp hf]
    rfl
  obtain ⟨hartifactGet, hwriteGet, -, -⟩ := sequence_of_injectStoreFields h
  constructor
  case shallow => exact depth_of_injectStoreFields h hrequest.shallow hdetails
  case family => rw [hfamily', ← hfamily]; rfl
  case binding =>
    exact ⟨request.binding, bindingFromValue_of_injectStoreFields h hrequest.binding,
      hrequest.binding⟩
  case metadata =>
    rw [hfamily']
    exact validateArtifactMetadata_of_injectStoreFields h hartifact.2 hwrite.2 hproducer'
  case invariants => rw [hfamily']; exact hinvariants
  case artifact => rw [hartifactNumber]; exact requireU64_of_get? hartifactGet hartifact.2
  case write => rw [hwriteNumber]; exact requireU64_of_get? hwriteGet hwrite.2
  case filename =>
    exact validateHistoryFilename_of_injectStoreFields h rfl hrequest.unnamed hartifact hwrite
      hproducer' _
  case embedded =>
    unfold validateHistoryEmbeddedPath historyFile
    rw [hpath]
    simp [pathsMatch]
  case canonical =>
    have hroot : canonicalPath root request.binding request.artifactFamily =
        canonicalPath root pr request.artifactFamily := by
      unfold canonicalPath
      rw [bindingRoot_eq hrequest.binding]
    rw [hfamily', ← hroot]
    unfold validateCanonicalEmbeddedPath historyFile
    rw [hcanonical]
    simp [pathsMatch]
  case place =>
    refine ⟨sequence.producerStepId, ?_⟩
    rw [hartifactNumber, hwriteNumber, hfamily']
    unfold historyFile historyPath historyRootForFamily
    rw [bindingRoot_eq hrequest.binding]

end

end Write

end Luther
