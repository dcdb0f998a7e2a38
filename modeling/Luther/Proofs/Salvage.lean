/-
Which runs are salvaged.

The loader of capsules fails closed: whatever is wrong with a row, it returns an error and no
capsule.  The classifier takes only one of these errors, that there is no row, for a run without a
valid capsule, and hands the others on.  So the check that it makes itself is never the one that
fails, and a run whose capsule is damaged is neither recovered nor refused.
-/
import Luther.Proofs.Capsule
import Luther.Recovery.Protocol

namespace Luther

open Sql

/-! ### Valid rows -/

/-- Every column of the row is what the capsule says, as a number and not modulo 2^32. -/
structure CapsuleRow.Matches (row : CapsuleRow) (capsule : ExecutionCapsuleV1) : Prop where
  runId : row.runId = capsule.runId
  schemaVersion : row.schemaVersion = capsule.schemaVersion.toNat
  canonicalizationVersion : row.canonicalizationVersion = capsule.canonicalizationVersion.toNat
  domainVersion : row.domainVersion = capsule.domainVersion.toNat
  provenanceVersion : row.provenanceVersion = capsule.provenanceVersion.toNat
  envelopeDigest : row.envelopeDigest = capsule.envelopeDigest
  workflowDigest : row.workflowDigest = capsule.workflowDigest
  configDigest : row.configDigest = capsule.configDigest

/-- The row decodes to the capsule, matches it, and the envelope of the capsule verifies. -/
structure CapsuleRow.Holds (sha : Sha256Hex) (row : CapsuleRow) (capsule : ExecutionCapsuleV1) :
    Prop where
  decodes : row.capsuleJson = .ok capsule
  columns : row.Matches capsule
  verifies : verifyEnvelopeDigest sha capsule = .ok ()

/-- The run has a valid capsule. -/
def CapsuleTable.Stores (sha : Sha256Hex) (capsules : CapsuleTable) (runId : String)
    (capsule : ExecutionCapsuleV1) : Prop :=
  ∃ row ∈ capsules, row.runId = runId ∧ row.Holds sha capsule

/-- **Classification is total**: a run is backed by exactly the valid capsule it has, and is
salvaged in every other case, which puts one record in the lineage and refuses. -/
structure Salvages (sha : Sha256Hex) (capsules : CapsuleTable) (runId : String) : Prop where
  backed : ∀ capsule,
    classifyRun sha capsules runId = .ok (.capsuleBacked capsule) ↔
      capsules.Stores sha runId capsule
  salvaged : (∀ capsule, ¬ capsules.Stores sha runId capsule) →
    classifyRun sha capsules runId = .ok (.salvageOnly runId)
  recorded : (∀ capsule, ¬ capsules.Stores sha runId capsule) →
    ∀ now, ∀ lineage : SalvageLineage, lineage.HasRoom →
      ∃ lineage', salvageRecover sha capsules now runId lineage =
          (.ok (.refused .salvageOnly), lineage') ∧
        lineage'.records = lineage.records ++ [lineage.next now runId]

section Salvage

variable {sha : Sha256Hex} {capsules : CapsuleTable} {runId : String}
  {capsule : ExecutionCapsuleV1} {row : CapsuleRow}

theorem loadCapsuleV1_noRows (sha : Sha256Hex) :
    loadCapsuleV1 sha capsules runId = .error .queryReturnedNoRows ↔
      ∀ row ∈ capsules, row.runId ≠ runId := by
  constructor
  · intro h row hrow hrun
    unfold loadCapsuleV1 at h
    rw [find?_capsule hrow hrun] at h
    dsimp only at h
    cases hjson : row.capsuleJson with
    | error text => simp [hjson, bind, Except.bind] at h
    | ok loaded =>
      rw [hjson] at h
      cases hvalid : validateLoadedCapsule runId loaded row with
      | error error =>
        unfold validateLoadedCapsule at hvalid
        split at hvalid
        · obtain rfl := Except.error.inj hvalid
          simp [bind, Except.bind, validateLoadedCapsule, *] at h
        · cases hvalid
      | ok _ =>
        cases hverify : verifyEnvelopeDigest sha loaded with
        | error error | ok _ => simp [bind, Except.bind, hvalid, hverify] at h
  · intro h
    have hfind : capsules.find? (fun row => row.runId == runId) = none :=
      Table.find?_none.mpr fun row hrow => by simpa using h row hrow
    unfold loadCapsuleV1
    rw [hfind]

theorem loadCapsuleV1_of_stores (h : capsules.Stores sha runId capsule) :
    loadCapsuleV1 sha capsules runId = .ok capsule := by
  obtain ⟨row, hrow, hrun, hdecodes, hcolumns, hverifies⟩ := h
  refine loadCapsuleV1_iff.mpr ⟨row, hrow, hrun, hdecodes, ?_, hverifies⟩
  rw [validateLoadedCapsule_ok, hcolumns.schemaVersion, hcolumns.canonicalizationVersion,
    hcolumns.domainVersion, hcolumns.provenanceVersion, hcolumns.envelopeDigest,
    hcolumns.workflowDigest, hcolumns.configDigest, ← hrun, hcolumns.runId]
  simp [asU32_toNat]

theorem classifyRun_of_load (h : loadCapsuleV1 sha capsules runId = .ok capsule) :
    classifyRun sha capsules runId = .ok (.capsuleBacked capsule) := by
  unfold classifyRun
  rw [h]
  dsimp only
  rw [(loadCapsuleV1_ok h).2]

/-- **A run is classified as one to salvage exactly where it has no row at all.** -/
theorem classifyRun_salvageOnly {salvaged : String} :
    classifyRun sha capsules runId = .ok (.salvageOnly salvaged) ↔
      salvaged = runId ∧ ∀ row ∈ capsules, row.runId ≠ runId := by
  rw [← loadCapsuleV1_noRows sha]
  cases hload : loadCapsuleV1 sha capsules runId with
  | ok capsule =>
    rw [classifyRun_of_load hload]
    simp
  | error error =>
    unfold classifyRun
    rw [hload]
    cases error with
    | queryReturnedNoRows => simp [eq_comm]
    | constraintViolation | databaseFull => simp
    | toSqlConversionFailure | fromSqlConversionFailure | invalidColumnType | sqliteFailure => simp

theorem salvageRecover_of_salvageOnly
    (h : classifyRun sha capsules runId = .ok (.salvageOnly runId)) (now : Timestamp)
    {lineage : SalvageLineage} (hroom : lineage.HasRoom) :
    ∃ lineage', salvageRecover sha capsules now runId lineage =
        (.ok (.refused .salvageOnly), lineage') ∧
      lineage'.records = lineage.records ++ [lineage.next now runId] := by
  refine ⟨{ records := lineage.records ++ [lineage.next now runId]
            lastId := lineage.lastId + 1 }, ?_, rfl⟩
  unfold salvageRecover appendSalvageRecord
  rw [h]
  dsimp only
  rw [if_pos hroom]

/-- **Classification is total exactly where the row of the run, if it has one, is valid.** -/
theorem classification_total_iff :
    Salvages sha capsules runId ↔
      ∀ row ∈ capsules, row.runId = runId → ∃ capsule, row.Holds sha capsule := by
  constructor
  · intro h row hrow hrun
    by_contra hnone
    have hdamaged : ∀ capsule, ¬ capsules.Stores sha runId capsule := by
      rintro capsule ⟨other, hother, hotherRun, hholds⟩
      have hsame : other = row := Table.eq_of_clash hother hrow (hotherRun.trans hrun.symm)
      exact hnone ⟨capsule, hsame ▸ hholds⟩
    obtain ⟨-, hmissing⟩ := classifyRun_salvageOnly.mp (h.salvaged hdamaged)
    exact hmissing row hrow hrun
  · intro h
    have hmissing : (∀ capsule, ¬ capsules.Stores sha runId capsule) →
        classifyRun sha capsules runId = .ok (.salvageOnly runId) := by
      intro hnone
      refine classifyRun_salvageOnly.mpr ⟨rfl, fun row hrow hrun => ?_⟩
      obtain ⟨capsule, hholds⟩ := h row hrow hrun
      exact hnone capsule ⟨row, hrow, hrun, hholds⟩
    refine ⟨fun capsule => ⟨fun hbacked => ?_, fun hstores => ?_⟩, hmissing, ?_⟩
    · by_cases hrow : ∃ row ∈ capsules, row.runId = runId
      · obtain ⟨row, hrow, hrun⟩ := hrow
        obtain ⟨stored, hholds⟩ := h row hrow hrun
        have hstored : capsules.Stores sha runId stored := ⟨row, hrow, hrun, hholds⟩
        rw [classifyRun_of_load (loadCapsuleV1_of_stores hstored)] at hbacked
        obtain rfl := RunClassification.capsuleBacked.inj (Except.ok.inj hbacked)
        exact hstored
      · have hnone : ∀ row ∈ capsules, row.runId ≠ runId := fun row hmem hrun =>
          hrow ⟨row, hmem, hrun⟩
        rw [classifyRun_salvageOnly.mpr ⟨rfl, hnone⟩] at hbacked
        cases hbacked
    · exact classifyRun_of_load (loadCapsuleV1_of_stores hstores)
    · intro hnone now lineage hroom
      exact salvageRecover_of_salvageOnly (hmissing hnone) now hroom

end Salvage

/-! ### A damaged row -/

def undecodableCapsules (sha : Sha256Hex) : CapsuleTable :=
  ⟨[{ CapsuleRow.ofCapsule (exampleCapsule sha) with
      capsuleJson := .error "EOF while parsing a value at line 1 column 0" }],
    List.pairwise_singleton _ _⟩

/-- **A run whose capsule does not decode has no valid capsule, and is not salvaged**: the
classification fails, and the recovery puts nothing on record. -/
theorem damaged_run_not_salvaged :
    let sha : Sha256Hex := fun _ => "digest"
    let failure := SalvageError.persistence
      ("Conversion error from type Text at index: 4, " ++
        "EOF while parsing a value at line 1 column 0")
    (∀ capsule, ¬ (undecodableCapsules sha).Stores sha "run-1" capsule) ∧
    classifyRun sha (undecodableCapsules sha) "run-1" =
      .error failure ∧
    salvageRecover sha (undecodableCapsules sha) 0 "run-1" ⟨[], 0⟩ =
      (.error failure, ⟨[], 0⟩) := by
  refine ⟨?_, rfl, rfl⟩
  rintro capsule ⟨row, hrow, -, hdecodes, -, -⟩
  rw [List.mem_singleton.mp hrow] at hdecodes
  cases hdecodes

end Luther
