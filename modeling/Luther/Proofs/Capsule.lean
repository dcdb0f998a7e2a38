/-
A capsule that was stored is loaded as it was stored.

Loading checks the row against the capsule and the capsule against its digest.  What
comes out of it is therefore the run's own capsule, under a digest that recomputes;
and what `persist_capsule_v1` wrote passes every check.
-/
import Luther.Recovery.Capsule

namespace Luther

open Sql

theorem asU32_toNat (n : UInt32) : asU32 n.toNat = n := by
  have hlt : n.toNat < 2 ^ 32 := n.toNat_lt
  unfold asU32
  rw [Int.emod_eq_of_lt (by omega) (by omega), Int.toNat_natCast]
  exact UInt32.ofNat_toNat

variable {capsule : ExecutionCapsuleV1} {runId : String} {capsules : CapsuleTable} {sha : Sha256Hex}

theorem validateLoadedCapsule_ok {row : CapsuleRow} :
    validateLoadedCapsule runId capsule row = .ok () ↔
      capsule.runId = runId ∧ capsule.schemaVersion = asU32 row.schemaVersion
        ∧ capsule.canonicalizationVersion = asU32 row.canonicalizationVersion
        ∧ capsule.domainVersion = asU32 row.domainVersion
        ∧ capsule.provenanceVersion = asU32 row.provenanceVersion
        ∧ capsule.envelopeDigest = row.envelopeDigest ∧ capsule.workflowDigest = row.workflowDigest
        ∧ capsule.configDigest = row.configDigest := by
  unfold validateLoadedCapsule
  split
  · rename_i hsome
    refine iff_of_false (by simp) fun hall => ?_
    tauto
  · rename_i hnone
    push Not at hnone
    exact iff_of_true rfl hnone

theorem validateLoadedCapsule_ofCapsule (capsule : ExecutionCapsuleV1) :
    validateLoadedCapsule capsule.runId capsule (CapsuleRow.ofCapsule capsule) = .ok () :=
  validateLoadedCapsule_ok.mpr (by simp [CapsuleRow.ofCapsule, asU32_toNat])

theorem find?_capsule {row : CapsuleRow} (hrow : row ∈ capsules) (hrun : row.runId = runId) :
    capsules.find? (fun row => row.runId == runId) = some row := by
  refine Table.find?_eq_some_of_key (fun a b ha hb => ?_) hrow (by simpa using hrun)
  simp only [beq_iff_eq] at ha hb
  exact ha.trans hb.symm

/-- **A load returns what the row of the run holds**, where the row decodes, its columns agree and
the envelope verifies. -/
theorem loadCapsuleV1_iff :
    loadCapsuleV1 sha capsules runId = .ok capsule ↔
      ∃ row ∈ capsules, row.runId = runId ∧ row.capsuleJson = .ok capsule
        ∧ validateLoadedCapsule runId capsule row = .ok ()
        ∧ verifyEnvelopeDigest sha capsule = .ok () := by
  constructor
  · intro h
    unfold loadCapsuleV1 at h
    cases hfind : capsules.find? (fun row => row.runId == runId) with
    | none => simp [hfind] at h
    | some row =>
      simp only [hfind] at h
      cases hjson : row.capsuleJson with
      | error text => simp [hjson, bind, Except.bind] at h
      | ok loaded =>
        simp only [hjson] at h
        obtain ⟨_, hloaded, h⟩ := bind_ok.mp h
        obtain ⟨_, hvalid, h⟩ := bind_ok.mp h
        obtain ⟨hrow, hrun⟩ := Table.find?_some hfind
        split at h
        · rename_i hverify
          obtain rfl := Except.ok.inj h
          obtain rfl := Except.ok.inj hloaded
          exact ⟨row, hrow, by simpa using hrun, hjson, hvalid, hverify⟩
        · simp at h
  · rintro ⟨row, hrow, hrun, hjson, hvalid, hverify⟩
    unfold loadCapsuleV1
    rw [find?_capsule hrow hrun]
    dsimp only
    rw [hjson]
    dsimp only [bind, Except.bind]
    rw [hvalid]
    dsimp only
    rw [hverify]

theorem loadCapsuleV1_ok (h : loadCapsuleV1 sha capsules runId = .ok capsule) :
    capsule.runId = runId ∧ verifyEnvelopeDigest sha capsule = .ok () := by
  obtain ⟨row, -, -, -, hvalid, hverify⟩ := loadCapsuleV1_iff.mp h
  exact ⟨(validateLoadedCapsule_ok.mp hvalid).1, hverify⟩

theorem loadCapsuleV1_of_mem (hmem : CapsuleRow.ofCapsule capsule ∈ capsules)
    (hverify : verifyEnvelopeDigest sha capsule = .ok ()) :
    loadCapsuleV1 sha capsules capsule.runId = .ok capsule :=
  loadCapsuleV1_iff.mpr
    ⟨_, hmem, rfl, rfl, validateLoadedCapsule_ofCapsule capsule, hverify⟩

/-! ### A capsule under any digest -/

/-- A capsule whose envelope digest is the one that it recomputes to. -/
def exampleCapsule (sha : Sha256Hex) : ExecutionCapsuleV1 :=
  let unsigned : ExecutionCapsuleV1 :=
    { schemaVersion := 1, canonicalizationVersion := 1, domainVersion := 1, provenanceVersion := 1
      runId := "run-1", configRootEncoding := "utf8:/cfg", resolvedWorkflowBytes := []
      resolvedConfigBytes := [], launchProvenanceDigest := "p", baseRef := "main"
      envelopeDigest := "", workflowDigest := "w", configDigest := "c" }
  { unsigned with envelopeDigest := sha (buildEnvelopeFrame unsigned) }

def exampleCapsules (sha : Sha256Hex) : CapsuleTable :=
  ⟨[CapsuleRow.ofCapsule (exampleCapsule sha)], List.pairwise_singleton _ _⟩

theorem verifyEnvelopeDigest_example (sha : Sha256Hex) :
    verifyEnvelopeDigest sha (exampleCapsule sha) = .ok () := by
  show (if sha (buildEnvelopeFrame (exampleCapsule sha)) = (exampleCapsule sha).envelopeDigest
    then _ else _) = _
  exact if_pos rfl

theorem loadCapsuleV1_example (sha : Sha256Hex) :
    loadCapsuleV1 sha (exampleCapsules sha) "run-1" = .ok (exampleCapsule sha) :=
  loadCapsuleV1_of_mem (List.mem_singleton_self (CapsuleRow.ofCapsule (exampleCapsule sha)))
    (verifyEnvelopeDigest_example sha)

end Luther
