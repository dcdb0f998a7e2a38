/-
The execution capsule: what a run was launched with, under one digest.

The capsule is written once, at launch, and every recovery of the run goes by it.
Its envelope digest covers the versions and the fields a replay depends on, framed
so that no two envelopes give the same bytes.
-/
import Luther.Digest
import Luther.Lib.Sql
import Luther.Persistence.Time

namespace Luther

open Sql

/-- Immutable canonical launch record. -/
structure ExecutionCapsuleV1 where
  schemaVersion : UInt32
  canonicalizationVersion : UInt32
  domainVersion : UInt32
  provenanceVersion : UInt32
  runId : String
  configRootEncoding : String
  resolvedWorkflowBytes : List UInt8
  resolvedConfigBytes : List UInt8
  launchProvenanceDigest : String
  baseRef : String
  /-- The digest over everything above. -/
  envelopeDigest : String
  workflowDigest : String
  configDigest : String
  createdAt : Timestamp := 0
  deriving DecidableEq

/-- Why a capsule is refused. -/
inductive CapsuleError where
  | envelopeDigestMismatch
  | unsupportedSchema (version : UInt32)
  | unsupportedCanonicalization (version : UInt32)
  | unsupportedDomain (version : UInt32)
  | unsupportedProvenance (version : UInt32)

def CapsuleError.text : CapsuleError → String
  | envelopeDigestMismatch => "envelope digest mismatch"
  | unsupportedSchema v => s!"unsupported capsule schema version: {v}"
  | unsupportedCanonicalization v => s!"unsupported canonicalization version: {v}"
  | unsupportedDomain v => s!"unsupported domain version: {v}"
  | unsupportedProvenance v => s!"unsupported provenance version: {v}"

def supportedSchemaVersions : List UInt32 := [1]
def supportedCanonicalizationVersions : List UInt32 := [1]
def supportedDomainVersions : List UInt32 := [1]
def supportedProvenanceVersions : List UInt32 := [1]

/-- The four version checks: a version outside the supported ones is an error of its own. -/
def requireSupported (supported : List UInt32) (err : UInt32 → CapsuleError) (version : UInt32) :
    Except CapsuleError Unit :=
  if supported.contains version then .ok () else .error (err version)

/-- `build_envelope_frame`: versions at fixed width, then every field behind its length. -/
def buildEnvelopeFrame (capsule : ExecutionCapsuleV1) : List UInt8 :=
  Framing.beBytes 4 capsule.schemaVersion.toNat
    ++ Framing.beBytes 4 capsule.canonicalizationVersion.toNat
    ++ Framing.beBytes 4 capsule.domainVersion.toNat
    ++ Framing.beBytes 4 capsule.provenanceVersion.toNat
    ++ writeLenPrefixed (asBytes capsule.runId)
    ++ writeLenPrefixed (asBytes capsule.configRootEncoding)
    ++ writeLenPrefixed capsule.resolvedWorkflowBytes
    ++ writeLenPrefixed capsule.resolvedConfigBytes
    ++ writeLenPrefixed (asBytes capsule.launchProvenanceDigest)
    ++ writeLenPrefixed (asBytes capsule.baseRef)

/-- `verify_envelope_digest`: supported versions, and the digest the envelope recomputes to. -/
def verifyEnvelopeDigest (sha : Sha256Hex) (capsule : ExecutionCapsuleV1) :
    Except CapsuleError Unit := do
  requireSupported supportedSchemaVersions .unsupportedSchema capsule.schemaVersion
  requireSupported supportedCanonicalizationVersions .unsupportedCanonicalization
    capsule.canonicalizationVersion
  requireSupported supportedDomainVersions .unsupportedDomain capsule.domainVersion
  requireSupported supportedProvenanceVersions .unsupportedProvenance capsule.provenanceVersion
  if sha (buildEnvelopeFrame capsule) = capsule.envelopeDigest then .ok ()
  else .error .envelopeDigestMismatch

/-! ### The capsule store -/

/-- One row of `execution_capsules`. -/
structure CapsuleRow where
  runId : String
  schemaVersion : Int
  canonicalizationVersion : Int
  domainVersion : Int
  provenanceVersion : Int
  /-- What the JSON column deserializes to, or the text of the error. -/
  capsuleJson : Except String ExecutionCapsuleV1
  envelopeDigest : String
  workflowDigest : String
  configDigest : String
  createdAt : Timestamp

/-- `run_id TEXT PRIMARY KEY`. -/
def CapsuleRow.Clash (a b : CapsuleRow) : Prop := a.runId = b.runId

instance : DecidableRel CapsuleRow.Clash := fun a b =>
  inferInstanceAs (Decidable (a.runId = b.runId))

instance : Std.Symm CapsuleRow.Clash := ⟨fun _ _ h => Eq.symm h⟩

def CapsuleRow.ofCapsule (capsule : ExecutionCapsuleV1) : CapsuleRow where
  runId := capsule.runId
  schemaVersion := capsule.schemaVersion.toNat
  canonicalizationVersion := capsule.canonicalizationVersion.toNat
  domainVersion := capsule.domainVersion.toNat
  provenanceVersion := capsule.provenanceVersion.toNat
  capsuleJson := .ok capsule
  envelopeDigest := capsule.envelopeDigest
  workflowDigest := capsule.workflowDigest
  configDigest := capsule.configDigest
  createdAt := capsule.createdAt

/-- The `execution_capsules` table. -/
abbrev CapsuleTable := Table CapsuleRow CapsuleRow.Clash

/-- `persist_capsule_v1`: a plain insertion, so a run's capsule is written once. -/
def persistCapsuleV1 (sha : Sha256Hex) (capsule : ExecutionCapsuleV1) (capsules : CapsuleTable) :
    Except Error CapsuleTable :=
  match verifyEnvelopeDigest sha capsule with
  | .error e => .error (.toSqlConversionFailure s!"invalid capsule envelope: {e.text}")
  | .ok () => okOr .constraintViolation (capsules.insert (CapsuleRow.ofCapsule capsule))

/-- An `i64` column `as u32`. -/
def asU32 (n : Int) : UInt32 := UInt32.ofNat (n % 2 ^ 32).toNat

/-- `validate_loaded_capsule`: every column agrees with the JSON. -/
def validateLoadedCapsule (requestedRunId : String) (capsule : ExecutionCapsuleV1)
    (row : CapsuleRow) : Except Error Unit :=
  if capsule.runId ≠ requestedRunId
      ∨ capsule.schemaVersion ≠ asU32 row.schemaVersion
      ∨ capsule.canonicalizationVersion ≠ asU32 row.canonicalizationVersion
      ∨ capsule.domainVersion ≠ asU32 row.domainVersion
      ∨ capsule.provenanceVersion ≠ asU32 row.provenanceVersion
      ∨ capsule.envelopeDigest ≠ row.envelopeDigest
      ∨ capsule.workflowDigest ≠ row.workflowDigest
      ∨ capsule.configDigest ≠ row.configDigest then
    .error (.fromSqlConversionFailure 4 "Text" "capsule JSON metadata does not match row columns")
  else .ok ()

/-- `load_capsule_v1`: the capsule of a run, fail-closed. -/
def loadCapsuleV1 (sha : Sha256Hex) (capsules : CapsuleTable) (runId : String) :
    Except Error ExecutionCapsuleV1 :=
  match capsules.find? (fun row => row.runId == runId) with
  | none => .error .queryReturnedNoRows
  | some row => do
    let capsule ←
      match row.capsuleJson with
      | .ok capsule => .ok capsule
      | .error text => .error (.fromSqlConversionFailure 4 "Text" text)
    validateLoadedCapsule runId capsule row
    match verifyEnvelopeDigest sha capsule with
    | .ok () => .ok capsule
    | .error e => .error (.fromSqlConversionFailure 4 "Text" s!"invalid capsule envelope: {e.text}")

end Luther
