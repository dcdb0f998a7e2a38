/-
The `effect_intents` table: what is about to be done to the outside, and what came of it.

An intent is written before its effect is issued, and is bound to a payload, a target
and a predecessor.  After a crash it is reconciled: what is observed outside is
compared with what the intent expects.  A caller that has seen the effect happen may
also finalize the intent itself.
-/
import Luther.Persistence.RecoveryOperations
import Luther.Recovery.TypedMerge

namespace Luther

open Sql

def payloadVersion : UInt32 := 1

/-- The kind of external effect an intent records. -/
inductive EffectKind where
  | commit
  | push
  | openPr
  | merge
  deriving DecidableEq

namespace EffectKind

def asStr : EffectKind → String
  | commit => "commit"
  | push => "push"
  | openPr => "open_pr"
  | merge => "merge"

def parseStr (s : String) : Option EffectKind :=
  match s with
  | "commit" => some commit
  | "push" => some push
  | "open_pr" => some openPr
  | "merge" => some merge
  | _ => none

@[simp] theorem parseStr_asStr (kind : EffectKind) : parseStr kind.asStr = some kind := by
  cases kind <;> rfl

end EffectKind

/-- External state observed by a reconciler. -/
structure ObservedState where
  headSha : Option String := none
  remoteRefSha : Option String := none
  matchingPrNumber : Option UInt64 := none

/-- What a look at the world says of an effect. -/
inductive ReconcileVerdict where
  /-- The effect is done, with the result that was observed, if any. -/
  | completed (result : Option String)
  /-- The effect has not been done; the caller issues it again. -/
  | needsReissue
  | conflict (detail : String)
  deriving DecidableEq

/-- One row of the `effect_intents` table. -/
structure EffectIntent where
  effectKey : String
  operationId : String
  attemptId : Int64
  sequence : Int64
  effectKind : EffectKind
  canonicalPayload : List UInt8
  payloadDigest : String
  payloadVersion : UInt32
  expectedTarget : Option String
  expectedPredecessor : Option String
  observedResult : Option String
  status : String
  deriving DecidableEq

/-- One row of the `effect_intents` table. -/
structure EffectRow where
  effectKey : String
  operationId : String
  attemptId : Int64
  sequence : Int64
  effectKind : String
  canonicalPayload : List UInt8
  payloadDigest : String
  payloadVersion : Int
  expectedTarget : Option String
  expectedPredecessor : Option String
  observedResult : Option String
  status : String
  deriving DecidableEq

namespace EffectRow

/-- `effect_key TEXT PRIMARY KEY`. -/
def Clash (a b : EffectRow) : Prop := a.effectKey = b.effectKey

instance : DecidableRel Clash := fun a b => inferInstanceAs (Decidable (a.effectKey = b.effectKey))

instance : Std.Symm Clash := ⟨fun _ _ h => Eq.symm h⟩

def isKey (key : String) (row : EffectRow) : Bool := row.effectKey == key

/-- `status = 'prepared'`. -/
def isPrepared (row : EffectRow) : Bool := row.status == "prepared"

end EffectRow

/-- The `effect_intents` table. -/
abbrev EffectTable := Table EffectRow EffectRow.Clash

def mapEffectRow (row : EffectRow) : Except Error EffectIntent :=
  match EffectKind.parseStr row.effectKind with
  | none => .error (.fromSqlConversionFailure 4 "Text" s!"unknown effect kind '{row.effectKind}'")
  | some effectKind => .ok
      { effectKey := row.effectKey
        operationId := row.operationId
        attemptId := row.attemptId
        sequence := row.sequence
        effectKind := effectKind
        canonicalPayload := row.canonicalPayload
        payloadDigest := row.payloadDigest
        -- `u32::try_from(…).unwrap_or(0)`
        payloadVersion :=
          if 0 ≤ row.payloadVersion ∧ row.payloadVersion < 2 ^ 32 then
            UInt32.ofNat row.payloadVersion.toNat
          else 0
        expectedTarget := row.expectedTarget
        expectedPredecessor := row.expectedPredecessor
        observedResult := row.observedResult
        status := row.status }

def loadEffectOptional (intents : EffectTable) (key : String) :
    Except Error (Option EffectIntent) :=
  match intents.find? (EffectRow.isKey key) with
  | none => .ok none
  | some row => (mapEffectRow row).map some

def loadEffect (intents : EffectTable) (key : String) : Except Error EffectIntent :=
  match intents.find? (EffectRow.isKey key) with
  | none => .error .queryReturnedNoRows
  | some row => mapEffectRow row

def i64ToBeBytes (n : Int64) : List UInt8 := Framing.beBytes 8 n.toBitVec.toNat

def computeEffectKey (sha : Sha256Hex) (operationId : String) (attemptId sequence : Int64)
    (effectKind : String) : String :=
  sha (pushLenPrefixed (asBytes operationId)
    ++ pushLenPrefixed (i64ToBeBytes attemptId)
    ++ pushLenPrefixed (i64ToBeBytes sequence)
    ++ pushLenPrefixed (asBytes effectKind))

/-- `canonicalize_payload`: the bytes as supplied, whatever the kind. -/
def canonicalizePayload (_kind : EffectKind) (payload : List UInt8) : List UInt8 := payload

/-- Values required to prepare an intent. -/
structure EffectPreparation where
  operationId : String
  attemptId : Int64
  sequence : Int64
  kind : EffectKind
  payload : List UInt8
  expectedTarget : Option String
  expectedPredecessor : Option String

/-! ### Statements -/

/-- `finalize_effect`: the status and the observation the caller gives, on a prepared row. -/
def finalizeEffect (key status : String) (observedResult : Option String)
    (intents : EffectTable) : Except Error Unit × EffectTable :=
  let selected (row : EffectRow) : Bool := row.isKey key && row.isPrepared
  let affected := intents.count selected
  let intents' := intents.update selected
    (fun row => { row with status := status, observedResult := observedResult }) (fun _ _ h => h)
  if affected ≠ 1 then
    (.error (.sqliteFailure
      s!"finalize_effect guard failed for {key} -> {status} (affected {affected})"), intents')
  else (.ok (), intents')

/-- `finalize_effect(…)?`, and then an answer. -/
def finalizeEffectThen {α : Type} (answer : Except Error α) (key status : String)
    (observedResult : Option String) (intents : EffectTable) : Except Error α × EffectTable :=
  match finalizeEffect key status observedResult intents with
  | (.error e, intents') => (.error e, intents')
  | (.ok (), intents') => (answer, intents')

/-- The row that `insert_prepared_intent` inserts. -/
def preparedRow (key : String) (preparation : EffectPreparation) (canonical : List UInt8)
    (digest : String) : EffectRow where
  effectKey := key
  operationId := preparation.operationId
  attemptId := preparation.attemptId
  sequence := preparation.sequence
  effectKind := preparation.kind.asStr
  canonicalPayload := canonical
  payloadDigest := digest
  payloadVersion := payloadVersion.toNat
  expectedTarget := preparation.expectedTarget
  expectedPredecessor := preparation.expectedPredecessor
  observedResult := none
  status := "prepared"

/-- `prepare_effect`: the row of the key, when it is bound as asked; a row that is bound
otherwise becomes a conflict, and that is an error. -/
def prepareEffect (sha : Sha256Hex) (preparation : EffectPreparation) (intents : EffectTable) :
    Except Error EffectIntent × EffectTable :=
  let canonical := canonicalizePayload preparation.kind preparation.payload
  let digest := sha canonical
  let key := computeEffectKey sha preparation.operationId preparation.attemptId
    preparation.sequence preparation.kind.asStr
  match loadEffectOptional intents key with
  | .error e => (.error e, intents)
  | .ok none =>
    match intents.insert (preparedRow key preparation canonical digest) with
    | none => (.error .constraintViolation, intents)
    | some intents' =>
      let notFound : Error :=
        .sqliteFailure s!"prepared effect intent {key} not found after insert"
      ((loadEffectOptional intents' key).bind (okOr notFound), intents')
  | .ok (some existing) =>
    if existing.payloadDigest ≠ digest
        ∨ existing.expectedTarget ≠ preparation.expectedTarget
        ∨ existing.expectedPredecessor ≠ preparation.expectedPredecessor then
      finalizeEffectThen
        (.error (.sqliteFailure s!"binding conflict for effect intent {key}"))
        key "conflict" none intents
    else (.ok existing, intents)

/-! ### Reconciliation -/

/-- What `reconcile_commit` and `reconcile_push` share: the observed sha against the target,
then against the predecessor.  An absent sha equals an absent one. -/
def reconcileSha (observedSha : Option String) (detail : String) (intent : EffectIntent)
    (intents : EffectTable) : Except Error ReconcileVerdict × EffectTable :=
  if observedSha = intent.expectedTarget then
    finalizeEffectThen (.ok (.completed observedSha)) intent.effectKey "completed" observedSha
      intents
  else if observedSha = intent.expectedPredecessor then (.ok .needsReissue, intents)
  else
    finalizeEffectThen (.ok (.conflict detail)) intent.effectKey "conflict" none intents

def reconcileCommit (intent : EffectIntent) (observed : ObservedState) (intents : EffectTable) :
    Except Error ReconcileVerdict × EffectTable :=
  reconcileSha observed.headSha "unexpected HEAD" intent intents

def reconcilePush (intent : EffectIntent) (observed : ObservedState) (intents : EffectTable) :
    Except Error ReconcileVerdict × EffectTable :=
  reconcileSha observed.remoteRefSha "remote ref diverged" intent intents

def reconcileOpenPr (intent : EffectIntent) (observed : ObservedState) (intents : EffectTable) :
    Except Error ReconcileVerdict × EffectTable :=
  match observed.matchingPrNumber with
  | some prNumber =>
    let result := toString prNumber.toNat
    finalizeEffectThen (.ok (.completed (some result))) intent.effectKey "completed"
      (some result) intents
  | none => (.ok .needsReissue, intents)

/-- `reconcile_merge`: the artifact of the operation's run is the observation. -/
def reconcileMerge (operations : OperationTable) (artifacts : ArtifactTable)
    (intent : EffectIntent) (intents : EffectTable) :
    Except Error ReconcileVerdict × EffectTable :=
  match operations.find? (RecoveryOperation.isOperation intent.operationId) with
  | none => (.ok .needsReissue, intents)
  | some operation =>
    match loadMergeArtifact artifacts operation.runId with
    | some artifact =>
      finalizeEffectThen (.ok (.completed (some artifact.resultSha))) intent.effectKey
        "completed" (some artifact.resultSha) intents
    | none => (.ok .needsReissue, intents)

def reconcileEffect (operations : OperationTable) (artifacts : ArtifactTable) (key : String)
    (observed : ObservedState) (intents : EffectTable) :
    Except Error ReconcileVerdict × EffectTable :=
  match loadEffect intents key with
  | .error e => (.error e, intents)
  | .ok intent =>
    match intent.status with
    | "completed" => (.ok (.completed intent.observedResult), intents)
    | "conflict" => (.ok (.conflict "prior conflict"), intents)
    | "prepared" =>
      match intent.effectKind with
      | .commit => reconcileCommit intent observed intents
      | .push => reconcilePush intent observed intents
      | .openPr => reconcileOpenPr intent observed intents
      | .merge => reconcileMerge operations artifacts intent intents
    | other =>
      (.error (.fromSqlConversionFailure 11 "Text" s!"unknown effect intent status '{other}'"),
        intents)

/-! ### Any sequence of calls -/

/-- The intents, and the tables that reconciling a merge reads. -/
structure EffectDb where
  intents : EffectTable
  operations : OperationTable
  artifacts : ArtifactTable

inductive EffectCall where
  | prepare (preparation : EffectPreparation)
  | reconcile (key : String) (observed : ObservedState)
  | finalize (key status : String) (observedResult : Option String)
  /-- Other components write the tables that are theirs. -/
  | others (operations : OperationTable) (artifacts : ArtifactTable)

inductive EffectAnswer where
  | prepared (answer : Except Error EffectIntent)
  | reconciled (answer : Except Error ReconcileVerdict)
  | finalized (answer : Except Error Unit)
  | nothing
  deriving DecidableEq

def effectStep (sha : Sha256Hex) (db : EffectDb) : EffectCall → EffectAnswer × EffectDb
  | .prepare preparation =>
    let (answer, intents) := prepareEffect sha preparation db.intents
    (.prepared answer, { db with intents := intents })
  | .reconcile key observed =>
    let (answer, intents) :=
      reconcileEffect db.operations db.artifacts key observed db.intents
    (.reconciled answer, { db with intents := intents })
  | .finalize key status observedResult =>
    let (answer, intents) := finalizeEffect key status observedResult db.intents
    (.finalized answer, { db with intents := intents })
  | .others operations artifacts =>
    (.nothing, { db with operations := operations, artifacts := artifacts })

/-- Calls on one database, starting without intents. -/
def effectMachine (sha : Sha256Hex) : StateMachine EffectDb EffectCall EffectAnswer where
  start db := db.intents.rows = []
  step := effectStep sha

end Luther

/-
What the recovery tables' identifiers are digests of.

An operation, a logical request and an effect are each named by the digest of one
buffer: the fields they are bound to, every field behind its length.  A field that is
a text is as long as the program can hold one, so the length always fits.
-/

namespace Luther

/-- A `&str`: its length is a `usize`. -/
structure Str where
  text : String
  fits : text.utf8ByteSize < 2 ^ 64
  deriving DecidableEq

namespace Str

/-- `str::as_bytes`. -/
def bytes (s : Str) : List UInt8 := asBytes s.text

theorem length_bytes (s : Str) : s.bytes.length < 256 ^ 8 := by
  have h := s.fits
  rw [bytes, length_asBytes]
  omega

@[simp] theorem bytes_inj {s t : Str} : s.bytes = t.bytes ↔ s = t := by
  constructor
  · intro h
    obtain ⟨text, fits⟩ := s
    obtain rfl : text = t.text := asBytes_inj h
    rfl
  · intro h
    rw [h]

end Str

/-- `i64::to_be_bytes` of the source attempt, and eight zeros when there is none. -/
def sourceAttemptBytes (sourceAttemptId : Option Int64) : List UInt8 :=
  match sourceAttemptId with
  | some id => i64ToBeBytes id
  | none => List.replicate 8 0

/-- What `compute_operation_id` is given. -/
structure OperationBinding where
  runId : Str
  stepId : Str
  capsuleEnvelopeDigest : Str
  sourceAttemptId : Option Int64
  normalizedIntent : Str
  deriving DecidableEq

namespace OperationBinding

def fields (binding : OperationBinding) : List (List UInt8) :=
  [binding.runId.bytes, binding.stepId.bytes, binding.capsuleEnvelopeDigest.bytes,
    sourceAttemptBytes binding.sourceAttemptId, binding.normalizedIntent.bytes]

/-- The bytes `compute_operation_id` hashes. -/
def preimage (binding : OperationBinding) : List UInt8 := Framing.buffer 8 binding.fields

end OperationBinding

/-- What `compute_logical_request_key` is given. -/
structure RequestBinding where
  runId : Str
  sourceAttemptId : Option Int64
  normalizedIntent : Str

namespace RequestBinding

def fields (binding : RequestBinding) : List (List UInt8) :=
  [binding.runId.bytes, sourceAttemptBytes binding.sourceAttemptId,
    binding.normalizedIntent.bytes]

/-- The bytes `compute_logical_request_key` hashes. -/
def preimage (binding : RequestBinding) : List UInt8 := Framing.buffer 8 binding.fields

end RequestBinding

/-- What `compute_effect_key` is given. -/
structure EffectBinding where
  operationId : Str
  attemptId : Int64
  sequence : Int64
  effectKind : Str

namespace EffectBinding

def fields (binding : EffectBinding) : List (List UInt8) :=
  [binding.operationId.bytes, i64ToBeBytes binding.attemptId, i64ToBeBytes binding.sequence,
    binding.effectKind.bytes]

/-- The bytes `compute_effect_key` hashes. -/
def preimage (binding : EffectBinding) : List UInt8 := Framing.buffer 8 binding.fields

end EffectBinding

/-! ### The identifiers are digests of the preimages -/

/-- An attempt id as the unsigned number whose bytes it has. -/
def unsignedAttempt (id : Int64) : Nat := id.toBitVec.toNat

theorem sourceBytes_unsigned (sourceAttemptId : Option Int64) :
    sourceBytes (sourceAttemptId.map unsignedAttempt) = sourceAttemptBytes sourceAttemptId := by
  cases sourceAttemptId with
  | none => rfl
  | some id => rfl

theorem computeOperationId_eq (sha : Sha256Hex) (binding : OperationBinding) :
    computeOperationId sha binding.runId.text binding.stepId.text
        binding.capsuleEnvelopeDigest.text (binding.sourceAttemptId.map unsignedAttempt)
        binding.normalizedIntent.text
      = sha binding.preimage := by
  simp [computeOperationId, OperationBinding.preimage, OperationBinding.fields, Str.bytes,
    pushLenPrefixed, sourceBytes_unsigned]

theorem computeLogicalRequestKey_eq (sha : Sha256Hex) (binding : RequestBinding) :
    computeLogicalRequestKey sha binding.runId.text
        (binding.sourceAttemptId.map unsignedAttempt) binding.normalizedIntent.text
      = sha binding.preimage := by
  simp [computeLogicalRequestKey, RequestBinding.preimage, RequestBinding.fields, Str.bytes,
    pushLenPrefixed, sourceBytes_unsigned]

theorem computeEffectKey_eq (sha : Sha256Hex) (binding : EffectBinding) :
    computeEffectKey sha binding.operationId.text binding.attemptId binding.sequence
        binding.effectKind.text
      = sha binding.preimage := by
  simp [computeEffectKey, EffectBinding.preimage, EffectBinding.fields, Str.bytes,
    pushLenPrefixed]

end Luther
