/-
What each phase of a recovery does, and what holds of the system at any time.

Prepare is read off once: what a prepared recovery is bound to.  Reserve has four
outcomes, and `ReserveEffect` says for each what it answered, what it wrote and what
it found that led there.  Finalize has one way to succeed.  The invariant of the
system then needs nothing of the phases but that.
-/
import Luther.Proofs.Capsule
import Luther.Proofs.RecoveryTables

namespace Luther

open Sql

/-! ### Keys -/

/-- A request key and an intent digest that come from one verb, for a run and a source. -/
structure RequestKeyed (sha : Sha256Hex) (runId : String) (sourceAttemptId : Option Nat)
    (logicalRequestKey intentDigest : String) : Prop where
  verb : ∃ verb, logicalRequestKey
      = computeLogicalRequestKey sha runId sourceAttemptId (normalizeOperatorVerb verb)
    ∧ intentDigest = computeIntentDigest sha (normalizeOperatorVerb verb)
  runIdFits : runId.utf8ByteSize < 2 ^ 63
  sourcePos : ∀ id, sourceAttemptId = some id → 0 < id
  sourceFits : ∀ id, sourceAttemptId = some id → id < 2 ^ 63

theorem length_sourceBytes (source : Option Nat) : (sourceBytes source).length = 8 := by
  cases source with
  | none => rfl
  | some id => exact Framing.length_beBytes 8 id

theorem sourceBytes_inj {a b : Option Nat} (ha : ∀ id, a = some id → 0 < id ∧ id < 2 ^ 63)
    (hb : ∀ id, b = some id → 0 < id ∧ id < 2 ^ 63) (h : sourceBytes a = sourceBytes b) :
    a = b := by
  have hzero : ∀ id, 0 < id → id < 2 ^ 63 → Framing.beBytes 8 id ≠ List.replicate 8 0 := by
    intro id hpos hlt hbytes
    have hid : id = 0 := @Framing.beBytes_inj 8 _ _ (by omega) (by omega) hbytes
    omega
  cases a with
  | none =>
    cases b with
    | none => rfl
    | some n => exact absurd h.symm (hzero n (hb n rfl).1 (hb n rfl).2)
  | some m =>
    cases b with
    | none => exact absurd h (hzero m (ha m rfl).1 (ha m rfl).2)
    | some n =>
      have hm := (ha m rfl).2
      have hn := (hb n rfl).2
      rw [@Framing.beBytes_inj 8 _ _ (by omega) (by omega) h]

theorem normalizeOperatorVerb_length (verb : OperatorVerb) :
    (asBytes (normalizeOperatorVerb verb)).length < 2 ^ 63 := by
  cases verb <;> decide

variable {sha : Sha256Hex} {attempts : AttemptTable} {request : RecoveryRequest}

/-- **A logical request key tells the run, the source attempt and the intent.** -/
theorem RequestKeyed.inj (hsha : Function.Injective sha) {runId runId' : String}
    {source source' : Option Nat} {key digest digest' : String}
    (h : RequestKeyed sha runId source key digest)
    (h' : RequestKeyed sha runId' source' key digest') :
    runId = runId' ∧ source = source' ∧ digest = digest' := by
  obtain ⟨v, hkey, hdigest⟩ := h.verb
  obtain ⟨w, hkey', hdigest'⟩ := h'.verb
  have hwidth : (2 : Nat) ^ 63 < 256 ^ 8 := by decide
  have fits : ∀ s : String, s.utf8ByteSize < 2 ^ 63 → (asBytes s).length < 256 ^ 8 := by
    intro s hs
    rw [length_asBytes]
    omega
  have hbuf := hsha (hkey.symm.trans hkey')
  rw [List.append_assoc, List.append_assoc] at hbuf
  obtain ⟨hrun, hrest⟩ := Framing.lenPrefixed_append_inj (fits runId h.runIdFits)
    (fits runId' h'.runIdFits) hbuf
  obtain ⟨hsource, hintent⟩ := Framing.lenPrefixed_append_inj
    (by rw [length_sourceBytes]; decide) (by rw [length_sourceBytes]; decide) hrest
  have hverb := Framing.lenPrefixed_inj
    (lt_trans (normalizeOperatorVerb_length v) hwidth)
    (lt_trans (normalizeOperatorVerb_length w) hwidth) hintent
  refine ⟨asBytes_inj hrun, sourceBytes_inj ?_ ?_ hsource, ?_⟩
  · exact fun id hid => ⟨h.sourcePos id hid, h.sourceFits id hid⟩
  · exact fun id hid => ⟨h'.sourcePos id hid, h'.sourceFits id hid⟩
  · rw [hdigest, hdigest', asBytes_inj hverb]

/-! ### Prepare -/

theorem mapPersist_ok {α : Type} {context : String} {x : Except Error α} {a : α} :
    mapPersist context x = .ok a ↔ x = .ok a := mapError_ok

/-- What a prepared recovery is bound to. -/
structure Prepares (sha : Sha256Hex)
    (decodeWorkflow : List UInt8 → Except String WorkflowType) (workspace : Workspace)
    (request : RecoveryRequest) (world : AuthorityTables) (attempts : AttemptTable)
    (prepared : PreparedRecovery) : Prop where
  capsule : loadCapsuleV1 sha world.capsules request.runId = .ok prepared.authority.capsule
  stepDef : ∃ stepDef, stepDefFor decodeWorkflow prepared.authority.capsule request.stepId
      = .ok stepDef
    ∧ prepared.authority.strategy = selectStrategy (policyForStep stepDef request.stepId)
  anchored : anchorWorkspaceOwnership workspace request.runId prepared.authority.strategy
    = .ok (prepared.verifiedWorkspace, prepared.authority.workspaceAuthorization)
  runId : prepared.runId = request.runId
  stepId : prepared.stepId = request.stepId
  expectedEpoch : prepared.expectedEpoch = request.expectedEpoch
  source : prepared.sourceAttemptId
    = (latestForStep attempts request.runId request.stepId).map AttemptRow.attemptId
  key : prepared.logicalRequestKey = computeLogicalRequestKey sha prepared.runId
    prepared.sourceAttemptId (normalizeOperatorVerb request.operatorVerb)
  intent : prepared.intentDigest
    = computeIntentDigest sha (normalizeOperatorVerb request.operatorVerb)

variable {decodeWorkflow : List UInt8 → Except String WorkflowType}

variable {prepared : PreparedRecovery} {world : AuthorityTables} {workspace : Workspace}

theorem prepare_ok
    (h : prepare sha decodeWorkflow workspace request world attempts = .ok prepared) :
    Prepares sha decodeWorkflow workspace request world attempts prepared := by
  unfold prepare at h
  obtain ⟨capsule, hload, h⟩ := bind_ok.mp h
  obtain ⟨_, -, h⟩ := bind_ok.mp h
  obtain ⟨stepDef, hstep, h⟩ := bind_ok.mp h
  dsimp only at h
  obtain ⟨⟨verified, authorization⟩, hanchor, h⟩ := bind_ok.mp h
  obtain ⟨metadata, -, h⟩ := bind_ok.mp h
  have hcapsule := mapPersist_ok.mp hload
  have hrun := (loadCapsuleV1_ok hcapsule).1
  obtain rfl := Except.ok.inj h
  exact
    { capsule := hcapsule
      stepDef := ⟨stepDef, mapError_ok.mp hstep, rfl⟩
      anchored := hanchor
      runId := hrun
      stepId := rfl
      expectedEpoch := rfl
      source := rfl
      key := by
        show _ = computeLogicalRequestKey sha capsule.runId _ _
        rw [hrun]
        rfl
      intent := rfl }

theorem prepare_of_parts
    (attempts : AttemptTable)
    {capsule : ExecutionCapsuleV1} {stepDef : StepDef}
    {anchor : Option WorkspaceAuthorization × Option WorkspaceAuthorization}
    {metadata : RunMetadata}
    (hcapsule : loadCapsuleV1 sha world.capsules request.runId = .ok capsule)
    (hdef : stepDefFor decodeWorkflow capsule request.stepId = .ok stepDef)
    (hanchor : anchorWorkspaceOwnership workspace request.runId
      (selectStrategy (policyForStep stepDef request.stepId)) = .ok anchor)
    (hrun : getRun world.runs request.runId = some metadata) :
    ∃ prepared, prepare sha decodeWorkflow workspace request world attempts = .ok prepared := by
  unfold prepare
  rw [mapPersist_ok.mpr hcapsule]
  show ∃ prepared, ((verifyEnvelopeDigest sha capsule).mapError _ >>= _) = .ok prepared
  rw [(loadCapsuleV1_ok hcapsule).2]
  show ∃ prepared, ((stepDefFor decodeWorkflow capsule request.stepId).mapError _ >>= _)
    = .ok prepared
  rw [hdef]
  show ∃ prepared, (anchorWorkspaceOwnership workspace request.runId
    (selectStrategy (policyForStep stepDef request.stepId)) >>= _) = .ok prepared
  rw [hanchor, hrun]
  exact ⟨_, rfl⟩

section

variable (h : Prepares sha decodeWorkflow workspace request world attempts prepared)

include h

theorem Prepares.source_mem {id : Nat}
    (hid : prepared.sourceAttemptId = some id) : 0 < id ∧ id ≤ attempts.lastId := by
  rw [h.source] at hid
  obtain ⟨row, hlatest, rfl⟩ := Option.map_eq_some_iff.mp hid
  obtain ⟨hmem, -, -⟩ := latestForStep_some hlatest
  exact ⟨attempts.positive row hmem, attempts.bounded row hmem⟩

theorem Prepares.keyed :
    RequestKeyed sha prepared.runId prepared.sourceAttemptId prepared.logicalRequestKey
      prepared.intentDigest where
  verb := ⟨request.operatorVerb, h.key, h.intent⟩
  runIdFits := by
    rw [h.runId]
    exact request.runIdFits
  sourcePos id hid := (h.source_mem hid).1
  sourceFits id hid := lt_of_le_of_lt (h.source_mem hid).2 attempts.fits

end

/-! ### Reserve -/

/-- The operation that an answer of reserve names. -/
def namedOperation : Except RecoveryError ReserveOutcome → Option String
  | .ok (.proceed reserved) => some reserved.operationId
  | .ok (.shortCircuit (.alreadyApplied _ _ operationId)) => some operationId
  | .ok (.shortCircuit (.recovered _ _ operationId)) => some operationId
  | _ => none

/-- A row that reserve answers with or takes over: same capsule, and either completed, or
pending under a live lease, or pending and every check passes. -/
def Usable (now : Timestamp) (workspace : Workspace) (world : AuthorityTables)
    (prepared : PreparedRecovery) (epochs : EpochTable) (row : RecoveryOperation) : Prop :=
  row.capsuleEnvelopeDigest = prepared.authority.capsule.envelopeDigest
    ∧ (row.status = .completed
      ∨ row.status = .pending
        ∧ (row.leaseExpired now = false ∨ revalidate workspace world epochs prepared = .ok none))

/-- What a reservation can do. -/
inductive ReserveEffect (now : Timestamp) (pid : UInt32) (workspace : Workspace)
    (world : AuthorityTables) (prepared : PreparedRecovery) (db : RecoveryDb) :
    Except RecoveryError ReserveOutcome → RecoveryDb → Prop
  /-- It named no operation and wrote nothing. -/
  | declined {answer : Except RecoveryError ReserveOutcome} (hanswer : namedOperation answer = none)
      (hproceed : ∀ reserved, answer ≠ .ok (.proceed reserved))
      (hlookup : ∀ row, lookupLogicalOperation db.operations prepared.logicalRequestKey = some row →
        Usable now workspace world prepared db.epochs row → row.executionAttemptId = none) :
      ReserveEffect now pid workspace world prepared db answer db
  /-- It answered with the operation of the request, and wrote nothing. -/
  | answered {row : RecoveryOperation} {attemptId : Nat}
      (hlookup : lookupLogicalOperation db.operations prepared.logicalRequestKey = some row)
      (hcapsule : row.capsuleEnvelopeDigest = prepared.authority.capsule.envelopeDigest)
      (hstatus : row.status = .completed ∨ row.status = .pending ∧ row.leaseExpired now = false)
      (hattempt : row.executionAttemptId = some attemptId) :
      ReserveEffect now pid workspace world prepared db
        (.ok (.shortCircuit (.alreadyApplied row.outcomeText attemptId row.operationId))) db
  /-- It took over the operation of the request, whose lease had expired. -/
  | adopted {row : RecoveryOperation} {attemptId : Nat}
      (hlookup : lookupLogicalOperation db.operations prepared.logicalRequestKey = some row)
      (hcapsule : row.capsuleEnvelopeDigest = prepared.authority.capsule.envelopeDigest)
      (hpending : row.status = .pending) (hexpired : row.leaseExpired now = true)
      (hattempt : row.executionAttemptId = some attemptId)
      (hvalid : revalidate workspace world db.epochs prepared = .ok none) :
      ReserveEffect now pid workspace world prepared db
        (.ok (.proceed
          { operationId := row.operationId, attemptId := attemptId, epoch := row.epoch }))
        { db with operations :=
          (tryAdoptPending row.operationId pid (now + recoveryLease) now db.operations).2 }
  /-- It made a new operation and a new attempt, and moved the epoch. -/
  | fresh {f t : Nat} {epochs : EpochTable} {operations : OperationTable}
      (hlookup : lookupLogicalOperation db.operations prepared.logicalRequestKey = none)
      (hvalid : revalidate workspace world db.epochs prepared = .ok none)
      (hcas : casAdvanceEpoch prepared.runId prepared.expectedEpoch db.epochs
        = .ok (.advanced f t, epochs))
      {attempts : AttemptTable}
      (hattempt : allocateAttempt now prepared t db.attempts
        = .ok (db.attempts.lastId + 1, attempts))
      (hinsert : db.operations.insert
        ((pendingInsert now pid prepared t (db.attempts.lastId + 1)).row now) = some operations) :
      ReserveEffect now pid workspace world prepared db
        (.ok (.proceed
          { operationId := prepared.operationId, attemptId := db.attempts.lastId + 1,
            epoch := t }))
        { epochs := epochs, operations := operations, attempts := attempts }

theorem allocateAttempt_ok {now : Timestamp} {newEpoch id : Nat} {attempts' : AttemptTable}
    (h : allocateAttempt now prepared newEpoch attempts = .ok (id, attempts')) :
    id = attempts.lastId + 1 ∧ attempts'.lastId = attempts.lastId + 1
      ∧ ∀ a, a ∈ attempts'.table ↔ a ∈ attempts.table
        ∨ a = (attemptStart prepared newEpoch).row now (attempts.lastId + 1) :=
  recordAttemptStart_ok (mapPersist_ok.mp h)

theorem insertPendingOperation_ok {now : Timestamp} {pid : UInt32}
    {newEpoch attemptId : Nat} {operations operations' : OperationTable}
    (h : insertPendingOperation now pid prepared newEpoch attemptId operations = .ok operations') :
    operations.insert ((pendingInsert now pid prepared newEpoch attemptId).row now)
      = some operations' := by
  have hinsert := mapPersist_ok.mp h
  unfold insertPending at hinsert
  split at hinsert
  · rename_i hrow
    rw [hrow, Except.ok.inj hinsert]
  · simp at hinsert

theorem revalidate_some {epochs : EpochTable} {outcome : RecoveryOutcome}
    (h : revalidate workspace world epochs prepared = .ok (some outcome)) :
    namedOperation (.ok (.shortCircuit outcome)) = none := by
  unfold revalidate at h
  obtain ⟨epoch, hepoch, h⟩ := bind_ok.mp h
  cases epoch with
  | some stale =>
    obtain ⟨persisted, -, hstale⟩ := bind_ok.mp hepoch
    simp only [Except.ok.injEq, Option.some.injEq] at h
    split at hstale
    · simp only [Except.ok.injEq, Option.some.injEq] at hstale
      rw [← h, ← hstale]
      rfl
    · simp at hstale
  | none =>
    obtain ⟨_, -, h⟩ := bind_ok.mp h
    obtain ⟨_, -, h⟩ := bind_ok.mp h
    unfold checkStrategyRefusal at h
    split at h
    · simp only [Except.ok.injEq, Option.some.injEq] at h
      rw [← h]
      rfl
    · simp at h

theorem revalidate_none {epochs : EpochTable}
    (h : revalidate workspace world epochs prepared = .ok none) :
    readEpoch epochs prepared.runId = .ok prepared.expectedEpoch := by
  unfold revalidate at h
  obtain ⟨epoch, hepoch, h⟩ := bind_ok.mp h
  cases epoch with
  | some stale => simp at h
  | none =>
    obtain ⟨persisted, hread, hstale⟩ := bind_ok.mp hepoch
    split at hstale
    · simp at hstale
    · rename_i heq
      push Not at heq
      rw [← heq]
      exact mapPersist_ok.mp hread


section ReserveEffect

variable {now : Timestamp} {pid : UInt32} {workspace : Workspace} {world : AuthorityTables}
  {prepared : PreparedRecovery} {db : RecoveryDb}

theorem reserve_ok {outcome : ReserveOutcome} {db' : RecoveryDb}
    (h : reserveTx now pid workspace world prepared db = .ok (outcome, db')) :
    reserve now pid workspace world prepared db = (.ok outcome, db') :=
  atomically_ok.mpr h

theorem reserve_error {e : RecoveryError}
    (h : reserveTx now pid workspace world prepared db = .error e) :
    reserve now pid workspace world prepared db = (.error e, db) := by
  unfold reserve atomically
  rw [h]

/-- No operation that the request finds can be used. -/
def NoneUsable (now : Timestamp) (workspace : Workspace) (world : AuthorityTables)
    (prepared : PreparedRecovery) (db : RecoveryDb) : Prop :=
  ∀ row, lookupLogicalOperation db.operations prepared.logicalRequestKey = some row →
    Usable now workspace world prepared db.epochs row → row.executionAttemptId = none

/-- What reserve does and answers here is one of its effects. -/
def Reserves (now : Timestamp) (pid : UInt32) (workspace : Workspace) (world : AuthorityTables)
    (prepared : PreparedRecovery) (db : RecoveryDb) : Prop :=
  ReserveEffect now pid workspace world prepared db
    (reserve now pid workspace world prepared db).1
    (reserve now pid workspace world prepared db).2

theorem Reserves.of_error (e : RecoveryError)
    (h : reserveTx now pid workspace world prepared db = .error e)
    (hlookup : NoneUsable now workspace world prepared db) :
    Reserves now pid workspace world prepared db := by
  rw [Reserves, reserve_error h]
  exact .declined rfl (fun _ => by simp) hlookup

theorem Reserves.of_outcome (outcome : RecoveryOutcome)
    (h : reserveTx now pid workspace world prepared db = .ok (.shortCircuit outcome, db))
    (hanswer : namedOperation (.ok (.shortCircuit outcome)) = none)
    (hlookup : NoneUsable now workspace world prepared db) :
    Reserves now pid workspace world prepared db := by
  rw [Reserves, reserve_ok h]
  exact .declined hanswer (fun _ => by simp) hlookup

theorem reserveTx_of_resolved (workspace : Workspace) (world : AuthorityTables)
    {existing : ExistingResolution} {operations : OperationTable}
    (h : resolveExistingOperation now pid prepared db.operations = .ok (existing, operations)) :
    reserveTx now pid workspace world prepared db
      = reserveResolved now pid workspace world prepared db existing operations := by
  unfold reserveTx
  rw [h]
  rfl

theorem reserve_effect_fresh
    (hlookup : lookupLogicalOperation db.operations prepared.logicalRequestKey = none) :
    Reserves now pid workspace world prepared db := by
  have hnone : NoneUsable now workspace world prepared db := by
    intro row hrow
    rw [hlookup] at hrow
    simp at hrow
  have htx : reserveTx now pid workspace world prepared db
      = reserveResolved now pid workspace world prepared db .notFound db.operations := by
    refine reserveTx_of_resolved workspace world ?_
    simp only [resolveExistingOperation, hlookup]
  cases hvalid : revalidate workspace world db.epochs prepared with
  | error e =>
    refine .of_error e ?_ hnone
    simp only [htx, reserveResolved, hvalid]
    rfl
  | ok check =>
    cases check with
    | some outcome =>
      refine .of_outcome outcome ?_ (revalidate_some hvalid) hnone
      simp only [htx, reserveResolved, hvalid]
      rfl
    | none =>
      have hfresh : reserveTx now pid workspace world prepared db
          = reserveFresh now pid prepared db := by
        simp only [htx, reserveResolved, hvalid]
        rfl
      unfold reserveFresh at hfresh
      cases hcas : casAdvanceEpoch prepared.runId prepared.expectedEpoch db.epochs with
      | error e =>
        simp only [hcas, mapPersist, Except.mapError, bind, Except.bind] at hfresh
        exact .of_error _ hfresh hnone
      | ok cas =>
        obtain ⟨outcome, epochs⟩ := cas
        simp only [hcas, mapPersist, Except.mapError, bind, Except.bind] at hfresh
        cases outcome with
        | stale persisted expected => exact .of_outcome _ hfresh rfl hnone
        | advanced f t =>
          dsimp only at hfresh
          cases hattempt : allocateAttempt now prepared t db.attempts with
          | error e =>
            simp only [hattempt] at hfresh
            exact .of_error _ hfresh hnone
          | ok allocated =>
            obtain ⟨attemptId, attempts⟩ := allocated
            simp only [hattempt] at hfresh
            obtain rfl := (allocateAttempt_ok hattempt).1
            cases hinsert : insertPendingOperation now pid prepared t
                (db.attempts.lastId + 1) db.operations with
            | error e =>
              simp only [hinsert] at hfresh
              exact .of_error _ hfresh hnone
            | ok operations =>
              simp only [hinsert] at hfresh
              rw [Reserves, reserve_ok hfresh]
              exact .fresh hlookup hvalid hcas hattempt
                (insertPendingOperation_ok hinsert)

variable {row : RecoveryOperation}

theorem resolveExistingOperation_conflict (now : Timestamp) (pid : UInt32)
    (hlookup : lookupLogicalOperation db.operations prepared.logicalRequestKey = some row)
    (hcapsule : row.capsuleEnvelopeDigest ≠ prepared.authority.capsule.envelopeDigest) :
    resolveExistingOperation now pid prepared db.operations
      = .ok (.shortCircuit (.refused .conflictingOperation), db.operations) := by
  simp only [resolveExistingOperation, hlookup]
  cases row.status with
  | completed =>
    simp only [resolveCompleted, ne_eq, hcapsule, not_false_eq_true, if_true]
    rfl
  | refused | conflict =>
    simp only [resolveRefusedOrConflict, ne_eq, hcapsule, not_false_eq_true, if_true]
  | pending => simp only [resolvePending, ne_eq, hcapsule, not_false_eq_true, if_true]

theorem resolveRefusedOrConflict_named (prepared : PreparedRecovery) (row : RecoveryOperation) :
    ∃ outcome, resolveRefusedOrConflict prepared row = .shortCircuit outcome
      ∧ namedOperation (.ok (.shortCircuit outcome)) = none := by
  unfold resolveRefusedOrConflict
  split
  · exact ⟨_, rfl, rfl⟩
  · split <;> exact ⟨_, rfl, rfl⟩

section

variable (hlookup : lookupLogicalOperation db.operations prepared.logicalRequestKey = some row)

include hlookup

theorem Reserves.of_settled (hstatus : row.status = .refused ∨ row.status = .conflict)
    (hunusable : NoneUsable now workspace world prepared db) :
    Reserves now pid workspace world prepared db := by
  obtain ⟨outcome, hresolve, hnamed⟩ := resolveRefusedOrConflict_named prepared row
  have hresolved : resolveExistingOperation now pid prepared db.operations
      = .ok (.shortCircuit outcome, db.operations) := by
    rcases hstatus with hstatus | hstatus
    all_goals simp only [resolveExistingOperation, hlookup, hstatus, hresolve]
  exact .of_outcome outcome (reserveTx_of_resolved workspace world hresolved) hnamed hunusable

omit hlookup in
theorem resolvePending_eq {attemptId : Nat}
    (hcapsule : row.capsuleEnvelopeDigest = prepared.authority.capsule.envelopeDigest)
    (hattempt : row.executionAttemptId = some attemptId) (operations : OperationTable) :
    resolvePending now pid prepared row operations = .ok
      (if (tryAdoptPending row.operationId pid (now + recoveryLease) now operations).1 = .adopted
        then .adoptedPending
          { operationId := row.operationId, attemptId := attemptId, epoch := row.epoch }
        else .shortCircuit (.alreadyApplied row.outcomeText attemptId row.operationId),
        (tryAdoptPending row.operationId pid (now + recoveryLease) now operations).2) := by
  unfold resolvePending
  rw [if_neg (not_not_intro hcapsule)]
  simp only [resolveAdoptOutcome, hattempt]
  cases (tryAdoptPending row.operationId pid (now + recoveryLease) now operations).1 <;> rfl

theorem reserve_effect_pending {attemptId : Nat}
    (hcapsule : row.capsuleEnvelopeDigest = prepared.authority.capsule.envelopeDigest)
    (hstatus : row.status = .pending) (hattempt : row.executionAttemptId = some attemptId) :
    Reserves now pid workspace world prepared db := by
  obtain ⟨hmem, -⟩ := lookupLogicalOperation_some hlookup
  have hadopt := tryAdoptPending_adopted hmem pid (now + recoveryLease) now
  have hresolve : resolveExistingOperation now pid prepared db.operations
      = resolvePending now pid prepared row db.operations := by
    simp only [resolveExistingOperation, hlookup, hstatus]
  rw [resolvePending_eq hcapsule hattempt] at hresolve
  have htx := reserveTx_of_resolved workspace world hresolve
  by_cases hexpired : row.leaseExpired now = true
  · rw [if_pos (hadopt.mpr ⟨hstatus, hexpired⟩)] at htx
    have hone : revalidate workspace world db.epochs prepared ≠ .ok none →
        NoneUsable now workspace world prepared db := by
      intro hvalid found hfound husable
      rw [hlookup] at hfound
      obtain rfl := Option.some.inj hfound
      rcases husable.2 with hcompleted | ⟨-, hlive | hchecked⟩
      · simp [hstatus] at hcompleted
      · simp [hexpired] at hlive
      · exact absurd hchecked hvalid
    cases hvalid : revalidate workspace world db.epochs prepared with
    | error e =>
      refine .of_error e ?_ (hone (by simp [hvalid]))
      simp only [htx, reserveResolved, hvalid]
      rfl
    | ok check =>
      cases check with
      | some outcome =>
        refine .of_outcome outcome ?_ (revalidate_some hvalid)
          (hone (by simp [hvalid]))
        simp only [htx, reserveResolved, hvalid]
        rfl
      | none =>
        have hproceed : reserveTx now pid workspace world prepared db = .ok
            (.proceed
              { operationId := row.operationId, attemptId := attemptId, epoch := row.epoch },
            { db with operations :=
              (tryAdoptPending row.operationId pid (now + recoveryLease) now
                db.operations).2 }) := by
          simp only [htx, reserveResolved, hvalid]
          rfl
        rw [Reserves, reserve_ok hproceed]
        exact .adopted hlookup hcapsule hstatus hexpired hattempt hvalid
  · have hlive : row.leaseExpired now = false := by simpa using hexpired
    rw [if_neg fun hc => hexpired (hadopt.mp hc).2] at htx
    rw [Reserves, reserve_ok htx]
    exact .answered hlookup hcapsule (Or.inr ⟨hstatus, hlive⟩) hattempt

end

/-- **Reserve did one of four things.** -/
theorem reserve_effect (now : Timestamp) (pid : UInt32) (workspace : Workspace)
    (world : AuthorityTables) (prepared : PreparedRecovery) (db : RecoveryDb) :
    ReserveEffect now pid workspace world prepared db
      (reserve now pid workspace world prepared db).1
      (reserve now pid workspace world prepared db).2 := by
  change Reserves now pid workspace world prepared db
  cases hlookup : lookupLogicalOperation db.operations prepared.logicalRequestKey with
  | none => exact reserve_effect_fresh hlookup
  | some row =>
    -- Declining needs a reason that concerns this row only.
    have honly : (Usable now workspace world prepared db.epochs row →
          row.executionAttemptId = none) → NoneUsable now workspace world prepared db := by
      intro h found hfound husable
      rw [hlookup] at hfound
      obtain rfl := Option.some.inj hfound
      exact h husable
    by_cases hcapsule :
        row.capsuleEnvelopeDigest = prepared.authority.capsule.envelopeDigest
    case neg =>
      have htx := reserveTx_of_resolved workspace world
        (resolveExistingOperation_conflict now pid hlookup hcapsule)
      exact .of_outcome _ htx rfl (honly fun husable => absurd husable.1 hcapsule)
    case pos =>
      cases hattempt : row.executionAttemptId with
      | none =>
        have hunusable := honly fun _ => hattempt
        cases hstatus : row.status with
        | completed | pending =>
          have herror : ∃ e, resolveExistingOperation now pid prepared db.operations
              = .error e := by
            simp only [resolveExistingOperation, hlookup, hstatus, resolveCompleted,
              resolvePending, resolveAdoptOutcome, hcapsule, hattempt, ne_eq,
              not_true_eq_false, if_false]
            exact ⟨_, rfl⟩
          obtain ⟨e, he⟩ := herror
          refine .of_error e ?_ hunusable
          unfold reserveTx
          rw [he]
          rfl
        | refused | conflict => exact .of_settled hlookup (by simp [hstatus]) hunusable
      | some attemptId =>
        cases hstatus : row.status with
        | pending => exact reserve_effect_pending hlookup hcapsule hstatus hattempt
        | completed =>
          have hresolve : resolveExistingOperation now pid prepared db.operations = .ok
              (.shortCircuit (.alreadyApplied row.outcomeText attemptId row.operationId),
                db.operations) := by
            simp only [resolveExistingOperation, hlookup, hstatus, resolveCompleted,
              hcapsule, hattempt, ne_eq, not_true_eq_false, if_false]
            rfl
          have htx := reserveTx_of_resolved workspace world hresolve
          rw [Reserves, reserve_ok htx]
          exact .answered hlookup hcapsule (Or.inl hstatus) hattempt
        | refused | conflict =>
          have hunusable := honly fun husable => by
            rcases husable.2 with hc | ⟨hp, -⟩ <;> simp_all
          exact .of_settled hlookup (by simp [hstatus]) hunusable

end ReserveEffect

end Luther
