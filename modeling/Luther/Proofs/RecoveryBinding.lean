/-
Which operation a request is answered with.

The logical request key leaves the step out, and so does the comparison that follows
it.  Everything else is bound: the run, the source attempt and the intent are in the
key, and the capsule is compared.  So a request is answered with an operation that is
bound as the request is, unless the row under its key was reserved for another step
and is usable.
-/
import Luther.Proofs.RecoveryInvariant

namespace Luther

open Sql

/-- The row carries the bindings of the prepared request. -/
structure BoundTo (row : RecoveryOperation) (p : PreparedRecovery) : Prop where
  runId : row.runId = p.runId
  stepId : row.stepId = p.stepId
  source : row.sourceAttemptId = p.sourceAttemptId
  intent : row.intentDigest = p.intentDigest
  capsule : row.capsuleEnvelopeDigest = p.authority.capsule.envelopeDigest

section Binding

variable (sha : Sha256Hex) (decodeWorkflow : List UInt8 → Except String WorkflowType)

/-- The operation that reserve names, if any, carries the bindings of the request. -/
def BindingIntact (s : RecoverySystem) (c : RecoveryCall) : Prop :=
  ∀ p result operationId,
    (recoveryMachine sha decodeWorkflow).answer s c = .reserved p result →
    namedOperation result = some operationId →
    ∃ row ∈ ((recoveryMachine sha decodeWorkflow).next s c).db.operations,
      row.operationId = operationId ∧ BoundTo row p

/-- No row of another step stands under the request's key and is usable for it. -/
def Uncrossed (s : RecoverySystem) : RecoveryCall → Prop
  | .reserve now _ workspace i =>
    ∀ p, s.prepared[i]? = some p → ∀ row ∈ s.db.operations,
      row.logicalRequestKey = p.logicalRequestKey →
      Usable now workspace s.world p s.db.epochs row → row.stepId = p.stepId
  | _ => True

variable {sha decodeWorkflow}

variable {p : PreparedRecovery} {row : RecoveryOperation}

theorem answer_reserved {s : RecoverySystem} {c : RecoveryCall}
    {result : Except RecoveryError ReserveOutcome}
    (h : (recoveryMachine sha decodeWorkflow).answer s c = .reserved p result) :
    ∃ now pid workspace i, c = .reserve now pid workspace i ∧ s.prepared[i]? = some p
      ∧ result = (reserve now pid workspace s.world p s.db).1 := by
  cases c with
  | others world => cases h
  | prepare workspace request | finalize now i result =>
    simp only [StateMachine.answer, recoveryMachine, recoveryStep] at h
    split at h <;> cases h
  | reserve now pid workspace i =>
    cases hp : s.prepared[i]? with
    | none =>
      simp only [StateMachine.answer, next_reserve_none hp] at h
      cases h
    | some q =>
      rw [(next_reserve hp).1] at h
      injection h with hq hresult
      subst hq
      exact ⟨now, pid, workspace, i, rfl, hp, hresult.symm⟩
  | finalizeRefused now operationId reason | finalizeConflict now operationId detail =>
    simp only [StateMachine.answer, recoveryMachine, recoveryStep, ledgerStep] at h
    split at h <;> cases h

theorem boundTo_of_key (hsha : Function.Injective sha) {s : RecoverySystem}
    (hinv : RecoveryInv sha s) (hp : PreparedInv sha s.db p) (hmem : row ∈ s.db.operations)
    (hkey : row.logicalRequestKey = p.logicalRequestKey)
    (hcapsule : row.capsuleEnvelopeDigest = p.authority.capsule.envelopeDigest)
    (hstep : row.stepId = p.stepId) : BoundTo row p := by
  have hkeyed := hinv.ledger.keyed row hmem
  rw [hkey] at hkeyed
  obtain ⟨hrun, hsource, hintent⟩ := hkeyed.inj hsha hp.keyed
  exact ⟨hrun, hstep, hsource, hintent, hcapsule⟩

theorem BoundTo.of_binding {row' : RecoveryOperation} (h : BoundTo row p)
    (hb : row'.binding = row.binding) : BoundTo row' p := by
  simp only [RecoveryOperation.binding, RecoveryOperation.Binding.mk.injEq] at hb
  obtain ⟨-, hrun, -, hstep, hcapsule, hsource, -, hintent, -⟩ := hb
  exact ⟨hrun.trans h.runId, hstep.trans h.stepId, hsource.trans h.source,
    hintent.trans h.intent, hcapsule.trans h.capsule⟩

theorem ReserveEffect.names_usable {now : Timestamp} {pid : UInt32} {workspace : Workspace}
    {world : AuthorityTables} {db db' : RecoveryDb} {answer : Except RecoveryError ReserveOutcome}
    (h : ReserveEffect now pid workspace world p db answer db') (hmem : row ∈ db.operations)
    (hkey : row.logicalRequestKey = p.logicalRequestKey)
    (husable : Usable now workspace world p db.epochs row) {attemptId : Nat}
    (hexec : row.executionAttemptId = some attemptId) :
    namedOperation answer = some row.operationId := by
  have hfound : lookupLogicalOperation db.operations p.logicalRequestKey = some row :=
    hkey ▸ lookupLogicalOperation_of_mem hmem
  cases h with
  | declined _ _ hlookup =>
    rw [hlookup row hfound husable] at hexec
    simp at hexec
  | answered hlookup | adopted hlookup =>
    rw [Option.some.inj (hfound.symm.trans hlookup)]
    rfl
  | fresh hlookup =>
    rw [hlookup] at hfound
    simp at hfound

/-- **One call binds exactly when nothing crosses it.** -/
theorem bindingIntact_iff (hsha : Function.Injective sha) (s : RecoverySystem) (c : RecoveryCall)
    (hinv : RecoveryInv sha s) : BindingIntact sha decodeWorkflow s c ↔ Uncrossed s c := by
  constructor
  · intro hintact
    cases c with
    | reserve now pid workspace i =>
      intro p hp row hmem hkey husable
      have heffect := reserve_effect now pid workspace s.world p s.db
      obtain ⟨attempt, -, hexec, -⟩ := hinv.ledger.executing row hmem
      have hnamed := heffect.names_usable hmem hkey husable hexec
      obtain ⟨named, hnamedMem, hid, hbound⟩ :=
        hintact p _ row.operationId (next_reserve hp).1 hnamed
      rw [(next_reserve hp).2.1] at hnamedMem
      -- The row that is named is what this row has become.
      obtain ⟨row', hmem', hkept⟩ := heffect.kept.operations row hmem
      have hid' := congrArg RecoveryOperation.Binding.operationId hkept.binding
      have hstep' := congrArg RecoveryOperation.Binding.stepId hkept.binding
      simp only [RecoveryOperation.binding] at hid' hstep'
      obtain rfl := eq_of_operationId hmem' hnamedMem (hid'.trans hid.symm)
      exact hstep'.symm.trans hbound.stepId
    | others | prepare | finalize | finalizeRefused | finalizeConflict => exact trivial
  · intro huncrossed p result operationId hanswer hnamed
    obtain ⟨now, pid, workspace, i, rfl, hp, rfl⟩ := answer_reserved hanswer
    have hpinv := hinv.prepared p (List.mem_of_getElem? hp)
    rw [(next_reserve hp).2.1]
    have hbound : ∀ row, lookupLogicalOperation s.db.operations p.logicalRequestKey = some row →
        Usable now workspace s.world p s.db.epochs row → BoundTo row p := by
      intro row hlookup husable
      obtain ⟨hmem, hkey⟩ := lookupLogicalOperation_some hlookup
      exact boundTo_of_key hsha hinv hpinv hmem hkey husable.1
        (huncrossed p hp row hmem hkey husable)
    have heffect := reserve_effect now pid workspace s.world p s.db
    have hkept := heffect.kept
    generalize (reserve now pid workspace s.world p s.db).1 = answer at heffect hnamed
    generalize (reserve now pid workspace s.world p s.db).2 = db' at heffect hkept ⊢
    cases heffect with
    | declined hdeclined =>
      rw [hdeclined] at hnamed
      simp at hnamed
    | answered hlookup hcapsule hstatus =>
      refine ⟨_, (lookupLogicalOperation_some hlookup).1, Option.some.inj hnamed, ?_⟩
      refine hbound _ hlookup ⟨hcapsule, ?_⟩
      rcases hstatus with hcompleted | ⟨hpending, hlive⟩
      · exact Or.inl hcompleted
      · exact Or.inr ⟨hpending, Or.inl hlive⟩
    | @adopted row attemptId hlookup hcapsule hpending hexpired hattempt hvalid =>
      obtain ⟨row', hmem', hrow'⟩ :=
        hkept.operations row (lookupLogicalOperation_some hlookup).1
      have hid' := congrArg RecoveryOperation.Binding.operationId hrow'.binding
      simp only [RecoveryOperation.binding] at hid'
      refine ⟨row', hmem', hid'.trans (Option.some.inj hnamed), ?_⟩
      exact (hbound row hlookup ⟨hcapsule, Or.inr ⟨hpending, Or.inr hvalid⟩⟩).of_binding
        hrow'.binding
    | fresh _ _ _ _ hinsert =>
      refine ⟨_, (Table.mem_insert hinsert _).mpr (Or.inr rfl), Option.some.inj hnamed, ?_⟩
      exact ⟨rfl, rfl, rfl, rfl, rfl⟩

end Binding

/-! ### Two steps of one run -/

/-- A workflow of two steps that may be run again. -/
def exampleDecode : List UInt8 → Except String WorkflowType := fun _ => .ok
  { workflowTypeId := "wf"
    steps := [{ stepId := "step-a", stepType := "shell", recoveryPolicy := some .idempotent },
      { stepId := "step-b", stepType := "shell", recoveryPolicy := some .idempotent }] }

/-- A failed run with a stored capsule, and nothing else. -/
def exampleWorld (sha : Sha256Hex) : AuthorityTables where
  runs := ⟨[{ runId := "run-1", status := .failed }], List.pairwise_singleton _ _⟩
  checkpoints := Table.empty
  waitStates := Table.empty
  leases := Table.empty
  capsules := exampleCapsules sha

def exampleSystem (sha : Sha256Hex) : RecoverySystem where
  world := exampleWorld sha
  db := { epochs := Table.empty, operations := Table.empty, attempts := AttemptTable.empty }
  prepared := []
  reserved := []

theorem exampleSystem_start (sha : Sha256Hex)
    (decodeWorkflow : List UInt8 → Except String WorkflowType) :
    (recoveryMachine sha decodeWorkflow).start (exampleSystem sha) :=
  ⟨rfl, rfl, rfl, rfl, rfl⟩

def exampleRequest (stepId : String) (verb : OperatorVerb) (epoch : Nat) : RecoveryRequest where
  runId := "run-1"
  stepId := stepId
  expectedEpoch := epoch
  operatorVerb := verb
  runIdFits := by decide

/-- What the request prepares, before any attempt of the step has its outcome. -/
def examplePrepared (sha : Sha256Hex) (stepId : String) (verb : OperatorVerb) (epoch : Nat) :
    PreparedRecovery :=
  let bindings := computeBindings sha (exampleRequest stepId verb epoch) (exampleCapsule sha) none
  { authority :=
      { workspaceAuthorization := none, capsule := exampleCapsule sha, sourceAttempt := none
        policy := .idempotent, strategy := .reenter }
    expectedEpoch := epoch
    stepId := stepId
    operatorVerb := verb
    operationId := bindings.operationId
    logicalRequestKey := bindings.logicalRequestKey
    intentDigest := bindings.intentDigest
    runStatus := .failed
    currentStep := none
    livePid := none
    checkpointIdentity := none
    waitState := none
    lease := none
    verifiedWorkspace := none }

def exampleWorkspace : Workspace := fun _ => .noEvidence

theorem prepare_example (sha : Sha256Hex) (verb : OperatorVerb) (epoch : Nat) {stepId : String}
    {attempts : AttemptTable} (hstep : stepId = "step-a" ∨ stepId = "step-b")
    (hnone : latestForStep attempts "run-1" stepId = none) :
    prepare sha exampleDecode exampleWorkspace (exampleRequest stepId verb epoch)
      (exampleWorld sha) attempts = .ok (examplePrepared sha stepId verb epoch) := by
  unfold prepare
  show (mapPersist "load capsule" (loadCapsuleV1 sha (exampleCapsules sha) "run-1") >>= _) = _
  rw [loadCapsuleV1_example]
  show ((verifyEnvelopeDigest sha (exampleCapsule sha)).mapError _ >>= _) = _
  rw [verifyEnvelopeDigest_example]
  dsimp only [exampleRequest]
  rw [hnone]
  rcases hstep with rfl | rfl <;> rfl

/-- The first step is recovered; then a recovery of the second is prepared. -/
def exampleCrossing : List RecoveryCall :=
  [.prepare exampleWorkspace (exampleRequest "step-a" .retry 0), .reserve 0 7 exampleWorkspace 0,
    .prepare exampleWorkspace (exampleRequest "step-b" .retry 0)]

def exampleReserved (sha : Sha256Hex) : Except RecoveryError ReserveOutcome × RecoveryDb :=
  reserve 0 7 exampleWorkspace (exampleWorld sha) (examplePrepared sha "step-a" .retry 0)
    (exampleSystem sha).db

def exampleRow (sha : Sha256Hex) : RecoveryOperation :=
  (pendingInsert 0 7 (examplePrepared sha "step-a" .retry 0) 1 1).row 0

theorem run_exampleCrossing (sha : Sha256Hex) :
    ((recoveryMachine sha exampleDecode).run (exampleSystem sha) exampleCrossing).prepared
        = [examplePrepared sha "step-a" .retry 0, examplePrepared sha "step-b" .retry 0]
      ∧ ((recoveryMachine sha exampleDecode).run (exampleSystem sha) exampleCrossing).db
        = (exampleReserved sha).2 := by
  have hfirst : (recoveryMachine sha exampleDecode).next (exampleSystem sha)
      (.prepare exampleWorkspace (exampleRequest "step-a" .retry 0))
      = { exampleSystem sha with prepared := [examplePrepared sha "step-a" .retry 0] } := by
    simp only [StateMachine.next, recoveryMachine, recoveryStep]
    rw [show prepare sha exampleDecode exampleWorkspace (exampleRequest "step-a" .retry 0)
      (exampleSystem sha).world (exampleSystem sha).db.attempts = _ from
        prepare_example sha .retry 0 (Or.inl rfl) rfl]
    rfl
  have hthird : prepare sha exampleDecode exampleWorkspace (exampleRequest "step-b" .retry 0)
      (exampleWorld sha) (exampleReserved sha).2.attempts
      = .ok (examplePrepared sha "step-b" .retry 0) :=
    prepare_example sha .retry 0 (Or.inr rfl) rfl
  let reserved : RecoverySystem :=
    { exampleSystem sha with
      db := (exampleReserved sha).2
      prepared := [examplePrepared sha "step-a" .retry 0]
      reserved := [(examplePrepared sha "step-a" .retry 0,
        { operationId := (examplePrepared sha "step-a" .retry 0).operationId, attemptId := 1,
          epoch := 1 })] }
  have hsecond : (recoveryMachine sha exampleDecode).next
      { exampleSystem sha with prepared := [examplePrepared sha "step-a" .retry 0] }
      (.reserve 0 7 exampleWorkspace 0) = reserved := rfl
  have hrun : (recoveryMachine sha exampleDecode).run (exampleSystem sha) exampleCrossing
      = { reserved with prepared :=
          [examplePrepared sha "step-a" .retry 0, examplePrepared sha "step-b" .retry 0] } := by
    unfold exampleCrossing
    rw [StateMachine.run_cons, hfirst, StateMachine.run_cons, hsecond, StateMachine.run_cons]
    show (recoveryStep sha exampleDecode reserved
      (.prepare exampleWorkspace (exampleRequest "step-b" .retry 0))).2 = _
    simp only [recoveryStep]
    rw [show prepare sha exampleDecode exampleWorkspace (exampleRequest "step-b" .retry 0)
      reserved.world reserved.db.attempts = _ from hthird]
    rfl
  rw [hrun]
  exact ⟨rfl, rfl⟩

/-! ### The binding of every answer -/

/-- **Recovery answers a request with an operation bound as the request is, exactly as long
as no usable operation of another step stands under its key.** -/
theorem recovery_binding_integrity {sha : Sha256Hex}
    {decodeWorkflow : List UInt8 → Except String WorkflowType} (hsha : Function.Injective sha)
    {s : RecoverySystem} (hs : (recoveryMachine sha decodeWorkflow).Reachable s)
    (calls : List RecoveryCall) :
    (recoveryMachine sha decodeWorkflow).Along (BindingIntact sha decodeWorkflow) s calls
      ↔ (recoveryMachine sha decodeWorkflow).Along Uncrossed s calls :=
  StateMachine.along_congr recoveryInv_invariant
    (fun s c hinv => bindingIntact_iff hsha s c hinv) (recoveryInv_invariant.reachable hs) calls

/-- The recovery of one step alone is never crossed. -/
theorem recovery_binding_integrity_alone :
    (recoveryMachine spelled exampleDecode).Along (BindingIntact spelled exampleDecode)
      (exampleSystem spelled)
      [.prepare exampleWorkspace (exampleRequest "step-a" .retry 0),
        .reserve 0 7 exampleWorkspace 0] := by
  refine (recovery_binding_integrity spelled_injective
    (.start (exampleSystem_start _ _)) _).mpr ⟨trivial, ?_, trivial⟩
  intro p _ row hrow
  have hdb : ((recoveryMachine spelled exampleDecode).next (exampleSystem spelled)
      (.prepare exampleWorkspace (exampleRequest "step-a" .retry 0))).db
      = (exampleSystem spelled).db := by
    simp only [StateMachine.next, recoveryMachine, recoveryStep]
    split <;> rfl
  rw [hdb] at hrow
  exact absurd hrow (Table.not_mem_empty row)

/-- A retry of the second step is answered with the retry of the first: with no attempt of
either step finalized, both have the same key. -/
theorem recovery_binding_crossed :
    ¬ ∀ (sha : Sha256Hex) (decodeWorkflow : List UInt8 → Except String WorkflowType),
      Function.Injective sha → ∀ s, (recoveryMachine sha decodeWorkflow).Reachable s →
        ∀ c, BindingIntact sha decodeWorkflow s c := by
  intro h
  let s := (recoveryMachine spelled exampleDecode).run (exampleSystem spelled) exampleCrossing
  have hs : (recoveryMachine spelled exampleDecode).Reachable s :=
    StateMachine.Reachable.run (.start (exampleSystem_start _ _)) exampleCrossing
  obtain ⟨hprepared, hdb⟩ := run_exampleCrossing spelled
  have huncrossed := (bindingIntact_iff spelled_injective s
    (.reserve 1 8 exampleWorkspace 1) (recoveryInv_invariant.reachable hs)).mp
      (h spelled exampleDecode spelled_injective s hs _)
  have hrow : exampleRow spelled ∈ s.db.operations := by
    rw [hdb]
    exact List.mem_singleton_self _
  have hstep := huncrossed (examplePrepared spelled "step-b" .retry 0)
    (by rw [hprepared]; rfl) (exampleRow spelled) hrow rfl
    ⟨rfl, Or.inr ⟨rfl, Or.inl rfl⟩⟩
  exact absurd hstep (by decide)

end Luther
