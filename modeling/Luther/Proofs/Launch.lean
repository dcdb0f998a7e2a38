/-
What a launch leaves behind.

A launch that commits has added one row to each table, and a launch that fails has added none:
which of the two it does depends on the constraints of the tables, on the digest of the capsule and
on the machine, and on nothing else.  Rows are only added, so that a capsule once stored is loaded
as it was stored after any further launches.

What the transaction does not ask is whether the run and the capsule belong together.  They are two
arguments with a run id each, and where the ids differ the run that is launched has no capsule.
-/
import Luther.Lib.StateMachine
import Luther.Persistence.Launch
import Luther.Proofs.Capsule

namespace Luther

open Sql

/-- One call of the launch: its arguments, and how the machine treats it. -/
structure LaunchCall where
  faults : LaunchFaults := {}
  metadata : RunMetadata
  capsule : ExecutionCapsuleV1

/-- The launches of all callers, in the order in which their transactions begin. -/
def runLaunchMachine (sha : Sha256Hex) :
    StateMachine LaunchDb LaunchCall (Except LaunchPersistenceError LaunchPersistenceOutcome) where
  start _ := True
  step db call := persistLaunchAtomically sha call.faults call.metadata call.capsule db

/-- Nothing stands in the way of the launch. -/
structure LaunchCall.Commits (sha : Sha256Hex) (db : LaunchDb) (call : LaunchCall) : Prop where
  unfaulted : call.faults = {}
  verified : verifyEnvelopeDigest sha call.capsule = .ok ()
  run : ∀ md ∈ db.runs, md.runId ≠ call.metadata.runId
  capsule : ∀ row ∈ db.capsules, row.runId ≠ call.capsule.runId

/-- The tables with the two rows of a launch. -/
structure LaunchDb.Added (call : LaunchCall) (db db' : LaunchDb) : Prop where
  runs : ∀ md, md ∈ db'.runs ↔ md ∈ db.runs ∨ md = call.metadata
  capsules : ∀ row, row ∈ db'.capsules ↔ row ∈ db.capsules ∨ row = .ofCapsule call.capsule

/-- What a load returns is the run's, has the digests of its row, and has its own digest. -/
def LoadsTruly (sha : Sha256Hex) (capsules : CapsuleTable) : Prop :=
  ∀ runId capsule, loadCapsuleV1 sha capsules runId = .ok capsule →
    capsule.runId = runId ∧ sha (buildEnvelopeFrame capsule) = capsule.envelopeDigest ∧
      ∃ row ∈ capsules, row.runId = runId ∧ row.envelopeDigest = capsule.envelopeDigest ∧
        row.workflowDigest = capsule.workflowDigest ∧ row.configDigest = capsule.configDigest

/-- **A launch is all or nothing, changes no row, backs the run it adds, and what it stores can be
loaded as long as there are launches.** -/
structure LaunchSound (sha : Sha256Hex) (db : LaunchDb) (call : LaunchCall) : Prop where
  whole : ((runLaunchMachine sha).answer db call = .ok .persisted ∧
        db.Added call ((runLaunchMachine sha).next db call) ∧
        ∀ later, loadCapsuleV1 sha
          ((runLaunchMachine sha).run ((runLaunchMachine sha).next db call) later).capsules
            call.capsule.runId = .ok call.capsule) ∨
      ∃ error, (runLaunchMachine sha).answer db call = .error error ∧
        (runLaunchMachine sha).next db call = db
  keeps : (∀ md ∈ db.runs, md ∈ ((runLaunchMachine sha).next db call).runs) ∧
    ∀ row ∈ db.capsules, row ∈ ((runLaunchMachine sha).next db call).capsules
  backed : ∀ md ∈ ((runLaunchMachine sha).next db call).runs, md ∈ db.runs ∨
    ∃ row ∈ ((runLaunchMachine sha).next db call).capsules, row.runId = md.runId
  loads : LoadsTruly sha ((runLaunchMachine sha).next db call).capsules

/-- A launch that commits is of a run and its capsule, or of a run whose capsule is stored. -/
def OwnCapsule (sha : Sha256Hex) (db : LaunchDb) (call : LaunchCall) : Prop :=
  call.Commits sha db →
    call.capsule.runId = call.metadata.runId ∨
      ∃ row ∈ db.capsules, row.runId = call.metadata.runId

section Launch

variable {sha : Sha256Hex} {db db' : LaunchDb} {call : LaunchCall}

/-! ### The statements -/

theorem orFault_ok {α : Type} {fault : Option Error} {result : Except Error α} {a : α} :
    orFault fault result = .ok a ↔ result = .ok a ∧ fault = none := by
  unfold orFault
  rw [bind_ok]
  cases fault with
  | some error => simp
  | none => simp

theorem insertInitialRun_inserted {fault : Option Error} {metadata : RunMetadata}
    {runs runs' : RunTable} :
    insertInitialRun fault metadata runs = .ok (.inserted runs') ↔
      runs.insert metadata = some runs' ∧ fault = none := by
  unfold insertInitialRun
  cases hinsert : orFault fault (okOr .constraintViolation (runs.insert metadata)) with
  | ok inserted =>
    obtain ⟨hok, hfault⟩ := orFault_ok.mp hinsert
    rw [okOr_ok.mp hok]
    simp [hfault]
  | error error =>
    have hnot : ¬ (runs.insert metadata = some runs' ∧ fault = none) := by
      rintro ⟨hrow, hfault⟩
      rw [orFault_ok.mpr ⟨okOr_ok.mpr hrow, hfault⟩] at hinsert
      cases hinsert
    unfold classifyCollision
    by_cases hcollision : error = .constraintViolation
    · simp [hcollision, hnot]
    · simp [hcollision, hnot]

variable {capsule : ExecutionCapsuleV1}

theorem persistCapsuleV1_ok {capsules capsules' : CapsuleTable} :
    persistCapsuleV1 sha capsule capsules = .ok capsules' ↔
      verifyEnvelopeDigest sha capsule = .ok () ∧
        capsules.insert (.ofCapsule capsule) = some capsules' := by
  unfold persistCapsuleV1
  cases hverify : verifyEnvelopeDigest sha capsule with
  | error error => simp
  | ok _ => simp [okOr_ok]

theorem launchTransaction_ok {faults : LaunchFaults} {metadata : RunMetadata} :
    launchTransaction sha faults metadata capsule db = .ok (.persisted, db') ↔
      (db.runs.insert metadata = some db'.runs ∧ faults.runInsert = none) ∧
      ((verifyEnvelopeDigest sha capsule = .ok () ∧
        db.capsules.insert (.ofCapsule capsule) = some db'.capsules) ∧
        faults.capsuleInsert = none) ∧
      faults.commit = none := by
  rw [← insertInitialRun_inserted, ← persistCapsuleV1_ok, ← orFault_ok]
  unfold launchTransaction
  cases insertInitialRun faults.runInsert metadata db.runs with
  | error error => simp
  | ok inserted =>
    cases inserted with
    | collision => simp
    | inserted runs' =>
      cases orFault faults.capsuleInsert (persistCapsuleV1 sha capsule db.capsules) with
      | error error =>
        by_cases hcollision : error = .constraintViolation
        · simp [hcollision]
        · simp [hcollision]
      | ok capsules' =>
        cases faults.commit with
        | some error => simp
        | none =>
          obtain ⟨runs, capsules⟩ := db'
          simp

/-! ### One launch -/

theorem LaunchFaults.eq_empty {faults : LaunchFaults} (hbegin : faults.beginTransaction = none)
    (hrun : faults.runInsert = none) (hcapsule : faults.capsuleInsert = none)
    (hcommit : faults.commit = none) : faults = {} := by
  obtain ⟨beginTransaction, runInsert, capsuleInsert, commit⟩ := faults
  simp only at hbegin hrun hcapsule hcommit
  rw [hbegin, hrun, hcapsule, hcommit]

/-- **A launch commits exactly where nothing stands in its way**, and leaves the tables alone
everywhere else. -/
theorem launch_cases (sha : Sha256Hex) (db : LaunchDb) (call : LaunchCall) :
    (call.Commits sha db ∧ (runLaunchMachine sha).answer db call = .ok .persisted ∧
      db.Added call ((runLaunchMachine sha).next db call)) ∨
    (¬ call.Commits sha db ∧ ∃ error, (runLaunchMachine sha).answer db call = .error error ∧
      (runLaunchMachine sha).next db call = db) := by
  show (_ ∧ (persistLaunchAtomically sha call.faults call.metadata call.capsule db).1 = _ ∧
      db.Added call (persistLaunchAtomically sha call.faults call.metadata call.capsule db).2) ∨
    (_ ∧ ∃ error, (persistLaunchAtomically sha call.faults call.metadata call.capsule db).1 = _ ∧
      (persistLaunchAtomically sha call.faults call.metadata call.capsule db).2 = db)
  unfold persistLaunchAtomically atomically
  cases hbegin : call.faults.beginTransaction with
  | some error =>
    refine .inr ⟨fun hcommits => ?_, _, rfl, rfl⟩
    rw [hcommits.unfaulted] at hbegin
    cases hbegin
  | none =>
    dsimp only
    cases hbody : launchTransaction sha call.faults call.metadata call.capsule db with
    | error error =>
      refine .inr ⟨fun hcommits => ?_, error, rfl, rfl⟩
      obtain ⟨runs', hruns⟩ : ∃ runs', db.runs.insert call.metadata = some runs' := by
        refine Option.ne_none_iff_exists'.mp fun hnone => ?_
        obtain ⟨md, hmd, hclash⟩ := Table.insert_eq_none_iff.mp hnone
        exact hcommits.run md hmd hclash
      obtain ⟨capsules', hcapsules⟩ :
          ∃ capsules', db.capsules.insert (.ofCapsule call.capsule) = some capsules' := by
        refine Option.ne_none_iff_exists'.mp fun hnone => ?_
        obtain ⟨row, hrow, hclash⟩ := Table.insert_eq_none_iff.mp hnone
        exact hcommits.capsule row hrow hclash
      have hok : launchTransaction sha call.faults call.metadata call.capsule db =
          .ok (.persisted, ⟨runs', capsules'⟩) := by
        refine launchTransaction_ok.mpr ⟨⟨hruns, ?_⟩, ⟨⟨hcommits.verified, hcapsules⟩, ?_⟩, ?_⟩
          <;> rw [hcommits.unfaulted]
      rw [hok] at hbody
      cases hbody
    | ok result =>
      obtain ⟨outcome, db'⟩ := result
      cases outcome
      obtain ⟨⟨hruns, hrun⟩, ⟨⟨hverified, hcapsules⟩, hcapsule⟩, hcommit⟩ :=
        launchTransaction_ok.mp hbody
      refine .inl ⟨⟨?_, hverified, fun md hmd => ?_, fun row hrow => ?_⟩, rfl,
        Table.mem_insert hruns, Table.mem_insert hcapsules⟩
      · exact LaunchFaults.eq_empty hbegin hrun hcapsule hcommit
      · exact Table.not_clash_of_insert hruns hmd
      · exact Table.not_clash_of_insert hcapsules hrow

theorem launch_keeps (sha : Sha256Hex) (db : LaunchDb) (call : LaunchCall) :
    (∀ md ∈ db.runs, md ∈ ((runLaunchMachine sha).next db call).runs) ∧
      ∀ row ∈ db.capsules, row ∈ ((runLaunchMachine sha).next db call).capsules := by
  rcases launch_cases sha db call with ⟨-, -, hadded⟩ | ⟨-, error, -, hsame⟩
  · exact ⟨fun md hmd => (hadded.runs md).mpr (.inl hmd),
      fun row hrow => (hadded.capsules row).mpr (.inl hrow)⟩
  · rw [hsame]
    exact ⟨fun md hmd => hmd, fun row hrow => hrow⟩

theorem loadCapsuleV1_later (hmem : CapsuleRow.ofCapsule capsule ∈ db.capsules)
    (hverify : verifyEnvelopeDigest sha capsule = .ok ()) (later : List LaunchCall) :
    loadCapsuleV1 sha ((runLaunchMachine sha).run db later).capsules capsule.runId = .ok capsule := by
  refine loadCapsuleV1_of_mem ?_ hverify
  exact StateMachine.run_keeps (P := fun db => CapsuleRow.ofCapsule capsule ∈ db.capsules)
    (fun db call hrow => (launch_keeps sha db call).2 _ hrow) hmem later

/-! ### What is loaded -/

theorem verifyEnvelopeDigest_ok (h : verifyEnvelopeDigest sha capsule = .ok ()) :
    sha (buildEnvelopeFrame capsule) = capsule.envelopeDigest := by
  unfold verifyEnvelopeDigest at h
  obtain ⟨-, h⟩ := checked_ok.mp h
  obtain ⟨-, h⟩ := checked_ok.mp h
  obtain ⟨-, h⟩ := checked_ok.mp h
  obtain ⟨-, h⟩ := checked_ok.mp h
  by_contra hne
  rw [if_neg hne] at h
  cases h

/-- **Whatever a table holds, what is loaded from it is true.** -/
theorem loadsTruly (sha : Sha256Hex) (capsules : CapsuleTable) : LoadsTruly sha capsules := by
  intro runId capsule h
  obtain ⟨row, hrow, hid, -, hvalid, hverify⟩ := loadCapsuleV1_iff.mp h
  obtain ⟨hrun, -, -, -, -, henvelope, hworkflow, hconfig⟩ := validateLoadedCapsule_ok.mp hvalid
  exact ⟨hrun, verifyEnvelopeDigest_ok hverify, row, hrow, hid, henvelope.symm, hworkflow.symm,
    hconfig.symm⟩

/-! ### Runs of launches -/

theorem launchSound_iff : LaunchSound sha db call ↔ OwnCapsule sha db call := by
  rcases launch_cases sha db call with ⟨hcommits, hanswer, hadded⟩ | ⟨hnot, error, hanswer, hsame⟩
  · have hrow := (hadded.capsules _).mpr (.inr rfl)
    constructor
    · intro h _
      rcases h.backed call.metadata ((hadded.runs _).mpr (.inr rfl)) with hold | ⟨row, hmem, hid⟩
      · exact absurd rfl (hcommits.run _ hold)
      · rcases (hadded.capsules row).mp hmem with hbefore | rfl
        · exact .inr ⟨row, hbefore, hid⟩
        · exact .inl hid
    · intro h
      refine ⟨.inl ⟨hanswer, hadded, loadCapsuleV1_later hrow hcommits.verified⟩,
        launch_keeps sha db call, fun md hmd => ?_, loadsTruly sha _⟩
      rcases (hadded.runs md).mp hmd with hold | rfl
      · exact .inl hold
      · rcases h hcommits with hown | ⟨row, hbefore, hid⟩
        · exact .inr ⟨_, hrow, hown⟩
        · exact .inr ⟨row, (hadded.capsules row).mpr (.inl hbefore), hid⟩
  · refine iff_of_true ?_ fun hcommits => absurd hcommits hnot
    refine ⟨.inr ⟨error, hanswer, hsame⟩, launch_keeps sha db call, fun md hmd => ?_,
      loadsTruly sha _⟩
    rw [hsame] at hmd
    exact .inl hmd

/-- **From any tables, all launches of a run are sound exactly if each that commits is of a run and
its own capsule.** -/
theorem launches_sound_iff (sha : Sha256Hex) (db : LaunchDb) (calls : List LaunchCall) :
    (runLaunchMachine sha).Along (LaunchSound sha) db calls ↔
      (runLaunchMachine sha).Along (OwnCapsule sha) db calls := by
  constructor
  · exact fun h => h.mono fun db call hsound => launchSound_iff.mp hsound
  · exact fun h => h.mono fun db call hown => launchSound_iff.mpr hown

end Launch

/-! ### A run with the capsule of another -/

/-- The launch of a run with the capsule of another one. -/
def strayLaunch (sha : Sha256Hex) : LaunchCall where
  metadata := { runId := "run-2", status := .starting }
  capsule := exampleCapsule sha

/-- **The launch commits, and its run has no capsule.** -/
theorem launch_without_own_capsule :
    let sha : Sha256Hex := fun _ => "digest"
    let db : LaunchDb := ⟨Table.empty, Table.empty⟩
    (runLaunchMachine sha).answer db (strayLaunch sha) = .ok .persisted ∧
      (strayLaunch sha).metadata ∈ ((runLaunchMachine sha).next db (strayLaunch sha)).runs ∧
      ∀ row ∈ ((runLaunchMachine sha).next db (strayLaunch sha)).capsules, row.runId ≠ "run-2" := by
  refine ⟨rfl, List.mem_singleton_self _, ?_⟩
  intro row hrow
  have hstored : row = .ofCapsule (exampleCapsule fun _ => "digest") :=
    List.mem_singleton.mp hrow
  rw [hstored]
  decide

end Luther
