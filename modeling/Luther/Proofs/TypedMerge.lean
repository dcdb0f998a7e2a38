/-
Merged, and provably so.

A completion either fails and changes nothing, or finds everything already there
and changes nothing, or inserts the artifact and moves the run from review-ready to
merged in one transaction.  That is the step lemma; what holds along any sequence of
completions follows from it.

One thing does not.  The run's row is compared with the artifact column by column,
and an absent repository or pull request number compares equal to an empty one, so a
run without an identity can be merged under an artifact that names none.
-/
import Mathlib
import Luther.Proofs.Capsule
import Luther.Recovery.TypedMerge

namespace Luther

open Sql Sql.Table

variable {sha : Sha256Hex} {db db' : MergeDb}

/-! ### What each part of a completion establishes -/

/-- The run's own row and capsule agree with the artifact. -/
structure MergeBinding (sha : Sha256Hex) (db : MergeDb) (artifact : TypedMergeArtifact)
    (md : RunMetadata) : Prop where
  mem : md ∈ db.runs
  run : md.runId = artifact.runId
  repo : md.repository.getD "" = artifact.repo
  pr : md.prNumber.getD 0 = artifact.prNumber
  capsule : ∃ capsule, loadCapsuleV1 sha db.capsules artifact.runId = .ok capsule ∧
    capsule.envelopeDigest = artifact.capsuleEnvelopeDigest

variable {u : Unit}

theorem requireIdentity_ok {field persisted artifact : String}
    (h : requireIdentity field persisted artifact = .ok u) : persisted = artifact := by
  unfold requireIdentity at h
  split at h
  · assumption
  · simp at h

variable {artifact : TypedMergeArtifact}

theorem requireCapsule_ok {context : String} (h : requireCapsule sha context db artifact = .ok u) :
    ∃ capsule, loadCapsuleV1 sha db.capsules artifact.runId = .ok capsule ∧
      capsule.envelopeDigest = artifact.capsuleEnvelopeDigest := by
  unfold requireCapsule at h
  split at h
  · simp at h
  · rename_i capsule hload
    split at h
    · simp at h
    · rename_i hdigest
      exact ⟨capsule, hload, not_not.mp hdigest⟩

theorem revalidateMergeBindings_ok (h : revalidateMergeBindings sha db artifact = .ok u) :
    ∃ md, MergeBinding sha db artifact md := by
  unfold revalidateMergeBindings at h
  split at h
  · simp at h
  · rename_i md hget
    obtain ⟨hmem, hrun⟩ := getRun_some hget
    obtain ⟨_, hrepo, h⟩ := bind_ok.mp h
    obtain ⟨_, hpr, h⟩ := bind_ok.mp h
    obtain ⟨_, _, h⟩ := bind_ok.mp h
    exact ⟨md, hmem, hrun, requireIdentity_ok hrepo, Int.repr_injective (requireIdentity_ok hpr),
      requireCapsule_ok h⟩

variable {affected : Nat} {now : Timestamp} {call : MergeCall} {md : RunMetadata}

theorem insertMergeArtifact_cases
    (h : insertMergeArtifact artifact artifact.reachabilityProof db = .ok (affected, db')) :
    (affected = 1 ∧ (∀ a ∈ db.artifacts, a.runId ≠ artifact.runId) ∧
      (∀ a, a ∈ db'.artifacts ↔ a ∈ db.artifacts ∨ a = artifact) ∧
      db'.runs = db.runs ∧ db'.capsules = db.capsules) ∨
    (affected = 0 ∧ db' = db ∧ ∃ a ∈ db.artifacts, a.runId = artifact.runId) := by
  unfold insertMergeArtifact at h
  split at h
  · rename_i artifacts hins
    simp only [Except.ok.injEq, Prod.mk.injEq] at h
    obtain ⟨haffected, hdb⟩ := h
    refine Or.inl ⟨haffected.symm, ?_, ?_, by rw [← hdb], by rw [← hdb]⟩
    · intro a ha hrun
      have hnone : db.artifacts.insert artifact = none :=
        insert_eq_none_iff.mpr ⟨a, ha, hrun⟩
      rw [hnone] at hins
      simp at hins
    · intro a
      rw [← hdb]
      exact mem_insert hins a
  · split at h
    · simp at h
    · rename_i existing hload
      split at h
      · simp at h
      · simp only [Except.ok.injEq, Prod.mk.injEq] at h
        obtain ⟨hmem, hrun⟩ := Table.find?_some hload
        exact Or.inr ⟨h.1.symm, h.2.symm, existing, hmem, by simpa using hrun⟩

def mergedRow (now : Timestamp) (md : RunMetadata) : RunMetadata :=
  { md with status := .merged, updatedAt := some now }

theorem transitionToMerged_cases (h : transitionToMerged now artifact affected db = .ok (u, db')) :
    (∃ md ∈ db.runs, md.runId = artifact.runId ∧ md.status = .reviewReady ∧
      md.headSha = some artifact.headSha ∧
      (∀ r, r ∈ db'.runs ↔
        (r ∈ db.runs ∧ r.runId ≠ artifact.runId) ∨ r = mergedRow now md) ∧
      db'.artifacts = db.artifacts ∧ db'.capsules = db.capsules) ∨
    (db' = db ∧ affected = 0 ∧ ∃ md ∈ db.runs, md.runId = artifact.runId ∧ md.status = .merged) := by
  unfold transitionToMerged at h
  dsimp only at h
  split at h
  · rename_i hone
    simp only [Except.ok.injEq, Prod.mk.injEq, true_and] at h
    obtain ⟨md, hmem, hsel⟩ := count_pos_iff.mp (Nat.lt_of_lt_of_eq Nat.zero_lt_one hone.symm)
    simp only [Bool.and_eq_true, beq_iff_eq] at hsel
    obtain ⟨⟨hrun, hstatus⟩, hhead⟩ := hsel
    refine Or.inl ⟨md, hmem, hrun, hstatus, hhead, ?_, by rw [← h], by rw [← h]⟩
    intro r
    rw [← h]
    constructor
    · intro hr
      obtain ⟨a, ha, rfl⟩ := (mem_set rfl).mp hr
      by_cases hrun' : a.runId = artifact.runId
      · -- the run's row is the one the transition selects
        have hsame : a = md := eq_of_clash ha hmem (hrun'.trans hrun.symm)
        rw [hsame, set_pos (by simp [hrun, hstatus, hhead])]
        exact Or.inr rfl
      · rw [set_neg (by simp [hrun'])]
        exact Or.inl ⟨ha, hrun'⟩
    · rintro (⟨hr, hne⟩ | rfl)
      · exact (mem_set rfl).mpr ⟨r, hr, set_neg (by simp [hne])⟩
      · exact (mem_set rfl).mpr ⟨md, hmem, set_pos (by simp [hrun, hstatus, hhead])⟩
  · cases hget : getRun db.runs artifact.runId with
    | none => simp [hget] at h
    | some md =>
      obtain ⟨hmem, hrun⟩ := getRun_some hget
      simp only [hget] at h
      split at h
      · rename_i hmerged
        simp only [Except.ok.injEq, Prod.mk.injEq, true_and] at h
        exact Or.inr ⟨h.symm, hmerged.2, md, hmem, hrun, hmerged.1⟩
      · simp at h

/-! ### What a completion does -/

/-- Merged runs and artifacts go together. -/
structure Paired (db : MergeDb) : Prop where
  merged_iff : ∀ md ∈ db.runs, md.status = .merged ↔ ∃ a ∈ db.artifacts, a.runId = md.runId
  run_of_artifact : ∀ a ∈ db.artifacts, ∃ md ∈ db.runs, md.runId = a.runId

/-- A completion that inserts the artifact and merges the run. -/
structure Completes (sha : Sha256Hex) (db : MergeDb) (call : MergeCall) (db' : MergeDb)
    (md : RunMetadata) : Prop where
  binding : MergeBinding sha db call.artifact md
  status : md.status = .reviewReady
  head : md.headSha = some call.artifact.headSha
  evidence : buildReachabilityProof call.verifier = .ok call.artifact.reachabilityProof
  fresh : ∀ a ∈ db.artifacts, a.runId ≠ call.artifact.runId
  artifacts : ∀ a, a ∈ db'.artifacts ↔ a ∈ db.artifacts ∨ a = call.artifact
  runs : ∀ r, r ∈ db'.runs ↔
    (r ∈ db.runs ∧ r.runId ≠ call.artifact.runId) ∨ r = mergedRow call.now md
  capsules : db'.capsules = db.capsules

theorem completeTypedMerge_error {verifier : MergeVerifier} {e : MergeError}
    (h : completeTypedMerge sha now artifact verifier db = (.error e, db')) : db' = db := by
  unfold completeTypedMerge at h
  split at h
  · exact (congrArg Prod.snd h).symm
  split at h
  · exact (congrArg Prod.snd h).symm
  split at h
  · exact (congrArg Prod.snd h).symm
  · exact atomically_error h

/-- **A call completes the merge or changes nothing.** -/
theorem mergeMachine_step (sha : Sha256Hex) (hp : Paired db) (call : MergeCall) :
    (mergeMachine sha).next db call = db ∨
      ∃ md, Completes sha db call ((mergeMachine sha).next db call) md := by
  cases hcall : completeTypedMerge sha call.now call.artifact call.verifier db with
  | mk result db₁ =>
    have hnext : (mergeMachine sha).next db call = db₁ := congrArg Prod.snd hcall
    rw [hnext]
    cases result with
    | error e => exact Or.inl (completeTypedMerge_error hcall)
    | ok u =>
      unfold completeTypedMerge at hcall
      cases hproof : buildReachabilityProof call.verifier with
      | error e => simp [hproof] at hcall
      | ok proof =>
        simp only [hproof] at hcall
        split at hcall
        · simp at hcall
        rename_i hagree
        simp only [not_or, not_not] at hagree
        obtain ⟨_, rfl, _⟩ := hagree
        split at hcall
        · simp at hcall
        -- inside the transaction
        have htx := atomically_ok.mp hcall
        unfold completeTypedMergeTx at htx
        obtain ⟨_, hbind, htx⟩ := bind_ok.mp htx
        obtain ⟨⟨affected, db₂⟩, hins, htrans⟩ := bind_ok.mp htx
        obtain ⟨md, hbinding⟩ := revalidateMergeBindings_ok hbind
        rcases insertMergeArtifact_cases hins with
          ⟨haffected, hfresh, hartifacts, hruns, hcapsules⟩ | ⟨_, rfl, a, ha, hrun⟩
        · rcases transitionToMerged_cases htrans with
            ⟨md', hmem, hrun', hstatus, hhead, hruns', hartifacts', hcapsules'⟩ | ⟨_, hzero, _⟩
          · refine Or.inr ⟨md', ?_, hstatus, hhead, hproof, hfresh, ?_, ?_, ?_⟩
            · rw [hruns] at hmem
              have hsame : md' = md :=
                eq_of_clash hmem hbinding.mem (hrun'.trans hbinding.run.symm)
              rw [hsame]
              exact hbinding
            · rw [hartifacts']; exact hartifacts
            · rw [← hruns]; exact hruns'
            · rw [hcapsules', hcapsules]
          · omega
        · -- the artifact was there: then the run was merged, and no transition is taken
          rcases transitionToMerged_cases htrans with ⟨md', hmem, hrun', hstatus, _⟩ | ⟨rfl, _⟩
          · have hmerged := (hp.merged_iff md' hmem).mpr ⟨a, ha, hrun.trans hrun'.symm⟩
            rw [hstatus] at hmerged
            exact absurd hmerged (by decide)
          · exact Or.inl rfl

/-! ### Along any sequence of completions -/

theorem paired_start (h : (mergeMachine sha).start db) : Paired db := by
  obtain ⟨hnone, hstatus⟩ := h
  have hempty : ∀ a, a ∉ db.artifacts := by
    intro a ha
    rw [mem_def, hnone] at ha
    simp at ha
  refine ⟨?_, fun a ha => absurd ha (hempty a)⟩
  intro md hmd
  refine ⟨fun hm => absurd hm (hstatus md hmd), ?_⟩
  rintro ⟨a, ha, _⟩
  exact absurd ha (hempty a)

theorem Completes.paired (hp : Paired db) (h : Completes sha db call db' md) : Paired db' := by
  have hrunId : (mergedRow call.now md).runId = call.artifact.runId := h.binding.run
  constructor
  · intro r hr
    rcases (h.runs r).mp hr with ⟨hr, hne⟩ | rfl
    · rw [hp.merged_iff r hr]
      constructor
      · rintro ⟨a, ha, harun⟩
        exact ⟨a, (h.artifacts a).mpr (Or.inl ha), harun⟩
      · rintro ⟨a, ha, harun⟩
        rcases (h.artifacts a).mp ha with ha | rfl
        · exact ⟨a, ha, harun⟩
        · exact absurd harun.symm hne
    · refine ⟨fun _ => ⟨call.artifact, (h.artifacts _).mpr (Or.inr rfl), hrunId.symm⟩, fun _ => rfl⟩
  · intro a ha
    rcases (h.artifacts a).mp ha with ha | rfl
    · obtain ⟨r, hr, hrun⟩ := hp.run_of_artifact a ha
      exact ⟨r, (h.runs r).mpr (Or.inl ⟨hr, by rw [hrun]; exact h.fresh a ha⟩), hrun⟩
    · exact ⟨mergedRow call.now md, (h.runs _).mpr (Or.inr rfl), hrunId⟩

theorem paired_invariant (sha : Sha256Hex) : (mergeMachine sha).Invariant Paired where
  start _ h := paired_start h
  step db call hp := by
    rcases mergeMachine_step sha hp call with hsame | ⟨md, h⟩
    · rw [hsame]; exact hp
    · exact h.paired hp

/-- **An artifact, once there, stays as it is.** -/
theorem artifacts_kept (hp : Paired db) (calls : List MergeCall) :
    ∀ a ∈ db.artifacts, a ∈ ((mergeMachine sha).run db calls).artifacts := by
  induction calls generalizing db with
  | nil => intro a ha; exact ha
  | cons call rest ih =>
    intro a ha
    refine ih ((paired_invariant sha).step db call hp) a ?_
    rcases mergeMachine_step sha hp call with hsame | ⟨md, h⟩
    · rw [hsame]; exact ha
    · exact (h.artifacts a).mpr (Or.inl ha)

/-- **An artifact that was not there at the start is a call's, with the evidence that the
call's probes gave.** -/
theorem artifacts_from_calls (hp : Paired db) (calls : List MergeCall) :
    ∀ a ∈ ((mergeMachine sha).run db calls).artifacts, a ∈ db.artifacts ∨
      ∃ call ∈ calls, a = call.artifact ∧
        buildReachabilityProof call.verifier = .ok a.reachabilityProof := by
  induction calls generalizing db with
  | nil => intro a ha; exact Or.inl ha
  | cons call rest ih =>
    intro a ha
    rcases ih ((paired_invariant sha).step db call hp) a ha with hbefore | ⟨c, hc, heq⟩
    · rcases mergeMachine_step sha hp call with hsame | ⟨md, h⟩
      · rw [hsame] at hbefore
        exact Or.inl hbefore
      · rcases (h.artifacts a).mp hbefore with hold | rfl
        · exact Or.inl hold
        · exact Or.inr ⟨call, by simp, rfl, h.evidence⟩
    · exact Or.inr ⟨c, by simp [hc], heq⟩

/-! ### The identity of the run -/

/-- The run's persisted identity and capsule are the artifact's. -/
def Identified (sha : Sha256Hex) (db : MergeDb) (a : TypedMergeArtifact) : Prop :=
  (∃ md ∈ db.runs, md.runId = a.runId ∧ md.repository = some a.repo ∧
    md.prNumber = some a.prNumber ∧ md.headSha = some a.headSha) ∧
  ∃ capsule, loadCapsuleV1 sha db.capsules a.runId = .ok capsule ∧
    capsule.envelopeDigest = a.capsuleEnvelopeDigest

/-- The call names no review-ready run whose repository or pull request number is absent
where the artifact's is empty. -/
def IdentityPresent (db : MergeDb) (call : MergeCall) : Prop :=
  ∀ md ∈ db.runs, md.runId = call.artifact.runId → md.status = .reviewReady →
    (md.repository = none → call.artifact.repo ≠ "") ∧
    (md.prNumber = none → call.artifact.prNumber ≠ 0)

theorem eq_some_of_getD {α : Type} {o : Option α} {d a : α} (h : o.getD d = a)
    (hnone : o = none → a ≠ d) : o = some a := by
  cases o with
  | none => exact absurd h.symm (hnone rfl)
  | some b => rw [← h]; rfl

theorem Completes.identified (h : Completes sha db call db' md) (hc : IdentityPresent db call)
    (hold : ∀ a ∈ db.artifacts, Identified sha db a) :
    ∀ a ∈ db'.artifacts, Identified sha db' a := by
  intro a ha
  rcases (h.artifacts a).mp ha with ha' | rfl
  · obtain ⟨⟨r, hr, hrun, hident⟩, hcapsule⟩ := hold a ha'
    refine ⟨⟨r, (h.runs r).mpr (Or.inl ⟨hr, ?_⟩), hrun, hident⟩, ?_⟩
    · rw [hrun]; exact h.fresh a ha'
    · rw [h.capsules]; exact hcapsule
  · obtain ⟨hrepo, hpr⟩ := hc md h.binding.mem h.binding.run h.status
    refine ⟨⟨mergedRow call.now md, (h.runs _).mpr (Or.inr rfl), h.binding.run, ?_, ?_, h.head⟩, ?_⟩
    · exact eq_some_of_getD h.binding.repo hrepo
    · exact eq_some_of_getD h.binding.pr hpr
    · rw [h.capsules]; exact h.binding.capsule

/-! ### A run with an identity, and one without -/

def exampleMergeDb (sha : Sha256Hex) (repository : Option String) : MergeDb where
  runs := ⟨[{ runId := "run-1", status := .reviewReady, repository := repository
              prNumber := some 5, headSha := some "head" }], List.pairwise_singleton _ _⟩
  artifacts := Table.empty
  capsules := exampleCapsules sha

/-- A completion under a merge commit that every probe confirms. -/
def exampleMergeCall (sha : Sha256Hex) (repo : String) : MergeCall where
  now := 100
  artifact :=
    { runId := "run-1", prNumber := 5, resultSha := "merge", repo := repo, headSha := "head"
      baseSha := "base", capsuleEnvelopeDigest := (exampleCapsule sha).envelopeDigest
      reachabilityProof := .mergeCommit "head" "base" "merge", recordedAt := 90 }
  verifier :=
    { gitProbe :=
        { isAncestor := fun _ _ _ => .ok ()
          computeTreeContentDigest := fun _ _ => .error (.reachabilityFailed "not a squash")
          computePatchId := fun _ _ _ => .error (.reachabilityFailed "not a rebase") }
      remoteProbe := { observeMerge := fun _ _ => .ok ⟨true, .mergeCommit, "merge"⟩ }
      workDir := "/work", repo := repo, prNumber := 5, baseSha := "base", headSha := "head" }

theorem completeTypedMerge_example (sha : Sha256Hex) (repository : Option String) (repo : String)
    (h : repository.getD "" = repo) :
    ∃ db', completeTypedMerge sha 100 (exampleMergeCall sha repo).artifact
        (exampleMergeCall sha repo).verifier (exampleMergeDb sha repository) = (.ok (), db') ∧
      db'.artifacts.rows = [(exampleMergeCall sha repo).artifact] ∧
      ∀ md ∈ db'.runs, md.repository = repository := by
  have hcapsule : ∀ context, requireCapsule sha context (exampleMergeDb sha repository)
      (exampleMergeCall sha repo).artifact = .ok () := by
    intro context
    have hload : loadCapsuleV1 sha (exampleMergeDb sha repository).capsules
        (exampleMergeCall sha repo).artifact.runId = .ok (exampleCapsule sha) :=
      loadCapsuleV1_example sha
    unfold requireCapsule
    rw [hload]
    exact if_neg (by simp [exampleMergeCall])
  have hrevalidate : revalidateMergeBindings sha (exampleMergeDb sha repository)
      (exampleMergeCall sha repo).artifact = .ok () := by
    show (requireIdentity "repository" (repository.getD "") repo >>= fun _ =>
      requireIdentity "pr_number" (toString (5 : Int)) (toString (5 : Int)) >>= fun _ =>
      requireIdentity "head_sha" "head" "head" >>= fun _ =>
      requireCapsule sha "capsule revalidation failed" _ _) = _
    rw [hcapsule, h]
    unfold requireIdentity
    rw [if_pos rfl, if_pos rfl, if_pos rfl]
    rfl
  let artifact := (exampleMergeCall sha repo).artifact
  let db' : MergeDb :=
    { exampleMergeDb sha repository with
      runs := ⟨[{ runId := "run-1", status := .merged, repository := repository
                  prNumber := some 5, headSha := some "head", updatedAt := some 100 }],
        List.pairwise_singleton _ _⟩
      artifacts := ⟨[artifact], List.pairwise_singleton _ _⟩ }
  have htx : completeTypedMergeTx sha 100 artifact artifact.reachabilityProof
      (exampleMergeDb sha repository) = .ok ((), db') := by
    show (revalidateMergeBindings sha (exampleMergeDb sha repository) artifact >>= fun _ => _) = _
    rw [hrevalidate]
    rfl
  refine ⟨db', ?_, rfl, ?_⟩
  · have hproof : buildReachabilityProof (exampleMergeCall sha repo).verifier =
        .ok artifact.reachabilityProof := rfl
    have hbinding : verifyCapsuleBinding sha (exampleMergeDb sha repository) artifact = .ok () :=
      hcapsule "capsule load failed"
    unfold completeTypedMerge
    rw [hproof]
    dsimp only
    rw [if_neg (by simp [artifact, exampleMergeCall, MergeReachabilityProof.resultSha]), hbinding]
    exact atomically_ok.mpr htx
  · intro md hmd
    rw [List.mem_singleton.mp hmd]

theorem start_example (sha : Sha256Hex) (repository : Option String) :
    (mergeMachine sha).start (exampleMergeDb sha repository) := by
  refine ⟨rfl, ?_⟩
  intro md hmd
  rw [List.mem_singleton.mp hmd]
  simp

/-- **Merges are provable.** Along every sequence of completions that name no run without the
identity the artifact leaves empty: a run is merged exactly when it has an artifact; the
artifact's identity and capsule are the run's; its evidence is what some call's probes gave;
no later call changes it; and a call that fails changes nothing. -/
theorem typedMerge_integrity (sha : Sha256Hex) (db₀ : MergeDb)
    (hstart : (mergeMachine sha).start db₀) (calls : List MergeCall)
    (hpresent : (mergeMachine sha).Along IdentityPresent db₀ calls) :
    (∀ md ∈ ((mergeMachine sha).run db₀ calls).runs, md.status = .merged ↔
      ∃ a ∈ ((mergeMachine sha).run db₀ calls).artifacts, a.runId = md.runId) ∧
    (∀ a ∈ ((mergeMachine sha).run db₀ calls).artifacts,
      Identified sha ((mergeMachine sha).run db₀ calls) a ∧
      (∃ call ∈ calls, buildReachabilityProof call.verifier = .ok a.reachabilityProof) ∧
      ∀ later, a ∈ ((mergeMachine sha).run db₀ (calls ++ later)).artifacts) ∧
    ∀ call e, (mergeMachine sha).answer ((mergeMachine sha).run db₀ calls) call = .error e →
      (mergeMachine sha).next ((mergeMachine sha).run db₀ calls) call
        = (mergeMachine sha).run db₀ calls := by
  have hp₀ : Paired db₀ := paired_start hstart
  have hp := (paired_invariant sha).run hp₀ calls
  have hident : Paired ((mergeMachine sha).run db₀ calls) ∧
      ∀ a ∈ ((mergeMachine sha).run db₀ calls).artifacts,
        Identified sha ((mergeMachine sha).run db₀ calls) a := by
    refine hpresent.invariant
      (P := fun db => Paired db ∧ ∀ a ∈ db.artifacts, Identified sha db a) ?_ ⟨hp₀, ?_⟩
    · rintro db call hc ⟨hp, hold⟩
      refine ⟨(paired_invariant sha).step db call hp, ?_⟩
      rcases mergeMachine_step sha hp call with hsame | ⟨md, h⟩
      · rw [hsame]; exact hold
      · exact h.identified hc hold
    · intro a ha
      rw [mem_def, hstart.1] at ha
      simp at ha
  refine ⟨hp.merged_iff, ?_, ?_⟩
  · intro a ha
    refine ⟨hident.2 a ha, ?_, ?_⟩
    · rcases artifacts_from_calls hp₀ calls a ha with hold | ⟨call, hcall, _, hproof⟩
      · rw [mem_def, hstart.1] at hold
        simp at hold
      · exact ⟨call, hcall, hproof⟩
    · intro later
      rw [StateMachine.run_append]
      exact artifacts_kept hp later a ha
  · intro call e herror
    exact completeTypedMerge_error (Prod.ext herror rfl)

/-- A run with a repository, merged under an artifact of that repository. -/
theorem typedMerge_integrity_identified :
    ∃ a ∈ ((mergeMachine fun _ => "digest").run (exampleMergeDb (fun _ => "digest") (some "org/repo"))
        [exampleMergeCall (fun _ => "digest") "org/repo"]).artifacts,
      Identified (fun _ => "digest")
        ((mergeMachine fun _ => "digest").run (exampleMergeDb (fun _ => "digest") (some "org/repo"))
          [exampleMergeCall (fun _ => "digest") "org/repo"]) a := by
  obtain ⟨db', hcall, hartifacts, _⟩ :=
    completeTypedMerge_example (fun _ => "digest") (some "org/repo") "org/repo" rfl
  have hrun : (mergeMachine fun _ => "digest").run
      (exampleMergeDb (fun _ => "digest") (some "org/repo"))
      [exampleMergeCall (fun _ => "digest") "org/repo"] = db' := congrArg Prod.snd hcall
  have hmem : (exampleMergeCall (fun _ => "digest") "org/repo").artifact ∈ db'.artifacts := by
    rw [mem_def, hartifacts]
    exact List.mem_singleton_self _
  have h := typedMerge_integrity (fun _ => "digest") _ (start_example _ (some "org/repo"))
    [exampleMergeCall (fun _ => "digest") "org/repo"] ⟨?_, trivial⟩
  · rw [hrun] at h ⊢
    exact ⟨_, hmem, (h.2.1 _ hmem).1⟩
  · intro md hmd _ _
    rw [List.mem_singleton.mp hmd]
    exact ⟨by simp, by simp⟩

/-- A run without a repository, merged under an artifact that names the empty one: whatever
the digest function is, the artifact's repository is not the run's. -/
theorem typedMerge_integrity_unidentified :
    ¬ ∃ sha : Sha256Hex, ∀ db₀ calls, (mergeMachine sha).start db₀ →
      ∀ a ∈ ((mergeMachine sha).run db₀ calls).artifacts,
        Identified sha ((mergeMachine sha).run db₀ calls) a := by
  rintro ⟨sha, h⟩
  obtain ⟨db', hcall, hartifacts, hruns⟩ := completeTypedMerge_example sha none "" rfl
  have hrun : (mergeMachine sha).run (exampleMergeDb sha none) [exampleMergeCall sha ""] = db' :=
    congrArg Prod.snd hcall
  have hident := h _ [exampleMergeCall sha ""] (start_example sha none)
    (exampleMergeCall sha "").artifact
  rw [hrun, mem_def, hartifacts] at hident
  obtain ⟨⟨md, hmd, _, hrepo, _⟩, _⟩ := hident (List.mem_singleton_self _)
  rw [hruns md hmd] at hrepo
  simp at hrepo

end Luther
