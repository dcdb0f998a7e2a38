/-
There are never more launches of a config than it allows.

A claim takes its lease first and counts afterwards, so between the two there may be
more leases than the limit.  What keeps the launches below it is that a claim counts
its own lease too: a claim whose count is within the limit was granted its launch in a
state where all the leases of the config, granted or not, were within the limit.

Three facts make that an invariant.  The lease of a claim under way stays claimed, since
nothing but the claim itself moves a lease that has no run.  Two claims under way never
have one lease.  And a lease that changes hands is a new lease, which nobody was granted.
-/
import Mathlib.Data.List.Nodup
import Luther.Daemon.Claim
import Luther.Proofs.Leases

namespace Luther

open Sql Sql.Table

variable {configs : String → DiscoveryConfig} {s : ClaimSystem}

/-! ### What the statements of a claim do to the leases -/

variable {db db' : ClaimDb} {configId repo runId : String} {issueNumber : UInt64} {now : Timestamp}
  {cfg : DiscoveryConfig} {claim : PendingClaim} {row : IssueLease} {i : Nat}

theorem upsertClaimMetadata_leases {receipt : ClaimMetadataReceipt}
    (h : upsertClaimMetadata receipt db = .ok db') : db'.leases = db.leases := by
  unfold upsertClaimMetadata at h
  split at h
  · split at h
    · rw [← Except.ok.inj h]
    · simp at h
  · rw [← Except.ok.inj h]

theorem tryClaimCascading_leases {claimed : Option IssueLease}
    (h : tryClaimCascading now repo issueNumber configId db = .ok (claimed, db')) :
    tryClaim now repo issueNumber configId db.leases = .ok (claimed, db'.leases) := by
  unfold tryClaimCascading at h
  obtain ⟨⟨answer, leases⟩, htry, h⟩ := bind_ok.mp h
  dsimp only at h
  split at h
  · obtain ⟨receipts, _, h⟩ := bind_ok.mp h
    simp only [Except.ok.injEq, Prod.mk.injEq] at h
    rw [htry, ← h.1, ← h.2]
  · simp only [Except.ok.injEq, Prod.mk.injEq] at h
    rw [htry, ← h.1, ← h.2]

/-- What `acquire_lease_with_receipt` answers is what `try_claim` answers, and the leases it
leaves are those that `try_claim` leaves. -/
theorem acquireLeaseWithReceipt_ok {claimed : Option IssueLease}
    (h : acquireLeaseWithReceipt now repo issueNumber configId cfg db = (.ok claimed, db')) :
    tryClaim now repo issueNumber configId db.leases = .ok (claimed, db'.leases) := by
  have hbody := atomically_ok.mp h
  obtain ⟨⟨answer, db₁⟩, htry, hbody⟩ := bind_ok.mp hbody
  cases answer with
  | none =>
    simp only [Except.ok.injEq, Prod.mk.injEq] at hbody
    rw [← hbody.1, ← hbody.2]
    exact tryClaimCascading_leases htry
  | some lease =>
    obtain ⟨db₂, hupsert, hbody⟩ := bind_ok.mp hbody
    simp only [Except.ok.injEq, Prod.mk.injEq] at hbody
    rw [← hbody.1, ← hbody.2, upsertClaimMetadata_leases hupsert]
    exact tryClaimCascading_leases htry

theorem tryClaim_some_fresh {db db' : LeaseTable} {lease : IssueLease}
    (h : tryClaim now repo issueNumber configId db = .ok (some lease, db')) :
    lease.configId = configId ∧ lease.runId = none := by
  obtain ⟨_, _, _, hnone | hsome⟩ := tryClaim_cases h
  · simp at hnone
  · rw [Option.some.inj hsome.1]
    exact ⟨rfl, rfl⟩

/-! ### The invariant -/

/-- The claim still has the lease it took. -/
structure PendingClaim.Holds (claim : PendingClaim) (db : LeaseTable) (row : IssueLease) :
    Prop where
  mem : row ∈ db
  leaseId : row.leaseId = claim.leaseId
  configId : row.configId = claim.configId
  status : row.status = .claimed
  runId : row.runId = none

/-- What holds between any two statements of the daemons. -/
structure ClaimInv (configs : String → DiscoveryConfig) (s : ClaimSystem) : Prop where
  /-- Every claim under way has its lease. -/
  owned : ∀ claim ∈ s.pending, ∃ row, claim.Holds s.db.leases row
  /-- No two of them have one lease. -/
  apart : (s.pending.map PendingClaim.leaseId).Nodup
  /-- The launches that were granted are within the limit. -/
  bounded : ∀ configId, s.grantedActive configId ≤ (configs configId).maxRuns

theorem PendingClaim.Holds.eq {db : LeaseTable} {other : IssueLease} (h : claim.Holds db row)
    (hother : other ∈ db) (hid : other.leaseId = claim.leaseId) :
    other = row :=
  eq_of_clash hother h.mem (Or.inl (hid.trans h.leaseId.symm))

theorem ne_of_mem_eraseIdx {pending : List PendingClaim} {other : PendingClaim}
    (hpending : (pending.map PendingClaim.leaseId).Nodup) (hclaim : pending[i]? = some claim)
    (hother : other ∈ pending.eraseIdx i) :
    other.leaseId ≠ claim.leaseId := by
  obtain ⟨j, hne, hat⟩ := List.mem_eraseIdx_iff_getElem?.mp hother
  obtain ⟨hi, rfl⟩ := List.getElem?_eq_some_iff.mp hclaim
  obtain ⟨hj, rfl⟩ := List.getElem?_eq_some_iff.mp hat
  intro hid
  have hinj := List.nodup_iff_injective_getElem.mp hpending
  have hsame := @hinj ⟨j, by simpa using hj⟩ ⟨i, by simpa using hi⟩ (by simpa using hid)
  simpa using hne (congrArg Fin.val hsame)

theorem set_of_getElem? {α : Type} {l : List α} {a : α} (h : l[i]? = some a) :
    l.set i a = l := by
  obtain ⟨hi, rfl⟩ := List.getElem?_eq_some_iff.mp h
  exact List.set_getElem_self hi

/-- What makes a lease count as granted and active. -/
def ClaimSystem.counts (s : ClaimSystem) (configId : String) (row : IssueLease) : Bool :=
  row.configId == configId && (row.status == .claimed || row.status == .running)
    && s.isGranted row

theorem counts_iff :
    s.counts configId row = true ↔
      row.configId = configId ∧ (row.status = .claimed ∨ row.status = .running)
        ∧ s.isGranted row = true := by
  simp [ClaimSystem.counts, and_assoc]

theorem isGranted_iff :
    s.isGranted row = true ↔
      (∃ launch ∈ s.launched, launch.leaseId = row.leaseId
        ∧ row.runId = some launch.request.runId)
      ∨ ∃ claim ∈ s.pending, claim.leaseId = row.leaseId ∧ claim.isGranted = true := by
  simp [ClaimSystem.isGranted]

theorem decideClaim_ok {active : Nat} {bases : DaemonPathBases} {paths : PerRunPaths}
    (h : decideClaim cfg active bases issueNumber runId = .ok paths) : active ≤ cfg.maxRuns := by
  unfold decideClaim at h
  split at h
  · simp at h
  · rename_i hle
    exact Nat.le_of_not_lt hle

theorem settleClaim_rows (now : Timestamp) (leaseId runId : String)
    (decision : Except SkipReason PerRunPaths) (db : ClaimDb) :
    ∃ f, (settleClaim now true leaseId runId decision db).leases.rows
        = db.leases.rows.map (Table.set (fun row => row.leaseId == leaseId) f)
      ∧ ∀ row, (f row).leaseId = row.leaseId ∧ (f row).configId = row.configId
          ∧ ((f row).status = .claimed ∨ (f row).status = .running →
              ∃ paths, decision = .ok paths) := by
  cases decision with
  | error reason => exact ⟨_, rfl, fun row => ⟨rfl, rfl, by simp⟩⟩
  | ok paths => exact ⟨_, rfl, fun row => ⟨rfl, rfl, fun _ => ⟨paths, rfl⟩⟩⟩

theorem grantedActive_eq (configId : String) :
    s.grantedActive configId = s.db.leases.count (s.counts configId) := rfl

theorem launched_leaseId {decision : Except SkipReason PerRunPaths} {launch : ClaimedLaunch}
    (h : launch ∈ (decision.toOption.map (claimedLaunch cfg claim.configId claim.issueNumber
      claim.leaseId claim.runId claim.configRoot)).toList) : launch.leaseId = claim.leaseId := by
  cases decision with
  | error reason => simp [Except.toOption] at h
  | ok paths =>
    simp only [Except.toOption, Option.map_some, Option.toList_some, List.mem_singleton] at h
    rw [h]
    rfl

section

variable (h : ClaimInv configs s)

include h

theorem ClaimInv.of_leases (hsame : db.leases = s.db.leases) :
    ClaimInv configs { s with db := db } := by
  refine ⟨?_, h.apart, ?_⟩
  · intro claim hclaim
    obtain ⟨row, hrow⟩ := h.owned claim hclaim
    refine ⟨row, ?_⟩
    show claim.Holds db.leases row
    rw [hsame]
    exact hrow
  · intro c
    show db.leases.count (s.counts c) ≤ _
    rw [hsame]
    exact h.bounded c

/-! ### One lemma for each statement -/

theorem claimInv_acquire {bases : DaemonPathBases} {configRoot : String} :
    ClaimInv configs
      (claimStep configs s (.acquire now configId issueNumber bases configRoot runId)) := by
  simp only [claimStep]
  split
  · rename_i lease db hacquire
    have htry := acquireLeaseWithReceipt_ok hacquire
    obtain ⟨hreclaimable, ⟨hmem, hcovers, hstatus⟩, hkeep⟩ := tryClaim_some htry
    obtain ⟨hconfig, hrun⟩ := tryClaim_some_fresh htry
    -- A claim under way has a claimed lease, which is not the one that was taken over.
    have hother : ∀ claim ∈ s.pending, ∃ row, claim.Holds db.leases row
        ∧ row.covers ((configs configId).repo.getD "") issueNumber = false := by
      intro claim hclaim
      obtain ⟨row, hrow⟩ := h.owned claim hclaim
      have hnot : row.covers ((configs configId).repo.getD "") issueNumber = false := by
        by_contra hc
        have hr := hreclaimable row hrow.mem (by simpa using hc)
        rw [hrow.status] at hr
        simp [LeaseStatus.reclaimable] at hr
      exact ⟨row, ⟨(hkeep row hnot).mpr hrow.mem, hrow.leaseId, hrow.configId, hrow.status,
        hrow.runId⟩, hnot⟩
    have hfresh : ∀ claim ∈ s.pending, claim.leaseId ≠ lease.leaseId := by
      intro claim hclaim hid
      obtain ⟨row, hrow, hnot⟩ := hother claim hclaim
      rw [← hrow.eq hmem hid.symm, hcovers] at hnot
      simp at hnot
    refine ⟨?_, ?_, ?_⟩
    · intro claim hclaim
      rcases List.mem_append.mp hclaim with hold | hnew
      · obtain ⟨row, hrow, _⟩ := hother claim hold
        exact ⟨row, hrow⟩
      · rw [List.mem_singleton.mp hnew]
        exact ⟨lease, hmem, rfl, hconfig, hstatus, hrun⟩
    · rw [List.map_append]
      refine List.nodup_append.mpr ⟨h.apart, List.nodup_singleton _, ?_⟩
      intro id hid new hnew
      obtain ⟨claim, hclaim, rfl⟩ := List.mem_map.mp hid
      rw [List.mem_singleton.mp hnew]
      exact hfresh claim hclaim
    · intro c
      refine Nat.le_trans ?_ (h.bounded c)
      rw [grantedActive_eq, grantedActive_eq]
      refine tryClaim_count_le htry ?_ ?_
      · by_contra hcounts
        have hgranted := (counts_iff.mp (by simpa using hcounts)).2.2
        rcases isGranted_iff.mp hgranted with ⟨launch, _, _, hrunId⟩ | ⟨claim, hclaim, hid, hok⟩
        · rw [hrun] at hrunId
          simp at hrunId
        · rcases List.mem_append.mp hclaim with hold | hnew
          · exact hfresh claim hold hid
          · rw [List.mem_singleton.mp hnew] at hok
            simp [PendingClaim.isGranted] at hok
      · intro row _ _ hcounts
        obtain ⟨hc, hactive, hgranted⟩ := counts_iff.mp hcounts
        refine counts_iff.mpr ⟨hc, hactive, isGranted_iff.mpr ?_⟩
        rcases isGranted_iff.mp hgranted with hlaunched | ⟨claim, hclaim, hid, hok⟩
        · exact Or.inl hlaunched
        · rcases List.mem_append.mp hclaim with hold | hnew
          · exact Or.inr ⟨claim, hold, hid, hok⟩
          · rw [List.mem_singleton.mp hnew] at hok
            simp [PendingClaim.isGranted] at hok
  · rename_i answer db hlost hacquire
    refine h.of_leases ?_
    match answer, hlost, hacquire with
    | .ok (some lease), hlost, _ => exact absurd rfl (hlost lease)
    | .ok none, _, hacquire => exact tryClaim_none (acquireLeaseWithReceipt_ok hacquire)
    | .error e, _, hacquire => rw [atomically_error hacquire]

theorem claimInv_count : ClaimInv configs (claimStep configs s (.count i)) := by
  simp only [claimStep]
  split
  · exact h
  · rename_i claim hclaim
    split
    · exact h
    · generalize hdecision : decideClaim (configs claim.configId)
        (countActiveLeasesForConfig s.db.leases claim.configId) claim.bases claim.issueNumber
        claim.runId = decision
      have hmem : claim ∈ s.pending := List.mem_of_getElem? hclaim
      refine ⟨?_, ?_, ?_⟩
      · intro other hother
        rcases List.mem_or_eq_of_mem_set hother with hold | rfl
        · exact h.owned other hold
        · obtain ⟨row, hrow⟩ := h.owned claim hmem
          exact ⟨row, hrow.mem, hrow.leaseId, hrow.configId, hrow.status, hrow.runId⟩
      · rw [List.map_set]
        have hsame : (s.pending.map PendingClaim.leaseId)[i]? = some claim.leaseId := by
          rw [List.getElem?_map, hclaim]
          rfl
        show ((s.pending.map PendingClaim.leaseId).set i claim.leaseId).Nodup
        rw [set_of_getElem? hsame]
        exact h.apart
      · intro c
        rw [grantedActive_eq]
        -- Only the claim that has counted can be granted anything by this.
        have hgrants : ∀ row, s.isGranted row = false →
            ClaimSystem.isGranted { s with
              pending := s.pending.set i { claim with decision := some decision } } row = true →
            row.leaseId = claim.leaseId ∧ ∃ paths, decision = .ok paths := by
          intro row hnot hgranted
          rcases isGranted_iff.mp hgranted with hlaunched | ⟨other, hother, hid, hok⟩
          · have hbefore : s.isGranted row = true := isGranted_iff.mpr (Or.inl hlaunched)
            rw [hbefore] at hnot
            simp at hnot
          rcases List.mem_or_eq_of_mem_set hother with hold | rfl
          · have hbefore : s.isGranted row = true :=
              isGranted_iff.mpr (Or.inr ⟨other, hold, hid, hok⟩)
            rw [hbefore] at hnot
            simp at hnot
          · refine ⟨hid.symm, ?_⟩
            cases decision with
            | error reason => simp [PendingClaim.isGranted] at hok
            | ok paths => exact ⟨paths, rfl⟩
        by_cases hbounded : ∀ row ∈ s.db.leases, row.configId = c →
            ¬ (row.leaseId = claim.leaseId ∧ ∃ paths, decision = .ok paths)
        · refine Nat.le_trans (count_le_count fun row hrow hcounts => ?_) (h.bounded c)
          obtain ⟨hc, hactive, hgranted⟩ := counts_iff.mp hcounts
          refine counts_iff.mpr ⟨hc, hactive, ?_⟩
          by_contra hnot
          exact hbounded row hrow hc (hgrants row (by simpa using hnot) hgranted)
        · push Not at hbounded
          obtain ⟨row, hrow, hc, hid, paths, hok⟩ := hbounded
          obtain ⟨held, hheld⟩ := h.owned claim hmem
          have hconfig : claim.configId = c := by
            rw [← hc, hheld.eq hrow hid, hheld.configId]
          rw [hok] at hdecision
          have hcount := decideClaim_ok hdecision
          rw [hconfig] at hcount
          refine Nat.le_trans (count_le_count fun row _ hcounts => ?_) hcount
          obtain ⟨hc, hactive, _⟩ := counts_iff.mp hcounts
          simpa using ⟨hc, hactive⟩

theorem claimInv_settle : ClaimInv configs (claimStep configs s (.settle now i)) := by
  simp only [claimStep]
  split
  · exact h
  · rename_i claim hclaim
    split
    · exact h
    · rename_i decision hdecision
      have hmem : claim ∈ s.pending := List.mem_of_getElem? hclaim
      obtain ⟨held, hheld⟩ := h.owned claim hmem
      obtain ⟨f, hrows, hmoved⟩ := settleClaim_rows now claim.leaseId claim.runId decision s.db
      refine ⟨?_, ?_, ?_⟩
      · intro other hother
        have hne := ne_of_mem_eraseIdx h.apart hclaim hother
        obtain ⟨row, hrow⟩ := h.owned other (List.mem_of_mem_eraseIdx hother)
        refine ⟨row, (mem_set hrows).mpr ⟨row, hrow.mem, set_neg ?_⟩, hrow.leaseId,
          hrow.configId, hrow.status, hrow.runId⟩
        simpa [hrow.leaseId] using hne
      · exact h.apart.sublist ((List.eraseIdx_sublist _ _).map _)
      · intro c
        refine Nat.le_trans ?_ (h.bounded c)
        refine count_set_le hrows fun row hrow hcounts => ?_
        obtain ⟨hc, hactive, hgranted⟩ := counts_iff.mp hcounts
        by_cases hid : row.leaseId = claim.leaseId
        · -- The claim's own lease is active afterwards only when it had been granted before.
          rw [set_pos (by simpa using hid)] at hc hactive
          obtain ⟨paths, hok⟩ := (hmoved row).2.2 hactive
          have hrow : row.status = .claimed := by rw [hheld.eq hrow hid, hheld.status]
          refine counts_iff.mpr ⟨(hmoved row).2.1.symm.trans hc, Or.inl hrow, ?_⟩
          refine isGranted_iff.mpr (Or.inr ⟨claim, hmem, hid.symm, ?_⟩)
          simp [PendingClaim.isGranted, hdecision, hok]
        · rw [set_neg (by simpa using hid)] at hc hactive hgranted
          refine counts_iff.mpr ⟨hc, hactive, isGranted_iff.mpr ?_⟩
          rcases isGranted_iff.mp hgranted with ⟨launch, hlaunch, hlid, hrun⟩ | ⟨other, hother, hok⟩
          · refine Or.inl ⟨launch, ?_, hlid, hrun⟩
            rcases List.mem_append.mp hlaunch with hold | hnew
            · exact hold
            · rw [launched_leaseId hnew] at hlid
              exact absurd hlid.symm hid
          · exact Or.inr ⟨other, List.mem_of_mem_eraseIdx hother, hok⟩

theorem claimInv_finish {leaseId : String}
    {status : { status : LeaseStatus // status.isActive = false }}
    {expectedStatuses : List LeaseStatus} :
    ClaimInv configs (claimStep configs s (.finish now leaseId runId status expectedStatuses)) := by
  simp only [claimStep]
  split
  · rename_i applied leases hfinish
    obtain ⟨hrows, _⟩ := updateLeaseStatusConditional_ok hfinish
    refine ⟨?_, h.apart, ?_⟩
    · intro claim hclaim
      obtain ⟨row, hrow⟩ := h.owned claim hclaim
      refine ⟨row, (mem_set hrows).mpr ⟨row, hrow.mem, set_neg ?_⟩, hrow.leaseId,
        hrow.configId, hrow.status, hrow.runId⟩
      simp [movable, hrow.runId]
    · intro c
      refine Nat.le_trans ?_ (h.bounded c)
      refine count_set_le hrows fun row _ hcounts => ?_
      by_cases hmoved : movable (· == some runId) leaseId expectedStatuses row = true
      · rw [set_pos hmoved] at hcounts
        obtain ⟨_, hactive, _⟩ := counts_iff.mp hcounts
        have hinactive : status.val ≠ .claimed ∧ status.val ≠ .running := by
          simpa [LeaseStatus.isActive] using status.property
        rcases hactive with hclaimed | hrunning
        · exact absurd hclaimed hinactive.1
        · exact absurd hrunning hinactive.2
      · rw [set_neg (by simpa using hmoved)] at hcounts
        exact hcounts
  · exact h

end

theorem claimInv_step (s : ClaimSystem) (call : ClaimCall) (h : ClaimInv configs s) :
    ClaimInv configs ((claimMachine configs).next s call) := by
  cases call with
  | acquire now configId issueNumber bases configRoot runId => exact claimInv_acquire h
  | count claim => exact claimInv_count h
  | settle now claim => exact claimInv_settle h
  | finish now leaseId runId status expectedStatuses => exact claimInv_finish h

theorem claimInv_start (db : ClaimDb) : ClaimInv configs { db := db } := by
  refine ⟨by simp, by simp, ?_⟩
  intro c
  have hnone : ClaimSystem.grantedActive { db := db } c = 0 := by
    by_contra hpos
    obtain ⟨row, _, hcounts⟩ := count_pos_iff.mp (Nat.pos_of_ne_zero hpos)
    have hgranted := (counts_iff.mp hcounts).2.2
    simp [ClaimSystem.isGranted] at hgranted
  rw [hnone]
  exact Nat.zero_le _

/-- **At no moment are there more leases of a config that were granted a launch and are
claimed or running than the config allows**, whatever order the statements of any number of
daemons come in. -/
theorem granted_launches_within_limit (configs : String → DiscoveryConfig) (db : ClaimDb)
    (calls : List ClaimCall) (configId : String) :
    ((claimMachine configs).run { db := db } calls).grantedActive configId
      ≤ (configs configId).maxRuns :=
  (StateMachine.run_keeps (P := ClaimInv configs) claimInv_step (claimInv_start db)
    calls).bounded configId

end Luther
