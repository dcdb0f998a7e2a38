/-
No two daemons work on one issue.

The table admits one lease for an issue, whatever is done to it.  That alone does
not keep a second daemon off: a claim may take over the lease that is there.  What
keeps it off is that a claim takes over a lease only in a reclaimable status, and
that no call ever removes a lease, so that an issue once claimed has a lease whose
status can be looked at.
-/
import Luther.Persistence.Leases

namespace Luther

open Sql Sql.Table

variable {repo : String} {issueNumber : UInt64} {db db' : LeaseTable}

namespace IssueLease

theorem covers_iff {lease : IssueLease} :
    lease.covers repo issueNumber = true ↔
      lease.issueRepo = repo ∧ lease.issueNumber = issueNumber := by
  simp [covers]

theorem clash_of_covers (a b : IssueLease) (ha : a.covers repo issueNumber)
    (hb : b.covers repo issueNumber) : Clash a b := by
  rw [covers_iff] at ha hb
  exact Or.inr ⟨ha.1.trans hb.1.symm, ha.2.trans hb.2.symm⟩

end IssueLease

/-! ### No call removes the lease of an issue -/

/-- Every issue that has a lease before has one after. -/
def KeepsIssues (db db' : LeaseTable) : Prop :=
  ∀ a ∈ db, ∃ b ∈ db', b.issueRepo = a.issueRepo ∧ b.issueNumber = a.issueNumber

instance : Std.Refl KeepsIssues := ⟨fun _ a ha => ⟨a, ha, rfl, rfl⟩⟩

variable {lease : IssueLease} {configId leaseId : String} {now : Timestamp} {applied : Bool}
  {expected : List LeaseStatus} {newRunId : Option String} {status : LeaseStatus}

theorem keepsIssues_insert (h : db.insert lease = some db') :
    KeepsIssues db db' :=
  fun a ha => ⟨a, (mem_insert h a).mpr (Or.inl ha), rfl, rfl⟩

variable {p : IssueLease → Bool} {f : IssueLease → IssueLease} {claimed : Option String}
  {row : IssueLease} {guard : Option String → Bool}

theorem keepsIssues_map (h : db'.rows = db.rows.map (Table.set p f))
    (hissue : ∀ a, (f a).issueRepo = a.issueRepo ∧ (f a).issueNumber = a.issueNumber) :
    KeepsIssues db db' := by
  intro a ha
  refine ⟨Table.set p f a, ?_, ?_, ?_⟩
  · rw [mem_def, h]
    exact List.mem_map_of_mem ha
  · exact set_column IssueLease.issueRepo (fun a => (hissue a).1) a
  · exact set_column IssueLease.issueNumber (fun a => (hissue a).2) a

theorem replyOf_rel {R : LeaseTable → LeaseTable → Prop} [Std.Refl R] {α : Type}
    {wrap : α → LeaseReply} {body : LeaseTable → Except Error (α × LeaseTable)}
    (h : ∀ a db', body db = .ok (a, db') → R db db') : R db (replyOf wrap body db).2 := by
  unfold replyOf
  split
  · rename_i a db' hbody
    exact h a db' (atomically_ok.mp hbody)
  · rename_i e db' hbody
    rw [atomically_error hbody]
    exact Std.Refl.refl db

theorem keepsIssues_createLease {u : Unit} (h : createLease lease db = .ok (u, db')) :
    KeepsIssues db db' := by
  unfold createLease at h
  obtain ⟨_, _, h⟩ := bind_ok.mp h
  split at h
  · rename_i t hins
    simp only [Except.ok.injEq, Prod.mk.injEq] at h
    rw [← h.2]
    exact keepsIssues_insert hins
  · simp at h

/-! ### What a claim does -/

theorem upsertClaim_cases (h : upsertClaim lease db = .ok (claimed, db')) :
    ((∀ row ∈ db, row.covers lease.issueRepo lease.issueNumber = false) ∧
        db.insert lease = some db' ∧ claimed = some lease.leaseId) ∨
    ((∃ row ∈ db, row.covers lease.issueRepo lease.issueNumber = true ∧
        row.status ∈ LeaseStatus.reclaimable) ∧
        db.tryUpdate (IssueLease.covers lease.issueRepo lease.issueNumber) (supersede lease)
          = some db' ∧ claimed = some lease.leaseId) ∨
    ((∃ row ∈ db, row.covers lease.issueRepo lease.issueNumber = true ∧
        row.status ∉ LeaseStatus.reclaimable) ∧ db' = db ∧ claimed = none) := by
  unfold upsertClaim at h
  cases hfind : db.find? (IssueLease.covers lease.issueRepo lease.issueNumber) with
  | none =>
    simp only [hfind] at h
    refine Or.inl ⟨Table.find?_none.mp hfind, ?_⟩
    split at h
    · rename_i t hins
      simp only [Except.ok.injEq, Prod.mk.injEq] at h
      exact ⟨by rw [hins, h.2], h.1.symm⟩
    · simp at h
  | some row =>
    obtain ⟨hmem, hcovers⟩ := Table.find?_some hfind
    simp only [hfind] at h
    by_cases hreclaimable : row.status ∈ LeaseStatus.reclaimable
    · rw [if_pos (List.contains_iff_mem.mpr hreclaimable)] at h
      refine Or.inr (Or.inl ⟨⟨row, hmem, hcovers, hreclaimable⟩, ?_⟩)
      split at h
      · rename_i t hupd
        simp only [Except.ok.injEq, Prod.mk.injEq] at h
        exact ⟨by rw [hupd, h.2], h.1.symm⟩
      · simp at h
    · rw [if_neg (by simpa using hreclaimable)] at h
      simp only [Except.ok.injEq, Prod.mk.injEq] at h
      exact Or.inr (Or.inr ⟨⟨row, hmem, hcovers, hreclaimable⟩, h.2.symm, h.1.symm⟩)

theorem issueNumberToSqlI64_ok {n : Int} (h : issueNumberToSqlI64 issueNumber = .ok n) :
    issueNumber.toNat < 2 ^ 63 := by
  unfold issueNumberToSqlI64 at h
  split at h
  · assumption
  · simp at h

theorem tryClaim_cases {claimed : Option IssueLease}
    (h : tryClaim now repo issueNumber configId db = .ok (claimed, db')) :
    issueNumber.toNat < 2 ^ 63 ∧
    ∃ leaseId, upsertClaim (claimedLease now repo issueNumber configId) db = .ok (leaseId, db') ∧
      (claimed = none ∧ leaseId ≠ some (claimedLease now repo issueNumber configId).leaseId ∨
        claimed = some (claimedLease now repo issueNumber configId) ∧ leaseId ≠ none) := by
  unfold tryClaim at h
  dsimp only at h
  obtain ⟨n, hn, h⟩ := bind_ok.mp h
  obtain ⟨⟨leaseId, t⟩, hup, h⟩ := bind_ok.mp h
  refine ⟨issueNumberToSqlI64_ok hn, leaseId, ?_⟩
  cases leaseId with
  | none =>
    simp only [Except.ok.injEq, Prod.mk.injEq] at h
    exact ⟨by rw [hup, h.2], Or.inl ⟨h.1.symm, by simp⟩⟩
  | some id =>
    dsimp only at h
    by_cases hid : id = (claimedLease now repo issueNumber configId).leaseId
    · rw [if_pos hid] at h
      simp only [Except.ok.injEq, Prod.mk.injEq] at h
      exact ⟨by rw [hup, h.2], Or.inr ⟨h.1.symm, by simp⟩⟩
    · rw [if_neg hid] at h
      simp only [Except.ok.injEq, Prod.mk.injEq] at h
      exact ⟨by rw [hup, h.2], Or.inl ⟨h.1.symm, by simpa using hid⟩⟩

theorem keepsIssues_upsertClaim
    (h : upsertClaim lease db = .ok (claimed, db')) : KeepsIssues db db' := by
  rcases upsertClaim_cases h with ⟨_, hins, _⟩ | ⟨_, hupd, _⟩ | ⟨_, rfl, _⟩
  · exact keepsIssues_insert hins
  · exact keepsIssues_map (tryUpdate_rows hupd) fun _ => ⟨rfl, rfl⟩
  · exact Std.Refl.refl db'

theorem keepsIssues_tryClaim {claimed : Option IssueLease}
    (h : tryClaim now repo issueNumber configId db = .ok (claimed, db')) : KeepsIssues db db' := by
  obtain ⟨_, _, hup, _⟩ := tryClaim_cases h
  exact keepsIssues_upsertClaim hup

section

variable (h : tryClaim now repo issueNumber configId db = .ok (some lease, db'))

include h

theorem tryClaim_upserted : lease = claimedLease now repo issueNumber configId
    ∧ ∃ leaseId, upsertClaim lease db = .ok (leaseId, db') ∧ leaseId ≠ none := by
  obtain ⟨_, leaseId, hup, hanswer⟩ := tryClaim_cases h
  rcases hanswer with ⟨hn, _⟩ | ⟨hs, hid⟩
  · simp at hn
  · obtain rfl := Option.some.inj hs
    exact ⟨rfl, leaseId, hup, hid⟩

theorem tryClaim_some :
    (∀ row ∈ db, row.covers repo issueNumber = true → row.status ∈ LeaseStatus.reclaimable) ∧
    (lease ∈ db' ∧ lease.covers repo issueNumber = true ∧ lease.status = .claimed) ∧
    ∀ row, row.covers repo issueNumber = false → (row ∈ db' ↔ row ∈ db) := by
  obtain ⟨hlease, leaseId, hup, hid⟩ := tryClaim_upserted h
  have hcovers : lease.covers repo issueNumber = true := by
    rw [hlease, IssueLease.covers_iff]; exact ⟨rfl, rfl⟩
  have hstatus : lease.status = .claimed := by rw [hlease]; rfl
  rcases upsertClaim_cases hup with ⟨habsent, hins, _⟩ | ⟨⟨row, hrow, hc, hr⟩, hupd, _⟩ | ⟨_, _, hnone⟩
  · have hissue : lease.issueRepo = repo ∧ lease.issueNumber = issueNumber :=
      IssueLease.covers_iff.mp hcovers
    rw [hissue.1, hissue.2] at habsent
    refine ⟨?_, ⟨(mem_insert hins lease).mpr (Or.inr rfl), hcovers, hstatus⟩, ?_⟩
    · intro row hrow hc
      rw [habsent row hrow] at hc
      simp at hc
    · intro row hc
      rw [mem_insert hins row]
      refine or_iff_left ?_
      rintro rfl
      rw [hcovers] at hc
      simp at hc
  · have hissue : lease.issueRepo = repo ∧ lease.issueNumber = issueNumber :=
      IssueLease.covers_iff.mp hcovers
    rw [hissue.1, hissue.2] at hc hupd
    refine ⟨?_, ⟨?_, hcovers, hstatus⟩, ?_⟩
    · intro row' hrow' hc'
      rw [eq_of_clash hrow' hrow (IssueLease.clash_of_covers row' row hc' hc)]
      exact hr
    · refine (mem_set (tryUpdate_rows hupd)).mpr ⟨row, hrow, ?_⟩
      obtain ⟨hrepo, hnumber⟩ := IssueLease.covers_iff.mp hc
      rw [set_pos hc]
      unfold supersede
      rw [hrepo, hnumber, ← hissue.1, ← hissue.2]
    · intro row' hc'
      rw [mem_set (tryUpdate_rows hupd)]
      constructor
      · rintro ⟨a, ha, rfl⟩
        have hsame : a.covers repo issueNumber = false := by
          have : (Table.set (IssueLease.covers repo issueNumber) (supersede lease) a).covers
              repo issueNumber = a.covers repo issueNumber :=
            set_column (IssueLease.covers repo issueNumber) (f := supersede lease)
              (fun _ => rfl) a
          rw [← this, hc']
        rw [set_neg hsame]
        exact ha
      · intro hmem
        exact ⟨row', hmem, set_neg hc'⟩
  · exact absurd hnone hid

omit h in
theorem tryClaim_blocked (hrow : row ∈ db)
    (hcovers : row.covers repo issueNumber) (hblocks : row.status.blocksDuplicateWork)
    (hnumber : issueNumber.toNat < 2 ^ 63) :
    tryClaim now repo issueNumber configId db = .ok (none, db) := by
  have hfind : db.find? (IssueLease.covers repo issueNumber) = some row :=
    Table.find?_eq_some_of_key IssueLease.clash_of_covers hrow hcovers
  have hup : upsertClaim (claimedLease now repo issueNumber configId) db = .ok (none, db) := by
    have hhere : db.find? (IssueLease.covers
        (claimedLease now repo issueNumber configId).issueRepo
        (claimedLease now repo issueNumber configId).issueNumber) = some row := hfind
    unfold upsertClaim
    dsimp only
    rw [hhere]
    dsimp only
    rw [if_neg (by simpa [LeaseStatus.blocksDuplicateWork] using hblocks)]
  have hnum : issueNumberToSqlI64 issueNumber = .ok (issueNumber.toNat : Int) := by
    unfold issueNumberToSqlI64
    rw [if_pos hnumber]
  unfold tryClaim
  show (issueNumberToSqlI64 issueNumber >>= fun _ =>
    upsertClaim (claimedLease now repo issueNumber configId) db >>= _) = _
  rw [hnum, hup]
  rfl

theorem tryClaim_count_le {q q' : IssueLease → Bool} (hnew : q' lease = false)
    (hold : ∀ row ∈ db, row.covers repo issueNumber = false → q' row = true → q row = true) :
    db'.count q' ≤ db.count q := by
  obtain ⟨hlease, leaseId, hup, hid⟩ := tryClaim_upserted h
  have hissue : lease.issueRepo = repo ∧ lease.issueNumber = issueNumber := by
    rw [hlease]
    exact ⟨rfl, rfl⟩
  rcases upsertClaim_cases hup with ⟨habsent, hins, _⟩ | ⟨_, hupd, _⟩ | ⟨_, _, hnone⟩
  · rw [hissue.1, hissue.2] at habsent
    rw [count_insert_of_neg hins hnew]
    exact count_le_count fun row hrow => hold row hrow (habsent row hrow)
  · rw [hissue.1, hissue.2] at hupd
    refine count_set_le (tryUpdate_rows hupd) fun row hrow hq => ?_
    by_cases hcovers : row.covers repo issueNumber = true
    · -- The row that is taken over is the new lease now.
      obtain ⟨hrepo, hnumber⟩ := IssueLease.covers_iff.mp hcovers
      have hsame : supersede lease row = lease := by
        unfold supersede
        rw [hrepo, hnumber, ← hissue.1, ← hissue.2]
      rw [set_pos hcovers, hsame, hnew] at hq
      simp at hq
    · have hother : row.covers repo issueNumber = false := by simpa using hcovers
      rw [set_neg hother] at hq
      exact hold row hrow hother hq
  · exact absurd hnone hid

end

theorem tryClaim_none (h : tryClaim now repo issueNumber configId db = .ok (none, db')) :
    db' = db := by
  obtain ⟨_, leaseId, hup, hanswer⟩ := tryClaim_cases h
  have hother : leaseId ≠ some (claimedLease now repo issueNumber configId).leaseId := by
    rcases hanswer with ⟨_, hne⟩ | ⟨hs, _⟩
    · exact hne
    · simp at hs
  rcases upsertClaim_cases hup with ⟨_, _, hid⟩ | ⟨_, _, hid⟩ | ⟨_, hsame, _⟩
  · exact absurd hid hother
  · exact absurd hid hother
  · exact hsame

/-! ### What a conditional transition does -/

/-- The leases that a conditional transition moves. -/
def movable (guard : Option String → Bool) (leaseId : String) (expected : List LeaseStatus)
    (row : IssueLease) : Bool :=
  row.leaseId == leaseId && expected.contains row.status && guard row.runId

/-- A lease after a conditional transition has moved it. -/
def movedLease (now : Timestamp) (status : LeaseStatus) (newRunId : Option String)
    (row : IssueLease) : IssueLease :=
  { row with
    status := status
    runId := newRunId.or row.runId
    updatedAt := now
    heartbeatAt := now }

/-- **A conditional transition moves the leases it may move, and says whether there was one.** -/
theorem conditionalTransition_ok
    (h : conditionalTransition guard now leaseId status expected newRunId db = .ok (applied, db')) :
    db'.rows = db.rows.map
        (Table.set (movable guard leaseId expected) (movedLease now status newRunId))
      ∧ (applied = true ↔ ∃ row ∈ db, movable guard leaseId expected row = true) := by
  unfold conditionalTransition at h
  split at h
  · simp at h
  split at h
  · rename_i hempty
    simp only [Except.ok.injEq, Prod.mk.injEq] at h
    obtain ⟨rfl, rfl⟩ := h
    have hnone : ∀ row : IssueLease, movable guard leaseId expected row = false := by
      intro row
      rw [hempty]
      simp [movable]
    refine ⟨?_, by simp [hnone]⟩
    rw [List.map_congr_left fun row _ => set_neg (hnone row), List.map_id']
  · simp only [Except.ok.injEq, Prod.mk.injEq] at h
    obtain ⟨rfl, rfl⟩ := h
    refine ⟨rfl, ?_⟩
    rw [decide_eq_true_iff]
    exact count_pos_iff

theorem updateLeaseStatusConditional_ok {runId : String}
    (h : updateLeaseStatusConditional now leaseId status expected newRunId (some runId) db
      = .ok (applied, db')) :
    db'.rows = db.rows.map (Table.set (movable (· == some runId) leaseId expected)
        (movedLease now status newRunId))
      ∧ (applied = true ↔ ∃ row ∈ db, movable (· == some runId) leaseId expected row = true) :=
  conditionalTransition_ok h

/-! ### Any number of daemons -/

/-- The same leases of the same issues, whatever state they are in. -/
def SameLeases (db db' : LeaseTable) : Prop :=
  db'.rows.map (fun row => (row.leaseId, row.issueRepo, row.issueNumber))
    = db.rows.map fun row => (row.leaseId, row.issueRepo, row.issueNumber)

instance : Std.Refl SameLeases := ⟨fun _ => rfl⟩

theorem SameLeases.symm (h : SameLeases db db') : SameLeases db' db := Eq.symm h

theorem SameLeases.mem (h : SameLeases db db') (hrow : row ∈ db') :
    ∃ before ∈ db, before.leaseId = row.leaseId ∧ before.issueRepo = row.issueRepo
      ∧ before.issueNumber = row.issueNumber := by
  have hkey : (row.leaseId, row.issueRepo, row.issueNumber)
      ∈ db'.rows.map fun row => (row.leaseId, row.issueRepo, row.issueNumber) :=
    List.mem_map_of_mem hrow
  rw [h] at hkey
  obtain ⟨before, hbefore, hsame⟩ := List.mem_map.mp hkey
  simp only [Prod.mk.injEq] at hsame
  exact ⟨before, hbefore, hsame.1, hsame.2.1, hsame.2.2⟩

theorem SameLeases.keepsIssues (h : SameLeases db db') : KeepsIssues db db' := by
  intro row hrow
  obtain ⟨after, hafter, _, hissue⟩ := h.symm.mem hrow
  exact ⟨after, hafter, hissue⟩

theorem sameLeases_map (h : db'.rows = db.rows.map (Table.set p f))
    (hkey : ∀ row, (f row).leaseId = row.leaseId ∧ (f row).issueRepo = row.issueRepo
      ∧ (f row).issueNumber = row.issueNumber) : SameLeases db db' := by
  unfold SameLeases
  rw [h, List.map_map]
  refine List.map_congr_left fun row _ => ?_
  refine set_column
    (fun row : IssueLease => (row.leaseId, row.issueRepo, row.issueNumber)) (f := f) ?_ row
  intro row
  obtain ⟨hid, hrepo, hnumber⟩ := hkey row
  rw [hid, hrepo, hnumber]

theorem sameLeases_conditionalTransition
    (h : conditionalTransition guard now leaseId status expected newRunId db = .ok (applied, db')) :
    SameLeases db db' :=
  sameLeases_map (conditionalTransition_ok h).1 fun _ => ⟨rfl, rfl, rfl⟩

/-- The reading that classifies a rejected transition writes nothing. -/
theorem conditionalOutcome_transition {expectedRunId : Option String}
    {outcome : ConditionalLeaseStatusOutcome}
    (h : updateLeaseStatusConditionalOutcome now leaseId status expected newRunId expectedRunId db
      = .ok (outcome, db')) :
    ∃ applied, updateLeaseStatusConditional now leaseId status expected newRunId expectedRunId db
      = .ok (applied, db') := by
  unfold updateLeaseStatusConditionalOutcome at h
  obtain ⟨⟨applied, t⟩, htransition, h⟩ := bind_ok.mp h
  have hsame : t = db' := by
    dsimp only at h
    split at h
    · exact (Prod.mk.inj (Except.ok.inj h)).2
    split at h
    · exact (Prod.mk.inj (Except.ok.inj h)).2
    · exact (Prod.mk.inj (Except.ok.inj h)).2
  exact ⟨applied, hsame ▸ htransition⟩

theorem sameLeases_conditionalOutcome {expectedRunId : Option String}
    {outcome : ConditionalLeaseStatusOutcome}
    (h : updateLeaseStatusConditionalOutcome now leaseId status expected newRunId expectedRunId db
      = .ok (outcome, db')) : SameLeases db db' := by
  obtain ⟨applied, htransition⟩ := conditionalOutcome_transition h
  unfold updateLeaseStatusConditional at htransition
  exact sameLeases_conditionalTransition htransition

theorem sameLeases_updateLeaseStatus {runId : Option String} :
    SameLeases db (updateLeaseStatus now leaseId status runId db) := by
  unfold updateLeaseStatus
  cases runId with
  | none | some runId => exact sameLeases_map rfl fun _ => ⟨rfl, rfl, rfl⟩

theorem sameLeases_leaseStep {call : LeaseCall} (h : call.isTransition) :
    SameLeases db (leaseStep db call).2 := by
  cases call with
  | createLease lease | tryClaim now repo issueNumber configId => simp [LeaseCall.isTransition] at h
  | updateLeaseStatus now leaseId status runId => exact sameLeases_updateLeaseStatus
  | updateLeaseStatusConditional now leaseId status expected newRunId expectedRunId =>
    exact replyOf_rel fun _ _ h => by
      unfold updateLeaseStatusConditional at h
      exact sameLeases_conditionalTransition h
  | updateLeaseStatusConditionalExactOwner now leaseId status expected newRunId expectedRunId =>
    exact replyOf_rel fun _ _ h => by
      unfold updateLeaseStatusConditionalExactOwner at h
      exact sameLeases_conditionalTransition h
  | updateLeaseStatusConditionalOutcome now leaseId status expected newRunId expectedRunId =>
    exact replyOf_rel fun _ _ h => sameLeases_conditionalOutcome h
  | touchOwnedRunningLeaseHeartbeat now leaseId expectedRunId =>
    exact sameLeases_map rfl fun _ => ⟨rfl, rfl, rfl⟩
  | markStaleLeases now timeoutSecs => exact sameLeases_map rfl fun _ => ⟨rfl, rfl, rfl⟩
  | markStaleReadyToResumeLeases now timeoutSecs =>
    exact sameLeases_map rfl fun _ => ⟨rfl, rfl, rfl⟩
  | clearChildLeaseForRelaunch now lease => exact sameLeases_map rfl fun _ => ⟨rfl, rfl, rfl⟩

theorem leaseStep_keepsIssues (db : LeaseTable) (call : LeaseCall) :
    KeepsIssues db (leaseMachine.next db call) := by
  by_cases htransition : call.isTransition = true
  · exact (sameLeases_leaseStep htransition).keepsIssues
  cases call with
  | createLease lease => exact replyOf_rel fun _ _ h => keepsIssues_createLease h
  | tryClaim now repo issueNumber configId => exact replyOf_rel fun _ _ h => keepsIssues_tryClaim h
  | _ => exact absurd rfl htransition

/-- No lease of the issue is in a reclaimable status. -/
def Protected (repo : String) (issueNumber : UInt64) (db : LeaseTable) : Prop :=
  ∀ row ∈ db, row.covers repo issueNumber = true → row.status.blocksDuplicateWork = true

/-- Some lease covers the issue. -/
def HasLease (repo : String) (issueNumber : UInt64) (db : LeaseTable) : Prop :=
  ∃ row ∈ db, row.covers repo issueNumber = true

theorem KeepsIssues.hasLease (h : KeepsIssues db db') (hlease : HasLease repo issueNumber db) :
    HasLease repo issueNumber db' := by
  obtain ⟨row, hrow, hcovers⟩ := hlease
  obtain ⟨row', hrow', hrepo, hnumber⟩ := h row hrow
  rw [IssueLease.covers_iff] at hcovers
  exact ⟨row', hrow', IssueLease.covers_iff.mpr ⟨hrepo.trans hcovers.1, hnumber.trans hcovers.2⟩⟩

theorem claims_blocked (hnumber : issueNumber.toNat < 2 ^ 63) {calls : List LeaseCall}
    (hlease : HasLease repo issueNumber db)
    (hprotected : leaseMachine.Along (fun db _ => Protected repo issueNumber db) db calls) :
    ∀ e ∈ leaseMachine.log db calls, ∀ now configId,
      e.1 = .tryClaim now repo issueNumber configId → e.2 = .claim none := by
  refine hprotected.log_forall (P := HasLease repo issueNumber)
    (Q := fun call reply => ∀ now configId,
      call = .tryClaim now repo issueNumber configId → reply = .claim none) ?_ hlease
  intro db call hprot hlease
  refine ⟨(leaseStep_keepsIssues db call).hasLease hlease, ?_⟩
  rintro now configId rfl
  obtain ⟨row, hrow, hcovers⟩ := hlease
  have hblocked : tryClaim now repo issueNumber configId db = .ok (none, db) :=
    tryClaim_blocked hrow hcovers (hprot row hrow hcovers) hnumber
  show (replyOf LeaseReply.claim (tryClaim now repo issueNumber configId) db).1 = .claim none
  unfold replyOf
  rw [atomically_ok.mpr hblocked]

/-- **No two daemons work on one issue.** In every table, whatever calls led to it, an issue
has at most one lease; a claim that wins replaced no lease but one in a reclaimable status;
and from a won claim on, as long as the issue's lease does not enter a reclaimable status,
every claim of the issue is turned away. -/
theorem tryClaim_excludes_duplicate_work (db : LeaseTable) :
    (∀ repo issueNumber, db.count (IssueLease.covers repo issueNumber) ≤ 1) ∧
    ∀ now repo issueNumber configId lease db',
      tryClaim now repo issueNumber configId db = .ok (some lease, db') →
      (∀ row ∈ db, row.covers repo issueNumber = true →
        row.status ∈ [LeaseStatus.completed, .failed, .abandoned, .stale]) ∧
      (lease ∈ db' ∧ lease.covers repo issueNumber = true) ∧
      (∀ row, row.covers repo issueNumber = false → (row ∈ db' ↔ row ∈ db)) ∧
      ∀ calls, leaseMachine.Along (fun db _ => Protected repo issueNumber db) db' calls →
        ∀ e ∈ leaseMachine.log db' calls, ∀ now' configId',
          e.1 = .tryClaim now' repo issueNumber configId' → e.2 = .claim none := by
  refine ⟨fun repo issueNumber => count_le_one_of_key IssueLease.clash_of_covers, ?_⟩
  intro now repo issueNumber configId lease db' hclaim
  obtain ⟨hreclaimed, ⟨hmem, hcovers, _⟩, hothers⟩ := tryClaim_some hclaim
  refine ⟨hreclaimed, ⟨hmem, hcovers⟩, hothers, ?_⟩
  intro calls hprotected
  exact claims_blocked (tryClaim_cases hclaim).1 ⟨lease, hmem, hcovers⟩ hprotected

/-- An issue that one daemon claims and a second one asks for: the second is turned away,
and after the first has completed the issue it is not. -/
theorem tryClaim_excludes_duplicate_work_two_daemons :
    let claimed := claimedLease 100 "org/repo" 7 "first"
    let db : LeaseTable := ⟨[claimed], List.pairwise_singleton _ _⟩
    let second : LeaseCall := .tryClaim 200 "org/repo" 7 "second"
    tryClaim 100 "org/repo" 7 "first" Table.empty = .ok (some claimed, db) ∧
    (∀ e ∈ leaseMachine.log db [second], e.1 = second → e.2 = .claim none) ∧
    (leaseMachine.answer
      (leaseMachine.next db (.updateLeaseStatus 300 claimed.leaseId .completed (some "run-1")))
      second) = .claim (some (claimedLease 200 "org/repo" 7 "second")) := by
  intro claimed db second
  have hclaim : tryClaim 100 "org/repo" 7 "first" Table.empty = .ok (some claimed, db) := rfl
  refine ⟨hclaim, ?_, rfl⟩
  have h := (tryClaim_excludes_duplicate_work Table.empty).2 100 "org/repo" 7 "first" claimed db
    hclaim
  intro e he heq
  refine h.2.2.2 [second] ⟨?_, trivial⟩ e he 200 "second" heq
  intro row hrow _
  rw [List.mem_singleton.mp hrow]
  rfl

end Luther
