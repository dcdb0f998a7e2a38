/-
What a claim added on GitHub is written down, until a claim writes over it.

Every statement that writes a receipt again writes what the receipt says already, with one
exception: the claim that takes over the lease of an issue.  It takes the receipt over with
the lease and, in the same transaction, writes into it that nothing was added.  Later it
looks at the issue, finds what the earlier claim has put there, and adds nothing: nobody
takes it back any more.

As long as no claim does so while there is something on the issue to take back, or
something written down that is about to be added, the receipts tell of all of it.
-/
import Mathlib.Data.List.Perm.Basic
import Luther.Daemon.ClaimSideEffects
import Luther.Proofs.ClaimLimit

namespace Luther

open Sql Sql.Table

variable {db db' : ClaimDb} {s : ClaimWorld}

/-! ### What is written down -/

/-- Some lease of the issue has a receipt that tells of the addition. -/
def ClaimDb.records (db : ClaimDb) (addition : Addition) : Bool :=
  db.leases.rows.any fun lease =>
    lease.covers addition.issueRepo addition.issueNumber
      && db.receipts.rows.any fun receipt =>
          receipt.isFor lease.leaseId
            && (receipt.additions addition.issueRepo addition.issueNumber).contains addition

/-- Everything that was added and not taken back is written down. -/
def ClaimWorld.Remembers (s : ClaimWorld) : Prop :=
  ∀ addition ∈ s.outstanding, s.db.records addition = true

instance (s : ClaimWorld) : Decidable s.Remembers :=
  inferInstanceAs (Decidable (∀ addition ∈ s.outstanding, _))

variable {receipt : ClaimMetadataReceipt} {a : Addition} {issueNumber : UInt64}
  {repo configId : String} {cfg : DiscoveryConfig} {lease : IssueLease} {leases : LeaseTable}
  {out' : List Addition} {task : ClaimTask}

theorem isFor_iff {leaseId : String} :
    receipt.isFor leaseId = true ↔ receipt.leaseId = leaseId := by
  simp [ClaimMetadataReceipt.isFor]

theorem records_iff :
    db.records a = true ↔
      ∃ lease ∈ db.leases, lease.covers a.issueRepo a.issueNumber = true
        ∧ ∃ receipt ∈ db.receipts, receipt.leaseId = lease.leaseId
          ∧ a ∈ receipt.additions a.issueRepo a.issueNumber := by
  unfold ClaimDb.records
  simp only [List.any_eq_true, Bool.and_eq_true, List.contains_iff_mem, isFor_iff]
  exact Iff.rfl

/-- A receipt, but for whether its cleanup is pending. -/
def ClaimMetadataReceipt.settled (receipt : ClaimMetadataReceipt) : ClaimMetadataReceipt :=
  { receipt with cleanupPending := false }

@[simp] theorem settled_leaseId (receipt : ClaimMetadataReceipt) :
    receipt.settled.leaseId = receipt.leaseId := rfl

@[simp] theorem settled_additions (repo : String) (issueNumber : UInt64)
    (receipt : ClaimMetadataReceipt) :
    receipt.settled.additions repo issueNumber = receipt.additions repo issueNumber := rfl

variable {r r' : ClaimMetadataReceipt} {ownership : ClaimOwnership} {pending : Bool}
  {newId : String} {row : IssueLease} {tasks tasks' : List ClaimTask} {task' : ClaimTask}

theorem additions_of_settled (h : r.settled = r'.settled) (repo : String) (issueNumber : UInt64) :
    r.additions repo issueNumber = r'.additions repo issueNumber := by
  rw [← settled_additions, h, settled_additions]

theorem issue_of_mem_additions (h : a ∈ receipt.additions repo issueNumber) :
    a.issueRepo = repo ∧ a.issueNumber = issueNumber := by
  unfold ClaimMetadataReceipt.additions at h
  rcases List.mem_append.mp h with h | h
  all_goals
    split at h
    · rw [List.mem_singleton.mp h]
      exact ⟨rfl, rfl⟩
    · exact absurd h List.not_mem_nil

theorem appliedAdditions_subset {remote : RemoteAnswers} {leaseId : String}
    (h : a ∈ appliedAdditions remote cfg repo issueNumber ownership) :
    a ∈ (claimReceipt leaseId cfg ownership pending).additions repo issueNumber := by
  unfold appliedAdditions at h
  split at h
  · exact absurd h List.not_mem_nil
  · rename_i assignee label hclaim
    -- a config that claims on GitHub names its assignee and its label
    have hnames : cfg.claimAssignee = some assignee ∧ cfg.claimLabel = some label := by
      unfold DiscoveryConfig.remoteClaim at hclaim
      split at hclaim
      · rename_i _ assignee' label' _ hassignee hlabel
        obtain ⟨rfl, rfl⟩ := Prod.mk.inj (Option.some.inj hclaim)
        exact ⟨hassignee, hlabel⟩
      · simp at hclaim
    simp only [ClaimMetadataReceipt.additions, claimReceipt, hnames.1, hnames.2, Option.getD_some]
    rcases List.mem_append.mp h with h | h
    · refine List.mem_append_left _ ?_
      split at h
      · rename_i hadded
        rw [if_pos (by simpa using (Bool.and_eq_true_iff.mp hadded).1)]
        exact h
      · exact absurd h List.not_mem_nil
    · refine List.mem_append_right _ ?_
      split at h
      · rename_i hadded
        rw [if_pos (Bool.and_eq_true_iff.mp (Bool.and_eq_true_iff.mp hadded).1).2]
        exact h
      · exact absurd h List.not_mem_nil

/-! ### What the statements do to the tables -/

/-- **A receipt that is written is in the place of the one that was there, and no other
receipt changes.** -/
theorem mem_upsertClaimMetadata (h : upsertClaimMetadata receipt db = .ok db')
    (r : ClaimMetadataReceipt) :
    r ∈ db'.receipts ↔ r = receipt ∨ r ∈ db.receipts ∧ r.leaseId ≠ receipt.leaseId := by
  unfold upsertClaimMetadata at h
  split at h
  · rename_i receipts hins
    split at h
    · rw [← Except.ok.inj h]
      show r ∈ receipts ↔ _
      exact mem_of_insert hins
    · simp at h
  · rename_i hnone
    rw [← Except.ok.inj h]
    refine mem_of_replace hnone rfl (fun a => isFor_iff) ?_
    rintro a (hid : a.leaseId = receipt.leaseId)
    rw [hid]

theorem lease_of_upsertClaimMetadata (h : upsertClaimMetadata receipt db = .ok db') :
    (∃ lease ∈ db.leases, lease.leaseId = receipt.leaseId)
      ∨ ∃ r ∈ db.receipts, r.leaseId = receipt.leaseId := by
  unfold upsertClaimMetadata at h
  split at h
  · split at h
    · rename_i hcount
      obtain ⟨lease, hlease, hid⟩ := count_pos_iff.mp hcount
      exact Or.inl ⟨lease, hlease, by simpa using hid⟩
    · simp at h
  · rename_i hnone
    exact Or.inr (insert_eq_none_iff.mp hnone)

theorem receipt_unique (hr : r ∈ db.receipts)
    (hr' : r' ∈ db.receipts) (h : r.leaseId = r'.leaseId) : r = r' :=
  eq_of_clash hr hr' h

theorem tryClaim_mem {now : Timestamp} {leases' : LeaseTable}
    (h : tryClaim now repo issueNumber configId leases = .ok (some lease, leases'))
    (row : IssueLease) :
    row ∈ leases' ↔ row = lease ∨ row ∈ leases ∧ row.covers repo issueNumber = false := by
  obtain ⟨_, ⟨hmem, hcovers, _⟩, hothers⟩ := tryClaim_some h
  constructor
  · intro hrow
    by_cases hc : row.covers repo issueNumber = true
    · exact Or.inl (eq_of_clash hrow hmem (IssueLease.clash_of_covers _ _ hc hcovers))
    · have hfalse : row.covers repo issueNumber = false := by simpa using hc
      exact Or.inr ⟨(hothers row hfalse).mp hrow, hfalse⟩
  · rintro (rfl | ⟨hrow, hc⟩)
    · exact hmem
    · exact (hothers row hc).mpr hrow

/-- A receipt after a claim has taken the lease of an issue over: it goes with the lease. -/
def takenOver (repo : String) (issueNumber : UInt64) (leases : LeaseTable) (newId : String)
    (receipt : ClaimMetadataReceipt) : ClaimMetadataReceipt :=
  if leases.rows.any fun row => row.covers repo issueNumber && receipt.isFor row.leaseId then
    { receipt with leaseId := newId }
  else receipt

theorem takenOver_pos (hrow : row ∈ leases)
    (hcovers : row.covers repo issueNumber) (hid : receipt.leaseId = row.leaseId) :
    takenOver repo issueNumber leases newId receipt = { receipt with leaseId := newId } := by
  unfold takenOver
  refine if_pos (List.any_eq_true.mpr ⟨row, hrow, ?_⟩)
  rw [hcovers, isFor_iff.mpr hid]
  rfl

theorem takenOver_neg (hrow : row ∈ leases)
    (hcovers : row.covers repo issueNumber = false) (hid : receipt.leaseId = row.leaseId) :
    takenOver repo issueNumber leases newId receipt = receipt := by
  unfold takenOver
  refine if_neg ?_
  simp only [List.any_eq_true, Bool.and_eq_true, isFor_iff, not_exists, not_and]
  intro other hother hc hid'
  -- a lease with the id of the receipt is the lease we have
  have hsame : other = row := eq_of_clash hother hrow (Or.inl (hid'.symm.trans hid))
  rw [hsame, hcovers] at hc
  simp at hc

/-- **A claim that wins puts its lease in the place of the one it takes over, and the receipt
of that lease goes with it.** -/
theorem tryClaimCascading_some {now : Timestamp}
    (h : tryClaimCascading now repo issueNumber configId db = .ok (some lease, db')) :
    tryClaim now repo issueNumber configId db.leases = .ok (some lease, db'.leases)
      ∧ ∀ r, r ∈ db'.receipts ↔
          ∃ a ∈ db.receipts, takenOver repo issueNumber db.leases lease.leaseId a = r := by
  refine ⟨tryClaimCascading_leases h, ?_⟩
  unfold tryClaimCascading at h
  obtain ⟨⟨answer, leases⟩, htry, h⟩ := bind_ok.mp h
  dsimp only at h
  split at h
  · rename_i claimed old hfind
    obtain ⟨receipts, hcascade, h⟩ := bind_ok.mp h
    simp only [Except.ok.injEq, Prod.mk.injEq, Option.some.injEq] at h
    obtain ⟨rfl, rfl⟩ := h
    obtain ⟨hold, hcovers⟩ := Table.find?_some hfind
    intro r
    show r ∈ receipts ↔ _
    rw [mem_set (tryUpdate_rows (okOr_ok.mp hcascade))]
    -- the only lease of the issue is the one that is taken over
    have hset : ∀ a : ClaimMetadataReceipt,
        Table.set (ClaimMetadataReceipt.isFor old.leaseId)
            (fun row => { row with leaseId := claimed.leaseId }) a
          = takenOver repo issueNumber db.leases claimed.leaseId a := by
      intro a
      by_cases hid : a.leaseId = old.leaseId
      · rw [set_pos (isFor_iff.mpr hid), takenOver_pos hold hcovers hid]
      · rw [set_neg (by simpa [ClaimMetadataReceipt.isFor] using hid)]
        symm
        unfold takenOver
        refine if_neg ?_
        simp only [List.any_eq_true, Bool.and_eq_true, isFor_iff, not_exists, not_and]
        intro row hrow hc hid'
        have hsame : row = old :=
          eq_of_clash hrow hold (IssueLease.clash_of_covers _ _ hc hcovers)
        exact hid (hid'.trans (congrArg IssueLease.leaseId hsame))
    simp only [hset]
  · rename_i hnot
    simp only [Except.ok.injEq, Prod.mk.injEq] at h
    obtain ⟨rfl, rfl⟩ := h
    have habsent : ∀ row ∈ db.leases, row.covers repo issueNumber = false := by
      refine Table.find?_none.mp ?_
      cases hfind : db.leases.find? (IssueLease.covers repo issueNumber) with
      | none => rfl
      | some old => exact absurd hfind (hnot lease old rfl)
    have hsame : ∀ a : ClaimMetadataReceipt,
        takenOver repo issueNumber db.leases lease.leaseId a = a := by
      intro a
      unfold takenOver
      refine if_neg ?_
      simp only [List.any_eq_true, Bool.and_eq_true, not_exists, not_and]
      intro row hrow hc
      rw [habsent row hrow] at hc
      simp at hc
    intro r
    simp only [hsame, exists_eq_right]

theorem tryClaimCascading_none {now : Timestamp}
    (h : tryClaimCascading now repo issueNumber configId db = .ok (none, db')) : db' = db := by
  unfold tryClaimCascading at h
  obtain ⟨⟨answer, leases⟩, htry, h⟩ := bind_ok.mp h
  dsimp only at h
  split at h
  · obtain ⟨receipts, _, h⟩ := bind_ok.mp h
    simp at h
  · simp only [Except.ok.injEq, Prod.mk.injEq] at h
    obtain ⟨rfl, rfl⟩ := h
    rw [tryClaim_none htry]

/-! ### What a task will write -/

def ClaimTask.leaseId : ClaimTask → String
  | prepare p => p.leaseId
  | cleanup c => c.cleanup.receipt.leaseId
  | finalize u => u.leaseId

def ClaimTask.issue : ClaimTask → String × UInt64
  | prepare p => (p.cfg.repo.getD "", p.issue.number)
  | cleanup c => (c.cleanup.issueRepo, c.cleanup.issueNumber)
  | finalize u => (u.repo, u.issueNumber)

/-- What a claim has written down of what it adds: nothing, before it has looked at the
issue. -/
def PrepareStage.written : PrepareStage → ClaimOwnership
  | claimed | counted | inspected _ => {}
  | recorded ownership | applied ownership | started ownership | failed ownership
  | cleaned ownership _ | abandoned ownership => ownership

def ClaimTask.unwritten : ClaimTask → Bool
  | prepare p =>
    match p.stage with
    | .claimed | .counted | .inspected _ => true
    | _ => false
  | _ => false

/-- What the receipt of the task's lease says, as the task knows it. -/
def ClaimTask.expects : ClaimTask → Option ClaimMetadataReceipt
  | prepare p => some (claimReceipt p.leaseId p.cfg p.stage.written false)
  | cleanup c => some c.cleanup.receipt.settled
  | finalize u =>
    match u.stage with
    | .launched => none
    | .marked receipt | .cleaned receipt => some receipt.settled

/-- What a task has written down and is about to add. -/
def ClaimTask.announced : ClaimTask → List Addition
  | prepare p =>
    match p.stage with
    | .recorded ownership =>
      (claimReceipt p.leaseId p.cfg ownership false).additions (p.cfg.repo.getD "")
        p.issue.number
    | _ => []
  | _ => []

def ClaimWorld.owed (s : ClaimWorld) : List Addition :=
  s.outstanding ++ s.tasks.flatMap ClaimTask.announced

theorem mem_owed :
    a ∈ s.owed ↔ a ∈ s.outstanding ∨ ∃ task ∈ s.tasks, a ∈ task.announced := by
  simp [ClaimWorld.owed]

/-! ### The invariant -/

/-- Two tasks of one lease know its receipt alike, and neither is still to write it. -/
def ClaimTask.Compatible (a b : ClaimTask) : Prop :=
  a.leaseId = b.leaseId → a.unwritten = false ∧ b.unwritten = false
    ∧ ∀ e e', a.expects = some e → b.expects = some e' → e = e'

instance : Std.Symm ClaimTask.Compatible where
  symm := by
    intro a b h hid
    obtain ⟨ha, hb, hexpects⟩ := h hid.symm
    exact ⟨hb, ha, fun e e' he he' => (hexpects e' e he' he).symm⟩

/-- What a task knows of the tables is so. -/
structure ClaimTask.Knows (db : ClaimDb) (task : ClaimTask) : Prop where
  /-- Its lease is one of its issue. -/
  placed : ∀ lease ∈ db.leases, lease.leaseId = task.leaseId →
    lease.covers task.issue.1 task.issue.2 = true
  named : ∀ e, task.expects = some e → e.leaseId = task.leaseId
  /-- Its receipt says what the task expects. -/
  expected : ∀ e, task.expects = some e → ∀ r ∈ db.receipts, r.leaseId = task.leaseId →
    r.settled = e
  /-- Nobody cleans up after a claim that has not written down yet what it adds. -/
  quiet : task.unwritten = true → ∀ r ∈ db.receipts, r.leaseId = task.leaseId →
    r.cleanupPending = false

/-- What holds between any two calls. -/
structure ClaimWorld.Inv (s : ClaimWorld) : Prop where
  recorded : ∀ a ∈ s.owed, s.db.records a = true
  /-- Every receipt has its lease. -/
  held : ∀ r ∈ s.db.receipts, ∃ lease ∈ s.db.leases, lease.leaseId = r.leaseId
  knows : ∀ task ∈ s.tasks, task.Knows s.db
  compatible : s.tasks.Pairwise ClaimTask.Compatible

theorem ClaimWorld.Inv.remembers (h : s.Inv) : s.Remembers :=
  fun a ha => h.recorded a (mem_owed.mpr (Or.inl ha))

theorem ClaimWorld.Inv.of_perm {out : List Addition}
    (h : ClaimWorld.Inv ⟨db, tasks, out⟩) (hperm : tasks.Perm tasks') (hout : ∀ a ∈ out', a ∈ out) :
    ClaimWorld.Inv ⟨db, tasks', out'⟩ where
  recorded := by
    intro a ha
    refine h.recorded a (mem_owed.mpr ?_)
    rcases mem_owed.mp ha with hold | ⟨task, htask, hannounced⟩
    · exact Or.inl (hout a hold)
    · exact Or.inr ⟨task, hperm.mem_iff.mpr htask, hannounced⟩
  held := h.held
  knows := fun task htask => h.knows task (hperm.mem_iff.mpr htask)
  compatible := (hperm.pairwise_iff fun hab => Std.Symm.symm _ _ hab).mp h.compatible

theorem ClaimWorld.Inv.of_sublist {out : List Addition}
    (h : ClaimWorld.Inv ⟨db, tasks, out⟩) (hsub : tasks'.Sublist tasks) :
    ClaimWorld.Inv ⟨db, tasks', out⟩ where
  recorded := by
    intro a ha
    refine h.recorded a (mem_owed.mpr ?_)
    rcases mem_owed.mp ha with hold | ⟨task, htask, hannounced⟩
    · exact Or.inl hold
    · exact Or.inr ⟨task, hsub.subset htask, hannounced⟩
  held := h.held
  knows := fun task htask => h.knows task (hsub.subset htask)
  compatible := h.compatible.sublist hsub

theorem ClaimWorld.Inv.of_leases (h : s.Inv) (hsame : SameLeases s.db.leases leases) :
    ClaimWorld.Inv { s with db := { s.db with leases := leases } } where
  recorded := by
    intro a ha
    obtain ⟨lease, hlease, hcovers, hreceipt⟩ := records_iff.mp (h.recorded a ha)
    obtain ⟨after, hafter, hid, hrepo, hnumber⟩ := hsame.symm.mem hlease
    refine records_iff.mpr ⟨after, hafter, ?_, ?_⟩
    · rw [IssueLease.covers_iff] at hcovers ⊢
      rw [hrepo, hnumber]
      exact hcovers
    · rw [hid]
      exact hreceipt
  held := by
    intro r hr
    obtain ⟨lease, hlease, hid⟩ := h.held r hr
    obtain ⟨after, hafter, hsameId, _⟩ := hsame.symm.mem hlease
    exact ⟨after, hafter, hsameId.trans hid⟩
  knows := by
    intro task htask
    have hknows := h.knows task htask
    refine ⟨?_, hknows.named, hknows.expected, hknows.quiet⟩
    intro lease hlease hid
    obtain ⟨before, hbefore, hsameId, hrepo, hnumber⟩ := hsame.mem hlease
    rw [IssueLease.covers_iff, ← hrepo, ← hnumber, ← IssueLease.covers_iff]
    exact hknows.placed before hbefore (hsameId.trans hid)
  compatible := h.compatible

theorem ClaimWorld.Inv.head {rest : List ClaimTask} {out : List Addition}
    (h : ClaimWorld.Inv ⟨db, task :: rest, out⟩) :
    task.Knows db ∧ (∀ other ∈ rest, task.Compatible other) ∧ rest.Pairwise ClaimTask.Compatible :=
  ⟨h.knows task List.mem_cons_self, (List.pairwise_cons.mp h.compatible).1,
    (List.pairwise_cons.mp h.compatible).2⟩

theorem ClaimWorld.Inv.of_task {rest : List ClaimTask} {out : List Addition}
    (h : ClaimWorld.Inv ⟨db, task :: rest, out⟩) (hid : task'.leaseId = task.leaseId)
    (hissue : task'.issue = task.issue)
    (hunwritten : task'.unwritten = true → task.unwritten = true)
    (hexpects : ∀ e, task'.expects = some e → task.expects = some e
      ∨ ∃ r ∈ db.receipts, r.leaseId = task.leaseId ∧ r.settled = e)
    (howed : ∀ a, a ∈ out' ∨ a ∈ task'.announced → a ∈ out ∨ a ∈ task.announced) :
    ClaimWorld.Inv ⟨db, task' :: rest, out'⟩ := by
  obtain ⟨hknows, hothers, hrest⟩ := h.head
  -- what the task expects now is what the receipt says
  have hexpected : ∀ e, task'.expects = some e → e.leaseId = task.leaseId
      ∧ ∀ r ∈ db.receipts, r.leaseId = task.leaseId → r.settled = e := by
    intro e he
    rcases hexpects e he with hbefore | ⟨read, hread, hreadId, rfl⟩
    · exact ⟨hknows.named e hbefore, hknows.expected e hbefore⟩
    · refine ⟨hreadId, fun r hr hrid => ?_⟩
      rw [receipt_unique hr hread (hrid.trans hreadId.symm)]
  refine ⟨?_, h.held, ?_, ?_⟩
  · intro a ha
    refine h.recorded a (mem_owed.mpr ?_)
    have hcase : (a ∈ out' ∨ a ∈ task'.announced) ∨ ∃ other ∈ rest, a ∈ other.announced := by
      rcases mem_owed.mp ha with hold | ⟨other, hother, hannounced⟩
      · exact Or.inl (Or.inl hold)
      · rcases List.mem_cons.mp hother with rfl | hrestMem
        · exact Or.inl (Or.inr hannounced)
        · exact Or.inr ⟨other, hrestMem, hannounced⟩
    rcases hcase with hown | ⟨other, hother, hannounced⟩
    · rcases howed a hown with hold | hannounced
      · exact Or.inl hold
      · exact Or.inr ⟨task, List.mem_cons_self, hannounced⟩
    · exact Or.inr ⟨other, List.mem_cons_of_mem _ hother, hannounced⟩
  · intro other hother
    rcases List.mem_cons.mp hother with rfl | hrestMem
    · refine ⟨?_, ?_, ?_, ?_⟩
      · intro lease hlease hleaseId
        rw [hissue]
        exact hknows.placed lease hlease (hleaseId.trans hid)
      · exact fun e he => (hexpected e he).1.trans hid.symm
      · exact fun e he r hr hrid => (hexpected e he).2 r hr (hrid.trans hid)
      · exact fun hun r hr hrid => hknows.quiet (hunwritten hun) r hr (hrid.trans hid)
    · exact h.knows other (List.mem_cons_of_mem _ hrestMem)
  · refine List.pairwise_cons.mpr ⟨fun other hother hsame => ?_, hrest⟩
    obtain ⟨hwritten, hotherWritten, hagree⟩ := hothers other hother (hid.symm.trans hsame)
    refine ⟨by_contra fun hun => ?_, hotherWritten, fun e e' he he' => ?_⟩
    · rw [hunwritten (by simpa using hun)] at hwritten
      simp at hwritten
    · rcases hexpects e he with hbefore | ⟨read, hread, hreadId, rfl⟩
      · exact hagree e e' hbefore he'
      · exact (h.knows other (List.mem_cons_of_mem _ hother)).expected e' he' read hread
          (hreadId.trans (hid.symm.trans hsame))

theorem ClaimWorld.Inv.of_written {rest : List ClaimTask} {out : List Addition}
    (h : ClaimWorld.Inv ⟨db, rest, out⟩) (hupsert : upsertClaimMetadata receipt db = .ok db')
    (hid : receipt.leaseId = task.leaseId)
    (hplaced : ∀ lease ∈ db.leases, lease.leaseId = task.leaseId →
      lease.covers task.issue.1 task.issue.2 = true)
    (hexpects : task.expects = some receipt.settled)
    (hquiet : task.unwritten = true → receipt.cleanupPending = false)
    (hrest : ∀ other ∈ rest, task.leaseId = other.leaseId → task.unwritten = false
      ∧ other.unwritten = false ∧ ∀ e, other.expects = some e → e = receipt.settled)
    (hrecorded : ∀ a, a ∈ out' ∨ (∃ other ∈ task :: rest, a ∈ other.announced) →
      db'.records a = true) : ClaimWorld.Inv ⟨db', task :: rest, out'⟩ := by
  have hleases := upsertClaimMetadata_leases hupsert
  have hmem := mem_upsertClaimMetadata hupsert
  -- a receipt of the lease is the one that was written
  have hown : ∀ r ∈ db'.receipts, r.leaseId = task.leaseId → r = receipt := by
    intro r hr hrid
    rcases (hmem r).mp hr with hsame | ⟨_, hne⟩
    · exact hsame
    · exact absurd (hrid.trans hid.symm) hne
  refine ⟨fun a ha => hrecorded a (mem_owed.mp ha), ?_, ?_, ?_⟩
  · intro r hr
    show ∃ lease ∈ db'.leases, _
    rw [hleases]
    rcases (hmem r).mp hr with rfl | ⟨hold, _⟩
    · rcases lease_of_upsertClaimMetadata hupsert with hfound | ⟨old, hold, holdId⟩
      · exact hfound
      · rw [← holdId]
        exact h.held old hold
    · exact h.held r hold
  · intro other hother
    rcases List.mem_cons.mp hother with rfl | hrestMem
    · refine ⟨fun row hrow => hplaced row (hleases ▸ hrow), ?_, ?_, ?_⟩
      · intro e he
        rw [← Option.some.inj (hexpects.symm.trans he), settled_leaseId, hid]
      · intro e he r hr hrid
        rw [hown r hr hrid]
        exact Option.some.inj (hexpects.symm.trans he)
      · intro hun r hr hrid
        rw [hown r hr hrid]
        exact hquiet hun
    · have hknows := h.knows other hrestMem
      refine ⟨fun row hrow => hknows.placed row (hleases ▸ hrow), hknows.named, ?_, ?_⟩
      · intro e he r hr hrid
        rcases (hmem r).mp hr with rfl | ⟨hold, _⟩
        · exact ((hrest other hrestMem (hid.symm.trans hrid)).2.2 e he).symm
        · exact hknows.expected e he r hold hrid
      · intro hun r hr hrid
        rcases (hmem r).mp hr with rfl | ⟨hold, _⟩
        · rw [(hrest other hrestMem (hid.symm.trans hrid)).2.1] at hun
          simp at hun
        · exact hknows.quiet hun r hold hrid
  · refine List.pairwise_cons.mpr ⟨fun other hother hsame => ?_, h.compatible⟩
    obtain ⟨hwritten, hotherWritten, hotherExpects⟩ := hrest other hother hsame
    refine ⟨hwritten, hotherWritten, fun e e' he he' => ?_⟩
    rw [hotherExpects e' he']
    exact (Option.some.inj (hexpects.symm.trans he)).symm

/-- A task that writes a receipt which tells of all that the one before told of, and that the
other tasks of the lease expect, keeps the invariant. -/
theorem ClaimWorld.Inv.of_write {rest : List ClaimTask} {out : List Addition}
    (h : ClaimWorld.Inv ⟨db, task :: rest, out⟩)
    (hupsert : upsertClaimMetadata receipt db = .ok db') (hreceipt : receipt.leaseId = task.leaseId)
    (hid : task'.leaseId = task.leaseId) (hissue : task'.issue = task.issue)
    (hwritten : task'.unwritten = false) (hexpects : task'.expects = some receipt.settled)
    (hrest : ∀ other ∈ rest, other.leaseId = task.leaseId →
      other.unwritten = false ∧ ∀ e, other.expects = some e → e = receipt.settled)
    (hlost : ∀ r ∈ db.receipts, r.leaseId = task.leaseId → ∀ repo issueNumber,
      ∀ a ∈ r.additions repo issueNumber, a ∈ receipt.additions repo issueNumber)
    (hannounced : ∀ a ∈ task'.announced, a ∈ task.announced
      ∨ a ∈ receipt.additions task.issue.1 task.issue.2) :
    ClaimWorld.Inv ⟨db', task' :: rest, out⟩ := by
  have hknows := h.knows task List.mem_cons_self
  have hleases := upsertClaimMetadata_leases hupsert
  have hmem := mem_upsertClaimMetadata hupsert
  -- what was written down still is
  have hkeeps : ∀ a ∈ ClaimWorld.owed ⟨db, task :: rest, out⟩, db'.records a = true := by
    intro a ha
    obtain ⟨row, hrow, hcovers, r, hr, hrid, hra⟩ := records_iff.mp (h.recorded a ha)
    refine records_iff.mpr ⟨row, hleases ▸ hrow, hcovers, ?_⟩
    by_cases hsame : r.leaseId = receipt.leaseId
    · exact ⟨receipt, (hmem receipt).mpr (Or.inl rfl), hsame.symm.trans hrid,
        hlost r hr (hsame.trans hreceipt) _ _ a hra⟩
    · exact ⟨r, (hmem r).mpr (Or.inr ⟨hr, hsame⟩), hrid, hra⟩
  -- and so is what is about to be added
  have hnew : ∀ a ∈ receipt.additions task.issue.1 task.issue.2, db'.records a = true := by
    intro a ha
    obtain ⟨lease, hlease, hleaseId⟩ : ∃ lease ∈ db.leases, lease.leaseId = receipt.leaseId := by
      rcases lease_of_upsertClaimMetadata hupsert with hfound | ⟨r, hr, hrid⟩
      · exact hfound
      · rw [← hrid]
        exact h.held r hr
    obtain ⟨hrepo, hnumber⟩ := issue_of_mem_additions ha
    refine records_iff.mpr ⟨lease, hleases ▸ hlease, ?_, receipt,
      (hmem receipt).mpr (Or.inl rfl), hleaseId.symm, ?_⟩
    · rw [hrepo, hnumber]
      exact hknows.placed lease hlease (hleaseId.trans hreceipt)
    · rw [hrepo, hnumber]
      exact ha
  refine (h.of_sublist (List.sublist_cons_self _ _)).of_written hupsert (hreceipt.trans hid.symm)
    ?_ hexpects ?_ ?_ ?_
  · intro row hrow hrowId
    rw [hissue]
    exact hknows.placed row hrow (hrowId.trans hid)
  · intro hun
    rw [hwritten] at hun
    simp at hun
  · exact fun other hother hsame => ⟨hwritten, hrest other hother (hsame.symm.trans hid)⟩
  · intro a ha
    rcases ha with hold | ⟨other, hother, hamong⟩
    · exact hkeeps a (mem_owed.mpr (Or.inl hold))
    · rcases List.mem_cons.mp hother with rfl | hrestMem
      · rcases hannounced a hamong with hbefore | hadded
        · exact hkeeps a (mem_owed.mpr (Or.inr ⟨task, List.mem_cons_self, hbefore⟩))
        · exact hnew a hadded
      · exact hkeeps a (mem_owed.mpr (Or.inr ⟨other, List.mem_cons_of_mem _ hrestMem, hamong⟩))

/-- **A receipt that is written again, with another word on what is pending, keeps the
invariant.** -/
theorem ClaimWorld.Inv.of_rewrite {rest : List ClaimTask} {out : List Addition}
    (h : ClaimWorld.Inv ⟨db, task :: rest, out⟩)
    (hupsert : upsertClaimMetadata receipt db = .ok db') (hwritten : task.unwritten = false)
    (hexpects : task.expects = some receipt.settled) :
    ClaimWorld.Inv ⟨db', task :: rest, out⟩ := by
  obtain ⟨hknows, hothers, _⟩ := h.head
  have hid : receipt.settled.leaseId = task.leaseId := hknows.named _ hexpects
  refine h.of_write hupsert hid rfl rfl hwritten hexpects ?_ ?_ ?_
  · intro other hother hid
    obtain ⟨_, hotherWritten, hagree⟩ := hothers other hother hid.symm
    exact ⟨hotherWritten, fun e he => (hagree _ e hexpects he).symm⟩
  · intro r hr hid repo issueNumber a ha
    rw [← additions_of_settled (hknows.expected _ hexpects r hr hid)]
    exact ha
  · exact fun a ha => Or.inl ha

/-! ### One lemma for each kind of task -/

theorem persistClaimOwnership_ok {leaseId : String}
    (h : persistClaimOwnership leaseId cfg ownership pending db = .ok db') :
    upsertClaimMetadata (claimReceipt leaseId cfg ownership pending) db = .ok db' := by
  unfold persistClaimOwnership at h
  obtain ⟨after, hupsert, h⟩ := bind_ok.mp h
  split at h
  · simp at h
  · rw [hupsert, Except.ok.inj h]

theorem mem_withoutCleaned {remote : RemoteAnswers} {out : List Addition}
    (h : a ∈ withoutCleaned remote repo issueNumber receipt out) : a ∈ out :=
  (List.mem_filter.mp h).1

/-- What is left of a task, and of the others, when it has made its step. -/
def TaskStep.world (after : TaskStep) (rest : List ClaimTask) : ClaimWorld :=
  ⟨after.db, after.task.toList ++ rest, after.outstanding⟩

variable {rest : List ClaimTask} {out : List Addition} {now : Timestamp} {remote : RemoteAnswers}

theorem ClaimWorld.Inv.of_stage {p : Preparation} {stage : PrepareStage}
    (h : ClaimWorld.Inv ⟨db, .prepare p :: rest, out⟩) (hwritten : stage.written = p.stage.written)
    (hunwritten : (ClaimTask.prepare { p with stage := stage }).unwritten = true →
      (ClaimTask.prepare p).unwritten = true)
    (howed : ∀ a, a ∈ out' ∨ a ∈ (ClaimTask.prepare { p with stage := stage }).announced →
      a ∈ out ∨ a ∈ (ClaimTask.prepare p).announced) :
    ClaimWorld.Inv ⟨db, .prepare { p with stage := stage } :: rest, out'⟩ := by
  refine h.of_task rfl rfl hunwritten ?_ howed
  intro e he
  left
  rw [← he]
  show some (claimReceipt p.leaseId p.cfg p.stage.written false)
    = some (claimReceipt p.leaseId p.cfg stage.written false)
  rw [hwritten]

/-- **No step of a preparation forgets anything.** -/
theorem preparation_inv {p : Preparation} (h : ClaimWorld.Inv ⟨db, .prepare p :: rest, out⟩) :
    ((p.step now remote db out).world rest).Inv := by
  have hend : ClaimWorld.Inv ⟨db, rest, out⟩ := h.of_sublist (List.sublist_cons_self _ _)
  obtain ⟨configId, cfg, issue, leaseId, runId, bases, stage⟩ := p
  cases stage with
  | claimed =>
    simp only [Preparation.step]
    cases decideClaim cfg (countActiveLeasesForConfig db.leases configId) bases issue.number
      runId with
    | ok paths => exact h.of_stage rfl (fun _ => rfl) (fun a ha => ha)
    | error reason => exact hend.of_leases sameLeases_updateLeaseStatus
  | counted =>
    simp only [Preparation.step]
    cases inspectRemoteClaim remote.seen cfg issue with
    | ok ownership | error e => exact h.of_stage rfl (fun _ => rfl) (fun a ha => ha)
  | inspected ownership =>
    simp only [Preparation.step]
    split
    · rename_i db' hpersist
      obtain ⟨hknows, hothers, _⟩ := h.head
      refine h.of_write (persistClaimOwnership_ok hpersist) rfl rfl rfl rfl rfl ?_ ?_ ?_
      · -- nobody else has anything to do with the lease
        intro other hother hid
        exact absurd (hothers other hother hid.symm).1 (by simp [ClaimTask.unwritten])
      · intro r hr hid repo issueNumber a ha
        have hnothing : r.settled = claimReceipt leaseId cfg {} false :=
          hknows.expected _ rfl r hr hid
        rw [← settled_additions, hnothing] at ha
        simp [ClaimMetadataReceipt.additions, claimReceipt] at ha
      · exact fun a ha => Or.inr ha
    · exact hend
  | recorded ownership =>
    simp only [Preparation.step]
    have howed : ∀ a, a ∈ out
        ++ appliedAdditions remote cfg (cfg.repo.getD "") issue.number ownership →
        a ∈ out ∨ a ∈ (claimReceipt leaseId cfg ownership false).additions
          (cfg.repo.getD "") issue.number := by
      intro a ha
      rcases List.mem_append.mp ha with hold | hadded
      · exact Or.inl hold
      · exact Or.inr (appliedAdditions_subset hadded)
    split
    all_goals
      exact h.of_stage rfl (fun hun => hun)
        (fun a ha => howed a (ha.resolve_right List.not_mem_nil))
  | applied ownership =>
    simp only [Preparation.step]
    split
    · rename_i leases hmoved
      exact (h.of_leases (sameLeases_conditionalOutcome hmoved)).of_stage rfl (fun hun => hun)
        (fun a ha => ha)
    · rename_i leases _ hmoved
      exact (h.of_leases (sameLeases_conditionalOutcome hmoved)).of_stage rfl (fun hun => hun)
        (fun a ha => ha)
    · exact hend
  | started ownership =>
    simp only [Preparation.step]
    split
    · rename_i db' hpersist
      have hrewritten := h.of_rewrite (persistClaimOwnership_ok hpersist) rfl rfl
      refine hrewritten.of_task rfl rfl (fun hun => hun) ?_ (fun a ha => ha)
      intro e he
      simp [ClaimTask.expects] at he
    · exact hend
  | failed ownership =>
    simp only [Preparation.step]
    exact h.of_stage rfl (fun hun => hun) (fun a ha => ha.imp_left mem_withoutCleaned)
  | cleaned ownership pending =>
    simp only [Preparation.step]
    split
    · rename_i db' hpersist
      have hrewritten := h.of_rewrite (persistClaimOwnership_ok hpersist) rfl rfl
      exact hrewritten.of_stage rfl (fun hun => hun) (fun a ha => ha)
    · exact hend
  | abandoned ownership =>
    simp only [Preparation.step]
    split
    · rename_i outcome leases hmoved
      exact hend.of_leases (sameLeases_conditionalOutcome hmoved)
    · exact hend

/-- **No step of a cleanup pass forgets anything.** -/
theorem cleanupTask_inv {c : CleanupTask} (h : ClaimWorld.Inv ⟨db, .cleanup c :: rest, out⟩) :
    ((c.step now remote db out).world rest).Inv := by
  have hend : ClaimWorld.Inv ⟨db, rest, out⟩ := h.of_sublist (List.sublist_cons_self _ _)
  have hgo : ∀ {db} (stage : CleanupStage) {out out' : List Addition},
      ClaimWorld.Inv ⟨db, .cleanup c :: rest, out⟩ → (∀ a ∈ out', a ∈ out) →
      ClaimWorld.Inv ⟨db, .cleanup { c with stage := stage } :: rest, out'⟩ :=
    fun stage _ _ h hout => h.of_task rfl rfl (fun hun => hun) (fun e he => Or.inl he)
      (fun a ha => ha.imp_left (hout a))
  obtain ⟨cleanup, stage⟩ := c
  cases stage with
  | listed =>
    simp only [CleanupTask.step]
    split
    · split
      · rename_i leases hmoved
        exact hgo .reserved (h.of_leases (sameLeases_conditionalOutcome hmoved)) fun a ha => ha
      · rename_i leases _ hmoved
        exact hend.of_leases (sameLeases_conditionalOutcome hmoved)
      · exact hend
    · exact hgo .reserved h fun a ha => ha
  | reserved =>
    simp only [CleanupTask.step]
    split
    · exact hgo .cleaned h fun a ha => mem_withoutCleaned ha
    · exact hend.of_perm (List.Perm.refl _) fun a ha => mem_withoutCleaned ha
  | cleaned =>
    simp only [CleanupTask.step]
    split
    · rename_i db' hupsert
      exact hgo .confirmed (h.of_rewrite hupsert rfl rfl) fun a ha => ha
    · exact hend
  | confirmed =>
    simp only [CleanupTask.step]
    split
    · split
      · rename_i outcome leases hmoved
        exact hend.of_leases (sameLeases_conditionalOutcome hmoved)
      · exact hend
    · exact hend

/-- **No step of a dispatch whose launch failed forgets anything.** -/
theorem dispatchUnit_inv {u : DispatchUnit} (h : ClaimWorld.Inv ⟨db, .finalize u :: rest, out⟩) :
    ((u.step remote db out).world rest).Inv := by
  have hend : ClaimWorld.Inv ⟨db, rest, out⟩ := h.of_sublist (List.sublist_cons_self _ _)
  obtain ⟨leaseId, repo, issueNumber, stage⟩ := u
  cases stage with
  | launched =>
    simp only [DispatchUnit.step]
    split
    · exact hend
    · rename_i read hread
      obtain ⟨hmem, hid⟩ := Table.find?_some hread
      split
      · rename_i db' hupsert
        -- it knows the receipt from now on, and then it writes it
        have hmarked : ClaimWorld.Inv
            ⟨db, .finalize ⟨leaseId, repo, issueNumber,
              .marked { read with cleanupPending := true }⟩ :: rest, out⟩ := by
          refine h.of_task rfl rfl (fun hun => hun) ?_ (fun a ha => ha)
          intro e he
          exact Or.inr ⟨read, hmem, isFor_iff.mp hid, Option.some.inj he⟩
        exact hmarked.of_rewrite hupsert rfl rfl
      · exact hend
  | marked receipt =>
    simp only [DispatchUnit.step]
    split
    · exact h.of_task rfl rfl (fun hun => hun) (fun e he => Or.inl he)
        (fun a ha => ha.imp_left mem_withoutCleaned)
    · exact hend.of_perm (List.Perm.refl _) fun a ha => mem_withoutCleaned ha
  | cleaned receipt =>
    simp only [DispatchUnit.step]
    split
    · rename_i db' hupsert
      exact (h.of_rewrite hupsert rfl rfl).of_sublist (List.sublist_cons_self _ _)
    · exact hend

theorem claimTask_inv (h : ClaimWorld.Inv ⟨db, task :: rest, out⟩) :
    ((task.step now remote db out).world rest).Inv := by
  cases task with
  | prepare p => exact preparation_inv h
  | cleanup c => exact cleanupTask_inv h
  | finalize u => exact dispatchUnit_inv h

/-! ### Claims -/

/-- The lease ids that some row or some daemon still goes by. -/
def ClaimWorld.usedIds (s : ClaimWorld) : List String :=
  s.db.leases.rows.map IssueLease.leaseId ++ s.tasks.map ClaimTask.leaseId

theorem claimed_lease {leases' : LeaseTable}
    (h : tryClaim now repo issueNumber configId leases = .ok (some lease, leases')) :
    lease = claimedLease now repo issueNumber configId := by
  obtain ⟨_, _, _, ⟨hnone, _⟩ | ⟨hsome, _⟩⟩ := tryClaim_cases h
  · simp at hnone
  · exact Option.some.inj hsome

theorem ne_of_notMem_usedIds {leaseId : String} (h : leaseId ∉ s.usedIds) :
    (∀ row ∈ s.db.leases, row.leaseId ≠ leaseId) ∧ ∀ task ∈ s.tasks, task.leaseId ≠ leaseId := by
  unfold ClaimWorld.usedIds at h
  rw [List.mem_append, not_or] at h
  exact ⟨fun row hrow hid => h.1 (List.mem_map.mpr ⟨row, hrow, hid⟩),
    fun task htask hid => h.2 (List.mem_map.mpr ⟨task, htask, hid⟩)⟩

/-- **A claim alone forgets nothing: the receipt goes with the lease.** -/
theorem ClaimWorld.Inv.of_claim (h : s.Inv)
    (hclaim : tryClaimCascading now repo issueNumber configId s.db = .ok (some lease, db'))
    (hfresh : lease.leaseId ∉ s.usedIds) : ClaimWorld.Inv { s with db := db' } := by
  obtain ⟨htry, hreceipts⟩ := tryClaimCascading_some hclaim
  have hleases := tryClaim_mem htry
  have hlease : lease.covers repo issueNumber = true := by
    rw [claimed_lease htry]
    exact IssueLease.covers_iff.mpr ⟨rfl, rfl⟩
  obtain ⟨hrows, htasks⟩ := ne_of_notMem_usedIds hfresh
  -- the receipt of a lease of another issue stays where it is
  have hother : ∀ row ∈ s.db.leases, row.covers repo issueNumber = false →
      ∀ r ∈ s.db.receipts, r.leaseId = row.leaseId → r ∈ db'.receipts := by
    intro row hrow hcovers r hr hid
    exact (hreceipts r).mpr ⟨r, hr, takenOver_neg hrow hcovers hid⟩
  -- a receipt that does not go by the new id is an old one
  have hold : ∀ r ∈ db'.receipts, r.leaseId ≠ lease.leaseId → r ∈ s.db.receipts := by
    intro r hr hid
    obtain ⟨before, hbefore, rfl⟩ := (hreceipts r).mp hr
    unfold takenOver at hid ⊢
    split at hid
    · exact absurd rfl hid
    · rename_i hnot
      rw [if_neg hnot]
      exact hbefore
  refine ⟨?_, ?_, ?_, h.compatible⟩
  · intro a ha
    obtain ⟨row, hrow, hcovers, r, hr, hid, hra⟩ := records_iff.mp (h.recorded a ha)
    by_cases hissue : row.covers repo issueNumber = true
    · -- the issue that is claimed
      refine records_iff.mpr ⟨lease, (hleases lease).mpr (Or.inl rfl), ?_,
        { r with leaseId := lease.leaseId },
        (hreceipts _).mpr ⟨r, hr, takenOver_pos hrow hissue hid⟩, rfl, hra⟩
      rw [IssueLease.covers_iff] at hcovers hissue hlease ⊢
      exact ⟨hlease.1.trans (hissue.1.symm.trans hcovers.1),
        hlease.2.trans (hissue.2.symm.trans hcovers.2)⟩
    · have hfalse : row.covers repo issueNumber = false := by simpa using hissue
      exact records_iff.mpr ⟨row, (hleases row).mpr (Or.inr ⟨hrow, hfalse⟩), hcovers, r,
        hother row hrow hfalse r hr hid, hid, hra⟩
  · intro r hr
    by_cases hid : r.leaseId = lease.leaseId
    · exact ⟨lease, (hleases lease).mpr (Or.inl rfl), hid.symm⟩
    · have hbefore := hold r hr hid
      obtain ⟨row, hrow, hrowId⟩ := h.held r hbefore
      refine ⟨row, (hleases row).mpr (Or.inr ⟨hrow, ?_⟩), hrowId⟩
      -- otherwise it would have gone with the lease
      by_contra hcovers
      obtain ⟨before, hwas, hmoved⟩ := (hreceipts r).mp hr
      by_cases hsame : before.leaseId = row.leaseId
      · rw [takenOver_pos hrow (by simpa using hcovers) hsame] at hmoved
        exact hid (congrArg ClaimMetadataReceipt.leaseId hmoved).symm
      · have hkept : before.leaseId = r.leaseId := by
          unfold takenOver at hmoved
          split at hmoved
          · exact absurd (congrArg ClaimMetadataReceipt.leaseId hmoved).symm hid
          · rw [hmoved]
        exact hsame (hkept.trans hrowId.symm)
  · intro task htask
    have hknows := h.knows task htask
    refine ⟨?_, hknows.named, ?_, ?_⟩
    · intro row hrow hid
      rcases (hleases row).mp hrow with rfl | ⟨hbefore, _⟩
      · exact absurd hid.symm (htasks task htask)
      · exact hknows.placed row hbefore hid
    · intro e he r hr hid
      exact hknows.expected e he r (hold r hr fun hnew => htasks task htask (hid.symm.trans hnew))
        hid
    · intro hun r hr hid
      exact hknows.quiet hun r (hold r hr fun hnew => htasks task htask (hid.symm.trans hnew)) hid

/-- No lease keeps the claim of an issue off. -/
def Claimable (repo : String) (issueNumber : UInt64) (leases : LeaseTable) : Prop :=
  ∀ row ∈ leases, row.covers repo issueNumber = true → row.status ∈ LeaseStatus.reclaimable

/-- The id of a claim is new, as it is when the clock has moved on; and a claim that writes
a receipt is made when there is nothing on the issue to take back, and nothing that some
daemon is about to add. -/
def ReclaimIsSafe (s : ClaimWorld) : SideEffectCall → Prop
  | .acquire now configId cfg issue _ _ =>
    let repo := cfg.repo.getD ""
    Claimable repo issue.number s.db.leases →
      (claimedLease now repo issue.number configId).leaseId ∉ s.usedIds
      ∧ ∀ a ∈ s.owed, ¬ (a.issueRepo = repo ∧ a.issueNumber = issue.number)
  | .claimChild now repo issueNumber configId =>
    Claimable repo issueNumber s.db.leases →
      (claimedLease now repo issueNumber configId).leaseId ∉ s.usedIds
  | _ => True

instance (repo : String) (issueNumber : UInt64) (leases : LeaseTable) :
    Decidable (Claimable repo issueNumber leases) :=
  inferInstanceAs (Decidable (∀ row ∈ leases.rows, _))

instance (s : ClaimWorld) (call : SideEffectCall) : Decidable (ReclaimIsSafe s call) :=
  match call with
  | .acquire _ _ _ _ _ _ => inferInstanceAs (Decidable (_ → _ ∧ _))
  | .claimChild _ _ _ _ => inferInstanceAs (Decidable (_ → _))
  | .transition _ | .listCleanups _ | .advance _ _ _ | .drop _ => inferInstanceAs (Decidable True)

/-- **A claim that writes its receipt forgets nothing when there is nothing to forget.** -/
theorem acquire_inv {runId : String} {issue : GithubIssue} {bases : DaemonPathBases} (h : s.Inv)
    (hsafe : ReclaimIsSafe s (.acquire now configId cfg issue bases runId)) :
    (sideEffectStep s (.acquire now configId cfg issue bases runId)).Inv := by
  simp only [sideEffectStep]
  split
  · rename_i lease db₂ hacquire
    obtain ⟨⟨answer, db₁⟩, hclaim, hbody⟩ := bind_ok.mp (atomically_ok.mp hacquire)
    cases answer with
    | none => simp at hbody
    | some claimed =>
      obtain ⟨db₂', hupsert, hbody⟩ := bind_ok.mp hbody
      simp only [Except.ok.injEq, Prod.mk.injEq, Option.some.injEq] at hbody
      obtain ⟨rfl, rfl⟩ := hbody
      obtain ⟨htry, _⟩ := tryClaimCascading_some hclaim
      have hnew := claimed_lease htry
      obtain ⟨hfresh, hnothing⟩ := hsafe (tryClaim_some htry).1
      rw [← hnew] at hfresh
      have h₁ := h.of_claim hclaim hfresh
      obtain ⟨hrows, htasks⟩ := ne_of_notMem_usedIds hfresh
      -- a lease with the new id is the new lease, and so is one of the issue
      have hplaced : ∀ row ∈ db₁.leases, row.leaseId = claimed.leaseId → row = claimed := by
        intro row hrow hid
        rcases (tryClaim_mem htry row).mp hrow with hsame | ⟨hbefore, _⟩
        · exact hsame
        · exact absurd hid (hrows row hbefore)
      suffices hfirst : ClaimWorld.Inv
          ⟨db₂', .prepare ⟨configId, cfg, issue, claimed.leaseId, runId, bases, .claimed⟩
            :: s.tasks, s.outstanding⟩ from
        hfirst.of_perm (List.perm_append_singleton _ _).symm fun a ha => ha
      refine h₁.of_written hupsert rfl ?_ rfl (fun _ => rfl) ?_ ?_
      · intro row hrow hid
        rw [hplaced row hrow hid, hnew]
        exact IssueLease.covers_iff.mpr ⟨rfl, rfl⟩
      · exact fun other hother hid => absurd hid.symm (htasks other hother)
      · intro a ha
        have howed : a ∈ s.owed := by
          rcases ha with hold | ⟨other, hother, hannounced⟩
          · exact mem_owed.mpr (Or.inl hold)
          · rcases List.mem_cons.mp hother with rfl | hrest
            · exact absurd hannounced List.not_mem_nil
            · exact mem_owed.mpr (Or.inr ⟨other, hrest, hannounced⟩)
        obtain ⟨row, hrow, hcovers, r, hr, hid, hra⟩ := records_iff.mp (h₁.recorded a howed)
        refine records_iff.mpr ⟨row, (upsertClaimMetadata_leases hupsert) ▸ hrow, hcovers, r,
          (mem_upsertClaimMetadata hupsert r).mpr (Or.inr ⟨hr, fun hreceipt => ?_⟩), hid, hra⟩
        -- the receipt that is written over is one of the issue, which nothing is owed
        have hsame := hplaced row hrow (hid.symm.trans hreceipt)
        rw [hsame, hnew, IssueLease.covers_iff] at hcovers
        exact hnothing a howed ⟨hcovers.1.symm, hcovers.2.symm⟩
  · rename_i answer db₂ hlost hacquire
    have hsame : db₂ = s.db := by
      match answer, hlost, hacquire with
      | .ok (some lease), hlost, _ => exact absurd rfl (hlost lease)
      | .ok none, _, hacquire =>
        obtain ⟨⟨answer, db₁⟩, hclaim, hbody⟩ := bind_ok.mp (atomically_ok.mp hacquire)
        cases answer with
        | none =>
          simp only [Except.ok.injEq, Prod.mk.injEq] at hbody
          rw [← hbody.2]
          exact tryClaimCascading_none hclaim
        | some claimed =>
          obtain ⟨_, _, hbody⟩ := bind_ok.mp hbody
          simp at hbody
      | .error e, _, hacquire => exact atomically_error hacquire
    rw [hsame]
    exact h

theorem claimChild_inv (h : s.Inv)
    (hsafe : ReclaimIsSafe s (.claimChild now repo issueNumber configId)) :
    (sideEffectStep s (.claimChild now repo issueNumber configId)).Inv := by
  simp only [sideEffectStep]
  match hclaim : atomically (tryClaimCascading now repo issueNumber configId) s.db with
  | (.ok none, db₁) =>
    rw [tryClaimCascading_none (atomically_ok.mp hclaim)]
    exact h
  | (.ok (some lease), db₁) =>
    have hbody := atomically_ok.mp hclaim
    obtain ⟨htry, _⟩ := tryClaimCascading_some hbody
    refine h.of_claim hbody ?_
    rw [claimed_lease htry]
    exact hsafe (tryClaim_some htry).1
  | (.error e, db₁) =>
    rw [atomically_error hclaim]
    exact h

/-! ### Cleanup passes -/

theorem mem_listPendingClaimCleanups {cleanup : PendingClaimCleanup}
    (h : cleanup ∈ listPendingClaimCleanups db repo) :
    cleanup.receipt ∈ db.receipts ∧ cleanup.receipt.cleanupPending = true
      ∧ ∃ lease ∈ db.leases, lease.leaseId = cleanup.receipt.leaseId
        ∧ lease.covers cleanup.issueRepo cleanup.issueNumber = true := by
  unfold listPendingClaimCleanups at h
  rw [List.mem_mergeSort] at h
  obtain ⟨lease, hlease, h⟩ := List.mem_flatMap.mp h
  obtain ⟨receipt, hreceipt, rfl⟩ := List.mem_map.mp h
  obtain ⟨hmem, hpending⟩ := mem_select.mp hreceipt
  obtain ⟨hfor, hpending⟩ := Bool.and_eq_true_iff.mp hpending
  exact ⟨hmem, hpending, lease, (mem_select.mp hlease).1, (isFor_iff.mp hfor).symm,
    IssueLease.covers_iff.mpr ⟨rfl, rfl⟩⟩

theorem ClaimWorld.Inv.of_listed {cleanup : PendingClaimCleanup} (h : s.Inv)
    (hreceipt : cleanup.receipt ∈ s.db.receipts)
    (hpending : cleanup.receipt.cleanupPending)
    (hlease : ∃ lease ∈ s.db.leases, lease.leaseId = cleanup.receipt.leaseId
      ∧ lease.covers cleanup.issueRepo cleanup.issueNumber = true) :
    ClaimWorld.Inv { s with tasks := .cleanup ⟨cleanup, .listed⟩ :: s.tasks } where
  recorded := by
    intro a ha
    refine h.recorded a (mem_owed.mpr ((mem_owed.mp ha).imp_right ?_))
    intro ⟨task, htask, hannounced⟩
    rcases List.mem_cons.mp htask with rfl | hold
    · exact absurd hannounced List.not_mem_nil
    · exact ⟨task, hold, hannounced⟩
  held := h.held
  knows := by
    intro task htask
    rcases List.mem_cons.mp htask with rfl | hold
    · refine ⟨?_, ?_, ?_, fun hun => by simp [ClaimTask.unwritten] at hun⟩
      · intro row hrow hid
        obtain ⟨lease, hmem, hleaseId, hcovers⟩ := hlease
        have hsame : row = lease :=
          eq_of_clash hrow hmem (Or.inl (hid.trans hleaseId.symm))
        rw [hsame]
        exact hcovers
      · intro e he
        rw [← Option.some.inj he]
        rfl
      · intro e he r hr hid
        rw [receipt_unique hr hreceipt hid]
        exact Option.some.inj he
    · exact h.knows task hold
  compatible := by
    refine List.pairwise_cons.mpr ⟨fun other hother hid => ?_, h.compatible⟩
    have hknows := h.knows other hother
    refine ⟨rfl, ?_, fun e e' he he' => ?_⟩
    · -- a pending receipt was written by its claim
      by_contra hun
      rw [hknows.quiet (by simpa using hun) cleanup.receipt hreceipt hid] at hpending
      simp at hpending
    · rw [← Option.some.inj he]
      exact hknows.expected e' he' cleanup.receipt hreceipt hid

theorem listCleanups_inv (h : s.Inv) :
    (sideEffectStep s (.listCleanups repo)).Inv := by
  have hlisted : ∀ cleanup ∈ listPendingClaimCleanups s.db repo,
      cleanup.receipt ∈ s.db.receipts ∧ cleanup.receipt.cleanupPending = true
        ∧ ∃ lease ∈ s.db.leases, lease.leaseId = cleanup.receipt.leaseId
          ∧ lease.covers cleanup.issueRepo cleanup.issueNumber = true :=
    fun cleanup hmem => mem_listPendingClaimCleanups hmem
  simp only [sideEffectStep]
  refine ClaimWorld.Inv.of_perm ?_ List.perm_append_comm fun a ha => ha
  -- one receipt after the other
  generalize listPendingClaimCleanups s.db repo = listed at hlisted
  induction listed with
  | nil => exact h
  | cons cleanup more ih =>
    obtain ⟨hreceipt, hpending, hlease⟩ := hlisted cleanup List.mem_cons_self
    exact (ih fun other hother => hlisted other (List.mem_cons_of_mem _ hother)).of_listed
      hreceipt hpending hlease

/-! ### Any number of daemons -/

theorem advance_inv {i : Nat} (h : s.Inv) : (sideEffectStep s (.advance now remote i)).Inv := by
  simp only [sideEffectStep]
  split
  · exact h
  · rename_i task htask
    obtain ⟨hi, rfl⟩ := List.getElem?_eq_some_iff.mp htask
    have hfirst : ClaimWorld.Inv ⟨s.db, s.tasks[i] :: s.tasks.eraseIdx i, s.outstanding⟩ :=
      h.of_perm (List.getElem_cons_eraseIdx_perm hi).symm fun a ha => ha
    exact (claimTask_inv hfirst).of_perm List.perm_append_comm fun a ha => ha

theorem sideEffectStep_inv {call : SideEffectCall} (h : s.Inv) (hsafe : ReclaimIsSafe s call) :
    (sideEffectStep s call).Inv := by
  cases call with
  | acquire now configId cfg issue bases runId => exact acquire_inv h hsafe
  | claimChild now repo issueNumber configId => exact claimChild_inv h hsafe
  | transition call => exact h.of_leases (sameLeases_leaseStep call.property)
  | listCleanups repo => exact listCleanups_inv h
  | advance now remote i => exact advance_inv h
  | drop i => exact h.of_sublist (List.eraseIdx_sublist _ _)

theorem start_inv (h : sideEffectMachine.start s) : s.Inv := by
  obtain ⟨hdb, htasks, hout⟩ := h
  refine ⟨?_, ?_, ?_, ?_⟩
  · intro a ha
    rw [mem_owed, htasks, hout] at ha
    simp at ha
  · intro r hr
    rw [hdb] at hr
    exact absurd hr (not_mem_empty r)
  · rw [htasks]
    simp
  · rw [htasks]
    exact List.Pairwise.nil

/-- **Every run of which no claim writes over a receipt while something is owed remembers what
was added.** Whatever the daemons do, and wherever they stop: what a claim added to an issue
and nobody has taken back is told by a receipt of a lease of that issue. -/
theorem side_effects_remembered {s : ClaimWorld} (hstart : sideEffectMachine.start s)
    {calls : List SideEffectCall} (hsafe : sideEffectMachine.Along ReclaimIsSafe s calls) :
    (sideEffectMachine.run s calls).Remembers :=
  (hsafe.invariant (fun _ _ hcall h => sideEffectStep_inv h hcall) (start_inv hstart)).remembers

/-- No table has a row, and nothing is under way. -/
def emptyWorld : ClaimWorld where
  db := ⟨Table.empty, Table.empty⟩

/-- A config that assigns and labels the issues it claims. -/
def exampleDiscovery : DiscoveryConfig where
  repo := some "org/repo"
  claimAssignee := some "luther"
  claimLabel := some "Luther working"

/-- GitHub, when the issue has neither, and then both. -/
def exampleRemote : RemoteAnswers where
  seen := .ok (some ⟨7, [], []⟩)
  addAssignee := ⟨true, .ok ()⟩
  addLabel := ⟨true, .ok ()⟩
  verified := .ok (some ⟨7, ["Luther working"], ["luther"]⟩)
  removeLabel := .ok ()
  removeAssignee := .ok ()

def exampleClaim : List SideEffectCall :=
  .acquire 100 "first" exampleDiscovery ⟨7, [], []⟩ {} "run-1"
    :: List.replicate 6 (.advance 110 exampleRemote 0)

/-- What the claim of issue 7 added is remembered, and it added something. -/
theorem side_effects_remembered_example :
    sideEffectMachine.Along ReclaimIsSafe emptyWorld exampleClaim
      ∧ (sideEffectMachine.run emptyWorld exampleClaim).outstanding.length = 2
      ∧ (sideEffectMachine.run emptyWorld exampleClaim).Remembers := by
  have hsafe : sideEffectMachine.Along ReclaimIsSafe emptyWorld exampleClaim := by
    decide +kernel
  exact ⟨hsafe, by decide +kernel, side_effects_remembered ⟨rfl, rfl, rfl⟩ hsafe⟩

/-- Its launch fails, its daemon is gone, and the issue is claimed again. -/
def exampleReclaim : List SideEffectCall :=
  exampleClaim ++
    [.drop 0,
     .transition ⟨.updateLeaseStatus 150 (claimedLease 100 "org/repo" 7 "first").leaseId .failed
       none, rfl⟩,
     .acquire 200 "first" exampleDiscovery ⟨7, ["Luther working"], ["luther"]⟩ {} "run-2"]

/-- The second claim of the issue forgets what the first has added. -/
theorem reclaim_forgets_side_effects :
    sideEffectMachine.start emptyWorld
      ∧ ¬ (sideEffectMachine.run emptyWorld exampleReclaim).Remembers :=
  ⟨⟨rfl, rfl, rfl⟩, by decide +kernel⟩

end Luther
