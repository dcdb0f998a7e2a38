/-
What a launch of a child may count on.

A launch owns the lease of its child from the compare-and-swap that moves it to running, as long as
no other process writes the lease.  Each such compare-and-swap uses up a claim: the lease it finds
is claimed and has no run, only a claim makes it so, and it is not so any more behind it.  What a
failed launch puts back is another matter: the statement that puts it back has no way to take the
run away again.
-/
import Luther.Orchestration.ChildLaunch
import Luther.Proofs.Leases
import Std.Data.String.ToNat
namespace Luther
open Sql Sql.Table

/-! ### The id of a lease names its issue -/

/-- The lease id is one that a claim of its issue makes. -/
def NamedForIssue (lease : IssueLease) : Prop :=
  ∃ nanos : Int, lease.leaseId = s!"lease-{lease.issueRepo}-{lease.issueNumber}-{nanos}"

variable {before before' : List Char} {lease : IssueLease} {db db' : LeaseTable} {now : Timestamp}
  {newRunId expectedRunId : Option String} {status : LeaseStatus} {expected : List LeaseStatus}
  {leaseId : String} {selection : ChildSelection} {stage : ChildLaunchStage}

variable {sep : Char} {n : Nat} {repo runId : String} {guard : Option String → Bool}
  {takeover : Takeover} {cleared : LeaseTable} {changed : Bool}

theorem splitFirst_sep (h : sep ∉ before) (after : List Char) :
    Search.splitFirst [sep] (before ++ sep :: after) = some (before, after) := by
  have hnot : ¬ [sep] <:+: before ++ [sep].dropLast := by
    rw [List.dropLast_singleton, List.append_nil]
    intro hfound
    exact h (hfound.subset (List.mem_singleton_self sep))
  have hsplit := Search.splitFirst_append after hnot
  rwa [List.append_assoc, List.singleton_append] at hsplit

theorem append_sep_inj {after after' : List Char} (h : sep ∉ before)
    (h' : sep ∉ before') (heq : before ++ sep :: after = before' ++ sep :: after') :
    before = before' ∧ after = after' := by
  have hsplit := splitFirst_sep h after
  rw [heq, splitFirst_sep h' after'] at hsplit
  obtain ⟨rfl, rfl⟩ := Prod.mk.inj (Option.some.inj hsplit)
  exact ⟨rfl, rfl⟩

theorem dash_notMem_repr (n : Nat) : '-' ∉ n.repr.toList.reverse := by
  intro h
  have hdigit := isDigit_of_mem_repr (List.mem_reverse.mp h)
  exact absurd hdigit (by decide)

theorem reverse_repr_ne_nil (n : Nat) : n.repr.toList.reverse ≠ [] := by
  rw [Nat.toList_repr]
  simp

theorem repr_dash_inj {m : Nat}
    (h : m.repr.toList.reverse ++ '-' :: before = n.repr.toList.reverse ++ '-' :: before') :
    m = n ∧ before = before' := by
  obtain ⟨hdigits, hbefore⟩ := append_sep_inj (dash_notMem_repr m) (dash_notMem_repr n) h
  exact ⟨Nat.repr_injective (String.toList_inj.mp (List.reverse_injective hdigits)), hbefore⟩

theorem repr_ne_dash (h : n.repr.toList.reverse ++ '-' :: before = '-' :: before') :
    False := by
  obtain ⟨c, rest, hdigits⟩ := List.exists_cons_of_ne_nil (reverse_repr_ne_nil n)
  have hdash := dash_notMem_repr n
  rw [hdigits, List.cons_append, List.cons.injEq] at h
  rw [hdigits, h.1] at hdash
  exact hdash List.mem_cons_self

theorem reverse_leaseId (repo : String) (number : UInt64) (nanos : Int) :
    (s!"lease-{repo}-{number}-{nanos}").toList.reverse
      = (toString nanos).toList.reverse ++ '-' :: (number.toNat.repr.toList.reverse
        ++ '-' :: ("lease-".toList ++ repo.toList).reverse) := by
  have htext : ∀ text : String, toString text = text := fun _ => rfl
  have hnumber : toString number = number.toNat.repr := rfl
  simp only [htext, hnumber, String.toList_append]
  simp

/-- **A lease id names one issue**, whatever the clock was. -/
theorem leaseId_inj {other : String} {number otherNumber : UInt64} {nanos otherNanos : Int}
    (h : s!"lease-{repo}-{number}-{nanos}" = s!"lease-{other}-{otherNumber}-{otherNanos}") :
    repo = other ∧ number = otherNumber := by
  have hreverse := congrArg (fun text : String => text.toList.reverse) h
  rw [reverse_leaseId, reverse_leaseId] at hreverse
  have hissue : number.toNat.repr.toList.reverse
        ++ '-' :: ("lease-".toList ++ repo.toList).reverse
      = otherNumber.toNat.repr.toList.reverse
        ++ '-' :: ("lease-".toList ++ other.toList).reverse := by
    have hnat : ∀ m : Nat, toString (Int.ofNat m) = m.repr := fun _ => rfl
    have hneg : ∀ m : Nat, toString (Int.negSucc m) = "-" ++ (m + 1).repr := fun _ => rfl
    have hrev : ∀ m : Nat, ("-" ++ (m + 1).repr).toList.reverse
        = (m + 1).repr.toList.reverse ++ ['-'] := by
      intro m
      rw [String.toList_append, List.reverse_append]
      rfl
    cases nanos with
    | ofNat m =>
      cases otherNanos with
      | ofNat m' =>
        rw [hnat, hnat] at hreverse
        exact (repr_dash_inj hreverse).2
      | negSucc m' =>
        rw [hnat, hneg, hrev, List.append_assoc, List.singleton_append] at hreverse
        exact (repr_ne_dash (repr_dash_inj hreverse).2).elim
    | negSucc m =>
      cases otherNanos with
      | ofNat m' =>
        rw [hnat, hneg, hrev, List.append_assoc, List.singleton_append] at hreverse
        exact (repr_ne_dash (repr_dash_inj hreverse).2.symm).elim
      | negSucc m' =>
        rw [hneg, hneg, hrev, hrev, List.append_assoc, List.append_assoc,
          List.singleton_append, List.singleton_append] at hreverse
        exact (List.cons.inj (repr_dash_inj hreverse).2).2
  obtain ⟨hnumber, hrepo⟩ := repr_dash_inj hissue
  have htext := List.append_cancel_left (List.reverse_injective hrepo)
  exact ⟨String.toList_inj.mp htext, UInt64.toNat_inj.mp hnumber⟩

theorem NamedForIssue.issue_eq {other : IssueLease} (h : NamedForIssue lease)
    (h' : NamedForIssue other) (hid : lease.leaseId = other.leaseId) :
    lease.issueRepo = other.issueRepo ∧ lease.issueNumber = other.issueNumber := by
  obtain ⟨nanos, hnanos⟩ := h
  obtain ⟨nanos', hnanos'⟩ := h'
  rw [hnanos, hnanos'] at hid
  exact leaseId_inj hid

theorem namedForIssue_claimedLease (now : Timestamp) (repo : String) (issueNumber : UInt64)
    (configId : String) : NamedForIssue (claimedLease now repo issueNumber configId) :=
  ⟨now.timestampNanosOpt.getD 0, rfl⟩

/-! ### What a write does to the claimed leases without a run -/

/-- A write that makes a lease claimed, and without a run, only where it claims it. -/
structure TableStep (claims : List String) (db db' : LeaseTable) : Prop where
  named : (∀ row ∈ db, NamedForIssue row) → ∀ row ∈ db', NamedForIssue row
  unstarted : ∀ row ∈ db', row.unstarted = true →
    (∃ before ∈ db, before.leaseId = row.leaseId ∧ before.unstarted = true)
      ∨ row.leaseId ∈ claims

theorem TableStep.refl (db : LeaseTable) : TableStep [] db db :=
  ⟨id, fun row hrow hunstarted => Or.inl ⟨row, hrow, rfl, hunstarted⟩⟩

theorem tableStep_map {claims : List String} {p : IssueLease → Bool} {f : IssueLease → IssueLease}
    (h : db'.rows = db.rows.map (Table.set p f))
    (hkey : ∀ row, (f row).leaseId = row.leaseId ∧ (f row).issueRepo = row.issueRepo
      ∧ (f row).issueNumber = row.issueNumber)
    (hf : ∀ row, p row = true → (f row).unstarted = true → row.leaseId ∈ claims) :
    TableStep claims db db' := by
  have hnamed : ∀ row, NamedForIssue row → NamedForIssue (f row) := by
    intro row hrow
    obtain ⟨hid, hrepo, hnumber⟩ := hkey row
    unfold NamedForIssue
    rw [hid, hrepo, hnumber]
    exact hrow
  refine ⟨?_, ?_⟩
  · intro hall row hrow
    obtain ⟨before, hbefore, rfl⟩ := (mem_set h).mp hrow
    by_cases hp : p before = true
    · rw [set_pos hp]
      exact hnamed before (hall before hbefore)
    · rw [set_neg (by simpa using hp)]
      exact hall before hbefore
  · intro row hrow hunstarted
    obtain ⟨before, hbefore, rfl⟩ := (mem_set h).mp hrow
    by_cases hp : p before = true
    · rw [set_pos hp] at hunstarted ⊢
      rw [(hkey before).1]
      exact Or.inr (hf before hp hunstarted)
    · rw [set_neg (by simpa using hp)] at hunstarted ⊢
      exact Or.inl ⟨before, hbefore, rfl, hunstarted⟩


theorem tableStep_tryClaim {issueNumber : UInt64} {configId : String}
    (h : tryClaim now repo issueNumber configId db = .ok (some lease, db')) :
    TableStep [lease.leaseId] db db' ∧ NamedForIssue lease
      ∧ lease.covers repo issueNumber = true ∧ lease.unstarted = true := by
  obtain ⟨-, ⟨hmem, hcovers, hstatus⟩, hothers⟩ := tryClaim_some h
  obtain ⟨-, leaseId, -, hanswer⟩ := tryClaim_cases h
  have hlease : lease = claimedLease now repo issueNumber configId := by
    rcases hanswer with ⟨hnone, -⟩ | ⟨hsome, -⟩
    · cases hnone
    · exact Option.some.inj hsome
  have hnamed : NamedForIssue lease := by
    rw [hlease]
    exact namedForIssue_claimedLease _ _ _ _
  have hrow : ∀ row ∈ db', row = lease ∨ row ∈ db := by
    intro row hrow
    by_cases hc : row.covers repo issueNumber = true
    · exact Or.inl (eq_of_clash hrow hmem (IssueLease.clash_of_covers row lease hc hcovers))
    · exact Or.inr ((hothers row (by simpa using hc)).mp hrow)
  refine ⟨⟨?_, ?_⟩, hnamed, hcovers, by rw [hlease]; rfl⟩
  · intro hall row hmem'
    rcases hrow row hmem' with rfl | hold
    · exact hnamed
    · exact hall row hold
  · intro row hmem' hunstarted
    rcases hrow row hmem' with rfl | hold
    · exact Or.inr (List.mem_singleton_self _)
    · exact Or.inl ⟨row, hold, rfl, hunstarted⟩

theorem movedLease_unstarted {row : IssueLease}
    (h : status ≠ .claimed ∨ (newRunId.or row.runId).isSome = true) :
    (movedLease now status newRunId row).unstarted = false := by
  rcases h with hstatus | hrun
  · simp [movedLease, IssueLease.unstarted, hstatus]
  · obtain ⟨runId, hrunId⟩ := Option.isSome_iff_exists.mp hrun
    simp [movedLease, IssueLease.unstarted, hrunId]

theorem tableStep_conditionalTransition {applied : Bool}
    (h : conditionalTransition guard now leaseId status expected newRunId db = .ok (applied, db'))
    (hmoved : status ≠ .claimed ∨ ∀ runId, guard runId = true → (newRunId.or runId).isSome = true) :
    TableStep [] db db' := by
  refine tableStep_map (conditionalTransition_ok h).1 (fun _ => ⟨rfl, rfl, rfl⟩) ?_
  intro row hmovable hunstarted
  have hguard : guard row.runId = true := by
    unfold movable at hmovable
    rw [Bool.and_eq_true] at hmovable
    exact hmovable.2
  rw [movedLease_unstarted (hmoved.imp id fun hrun => hrun row.runId hguard)] at hunstarted
  cases hunstarted

theorem tableStep_conditionalOutcome {outcome : ConditionalLeaseStatusOutcome}
    (hstatus : status ≠ .claimed)
    (h : updateLeaseStatusConditionalOutcome now leaseId status expected newRunId expectedRunId db
      = .ok (outcome, db')) : TableStep [] db db' := by
  obtain ⟨applied, htransition⟩ := conditionalOutcome_transition h
  unfold updateLeaseStatusConditional at htransition
  exact tableStep_conditionalTransition htransition (Or.inl hstatus)

variable {α : Type}

theorem tableStep_atomically {body : LeaseTable → Except Error (α × LeaseTable)}
    (h : ∀ a db', body db = .ok (a, db') → TableStep [] db db') :
    TableStep [] db (atomically body db).2 := by
  cases hrun : atomically body db with
  | mk result db' =>
    cases result with
    | ok a => exact h a db' (atomically_ok.mp hrun)
    | error e =>
      rw [atomically_error hrun]
      exact TableStep.refl db

theorem replyOf_snd (wrap : α → LeaseReply) (body : LeaseTable → Except Error (α × LeaseTable))
    (db : LeaseTable) : (replyOf wrap body db).2 = (atomically body db).2 := by
  unfold replyOf
  cases atomically body db with
  | mk result db' => cases result <;> rfl

theorem tableStep_updateLeaseStatus {runId : Option String} (hstatus : status ≠ .claimed) :
    TableStep [] db (updateLeaseStatus now leaseId status runId db) := by
  unfold updateLeaseStatus
  cases runId with
  | none =>
    refine tableStep_map rfl (fun _ => ⟨rfl, rfl, rfl⟩) fun row _ hunstarted => ?_
    simp [IssueLease.unstarted, hstatus] at hunstarted
  | some runId =>
    refine tableStep_map rfl (fun _ => ⟨rfl, rfl, rfl⟩) fun row _ hunstarted => ?_
    simp [IssueLease.unstarted] at hunstarted

theorem tableStep_markStale {selected : IssueLease → Bool} :
    TableStep [] db (markStale now selected db).2 := by
  refine tableStep_map rfl (fun _ => ⟨rfl, rfl, rfl⟩) fun row _ hunstarted => ?_
  simp [IssueLease.unstarted] at hunstarted

theorem tableStep_replyOf {wrap : α → LeaseReply}
    {body : LeaseTable → Except Error (α × LeaseTable)} (hwrap : ∀ a, (wrap a).claimed = [])
    (h : ∀ a db', body db = .ok (a, db') → TableStep [] db db') :
    TableStep (replyOf wrap body db).1.claimed db (replyOf wrap body db).2 := by
  have hnone : (replyOf wrap body db).1.claimed = [] := by
    unfold replyOf
    cases atomically body db with
    | mk result db' =>
      cases result with
      | ok a => exact hwrap a
      | error e => rfl
  rw [hnone, replyOf_snd]
  exact tableStep_atomically h

theorem tableStep_replyOf_tryClaim (now : Timestamp) (repo : String) (issueNumber : UInt64)
    (configId : String) (db : LeaseTable) :
    TableStep (replyOf .claim (tryClaim now repo issueNumber configId) db).1.claimed db
      (replyOf .claim (tryClaim now repo issueNumber configId) db).2 := by
  unfold replyOf
  cases hrun : atomically (tryClaim now repo issueNumber configId) db with
  | mk result db' =>
    cases result with
    | error e =>
      rw [atomically_error hrun]
      exact TableStep.refl db
    | ok lease =>
      have hclaim := atomically_ok.mp hrun
      cases lease with
      | none =>
        rw [tryClaim_none hclaim]
        exact TableStep.refl db
      | some lease => exact (tableStep_tryClaim hclaim).1

/-- **A daemon makes a lease claimed by a claim alone.** -/
theorem tableStep_daemonCall (db : LeaseTable) (call : DaemonCall) :
    TableStep (leaseStep db call.call).1.claimed db (leaseStep db call.call).2 := by
  obtain ⟨call, hcall⟩ := call
  cases call with
  | createLease lease => cases hcall
  | clearChildLeaseForRelaunch now lease => cases hcall
  | tryClaim now repo issueNumber configId => exact tableStep_replyOf_tryClaim _ _ _ _ _
  | updateLeaseStatus now leaseId status runId =>
    exact tableStep_updateLeaseStatus (by simpa [LeaseCall.isDaemonCall] using hcall)
  | updateLeaseStatusConditional now leaseId status expected newRunId expectedRunId =>
    have hstatus : status ≠ .claimed := by simpa [LeaseCall.isDaemonCall] using hcall
    exact tableStep_replyOf (fun _ => rfl) fun _ _ h => by
      unfold updateLeaseStatusConditional at h
      exact tableStep_conditionalTransition h (Or.inl hstatus)
  | updateLeaseStatusConditionalExactOwner now leaseId status expected newRunId expectedRunId =>
    have hstatus : status ≠ .claimed := by simpa [LeaseCall.isDaemonCall] using hcall
    exact tableStep_replyOf (fun _ => rfl) fun _ _ h => by
      unfold updateLeaseStatusConditionalExactOwner at h
      exact tableStep_conditionalTransition h (Or.inl hstatus)
  | updateLeaseStatusConditionalOutcome now leaseId status expected newRunId expectedRunId =>
    have hstatus : status ≠ .claimed := by simpa [LeaseCall.isDaemonCall] using hcall
    exact tableStep_replyOf (fun _ => rfl) fun _ _ h => tableStep_conditionalOutcome hstatus h
  | touchOwnedRunningLeaseHeartbeat now leaseId expectedRunId =>
    refine tableStep_map rfl (fun _ => ⟨rfl, rfl, rfl⟩) fun row hselected hunstarted => ?_
    simp only [Bool.and_eq_true, beq_iff_eq] at hselected
    simp [IssueLease.unstarted, hselected.2] at hunstarted
  | markStaleLeases now timeoutSecs => exact tableStep_markStale
  | markStaleReadyToResumeLeases now timeoutSecs => exact tableStep_markStale

/-! ### What holds of one launch -/

/-- A lease of the issue of the child. -/
structure LeaseOf (selection : ChildSelection) (lease : IssueLease) : Prop where
  named : NamedForIssue lease
  covers : lease.covers selection.repo selection.child = true

/-- **What a launch may count on**, where it stands. -/
def ChildLaunchStage.Sound (selection : ChildSelection) (db : LeaseTable) (changed : Bool) :
    ChildLaunchStage → Prop
  | .readyToResume lease | .resuming lease =>
    LeaseOf selection lease ∧ lease.status = .readyToResume
  | .relaunchable lease => LeaseOf selection lease ∧ lease.status ≠ .claimed
  | .launching lease => LeaseOf selection lease ∧ lease.unstarted = true
  | .holding takeover _ =>
    LeaseOf selection takeover.lease ∧ takeover.lease.runId ≠ some ""
      ∧ (changed = false →
        ownership db takeover.lease.leaseId = some (.running, some takeover.runId))
  | _ => True

/-- **A conditional transition that was applied owns the lease.** -/
theorem ownership_of_applied
    (h : conditionalTransition guard now leaseId status expected newRunId db = .ok (true, db')) :
    ∃ row ∈ db, row.leaseId = leaseId ∧ row.status ∈ expected ∧ guard row.runId = true
      ∧ ownership db' leaseId = some (status, newRunId.or row.runId) := by
  obtain ⟨hrows, happlied⟩ := conditionalTransition_ok h
  obtain ⟨row, hrow, hmovable⟩ := happlied.mp rfl
  have hparts := hmovable
  unfold movable at hparts
  rw [Bool.and_eq_true, Bool.and_eq_true, beq_iff_eq, List.contains_iff_mem] at hparts
  obtain ⟨⟨hid, hstatus⟩, hguard⟩ := hparts
  refine ⟨row, hrow, hid, hstatus, hguard, ?_⟩
  have hmem : movedLease now status newRunId row ∈ db' :=
    (mem_set hrows).mpr ⟨row, hrow, set_pos hmovable⟩
  have hfind : db'.find? (fun row => row.leaseId == leaseId)
      = some (movedLease now status newRunId row) := by
    refine Table.find?_eq_some_of_key ?_ hmem (by simpa [movedLease] using hid)
    intro a b ha hb
    rw [beq_iff_eq] at ha hb
    exact Or.inl (ha.trans hb.symm)
  unfold ownership
  rw [hfind]
  rfl

section

variable (h : claimRunningLeaseCas now lease expected expectedRunId runId db = (.ok true, db'))

include h

/-- **What a compare-and-swap to running found**: the status and the owner that it was to find. -/
theorem claimRunningLeaseCas_applied :
    (∃ row ∈ db, row.leaseId = lease.leaseId ∧ row.status ∈ expected ∧ row.runId = expectedRunId)
      ∧ ownership db' lease.leaseId = some (.running, some runId) := by
  have hrun := atomically_ok.mp h
  unfold updateLeaseStatusConditionalExactOwner at hrun
  obtain ⟨row, hrow, hid, hstatus, hguard, hownership⟩ := ownership_of_applied hrun
  refine ⟨⟨row, hrow, hid, hstatus, ?_⟩, hownership⟩
  cases expectedRunId with
  | none => simpa using hguard
  | some expected => simpa using hguard

theorem runId_ne_empty_of_applied : runId ≠ "" := by
  rintro rfl
  have hrun := atomically_ok.mp h
  unfold updateLeaseStatusConditionalExactOwner conditionalTransition at hrun
  rw [if_pos rfl] at hrun
  cases hrun

end

theorem tableStep_claimRunningLeaseCas (now : Timestamp) (lease : IssueLease)
    (expected : List LeaseStatus) (expectedRunId : Option String) (runId : String)
    (db : LeaseTable) :
    TableStep [] db (claimRunningLeaseCas now lease expected expectedRunId runId db).2 :=
  tableStep_atomically fun _ _ h => by
    unfold updateLeaseStatusConditionalExactOwner at h
    exact tableStep_conditionalTransition h (Or.inl (by decide))

theorem afterTakeover_snd (takeover : Takeover) (stage : DispatchStage)
    (result : Except Error Bool × LeaseTable) :
    (afterTakeover takeover stage result).2 = result.2 := by
  obtain ⟨answer, db⟩ := result
  cases answer with
  | error e => rfl
  | ok applied => cases applied <;> rfl

theorem afterTakeover_sound {stage : DispatchStage} (hlease : LeaseOf selection takeover.lease)
    (hrunId : takeover.lease.runId = none ∨ takeover.lease.runId = some takeover.runId)
    (changed : Bool) :
    let after := afterTakeover takeover stage
      (claimRunningLeaseCas now takeover.lease expected expectedRunId takeover.runId db)
    after.1.Sound selection after.2 changed := by
  dsimp only
  cases hrun : claimRunningLeaseCas now takeover.lease expected expectedRunId takeover.runId db with
  | mk answer db' =>
    cases answer with
    | error e => trivial
    | ok applied =>
      cases applied with
      | false => trivial
      | true =>
        refine ⟨hlease, ?_, fun _ => (claimRunningLeaseCas_applied hrun).2⟩
        rcases hrunId with hnone | hsame
        · rw [hnone]
          exact nofun
        · rw [hsame]
          intro hempty
          exact runId_ne_empty_of_applied hrun (Option.some.inj hempty)

theorem afterTakeover_claimedBy (before : ChildLaunchStage) (takeover : Takeover)
    (stage : DispatchStage) (result : Except Error Bool × LeaseTable) :
    before.claimedBy (afterTakeover takeover stage result).1 = [] := by
  obtain ⟨answer, db⟩ := result
  cases answer with
  | error e => cases before <;> rfl
  | ok applied => cases applied <;> cases before <;> rfl

theorem leaseOf_of_getLeaseForIssue (hnamed : ∀ row ∈ db, NamedForIssue row)
    (h : getLeaseForIssue db selection.repo selection.child = .ok (some lease)) :
    LeaseOf selection lease ∧ lease ∈ db := by
  unfold getLeaseForIssue at h
  obtain ⟨-, -, h⟩ := bind_ok.mp h
  obtain ⟨hmem, hcovers⟩ := Table.find?_some (Except.ok.inj h)
  exact ⟨⟨hnamed lease hmem, hcovers⟩, hmem⟩

theorem prepareChildLease_sound (hnamed : ∀ row ∈ db, NamedForIssue row) (changed : Bool) :
    (prepareChildLease selection db).Sound selection db changed := by
  unfold prepareChildLease
  cases hread : getLeaseForIssue db selection.repo selection.child with
  | error e => trivial
  | ok lease =>
    cases lease with
    | none => trivial
    | some lease =>
      have hlease := (leaseOf_of_getLeaseForIssue hnamed hread).1
      dsimp only
      cases hstatus : lease.status with
      | readyToResume => exact ⟨hlease, hstatus⟩
      | failed | abandoned | stale => exact ⟨hlease, by rw [hstatus]; decide⟩
      | _ => trivial

def clearable (lease row : IssueLease) : Bool :=
  row.leaseId == lease.leaseId && row.status == lease.status && row.runId == lease.runId

def clearedLease (now : Timestamp) (row : IssueLease) : IssueLease :=
  { row with status := .claimed, runId := none, updatedAt := now }

theorem clearChildLeaseForRelaunch_true
    (h : clearChildLeaseForRelaunch now lease db = (true, cleared)) :
    cleared.rows = db.rows.map (Table.set (clearable lease) (clearedLease now))
      ∧ ∃ row ∈ db, clearable lease row = true := by
  unfold clearChildLeaseForRelaunch at h
  obtain ⟨hcount, rfl⟩ := Prod.mk.inj h
  rw [beq_iff_eq] at hcount
  exact ⟨rfl, count_pos_iff.mp (hcount.symm ▸ Nat.one_pos)⟩

/-- **A relaunch that wins finds the lease that it has cleared.** -/
theorem relaunched {relaunchable : IssueLease}
    (hnamed : ∀ row ∈ db, NamedForIssue row) (hlease : NamedForIssue lease)
    (hclear : clearChildLeaseForRelaunch now lease db = (true, cleared))
    (hread : getLeaseForIssue cleared lease.issueRepo lease.issueNumber = .ok (some relaunchable)) :
    TableStep [relaunchable.leaseId] db cleared ∧ NamedForIssue relaunchable
      ∧ relaunchable.covers lease.issueRepo lease.issueNumber = true
      ∧ relaunchable.unstarted = true := by
  obtain ⟨hrows, row, hrow, hclearable⟩ := clearChildLeaseForRelaunch_true hclear
  have hids : ∀ row, clearable lease row = true → row.leaseId = lease.leaseId := by
    intro row h
    simp only [clearable, Bool.and_eq_true, beq_iff_eq] at h
    exact h.1.1
  have hstep : TableStep [lease.leaseId] db cleared :=
    tableStep_map hrows (fun _ => ⟨rfl, rfl, rfl⟩) fun before hbefore _ =>
      List.mem_singleton.mpr (hids before hbefore)
  have hcleared : clearedLease now row ∈ cleared :=
    (mem_set hrows).mpr ⟨row, hrow, set_pos hclearable⟩
  obtain ⟨hrepo, hnumber⟩ := (hnamed row hrow).issue_eq hlease (hids row hclearable)
  unfold getLeaseForIssue at hread
  obtain ⟨-, -, hread⟩ := bind_ok.mp hread
  obtain ⟨hmem, hcovers⟩ := Table.find?_some (Except.ok.inj hread)
  have hfound : relaunchable = clearedLease now row :=
    eq_of_clash hmem hcleared (IssueLease.clash_of_covers _ _ hcovers
      (IssueLease.covers_iff.mpr ⟨hrepo, hnumber⟩))
  have hid : relaunchable.leaseId = lease.leaseId := by
    rw [hfound]
    exact hids row hclearable
  refine ⟨?_, hstep.named hnamed _ hmem, hcovers, by rw [hfound]; rfl⟩
  rw [hid]
  exact hstep

/-- **A relaunch claims the lease that it has read.** -/
theorem prepareRelaunchableChild_sound (hnamed : ∀ row ∈ db, NamedForIssue row)
    (hlease : LeaseOf selection lease) (changed : Bool) :
    let after := prepareRelaunchableChild now lease db
    TableStep ((ChildLaunchStage.relaunchable lease).claimedBy after.1) db after.2
      ∧ after.1.Sound selection after.2 changed := by
  dsimp only
  unfold prepareRelaunchableChild
  cases hclear : clearChildLeaseForRelaunch now lease db with
  | mk won cleared =>
    dsimp only
    cases won with
    | false => exact ⟨TableStep.refl db, trivial⟩
    | true =>
      rw [if_pos rfl]
      cases hread : getLeaseForIssue cleared lease.issueRepo lease.issueNumber with
      | error e => exact ⟨TableStep.refl db, trivial⟩
      | ok found =>
        cases found with
        | none => exact ⟨TableStep.refl db, trivial⟩
        | some relaunchable =>
          obtain ⟨hstep, hname, hcovers, hunstarted⟩ :=
            relaunched hnamed hlease.named hclear hread
          obtain ⟨hrepo, hnumber⟩ := IssueLease.covers_iff.mp hlease.covers
          rw [hrepo, hnumber] at hcovers
          exact ⟨hstep, ⟨hname, hcovers⟩, hunstarted⟩

theorem claimChildLease_sound (selection : ChildSelection) (now : Timestamp) (db : LeaseTable)
    (changed : Bool) :
    let after := claimChildLease selection now db
    TableStep (ChildLaunchStage.unleased.claimedBy after.1) db after.2
      ∧ after.1.Sound selection after.2 changed := by
  dsimp only
  unfold claimChildLease
  cases hrun : atomically (tryClaim now selection.repo selection.child selection.childConfigId) db
    with
  | mk result db' =>
    cases result with
    | error e =>
      rw [atomically_error hrun]
      exact ⟨TableStep.refl db, trivial⟩
    | ok lease =>
      have hclaim := atomically_ok.mp hrun
      cases lease with
      | none =>
        rw [tryClaim_none hclaim]
        exact ⟨TableStep.refl db, trivial⟩
      | some lease =>
        obtain ⟨hstep, hname, hcovers, hunstarted⟩ := tableStep_tryClaim hclaim
        exact ⟨hstep, ⟨hname, hcovers⟩, hunstarted⟩

theorem tableStep_restore (now : Timestamp) (lease : IssueLease) (status : LeaseStatus)
    (runId : Option String) (expected : String) (db : LeaseTable) :
    TableStep [] db
      (restoreChildLeaseAfterRunnerError now lease status runId expected db).2 := by
  have hstep : TableStep [] db (atomically (updateLeaseStatusConditional now lease.leaseId status
      [.running] runId (some expected)) db).2 :=
    tableStep_atomically fun _ _ h => by
      unfold updateLeaseStatusConditional at h
      refine tableStep_conditionalTransition h (Or.inr ?_)
      intro current hguard
      rw [show current = some expected by simpa using hguard]
      cases runId <;> rfl
  unfold restoreChildLeaseAfterRunnerError
  cases hrun : atomically (updateLeaseStatusConditional now lease.leaseId status [.running] runId
      (some expected)) db with
  | mk result db' =>
    rw [hrun] at hstep
    cases result with
    | error e => exact hstep
    | ok applied => cases applied <;> exact hstep

theorem finishChildLaunch_step (takeover : Takeover) (result : ChildWorkflowRunResult)
    (answers : LaunchAnswers) (db : LeaseTable) :
    TableStep [] db (finishChildLaunch takeover result answers db).2
      ∧ ∃ outcome, (finishChildLaunch takeover result answers db).1 = .over outcome := by
  have hstatus : (childLeaseTarget result).1 ≠ .claimed := by cases result <;> decide
  have hstep : TableStep [] db (atomically (updateLeaseStatusConditionalOutcome answers.now
      takeover.lease.leaseId (childLeaseTarget result).1 (childLeaseTarget result).2 none
      (some takeover.runId)) db).2 :=
    tableStep_atomically fun _ _ h => tableStep_conditionalOutcome hstatus h
  unfold finishChildLaunch
  dsimp only
  cases hrun : atomically (updateLeaseStatusConditionalOutcome answers.now takeover.lease.leaseId
      (childLeaseTarget result).1 (childLeaseTarget result).2 none (some takeover.runId)) db with
  | mk answer db' =>
    rw [hrun] at hstep
    cases answer with
    | error e => exact ⟨hstep, _, rfl⟩
    | ok outcome =>
      dsimp only
      by_cases happly : shouldApplyChildFinalizationSideEffects result takeover.runId outcome
      · rw [if_pos happly]
        exact ⟨hstep, _, rfl⟩
      · rw [if_neg happly]
        exact ⟨hstep, _, rfl⟩

theorem restoreForCompensation_step (now : Timestamp) (takeover : Takeover) (text suffix : String)
    (db : LeaseTable) :
    (restoreForCompensation now takeover text suffix db).2
        = (restoreChildLeaseAfterRunnerError now takeover.lease takeover.lease.status
            takeover.lease.runId takeover.runId db).2
      ∧ ∃ outcome, (restoreForCompensation now takeover text suffix db).1 = .over outcome := by
  unfold restoreForCompensation
  cases restoreChildLeaseAfterRunnerError now takeover.lease takeover.lease.status
      takeover.lease.runId takeover.runId db with
  | mk result db' => cases result <;> exact ⟨rfl, _, rfl⟩

theorem missingResumeRunIdOutcome_step (selection : ChildSelection) (now : Timestamp)
    (lease : IssueLease) (db : LeaseTable) :
    TableStep [] db (missingResumeRunIdOutcome selection now lease db).2
      ∧ ∃ outcome, (missingResumeRunIdOutcome selection now lease db).1 = .over outcome := by
  have hstep : TableStep [] db (atomically (updateLeaseStatusConditionalExactOwner now
      lease.leaseId .failed [lease.status] none lease.runId) db).2 :=
    tableStep_atomically fun _ _ h => by
      unfold updateLeaseStatusConditionalExactOwner at h
      exact tableStep_conditionalTransition h (Or.inl (by decide))
  unfold missingResumeRunIdOutcome
  cases hrun : atomically (updateLeaseStatusConditionalExactOwner now lease.leaseId .failed
      [lease.status] none lease.runId) db with
  | mk answer db' =>
    rw [hrun] at hstep
    cases answer with
    | error e => exact ⟨hstep, _, rfl⟩
    | ok updated =>
      cases updated with
      | true => exact ⟨hstep, _, rfl⟩
      | false =>
        dsimp only
        cases getLeaseForIssue db' selection.repo selection.child with
        | error e => exact ⟨hstep, _, rfl⟩
        | ok found => cases found <;> exact ⟨hstep, _, rfl⟩

theorem over_sound (h : ∃ outcome, stage = .over outcome) :
    stage.Sound selection db changed := by
  obtain ⟨outcome, rfl⟩ := h
  trivial

theorem claimedBy_over {before : ChildLaunchStage} (h : ∃ outcome, stage = .over outcome) :
    before.claimedBy stage = [] := by
  obtain ⟨outcome, rfl⟩ := h
  cases before <;> rfl

theorem selectChildLaunch_sound (selection : ChildSelection) (answers : LaunchAnswers)
    (db : LeaseTable) (changed : Bool) :
    (selectChildLaunch selection answers db).Sound selection db changed := by
  unfold selectChildLaunch
  cases answers.pr with
  | error text => trivial
  | ok pr =>
    dsimp only
    by_cases hobservable : pr.any isObservableExistingPr = true
    · rw [if_pos hobservable]
      cases getLeaseForIssue db selection.repo selection.child with
      | error e => trivial
      | ok lease =>
        dsimp only
        by_cases hactive : activeOrRecoverable lease = true
        · rw [if_pos hactive]
          trivial
        · rw [if_neg hactive]
          trivial
    · rw [if_neg hobservable]
      trivial

theorem prepareResume_sound {runs : RunTable}
    (h : LeaseOf selection lease ∧ lease.status = .readyToResume) (changed : Bool) :
    (prepareResume runs lease).Sound selection db changed := by
  unfold prepareResume
  by_cases hcompleted : childWorkflowCompleted runs lease = true
  · rw [if_pos hcompleted]
    trivial
  · rw [if_neg hcompleted]
    exact h

/-- **A takeover claims nothing, and leaves a launch that owns its lease.** -/
theorem takeover_sound {stage : DispatchStage} (before : ChildLaunchStage)
    (hlease : LeaseOf selection takeover.lease)
    (hrunId : takeover.lease.runId = none ∨ takeover.lease.runId = some takeover.runId)
    (changed : Bool) :
    let after := afterTakeover takeover stage
      (claimRunningLeaseCas now takeover.lease expected expectedRunId takeover.runId db)
    TableStep (before.claimedBy after.1) db after.2 ∧ after.1.Sound selection after.2 changed := by
  dsimp only
  rw [afterTakeover_claimedBy, afterTakeover_snd]
  refine ⟨tableStep_claimRunningLeaseCas _ _ _ _ _ _, ?_⟩
  have hsound : (afterTakeover takeover stage (claimRunningLeaseCas now takeover.lease expected
      expectedRunId takeover.runId db)).1.Sound selection _ changed :=
    afterTakeover_sound hlease hrunId changed
  rwa [afterTakeover_snd] at hsound

theorem resumeChildWorkflow_sound (hlease : LeaseOf selection lease) (changed : Bool) :
    let after := resumeChildWorkflow selection now lease db
    TableStep ((ChildLaunchStage.resuming lease).claimedBy after.1) db after.2
      ∧ after.1.Sound selection after.2 changed := by
  dsimp only
  unfold resumeChildWorkflow
  cases hrun : lease.runId with
  | none =>
    obtain ⟨hstep, hover⟩ := missingResumeRunIdOutcome_step selection now lease db
    dsimp only
    rw [claimedBy_over hover]
    exact ⟨hstep, over_sound hover⟩
  | some runId =>
    have htakeover : LeaseOf selection (Takeover.mk lease runId true).lease := hlease
    exact takeover_sound (.resuming lease) htakeover (Or.inr hrun) changed

theorem advanceDispatch_step (takeover : Takeover) (answers : LaunchAnswers) (db : LeaseTable)
    (stage : DispatchStage) :
    let after := advanceDispatch takeover answers db stage
    TableStep [] db after.2
      ∧ ((∃ next, after.1 = .holding takeover next) ∧ after.2 = db
        ∨ ∃ outcome, after.1 = .over outcome) := by
  have hstay : ∀ next, TableStep [] db db
      ∧ ((∃ stage, ChildLaunchStage.holding takeover next = .holding takeover stage) ∧ db = db
        ∨ ∃ outcome, ChildLaunchStage.holding takeover next = .over outcome) :=
    fun next => ⟨TableStep.refl db, Or.inl ⟨⟨next, rfl⟩, rfl⟩⟩
  dsimp only
  cases stage with
  | labelling =>
    unfold advanceDispatch
    cases answers.label with
    | ok u => exact hstay _
    | error text => exact hstay _
  | dispatching => exact hstay _
  | running =>
    unfold advanceDispatch
    cases answers.runner with
    | ok result => exact hstay _
    | error text => exact hstay _
  | collecting result => exact hstay _
  | compensating text suffix =>
    obtain ⟨htable, hover⟩ :=
      restoreForCompensation_step answers.now takeover text suffix db
    unfold advanceDispatch
    rw [htable]
    exact ⟨tableStep_restore _ _ _ _ _ _, Or.inr hover⟩
  | finishing result =>
    obtain ⟨hstep, hover⟩ := finishChildLaunch_step takeover result answers db
    exact ⟨hstep, Or.inr hover⟩

/-- **A step of a launch claims what it says, and leaves a sound launch.** -/
theorem advanceLaunch_sound (answers : LaunchAnswers)
    (hnamed : ∀ row ∈ db, NamedForIssue row) (h : stage.Sound selection db changed) :
    let after := advanceLaunch selection answers db stage
    TableStep (stage.claimedBy after.1) db after.2
      ∧ after.1.Sound selection after.2 (stage.takeover?.isSome && changed) := by
  dsimp only
  cases stage with
  | selected => exact ⟨TableStep.refl db, selectChildLaunch_sound _ _ _ _⟩
  | preparing => exact ⟨TableStep.refl db, prepareChildLease_sound hnamed _⟩
  | readyToResume lease => exact ⟨TableStep.refl db, prepareResume_sound h _⟩
  | unleased => exact claimChildLease_sound _ _ _ _
  | relaunchable lease => exact prepareRelaunchableChild_sound hnamed h.1 _
  | waiting lease reason | «over» outcome => exact ⟨TableStep.refl db, trivial⟩
  | launching lease =>
    have hnone : lease.runId = none := by
      have hunstarted := h.2
      unfold IssueLease.unstarted at hunstarted
      rw [Bool.and_eq_true, beq_iff_eq, beq_iff_eq] at hunstarted
      exact hunstarted.2
    exact takeover_sound (.launching lease) h.1 (Or.inl hnone) _
  | resuming lease => exact resumeChildWorkflow_sound h.1 _
  | holding takeover stage =>
    obtain ⟨hstep, hafter⟩ := advanceDispatch_step takeover answers db stage
    unfold advanceLaunch
    rcases hafter with ⟨⟨next, hnext⟩, hsame⟩ | hover
    · rw [hnext, hsame]
      exact ⟨TableStep.refl db, h⟩
    · rw [claimedBy_over hover]
      exact ⟨hstep, over_sound hover⟩

end Luther
