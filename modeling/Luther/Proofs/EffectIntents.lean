/-
Effect intents do not change their mind.

One call does one of three things to the table: nothing, one more prepared row, or one
prepared row settled.  So a row that is not prepared is not touched again, and what a
row is bound to is never touched.

That a commit or a push is reported as completed goes back to a call that says so: a
reconciliation that observed the target, or a caller that finalized the intent itself
and is believed.
-/
import Luther.Persistence.EffectIntents

namespace Luther

open Sql Sql.Table

namespace EffectRow

/-- What an intent is bound to: everything but its status and its result. -/
structure Binding where
  effectKey : String
  operationId : String
  attemptId : Int64
  sequence : Int64
  effectKind : String
  canonicalPayload : List UInt8
  payloadDigest : String
  payloadVersion : Int
  expectedTarget : Option String
  expectedPredecessor : Option String

def binding (row : EffectRow) : Binding where
  effectKey := row.effectKey
  operationId := row.operationId
  attemptId := row.attemptId
  sequence := row.sequence
  effectKind := row.effectKind
  canonicalPayload := row.canonicalPayload
  payloadDigest := row.payloadDigest
  payloadVersion := row.payloadVersion
  expectedTarget := row.expectedTarget
  expectedPredecessor := row.expectedPredecessor

/-- The row of a commit or of a push. -/
def IsSha (row : EffectRow) : Prop := row.effectKind = "commit" ∨ row.effectKind = "push"

def observedSha (row : EffectRow) (observed : ObservedState) : Option String :=
  if row.effectKind = "commit" then observed.headSha else observed.remoteRefSha

def isOpen (key : String) (row : EffectRow) : Bool := row.isKey key && row.isPrepared

theorem isOpen_iff {key : String} {row : EffectRow} :
    row.isOpen key = true ↔ row.effectKey = key ∧ row.status = "prepared" := by
  simp [isOpen, isKey, isPrepared]

def settled (status : String) (observedResult : Option String) (row : EffectRow) : EffectRow :=
  { row with status := status, observedResult := observedResult }

end EffectRow

/-- The call says that the intent of the row came to the result: a reconciliation whose sha is
the row's target, or a finalization as completed. -/
def EffectCall.Vouches (row : EffectRow) (result : Option String) : EffectCall → Prop
  | .reconcile key observed =>
    key = row.effectKey ∧ row.observedSha observed = row.expectedTarget
      ∧ result = row.expectedTarget
  | .finalize key status observedResult =>
    key = row.effectKey ∧ status = "completed" ∧ observedResult = result
  | _ => False

/-- What a call can do to the intents. -/
inductive EffectChange (c : EffectCall) (intents : EffectTable) : EffectTable → Prop
  | unchanged : EffectChange c intents intents
  | prepared {row : EffectRow} {intents' : EffectTable} (hinsert : intents.insert row = some intents')
      (hstatus : row.status = "prepared") : EffectChange c intents intents'
  | settled {key status : String} {result : Option String} {intents' : EffectTable}
      (hrows : intents'.rows = intents.rows.map
        (Table.set (EffectRow.isOpen key) (EffectRow.settled status result)))
      (hstatus : status = "completed" ∨ status = "conflict" ∨ c = .finalize key status result)
      (hvouched : status = "completed" → ∀ row ∈ intents, row.effectKey = key → row.IsSha →
        c.Vouches row result) : EffectChange c intents intents'

section Calls

variable {intents : EffectTable} {key : String}

theorem finalizeEffect_rows (key status : String) (result : Option String)
    (intents : EffectTable) :
    (finalizeEffect key status result intents).2.rows = intents.rows.map
      (Table.set (EffectRow.isOpen key) (EffectRow.settled status result)) := by
  unfold finalizeEffect
  dsimp only
  split <;> rfl

variable {α : Type}

theorem finalizeEffectThen_rows (answer : Except Error α) (key status : String)
    (result : Option String) (intents : EffectTable) :
    (finalizeEffectThen answer key status result intents).2.rows = intents.rows.map
      (Table.set (EffectRow.isOpen key) (EffectRow.settled status result)) := by
  have hrows := finalizeEffect_rows key status result intents
  unfold finalizeEffectThen
  split <;> rename_i h <;> rwa [h] at hrows

variable {c : EffectCall} {result : Option String} {intent : EffectIntent} {row : EffectRow}

theorem EffectChange.of_settled (answer : Except Error α) {status : String}
    (hstatus : status = "completed" ∨ status = "conflict")
    (hvouched : status = "completed" → ∀ row ∈ intents, row.effectKey = key → row.IsSha →
      c.Vouches row result) :
    EffectChange c intents (finalizeEffectThen answer key status result intents).2 :=
  .settled (finalizeEffectThen_rows answer key status result intents)
    (hstatus.imp_right Or.inl) hvouched

theorem EffectChange.of_conflict (answer : Except Error α) :
    EffectChange c intents (finalizeEffectThen answer key "conflict" none intents).2 :=
  .of_settled answer (Or.inr rfl) fun h => absurd h (by decide)

theorem finalizeEffectThen_ok {answer : Except Error α} {status : String} {a : α}
    (h : (finalizeEffectThen answer key status result intents).1 = .ok a) : answer = .ok a := by
  unfold finalizeEffectThen at h
  split at h
  · cases h
  · exact h

theorem mapEffectRow_ok (h : mapEffectRow row = .ok intent) :
    EffectKind.parseStr row.effectKind = some intent.effectKind
      ∧ intent.effectKey = row.effectKey ∧ intent.expectedTarget = row.expectedTarget
      ∧ intent.observedResult = row.observedResult ∧ intent.status = row.status := by
  unfold mapEffectRow at h
  split at h
  · cases h
  · rename_i kind hkind
    obtain rfl := Except.ok.inj h
    exact ⟨hkind, rfl, rfl, rfl, rfl⟩

theorem loadEffect_ok (h : loadEffect intents key = .ok intent) :
    ∃ row ∈ intents, row.effectKey = key ∧ mapEffectRow row = .ok intent := by
  unfold loadEffect at h
  split at h
  · cases h
  · rename_i row hfind
    obtain ⟨hmem, hkey⟩ := Table.find?_some hfind
    exact ⟨row, hmem, by simpa [EffectRow.isKey] using hkey, h⟩

theorem eq_of_effectKey {a b : EffectRow} (ha : a ∈ intents) (hb : b ∈ intents)
    (h : a.effectKey = b.effectKey) : a = b :=
  eq_of_clash ha hb h

theorem EffectRow.IsSha.kind (h : row.IsSha) {kind : EffectKind}
    (hkind : EffectKind.parseStr row.effectKind = some kind) :
    kind = .commit ∧ row.effectKind = "commit" ∨ kind = .push ∧ row.effectKind = "push" := by
  rcases h with htext | htext
  · rw [htext] at hkind
    exact Or.inl ⟨(Option.some.inj hkind).symm, htext⟩
  · rw [htext] at hkind
    exact Or.inr ⟨(Option.some.inj hkind).symm, htext⟩

theorem reconcileSha_change {observedSha : Option String} {detail : String}
    (hvouched : observedSha = intent.expectedTarget → ∀ row ∈ intents,
      row.effectKey = intent.effectKey → row.IsSha → c.Vouches row observedSha) :
    EffectChange c intents (reconcileSha observedSha detail intent intents).2 := by
  unfold reconcileSha
  split
  · rename_i htarget
    exact .of_settled _ (Or.inl rfl) fun _ => hvouched htarget
  · split
    · exact .unchanged
    · exact .of_conflict _

theorem prepareEffect_change (sha : Sha256Hex) (preparation : EffectPreparation)
    (intents : EffectTable) :
    EffectChange (.prepare preparation) intents (prepareEffect sha preparation intents).2 := by
  unfold prepareEffect
  dsimp only
  split
  · exact .unchanged
  · split
    · exact .unchanged
    · rename_i hinsert
      exact .prepared hinsert rfl
  · split
    · exact .of_conflict _
    · exact .unchanged

theorem reconcileEffect_change (operations : OperationTable) (artifacts : ArtifactTable)
    (key : String) (observed : ObservedState) (intents : EffectTable) :
    EffectChange (.reconcile key observed) intents
      (reconcileEffect operations artifacts key observed intents).2 := by
  unfold reconcileEffect
  cases hload : loadEffect intents key with
  | error e => exact .unchanged
  | ok intent =>
    obtain ⟨row, hmem, hkey, hrow⟩ := loadEffect_ok hload
    obtain ⟨hkind, hkey', htarget, -, -⟩ := mapEffectRow_ok hrow
    -- The row that is settled is the row that was loaded.
    have hsame : ∀ other ∈ intents, other.effectKey = intent.effectKey → other = row :=
      fun other hother h => eq_of_effectKey hother hmem (h.trans hkey')
    dsimp only
    split
    · exact .unchanged
    · exact .unchanged
    · split
      · rename_i hcommit
        refine reconcileSha_change fun hobserved other hother hk hsha => ?_
        obtain rfl := hsame other hother hk
        rcases hsha.kind hkind with ⟨-, htext⟩ | ⟨hpush, -⟩
        · refine ⟨hkey.symm, ?_, hobserved.trans htarget⟩
          rw [EffectRow.observedSha, if_pos htext]
          exact hobserved.trans htarget
        · rw [hcommit] at hpush
          exact absurd hpush (by decide)
      · rename_i hpush
        refine reconcileSha_change fun hobserved other hother hk hsha => ?_
        obtain rfl := hsame other hother hk
        rcases hsha.kind hkind with ⟨hcommit, -⟩ | ⟨-, htext⟩
        · rw [hpush] at hcommit
          exact absurd hcommit (by decide)
        · refine ⟨hkey.symm, ?_, hobserved.trans htarget⟩
          rw [EffectRow.observedSha, if_neg (by rw [htext]; decide)]
          exact hobserved.trans htarget
      · rename_i hopen
        unfold reconcileOpenPr
        split
        · refine .of_settled _ (Or.inl rfl) fun _ other hother hk hsha => ?_
          obtain rfl := hsame other hother hk
          rcases hsha.kind hkind with ⟨h, -⟩ | ⟨h, -⟩ <;> rw [hopen] at h <;>
            exact absurd h (by decide)
        · exact .unchanged
      · rename_i hmerge
        unfold reconcileMerge
        split
        · exact .unchanged
        · split
          · refine .of_settled _ (Or.inl rfl) fun _ other hother hk hsha => ?_
            obtain rfl := hsame other hother hk
            rcases hsha.kind hkind with ⟨h, -⟩ | ⟨h, -⟩ <;> rw [hmerge] at h <;>
              exact absurd h (by decide)
          · exact .unchanged
    · exact .unchanged

theorem reconcileSha_completed {observedSha : Option String} {detail : String}
    (h : (reconcileSha observedSha detail intent intents).1 = .ok (.completed result)) :
    observedSha = intent.expectedTarget ∧ result = observedSha := by
  unfold reconcileSha at h
  split at h
  · rename_i htarget
    have hanswer := finalizeEffectThen_ok h
    simp only [Except.ok.injEq, ReconcileVerdict.completed.injEq] at hanswer
    exact ⟨htarget, hanswer.symm⟩
  · split at h
    · cases h
    · have hanswer := finalizeEffectThen_ok h
      simp at hanswer

theorem reconcileEffect_completed {operations : OperationTable} {artifacts : ArtifactTable}
    {observed : ObservedState}
    (h : (reconcileEffect operations artifacts key observed intents).1 = .ok (.completed result))
    (hmem : row ∈ intents) (hkey : row.effectKey = key) (hsha : row.IsSha) :
    row.status = "completed" ∧ row.observedResult = result
      ∨ (EffectCall.reconcile key observed).Vouches row result := by
  unfold reconcileEffect at h
  cases hload : loadEffect intents key with
  | error e =>
    rw [hload] at h
    cases h
  | ok intent =>
    rw [hload] at h
    obtain ⟨loaded, hloaded, hloadedKey, hrow⟩ := loadEffect_ok hload
    obtain rfl := eq_of_effectKey hmem hloaded (hkey.trans hloadedKey.symm)
    obtain ⟨hkind, -, htarget, hresult, hstatus⟩ := mapEffectRow_ok hrow
    dsimp only at h
    split at h
    · rename_i hcompleted
      simp only [Except.ok.injEq, ReconcileVerdict.completed.injEq] at h
      exact Or.inl ⟨hstatus.symm.trans hcompleted, hresult.symm.trans h⟩
    · cases h
    · refine Or.inr ?_
      rcases hsha.kind hkind with ⟨hcommit, htext⟩ | ⟨hpush, htext⟩
      · rw [hcommit] at h
        obtain ⟨hobserved, hres⟩ := reconcileSha_completed h
        refine ⟨hkey.symm, ?_, hres.trans (hobserved.trans htarget)⟩
        rw [EffectRow.observedSha, if_pos htext]
        exact hobserved.trans htarget
      · rw [hpush] at h
        obtain ⟨hobserved, hres⟩ := reconcileSha_completed h
        refine ⟨hkey.symm, ?_, hres.trans (hobserved.trans htarget)⟩
        rw [EffectRow.observedSha, if_neg (by rw [htext]; decide)]
        exact hobserved.trans htarget
    · cases h

end Calls

/-! ### What a call leaves of a row -/

/-- A row after a call: bound as before, and moved only out of prepared. -/
structure EffectRow.Kept (c : EffectCall) (row row' : EffectRow) : Prop where
  binding : row'.binding = row.binding
  frozen : row.status ≠ "prepared" → row' = row
  moved : row'.status ≠ row.status → row'.status = "completed" ∨ row'.status = "conflict"
    ∨ ∃ result, c = .finalize row.effectKey row'.status result

variable {c : EffectCall} {row : EffectRow}

theorem EffectRow.Kept.rfl : row.Kept c row :=
  ⟨Eq.refl _, fun _ => Eq.refl _, fun h => absurd (Eq.refl _) h⟩

theorem EffectChange.kept {intents intents' : EffectTable} (h : EffectChange c intents intents')
    (hmem : row ∈ intents) :
    ∃ row' ∈ intents', row.Kept c row' := by
  cases h with
  | unchanged => exact ⟨row, hmem, .rfl⟩
  | prepared hinsert => exact ⟨row, (mem_insert hinsert row).mpr (Or.inl hmem), .rfl⟩
  | @settled key status result _ hrows hstatus =>
    refine ⟨_, (mem_set hrows).mpr ⟨row, hmem, rfl⟩, ?_⟩
    by_cases hopen : row.isOpen key = true
    · obtain ⟨hkey, hprepared⟩ := EffectRow.isOpen_iff.mp hopen
      rw [set_pos hopen]
      refine ⟨rfl, fun h => absurd hprepared h, fun _ => ?_⟩
      rcases hstatus with hcompleted | hconflict | hcall
      · exact Or.inl hcompleted
      · exact Or.inr (Or.inl hconflict)
      · exact Or.inr (Or.inr ⟨result, hkey ▸ hcall⟩)
    · rw [set_neg (by simpa using hopen)]
      exact .rfl

/-- Every completed commit or push has a call behind it. -/
def Vouched (past : List EffectCall) (intents : EffectTable) : Prop :=
  ∀ row ∈ intents, row.IsSha → row.status = "completed" →
    ∃ c ∈ past, c.Vouches row row.observedResult

theorem EffectCall.Vouches.of_binding {row' : EffectRow} {result : Option String}
    (h : c.Vouches row result) (hb : row'.binding = row.binding) :
    c.Vouches row' result := by
  simp only [EffectRow.binding, EffectRow.Binding.mk.injEq] at hb
  obtain ⟨hkey, -, -, -, hkind, -, -, -, htarget, -⟩ := hb
  cases c with
  | reconcile key observed =>
    obtain ⟨hk, hobserved, hresult⟩ := h
    refine ⟨hk.trans hkey.symm, ?_, hresult.trans htarget.symm⟩
    rw [htarget, ← hobserved, EffectRow.observedSha, EffectRow.observedSha, hkind]
  | finalize key status observedResult =>
    obtain ⟨hk, hrest⟩ := h
    exact ⟨hk.trans hkey.symm, hrest⟩
  | prepare | others => exact h.elim

theorem EffectChange.vouched {intents intents' : EffectTable} (h : EffectChange c intents intents')
    {past : List EffectCall} (hpast : Vouched past intents) :
    Vouched (past ++ [c]) intents' := by
  have hold : ∀ row ∈ intents, row.IsSha → row.status = "completed" →
      ∃ d ∈ past ++ [c], d.Vouches row row.observedResult := by
    intro row hmem hsha hcompleted
    obtain ⟨d, hd, hvouches⟩ := hpast row hmem hsha hcompleted
    exact ⟨d, List.mem_append_left _ hd, hvouches⟩
  cases h with
  | unchanged => exact hold
  | prepared hinsert hstatus =>
    intro row hmem hsha hcompleted
    rcases (mem_insert hinsert row).mp hmem with hmem | rfl
    · exact hold row hmem hsha hcompleted
    · rw [hstatus] at hcompleted
      exact absurd hcompleted (by decide)
  | @settled key status result _ hrows _ hvouched =>
    intro row hmem hsha hcompleted
    obtain ⟨before, hbefore, hset⟩ := (mem_set hrows).mp hmem
    by_cases hopen : before.isOpen key = true
    · rw [set_pos hopen] at hset
      subst hset
      have hvouches := hvouched hcompleted before hbefore (EffectRow.isOpen_iff.mp hopen).1 hsha
      exact ⟨c, by simp, hvouches.of_binding rfl⟩
    · rw [set_neg (by simpa using hopen)] at hset
      subst hset
      exact hold before hbefore hsha hcompleted

section Runs

variable (sha : Sha256Hex)

theorem effectMachine_change (db : EffectDb) (c : EffectCall) :
    EffectChange c db.intents ((effectMachine sha).next db c).intents := by
  cases c with
  | prepare preparation => exact prepareEffect_change sha preparation db.intents
  | reconcile key observed =>
    exact reconcileEffect_change db.operations db.artifacts key observed db.intents
  | finalize key status result =>
    refine .settled (finalizeEffect_rows key status result db.intents) (Or.inr (Or.inr rfl)) ?_
    intro hcompleted row _ hkey _
    exact ⟨hkey.symm, hcompleted, rfl⟩
  | others operations artifacts => exact .unchanged

variable {db : EffectDb}

theorem effectRow_run (hmem : row ∈ db.intents) (calls : List EffectCall) :
    ∃ row' ∈ ((effectMachine sha).run db calls).intents, row'.binding = row.binding
      ∧ (row.status ≠ "prepared" → row' = row) := by
  induction calls generalizing db row with
  | nil => exact ⟨row, hmem, rfl, fun _ => rfl⟩
  | cons c rest ih =>
    obtain ⟨row₁, hmem₁, hkept⟩ := (effectMachine_change sha db c).kept hmem
    obtain ⟨row₂, hmem₂, hbinding, hfrozen⟩ := ih hmem₁
    refine ⟨row₂, hmem₂, hbinding.trans hkept.binding, fun hstatus => ?_⟩
    obtain rfl := hkept.frozen hstatus
    exact hfrozen hstatus

theorem vouched_run (hs : (effectMachine sha).start db) (calls : List EffectCall) :
    Vouched calls ((effectMachine sha).run db calls).intents := by
  have hstart : Vouched [] db.intents := by
    intro row hmem
    rw [mem_def, show db.intents.rows = [] from hs] at hmem
    exact absurd hmem List.not_mem_nil
  exact StateMachine.run_history (m := effectMachine sha)
    (P := fun past (db : EffectDb) => Vouched past db.intents)
    (fun _ db c h => (effectMachine_change sha db c).vouched h) hstart calls

variable {sha}

/-- **Effect intents are monotone, and their completion goes back to a call.** After any calls:
a row moves only out of prepared, to completed or conflict or to what the caller of finalize
names; once it has moved it stays as it is; its binding never changes; and a commit or push with
a target is reported as completed with a result only if a reconciliation has observed the target
and that is the result, or a caller has finalized the intent as completed with that result. -/
theorem effectIntents_monotone {db : EffectDb} (hs : (effectMachine sha).start db)
    (calls : List EffectCall) :
    (∀ row ∈ ((effectMachine sha).run db calls).intents, ∀ c,
      ∃ row' ∈ ((effectMachine sha).next ((effectMachine sha).run db calls) c).intents,
        row'.effectKey = row.effectKey
          ∧ (row'.status ≠ row.status → row.status = "prepared"
            ∧ (row'.status = "completed" ∨ row'.status = "conflict"
              ∨ ∃ result, c = .finalize row.effectKey row'.status result)))
    ∧ (∀ row ∈ ((effectMachine sha).run db calls).intents, row.status ≠ "prepared" → ∀ later,
      row ∈ ((effectMachine sha).run db (calls ++ later)).intents)
    ∧ (∀ row ∈ ((effectMachine sha).run db calls).intents, ∀ later,
      ∃ row' ∈ ((effectMachine sha).run db (calls ++ later)).intents,
        row'.binding = row.binding)
    ∧ ∀ key observed result, (effectMachine sha).answer ((effectMachine sha).run db calls)
        (.reconcile key observed) = .reconciled (.ok (.completed result)) →
      ∀ row ∈ ((effectMachine sha).run db calls).intents, row.effectKey = key → row.IsSha →
      ∀ target, row.expectedTarget = some target →
        (∃ seen, .reconcile key seen ∈ calls ++ [.reconcile key observed]
          ∧ row.observedSha seen = some target ∧ result = some target)
        ∨ .finalize key "completed" result ∈ calls := by
  refine ⟨fun row hmem c => ?_, fun row hmem hstatus later => ?_, fun row hmem later => ?_,
    fun key observed result hanswer row hmem hkey hsha target htarget => ?_⟩
  · obtain ⟨row', hmem', hkept⟩ :=
      (effectMachine_change sha ((effectMachine sha).run db calls) c).kept hmem
    refine ⟨row', hmem', congrArg EffectRow.Binding.effectKey hkept.binding, fun hmoved => ?_⟩
    refine ⟨?_, hkept.moved hmoved⟩
    by_contra hprepared
    rw [hkept.frozen hprepared] at hmoved
    exact hmoved rfl
  · obtain ⟨row', hmem', -, hfrozen⟩ := effectRow_run sha hmem later
    rw [StateMachine.run_append]
    rwa [hfrozen hstatus] at hmem'
  · obtain ⟨row', hmem', hbinding, -⟩ := effectRow_run sha hmem later
    rw [StateMachine.run_append]
    exact ⟨row', hmem', hbinding⟩
  · have hvouched := vouched_run sha hs calls
    generalize (effectMachine sha).run db calls = s at hmem hanswer hvouched
    have hverdict : (reconcileEffect s.operations s.artifacts key observed s.intents).1
        = .ok (.completed result) := by
      simpa [StateMachine.answer, effectMachine, effectStep] using hanswer
    -- The call that vouches is an earlier one when the row is completed, and else this one.
    have hcall : ∃ c ∈ calls ++ [.reconcile key observed], c.Vouches row result := by
      rcases reconcileEffect_completed hverdict hmem hkey hsha with ⟨hcompleted, hresult⟩ | hnow
      · obtain ⟨c, hc, hvouches⟩ := hvouched row hmem hsha hcompleted
        exact ⟨c, List.mem_append_left _ hc, hresult ▸ hvouches⟩
      · exact ⟨_, by simp, hnow⟩
    obtain ⟨c, hc, hvouches⟩ := hcall
    cases c with
    | prepare | others => exact hvouches.elim
    | reconcile key' seen =>
      obtain ⟨hk, hseen, hresult⟩ := hvouches
      obtain rfl := hk.trans hkey
      exact Or.inl ⟨seen, hc, hseen.trans htarget, hresult.trans htarget⟩
    | finalize key' status observedResult =>
      obtain ⟨hk, rfl, rfl⟩ := hvouches
      obtain rfl := hk.trans hkey
      exact Or.inr (by simpa using hc)

end Runs

/-! ### A commit that its caller finalizes -/

def examplePreparation : EffectPreparation where
  operationId := "op-1"
  attemptId := 1
  sequence := 0
  kind := .commit
  payload := []
  expectedTarget := some "target"
  expectedPredecessor := some "pred"

def exampleKey : String := computeEffectKey spelled "op-1" 1 0 "commit"

def exampleEffects : EffectDb where
  intents := Table.empty
  operations := Table.empty
  artifacts := Table.empty

/-- A commit that was observed stays completed when nothing is observed any more, and the theorem
finds the observation. -/
theorem effectIntents_monotone_observed :
    (∃ seen, .reconcile exampleKey seen
        ∈ [.prepare examplePreparation, .reconcile exampleKey { headSha := some "target" }]
          ++ [EffectCall.reconcile exampleKey {}]
      ∧ seen.headSha = some "target")
    ∨ .finalize exampleKey "completed" (some "target")
      ∈ [.prepare examplePreparation,
        EffectCall.reconcile exampleKey { headSha := some "target" }] := by
  let calls : List EffectCall :=
    [.prepare examplePreparation, .reconcile exampleKey { headSha := some "target" }]
  let row : EffectRow := EffectRow.settled "completed" (some "target")
    (preparedRow exampleKey examplePreparation [] (spelled []))
  have hmem : row ∈ ((effectMachine spelled).run exampleEffects calls).intents.rows := by
    decide +kernel
  have hanswer : (effectMachine spelled).answer ((effectMachine spelled).run exampleEffects calls)
      (.reconcile exampleKey {}) = .reconciled (.ok (.completed (some "target"))) := by
    decide +kernel
  have hstart : (effectMachine spelled).start exampleEffects := rfl
  rcases (effectIntents_monotone hstart calls).2.2.2 exampleKey {} (some "target") hanswer row hmem
    rfl (Or.inl rfl) "target" rfl with ⟨seen, hseen, hsha, -⟩ | hfinalized
  · exact Or.inl ⟨seen, hseen, hsha⟩
  · exact Or.inr hfinalized

/-- The call carries the sha as something observed. -/
def EffectCall.CarriesSha (sha : String) : EffectCall → Prop
  | .reconcile _ observed => observed.headSha = some sha ∨ observed.remoteRefSha = some sha
  | .finalize _ _ observedResult => observedResult = some sha
  | _ => False

/-- A caller finalizes a commit with a result that is not its target, and finalizes a second
intent with a text that is no status: the first is reported as completed though no call carries
the target, and the second has moved to neither completed nor conflict. -/
theorem effectIntents_believed :
    (¬ ∀ (sha : Sha256Hex), Function.Injective sha → ∀ db, (effectMachine sha).start db →
      ∀ calls key observed result, (effectMachine sha).answer ((effectMachine sha).run db calls)
        (.reconcile key observed) = .reconciled (.ok (.completed result)) →
      ∀ row ∈ ((effectMachine sha).run db calls).intents, row.effectKey = key → row.IsSha →
        ∃ target, row.expectedTarget = some target
          ∧ ∃ c ∈ calls ++ [.reconcile key observed], c.CarriesSha target)
    ∧ ¬ ∀ (sha : Sha256Hex), Function.Injective sha → ∀ db, (effectMachine sha).start db →
      ∀ calls c, ∀ row ∈ ((effectMachine sha).run db calls).intents,
        ∀ row' ∈ ((effectMachine sha).next ((effectMachine sha).run db calls) c).intents,
          row'.effectKey = row.effectKey → row'.status ≠ row.status →
          row'.status = "completed" ∨ row'.status = "conflict" := by
  have hstart : (effectMachine spelled).start exampleEffects := rfl
  constructor
  · intro h
    let calls : List EffectCall := [.prepare examplePreparation,
      .finalize exampleKey "completed" (some "observed-result")]
    let row : EffectRow := EffectRow.settled "completed" (some "observed-result")
      (preparedRow exampleKey examplePreparation [] (spelled []))
    have hmem : row ∈ ((effectMachine spelled).run exampleEffects calls).intents.rows := by
      decide +kernel
    obtain ⟨target, htarget, c, hc, hcarries⟩ := h spelled spelled_injective exampleEffects hstart
      calls exampleKey {} (some "observed-result") (by decide +kernel) row hmem rfl (Or.inl rfl)
    obtain rfl : "target" = target := Option.some.inj htarget
    simp only [calls, List.cons_append, List.nil_append, List.mem_cons, List.not_mem_nil,
      or_false] at hc
    rcases hc with rfl | rfl | rfl
    · exact hcarries
    · simp [EffectCall.CarriesSha] at hcarries
    · simp [EffectCall.CarriesSha] at hcarries
  · intro h
    let row := preparedRow exampleKey examplePreparation [] (spelled [])
    have hmem : row ∈ ((effectMachine spelled).run exampleEffects
        [.prepare examplePreparation]).intents.rows := by
      decide +kernel
    have hmem' : EffectRow.settled "bogus" none row ∈ ((effectMachine spelled).next
        ((effectMachine spelled).run exampleEffects [.prepare examplePreparation])
        (.finalize exampleKey "bogus" none)).intents.rows := by
      decide +kernel
    have hbad := h spelled spelled_injective exampleEffects hstart _ _ row hmem _ hmem' rfl
      (by decide)
    exact absurd hbad (by decide)

end Luther
