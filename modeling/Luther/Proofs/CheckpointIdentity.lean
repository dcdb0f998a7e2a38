/-
The identity of a checkpoint, and what a rewind to it selects.

An identity is a step and a time with an `@` between them.  The time has no `@`, so that two
checkpoints never share an identity; but the step may have one, and it is the first that the text
is parted at.
-/
import Luther.Proofs.PlanCommit
import Luther.Proofs.Rfc3339Order

namespace Luther

open Sql

variable {checkpoint : Checkpoint} {checkpoints : CheckpointTable}

/-- **Writing a checkpoint replaces the row of its step.** -/
theorem mem_saveCheckpoint {row : CheckpointRow} :
    row ∈ saveCheckpoint checkpoint checkpoints
      ↔ row = checkpoint.toRow
        ∨ row ∈ checkpoints ∧ ¬ CheckpointRow.Clash row checkpoint.toRow := by
  refine Table.mem_upsert (by simp [CheckpointRow.Clash]) ?_
  rintro a ⟨hrun, hstep⟩
  rw [hrun, hstep]

/-- The checkpoint as it reads back: the counts stand in its context too. -/
def Checkpoint.withCounts (checkpoint : Checkpoint) : Checkpoint :=
  { checkpoint with
    stateSnapshot :=
      { checkpoint.stateSnapshot with
        context := Assoc.insert edgeLoopCountsKey
          (Json.ofMap Json.ofU32 checkpoint.stateSnapshot.edgeLoopCounts)
          checkpoint.stateSnapshot.context } }

theorem toCheckpoint_toRow (checkpoint : Checkpoint) :
    checkpoint.toRow.toCheckpoint = checkpoint.withCounts := by
  have hcounts := toCheckpoint_toRow_edgeLoopCounts checkpoint
  show (⟨_, _, { checkpoint.withCounts.stateSnapshot with
    edgeLoopCounts := checkpoint.toRow.toCheckpoint.stateSnapshot.edgeLoopCounts }, _⟩
      : Checkpoint) = _
  rw [hcounts]
  rfl

/-! ### The text -/

theorem toList_checkpointIdentity (cp : Checkpoint) :
    (checkpointIdentity cp).toList = cp.stepId.toList ++ '@' :: cp.timestamp.toRfc3339.toList := by
  unfold checkpointIdentity
  show (toString cp.stepId ++ "@" ++ toString cp.timestamp.toRfc3339).toList = _
  rw [String.toList_append, String.toList_append, List.append_assoc]
  rfl

/-- **Two checkpoints never share an identity**: its last `@` tells where the time begins. -/
theorem checkpointIdentity_inj {a b : Checkpoint}
    (h : checkpointIdentity a = checkpointIdentity b) :
    a.stepId = b.stepId ∧ a.timestamp = b.timestamp := by
  have htext := congrArg (fun text => text.toList.reverse) h
  simp only [toList_checkpointIdentity, List.reverse_append, List.reverse_cons,
    List.append_assoc, List.singleton_append] at htext
  have hat : ∀ t : Timestamp, '@' ∉ t.toRfc3339.toList.reverse := fun t hmem =>
    at_notMem_toRfc3339 t (List.mem_reverse.mp hmem)
  obtain ⟨htime, hstep⟩ := Fields.append_cons_inj (hat _) (hat _) htext
  exact ⟨String.toList_inj.mp (List.reverse_inj.mp hstep),
    toRfc3339_inj (String.toList_inj.mp (List.reverse_inj.mp htime))⟩

/-! ### Reading it -/

theorem head_toRfc3339 (t : Timestamp) :
    ∃ c ∈ t.toRfc3339.toList.head?,
      (FourDigitYear t → c.isDigit = true) ∧ (¬ FourDigitYear t → c = '-' ∨ c = '+') := by
  obtain ⟨c, hc, hsign⟩ := head_yearText (civilFromDays (t / 1000000000 / 86400)).1
  obtain ⟨d, rest, htext, -⟩ := toList_yearText (civilFromDays (t / 1000000000 / 86400)).1
  refine ⟨c, ?_, fun hyear => ?_, fun hyear => ?_⟩
  · rw [toList_toRfc3339, htext]
    rw [htext] at hc
    exact hc
  · unfold FourDigitYear at hyear
    rwa [if_pos hyear] at hsign
  · unfold FourDigitYear at hyear
    rw [if_neg hyear] at hsign
    split at hsign
    · exact .inl hsign
    · exact .inr hsign

/-- A year that needs a sign sorts before every year of four digits. -/
theorem toRfc3339_lt_of_sign {t u : Timestamp} (ht : ¬ FourDigitYear t) (hu : FourDigitYear u) :
    t.toRfc3339 < u.toRfc3339 := by
  obtain ⟨c, hc, -, hsign⟩ := head_toRfc3339 t
  obtain ⟨d, hd, hdigit, -⟩ := head_toRfc3339 u
  obtain ⟨xs, htext⟩ := List.head?_eq_some_iff.mp hc
  obtain ⟨ys, htextOther⟩ := List.head?_eq_some_iff.mp hd
  rw [String.lt_iff_toList_lt, htext, htextOther]
  refine List.cons_lt_cons_iff.mpr (.inl (char_lt_iff.mpr ?_))
  refine Nat.lt_of_lt_of_le ?_ (digit_bounds (hdigit hu)).1
  rcases hsign ht with rfl | rfl <;> decide

/-- `DateTime::parse_from_rfc3339`, as RFC 3339 has it: an instant in a year of four digits is read
back from its text, and a year has no sign. -/
structure ReadsRfc3339 (parse : String → Except String Timestamp) : Prop where
  written : ∀ t, FourDigitYear t → parse t.toRfc3339 = .ok t
  unsigned : ∀ text t, parse text = .ok t → ∀ c ∈ text.toList.head?, c ≠ '+' ∧ c ≠ '-'

section Reading

variable {host : ContinuationHost} {cps : CheckpointTable} {runId : String} {cp : Checkpoint}

theorem ReadsRfc3339.reads_iff {parse : String → Except String Timestamp} (h : ReadsRfc3339 parse)
    (t : Timestamp) : parse t.toRfc3339 = .ok t ↔ FourDigitYear t := by
  refine ⟨fun hparse => ?_, h.written t⟩
  by_contra hyear
  obtain ⟨c, hc, -, hsign⟩ := head_toRfc3339 t
  have hunsigned := h.unsigned _ _ hparse c hc
  exact (hsign hyear).elim hunsigned.2 hunsigned.1

/-- A step that is read out of an identity has no `@`; if it is the step of the checkpoint, the
rest is the time. -/
theorem parseCheckpointIdentityTarget_ok {t : Timestamp}
    (h : parseCheckpointIdentityTarget host (checkpointIdentity cp) = .ok (cp.stepId, t)) :
    '@' ∉ cp.stepId.toList ∧ host.parseFromRfc3339 cp.timestamp.toRfc3339 = .ok t := by
  unfold parseCheckpointIdentityTarget at h
  split at h
  · cases h
  · rename_i step ts hsplit
    obtain ⟨hstep, htext⟩ := splitOnce_eq_some.mp hsplit
    split at h
    · rename_i parsed hparsed
      obtain ⟨rfl, rfl⟩ := Prod.mk.inj (Except.ok.inj h)
      rw [toList_checkpointIdentity] at htext
      have hts := (List.cons.inj (List.append_cancel_left htext)).2
      rw [String.toList_inj.mp hts]
      exact ⟨hstep, hparsed⟩
    · cases h

/-- **When an identity is read back: where the step has no `@`, and the year four digits.** -/
theorem parse_checkpointIdentity_iff (h : ReadsRfc3339 host.parseFromRfc3339) (cp : Checkpoint) :
    parseCheckpointIdentityTarget host (checkpointIdentity cp) = .ok (cp.stepId, cp.timestamp) ↔
      '@' ∉ cp.stepId.toList ∧ FourDigitYear cp.timestamp := by
  constructor
  · intro hparse
    obtain ⟨hstep, hread⟩ := parseCheckpointIdentityTarget_ok hparse
    exact ⟨hstep, (h.reads_iff cp.timestamp).mp hread⟩
  · rintro ⟨hstep, hyear⟩
    unfold parseCheckpointIdentityTarget
    rw [splitOnce_eq_some.mpr ⟨hstep, toList_checkpointIdentity cp⟩]
    dsimp only
    rw [h.written cp.timestamp hyear]

/-- A rewind to the identity of a checkpoint that is kept selects its step and its time. -/
def SelectedByIdentity (host : ContinuationHost) (cps : CheckpointTable) (runId : String)
    (cp : Checkpoint) : Prop :=
  ∃ found, selectRewindCheckpoint host cps runId (.toCheckpoint (checkpointIdentity cp)) =
    .ok found ∧ found.stepId = cp.stepId ∧ found.timestamp = cp.timestamp

theorem not_selectedByIdentity (h : '@' ∈ cp.stepId.toList) :
    ¬ SelectedByIdentity host cps runId cp := by
  rintro ⟨found, hfound, hstep, -⟩
  obtain ⟨step, t, hparse, row, -, his, -, rfl⟩ := selectRewindCheckpoint_ok.mp hfound
  have hrowStep : row.stepId = step := (CheckpointRow.isStep_iff.mp his).2
  obtain rfl : step = cp.stepId := hrowStep.symm.trans hstep
  exact (parseCheckpointIdentityTarget_ok hparse).1 h

/-- **When a checkpoint is selected by its identity: where its step has no `@` and its year four
digits.  And two checkpoints never share an identity.** -/
theorem checkpoint_identity_iff (h : ReadsRfc3339 host.parseFromRfc3339) (cps : CheckpointTable)
    (runId : String) :
    (∀ cp, cps.Keeps runId cp →
      (parseCheckpointIdentityTarget host (checkpointIdentity cp) =
            .ok (cp.stepId, cp.timestamp) ∧ SelectedByIdentity host cps runId cp ↔
        '@' ∉ cp.stepId.toList ∧ FourDigitYear cp.timestamp)) ∧
    (∀ cp, '@' ∈ cp.stepId.toList → ¬ SelectedByIdentity host cps runId cp) ∧
    ∀ a b, checkpointIdentity a = checkpointIdentity b →
      a.stepId = b.stepId ∧ a.timestamp = b.timestamp := by
  refine ⟨?_, fun cp hat => not_selectedByIdentity hat, fun a b hab => checkpointIdentity_inj hab⟩
  rintro cp ⟨row, hrow, hrun, rfl⟩
  refine ⟨fun hread => (parse_checkpointIdentity_iff h _).mp hread.1, fun hcondition => ?_⟩
  have hparse := (parse_checkpointIdentity_iff h row.toCheckpoint).mpr hcondition
  refine ⟨hparse, row.toCheckpoint, ?_, rfl, rfl⟩
  exact selectRewindCheckpoint_ok.mpr ⟨_, _, hparse, row, hrow,
    CheckpointRow.isStep_iff.mpr ⟨hrun, rfl⟩, rfl, rfl⟩

end Reading

/-! ### Two steps -/

open Classical in
/-- The reader of the instants in years of four digits, and of nothing else. -/
noncomputable def exactReader (text : String) : Except String Timestamp :=
  if h : ∃ t, FourDigitYear t ∧ t.toRfc3339 = text then .ok h.choose
  else .error "input contains invalid characters"

theorem exactReader_reads : ReadsRfc3339 exactReader where
  written := by
    intro t ht
    have hfound : ∃ u, FourDigitYear u ∧ u.toRfc3339 = t.toRfc3339 := ⟨t, ht, rfl⟩
    unfold exactReader
    rw [dif_pos hfound, toRfc3339_inj hfound.choose_spec.2]
  unsigned := by
    intro text t hread c hc
    unfold exactReader at hread
    by_cases hfound : ∃ u, FourDigitYear u ∧ u.toRfc3339 = text
    · obtain ⟨u, hu, rfl⟩ := hfound
      obtain ⟨d, hd, hdigit, -⟩ := head_toRfc3339 u
      obtain rfl := Option.mem_unique hc hd
      constructor
      · rintro rfl
        exact absurd (hdigit hu) (by decide)
      · rintro rfl
        exact absurd (hdigit hu) (by decide)
    · rw [dif_neg hfound] at hread
      cases hread

noncomputable def readingHost : ContinuationHost where
  isPidStale _ := true
  isSymlink _ := some false
  isDir _ := true
  verifyWorkspaceOwnership _ _ := none
  parseFromRfc3339 := exactReader

/-- The checkpoint of a step, of the first second of 1970. -/
def earlyCheckpoint (stepId : String) : Checkpoint := ⟨"run-1", stepId, {}, 1000⟩

def earlyCheckpoints : CheckpointTable :=
  saveCheckpoint (earlyCheckpoint "deploy@prod")
    (saveCheckpoint (earlyCheckpoint "deploy") Table.empty)

theorem earlyCheckpoints_keeps :
    earlyCheckpoints.Keeps "run-1" (earlyCheckpoint "deploy").toRow.toCheckpoint ∧
      earlyCheckpoints.Keeps "run-1" (earlyCheckpoint "deploy@prod").toRow.toCheckpoint := by
  refine ⟨⟨_, mem_saveCheckpoint.mpr (.inr ⟨mem_saveCheckpoint.mpr (.inl rfl), ?_⟩), rfl, rfl⟩,
    ⟨_, mem_saveCheckpoint.mpr (.inl rfl), rfl, rfl⟩⟩
  decide

/-- A step without an `@` is selected. -/
theorem checkpoint_identity_deploy :
    SelectedByIdentity readingHost earlyCheckpoints "run-1"
      (earlyCheckpoint "deploy").toRow.toCheckpoint :=
  (((checkpoint_identity_iff exactReader_reads earlyCheckpoints "run-1").1 _
    earlyCheckpoints_keeps.1).mpr (by decide)).2

/-- **A step with one is not**, although its checkpoint is kept. -/
theorem checkpoint_identity_at :
    earlyCheckpoints.Keeps "run-1" (earlyCheckpoint "deploy@prod").toRow.toCheckpoint ∧
      ¬ SelectedByIdentity readingHost earlyCheckpoints "run-1"
        (earlyCheckpoint "deploy@prod").toRow.toCheckpoint :=
  ⟨earlyCheckpoints_keeps.2, not_selectedByIdentity (by decide)⟩

end Luther
