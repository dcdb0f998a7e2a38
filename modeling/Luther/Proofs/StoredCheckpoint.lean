/-
What a checkpoint that is written reads back as.

A step of a run has one row, so writing puts a row in the place of the one that was there
and leaves the others.  The newest row of the run is the one that was written last, and it
reads back as it was written but for one key: the counts of the loops travel in the context
under a reserved key, and are left in it.  That holds as long as the context is not nested too
deep for its reader, and the years have four digits.
-/
import Luther.Persistence.StoredCheckpoint
import Luther.Proofs.Capsule
import Luther.Proofs.CheckpointIdentity

namespace Luther

open Sql

variable {parse : String → Except String Timestamp} {row : CheckpointRow} {runId : String}

/-! ### Columns and values -/

/-- What a row holds is read back from its columns. -/
def CheckpointRow.Readable (row : CheckpointRow) : Prop :=
  (Json.obj row.context).depth < 128 ∧ FourDigitYear row.timestamp

theorem read_stored (hparse : ∀ t, FourDigitYear t → parse t.toRfc3339 = .ok t)
    (h : row.Readable) : row.stored.read parse = .ok row.toCheckpoint := by
  have hcontext : Json.fromText (.obj row.context) = .ok (.obj row.context) := if_pos h.1
  unfold StoredCheckpoint.read CheckpointRow.stored
  simp only [hcontext, hparse _ h.2, asU32_toNat, Except.mapError, bind, Except.bind,
    Json.asObject?]

theorem read_deep (h : 128 ≤ (Json.obj row.context).depth) :
    row.stored.read parse =
      .error (.serialization "Failed to deserialize context: recursion limit exceeded") := by
  have hcontext : Json.fromText (.obj row.context) = .error "recursion limit exceeded" :=
    if_neg (Nat.not_lt.mpr h)
  unfold StoredCheckpoint.read CheckpointRow.stored
  simp only [hcontext, Except.mapError, bind, Except.bind]
  rfl

/-- The columns of a table's rows. -/
def CheckpointTable.stored (checkpoints : CheckpointTable) : StoredCheckpoints :=
  ⟨checkpoints.rows.map CheckpointRow.stored, checkpoints.distinct.map _ fun _ _ h => h⟩

theorem saveCheckpointWithConn_stored (checkpoint : Checkpoint) (checkpoints : CheckpointTable) :
    (saveCheckpointWithConn checkpoint (CheckpointTable.stored checkpoints)).rows =
      (saveCheckpoint checkpoint checkpoints).rows.map CheckpointRow.stored :=
  Table.rows_upsert_map rfl (fun _ => Iff.rfl) (fun _ => rfl) fun _ => rfl

/-- **Where every row of a run can be read, the newest is read as its values are.** -/
theorem loadCheckpointWithConn_stored (hparse : ∀ t, FourDigitYear t → parse t.toRfc3339 = .ok t)
    (checkpoints : CheckpointTable)
    (h : ∀ row ∈ checkpoints, row.runId = runId → row.Readable) :
    loadCheckpointWithConn parse (CheckpointTable.stored checkpoints) runId =
      .ok (loadCheckpoint checkpoints runId) := by
  have hreadable : ∀ row ∈ checkpoints.select fun row => row.runId == runId, row.Readable := by
    intro row hrow
    obtain ⟨hmem, hrun⟩ := Table.mem_select.mp hrow
    exact h row hmem (by simpa using hrun)
  have hlatest : (CheckpointTable.stored checkpoints).latest? (fun row => row.runId == runId)
      StoredCheckpoint.timestamp =
        (checkpoints.latest? (fun row => row.runId == runId) CheckpointRow.timestamp).map
          CheckpointRow.stored :=
    Table.latest?_map rfl (fun _ => rfl) fun a ha b hb =>
      toRfc3339_lt_iff (hreadable a ha).2 (hreadable b hb).2
  unfold loadCheckpointWithConn loadCheckpoint
  rw [hlatest]
  cases hrow : checkpoints.latest? (fun row => row.runId == runId) CheckpointRow.timestamp with
  | none => rfl
  | some row =>
    obtain ⟨hmem, hrun, -⟩ := Table.latest?_some hrow
    dsimp only [Option.map_some]
    rw [read_stored hparse (h row hmem (by simpa using hrun))]
    rfl

/-! ### Saving and loading -/

/-- The row that is saved is the newest, where the texts of the others sort before its own. -/
theorem latest?_saveCheckpointWithConn (checkpoint : Checkpoint) (checkpoints : StoredCheckpoints)
    (h : ∀ row ∈ checkpoints, row.runId = checkpoint.runId → row.stepId ≠ checkpoint.stepId →
      row.timestamp < checkpoint.timestamp.toRfc3339) :
    (saveCheckpointWithConn checkpoint checkpoints).latest?
        (fun row => row.runId == checkpoint.runId) StoredCheckpoint.timestamp =
      some checkpoint.toRow.stored := by
  have hmem : ∀ row, row ∈ saveCheckpointWithConn checkpoint checkpoints ↔
      row = checkpoint.toRow.stored ∨
        row ∈ checkpoints ∧ ¬ StoredCheckpoint.Clash row checkpoint.toRow.stored := by
    intro row
    refine Table.mem_upsert (by simp [StoredCheckpoint.Clash]) ?_
    rintro a ⟨hrun, hstep⟩
    rw [hrun, hstep]
  refine Table.latest?_eq_of_lt ((hmem _).mpr (.inl rfl)) (beq_self_eq_true checkpoint.runId) ?_
  intro row hrow hrun hne
  have hrun' : row.runId = checkpoint.runId := by simpa using hrun
  rcases (hmem row).mp hrow with rfl | ⟨hold, hclash⟩
  · exact absurd rfl hne
  · exact h row hold hrun' fun hstep => hclash ⟨hrun', hstep⟩

/-- **The newest checkpoint of a run reads back as it was written, with its counts in the
context.** -/
theorem loadCheckpoint_saveCheckpoint (hparse : ∀ t, FourDigitYear t → parse t.toRfc3339 = .ok t)
    (checkpoint : Checkpoint) (checkpoints : StoredCheckpoints)
    (hreadable : checkpoint.toRow.Readable)
    (hearlier : ∀ row ∈ checkpoints, row.runId = checkpoint.runId →
      row.stepId ≠ checkpoint.stepId →
        ∃ t < checkpoint.timestamp, FourDigitYear t ∧ row.timestamp = t.toRfc3339) :
    loadCheckpointWithConn parse (saveCheckpointWithConn checkpoint checkpoints) checkpoint.runId =
      .ok (some checkpoint.withCounts) := by
  have hlatest := latest?_saveCheckpointWithConn checkpoint checkpoints fun row hrow hrun hstep => by
    obtain ⟨t, ht, hyear, htext⟩ := hearlier row hrow hrun hstep
    rw [htext]
    exact toRfc3339_lt hyear hreadable.2 ht
  unfold loadCheckpointWithConn
  rw [hlatest]
  dsimp only
  rw [read_stored hparse hreadable, toCheckpoint_toRow]
  rfl

/-- A step that has counted one edge and left a variable. -/
def countedCheckpoint : Checkpoint where
  runId := "run-1"
  stepId := "verify"
  stateSnapshot :=
    { edgeLoopCounts := [("verify:implement", 1)]
      context := [("pr_number", .str "7")] }
  timestamp := 5

theorem countedCheckpoint_readable : countedCheckpoint.toRow.Readable :=
  ⟨by decide, by decide⟩

/-- The table in which an earlier step has its row. -/
def earlierCheckpoints : CheckpointTable :=
  saveCheckpoint ⟨"run-1", "implement", {}, 3⟩ Table.empty

theorem loadCheckpoint_saveCheckpoint_counted :
    loadCheckpointWithConn exactReader
        (saveCheckpointWithConn countedCheckpoint (CheckpointTable.stored earlierCheckpoints))
        "run-1" =
      .ok (some countedCheckpoint.withCounts) := by
  refine loadCheckpoint_saveCheckpoint exactReader_reads.written countedCheckpoint _
    countedCheckpoint_readable ?_
  rintro row hrow - -
  obtain rfl : row = (Checkpoint.toRow ⟨"run-1", "implement", {}, 3⟩).stored :=
    List.mem_singleton.mp hrow
  exact ⟨3, by decide, by decide, rfl⟩

/-- Arrays in arrays. -/
def nestedArrays : Nat → Json
  | 0 => .null
  | n + 1 => .arr [nestedArrays n]

theorem depth_nestedArrays (n : Nat) : (nestedArrays n).depth = n := by
  induction n with
  | zero => rfl
  | succ n ih => simp [nestedArrays, Json.depth, Json.depthList, ih]

def nestedCheckpoint : Checkpoint :=
  ⟨"run-1", "plan", { context := [("plan", nestedArrays 127)] }, 5⟩

/-- The first instant of the year 10000. -/
def lateCheckpoint : Checkpoint := ⟨"run-1", "archive", {}, 253402300800000000000⟩

/-- **A context comes back with a key that it had not, one that is nested too deep does not come
back, and a checkpoint of the year 10000 is never the newest.** -/
theorem loadCheckpoint_adds_key :
    (loadCheckpointWithConn exactReader (saveCheckpointWithConn countedCheckpoint Table.empty)
        "run-1").map (Option.map fun cp => cp.stateSnapshot.context) =
      .ok (some [("pr_number", .str "7"),
        ("__edge_loop_counts", .obj [("verify:implement", .num 1)])]) ∧
    countedCheckpoint.stateSnapshot.context = [("pr_number", .str "7")] ∧
    loadCheckpointWithConn exactReader (saveCheckpointWithConn nestedCheckpoint Table.empty)
        "run-1" =
      .error (.serialization "Failed to deserialize context: recursion limit exceeded") ∧
    countedCheckpoint.timestamp < lateCheckpoint.timestamp ∧
    loadCheckpointWithConn exactReader (saveCheckpointWithConn lateCheckpoint
        (saveCheckpointWithConn countedCheckpoint Table.empty)) "run-1" =
      .ok (some countedCheckpoint.withCounts) := by
  have hread (row : CheckpointRow) := @read_stored _ row exactReader_reads.written
  have halone (checkpoint : Checkpoint) := latest?_saveCheckpointWithConn checkpoint Table.empty
    fun row hrow => absurd hrow (Table.not_mem_empty row)
  have hdeep : 128 ≤ (Json.obj nestedCheckpoint.toRow.context).depth := by
    simp [nestedCheckpoint, Checkpoint.toRow, Assoc.insert, Json.depth, Json.depthEntries,
      depth_nestedArrays, edgeLoopCountsKey]
  have hlatest : (saveCheckpointWithConn lateCheckpoint
      (saveCheckpointWithConn countedCheckpoint Table.empty)).latest?
        (fun row => row.runId == "run-1") StoredCheckpoint.timestamp =
      some countedCheckpoint.toRow.stored := by
    refine Table.latest?_eq_of_lt List.mem_cons_self rfl fun row hrow _ hne => ?_
    rcases List.mem_cons.mp hrow with rfl | hrow
    · exact absurd rfl hne
    · obtain rfl : row = lateCheckpoint.toRow.stored := List.mem_singleton.mp hrow
      exact toRfc3339_lt_of_sign (by decide) countedCheckpoint_readable.2
  refine ⟨?_, rfl, ?_, by decide, ?_⟩
  · unfold loadCheckpointWithConn
    rw [show ("run-1" : String) = countedCheckpoint.runId from rfl, halone]
    dsimp only
    rw [hread _ countedCheckpoint_readable]
    rfl
  · unfold loadCheckpointWithConn
    rw [show ("run-1" : String) = nestedCheckpoint.runId from rfl, halone]
    dsimp only
    rw [read_deep hdeep]
    rfl
  · unfold loadCheckpointWithConn
    rw [hlatest]
    dsimp only
    rw [hread _ countedCheckpoint_readable, toCheckpoint_toRow]
    rfl

end Luther
