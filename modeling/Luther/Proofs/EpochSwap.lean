/-
When the compare-and-swap of the epoch is one.

A row of the run is guarded: it moves on when it holds what the caller expects.  The first
row of a run is not.  It is written with the value after the expected one, whatever that
is, so a run that has no row, and so reads as zero, is moved on by every caller.

Two values of the column are read as something else than they compare as: a negative one,
which reads as zero, and the one past the largest, which does not read at all.
-/
import Luther.Proofs.RecoveryTables

namespace Luther

open Sql

variable {runId : String} {expected : Nat} {epochs epochs' : EpochTable}

/-- What a compare-and-swap promises of its answer, and of the table it leaves. -/
structure SwapTruthful (runId : String) (expected : Nat) (epochs : EpochTable)
    (answer : CasOutcome) (epochs' : EpochTable) : Prop where
  advanced : answer = .advanced expected (expected + 1) ↔ readEpoch epochs runId = .ok expected
  moved : readEpoch epochs runId = .ok expected → readEpoch epochs' runId = .ok (expected + 1)
  missed : readEpoch epochs runId ≠ .ok expected →
    (∃ persisted, readEpoch epochs runId = .ok persisted ∧ answer = .stale persisted expected)
      ∧ epochs' = epochs
  others : ∀ other, other ≠ runId → readEpoch epochs' other = readEpoch epochs other

/-- The column of the run compares as it reads, and a run without a row is expected at zero. -/
def SwapGuarded (runId : String) (expected : Nat) (epochs : EpochTable) : Prop :=
  match epochs.find? (EpochRow.isRun runId) with
  | none => expected = 0
  | some row => row.epoch ≤ i64Max ∧ (0 ≤ row.epoch ∨ expected ≠ 0)

theorem readEpoch_none (hfind : epochs.find? (EpochRow.isRun runId) = none) :
    readEpoch epochs runId = .ok 0 := by
  unfold readEpoch
  rw [hfind]

theorem readEpoch_some {row : EpochRow} (hfind : epochs.find? (EpochRow.isRun runId) = some row)
    (hle : row.epoch ≤ i64Max) : readEpoch epochs runId = .ok row.epoch.toNat := by
  unfold readEpoch
  rw [hfind]
  exact if_pos hle

theorem readEpoch_past {row : EpochRow} (hfind : epochs.find? (EpochRow.isRun runId) = some row)
    (hgt : ¬ row.epoch ≤ i64Max) : ∃ e, readEpoch epochs runId = .error e := by
  unfold readEpoch
  rw [hfind]
  exact ⟨_, if_neg hgt⟩

theorem EpochMoved.readOther {value : Int} (h : EpochMoved runId value epochs epochs')
    {other : String} (hne : other ≠ runId) : readEpoch epochs' other = readEpoch epochs other := by
  unfold readEpoch
  rw [h.others other hne]

theorem EpochMoved.truthful (h : EpochMoved runId (expected + 1) epochs epochs')
    (hexpected : expected < i64Max) (hread : readEpoch epochs runId = .ok expected) :
    SwapTruthful runId expected epochs (.advanced expected (expected + 1)) epochs' where
  advanced := by simp [hread]
  moved := by
    intro _
    have hle : ((expected : Int) + 1) ≤ i64Max := by omega
    have hnew := readEpoch_some h.own hle
    have hnat : ((expected : Int) + 1).toNat = expected + 1 := by omega
    rwa [hnat] at hnew
  missed hne := absurd hread hne
  others _ hne := h.readOther hne

/-- **The swap is one exactly where the run has a row that compares as it reads, or is expected
at zero.** -/
theorem casAdvanceEpoch_truthful_iff (hexpected : expected < 2 ^ 63 - 1) :
    (∃ answer epochs', casAdvanceEpoch runId expected epochs = .ok (answer, epochs')
        ∧ SwapTruthful runId expected epochs answer epochs')
      ↔ SwapGuarded runId expected epochs := by
  have hmax : expected < i64Max := hexpected
  have hnext : expected + 1 < 2 ^ 64 := by omega
  have hsat : saturateI64 expected = expected := by
    unfold saturateI64
    omega
  have hsat' : saturateI64 (expected + 1) = expected + 1 := by
    unfold saturateI64
    omega
  unfold SwapGuarded
  cases hfind : epochs.find? (EpochRow.isRun runId) with
  | none =>
    obtain ⟨moved, hcas, hmoved⟩ := casAdvanceEpoch_first hnext hfind
    have hread := readEpoch_none hfind
    constructor
    · rintro ⟨answer, epochs', hanswer, htruthful⟩
      rw [hcas, Except.ok.injEq, Prod.mk.injEq] at hanswer
      have hzero := htruthful.advanced.mp hanswer.1.symm
      rw [hread, Except.ok.injEq] at hzero
      exact hzero.symm
    · intro hzero
      refine ⟨_, moved, hcas, EpochMoved.truthful ?_ hmax (hread.trans (by rw [hzero]))⟩
      rwa [hsat', Nat.cast_add] at hmoved
  | some row =>
    by_cases hle : row.epoch ≤ i64Max
    · have hread := readEpoch_some hfind hle
      by_cases hepoch : row.epoch = expected
      · -- The guard is met, and what it compares with is what is read.
        obtain ⟨moved, hcas, hmoved⟩ := casAdvanceEpoch_met hnext hfind (by rw [hsat, hepoch])
        rw [hepoch] at hmoved
        have hread' : readEpoch epochs runId = .ok expected := by
          rw [hread, hepoch, Int.toNat_natCast]
        refine ⟨fun _ => ⟨hle, Or.inl (by omega)⟩, fun _ => ?_⟩
        exact ⟨_, moved, hcas, hmoved.truthful hmax hread'⟩
      · have hmissed : row.epoch ≠ saturateI64 expected := by rwa [hsat]
        have hcas := casAdvanceEpoch_missed hfind hmissed
        rw [hread] at hcas
        constructor
        · rintro ⟨answer, epochs', hanswer, htruthful⟩
          refine ⟨hle, ?_⟩
          by_contra hbad
          -- A negative row reads as the zero that is expected, and is not moved.
          have hzero : row.epoch.toNat = expected := by omega
          have hadvanced := htruthful.advanced.mpr (hread.trans (by rw [hzero]))
          rw [hcas, hadvanced] at hanswer
          simp at hanswer
        · rintro ⟨-, hbad⟩
          have hne : row.epoch.toNat ≠ expected := by omega
          refine ⟨_, epochs, hcas, ?_, ?_, ?_, fun _ _ => rfl⟩
          · simp [hread, hne]
          · intro hok
            rw [hread, Except.ok.injEq] at hok
            exact absurd hok hne
          · exact fun _ => ⟨⟨_, hread, rfl⟩, rfl⟩
    · refine ⟨?_, fun hguarded => absurd hguarded.1 hle⟩
      obtain ⟨e, herror⟩ := readEpoch_past hfind hle
      have hepoch : row.epoch ≠ saturateI64 expected := by omega
      rintro ⟨answer, epochs', hanswer, -⟩
      rw [casAdvanceEpoch_missed hfind hepoch, herror] at hanswer
      simp at hanswer

/-- The first reservation of a run. -/
theorem casAdvanceEpoch_truthful_first :
    ∃ answer epochs', casAdvanceEpoch "run-1" 0 Table.empty = .ok (answer, epochs')
      ∧ SwapTruthful "run-1" 0 Table.empty answer epochs' :=
  (casAdvanceEpoch_truthful_iff (by decide)).mpr rfl

/-- **A run that was never reserved is moved on from an epoch it does not have.** -/
theorem casAdvanceEpoch_unguarded :
    readEpoch Table.empty "run-1" = .ok 0
      ∧ (casAdvanceEpoch "run-1" 5 Table.empty).map Prod.fst = .ok (.advanced 5 6)
      ∧ ¬ ∃ answer epochs', casAdvanceEpoch "run-1" 5 Table.empty = .ok (answer, epochs')
          ∧ SwapTruthful "run-1" 5 Table.empty answer epochs' := by
  refine ⟨rfl, by decide, ?_⟩
  rintro ⟨answer, epochs', hanswer, htruthful⟩
  have hfirst : (casAdvanceEpoch "run-1" 5 Table.empty).map Prod.fst = .ok (.advanced 5 6) := by
    decide
  rw [hanswer] at hfirst
  have hread := htruthful.advanced.mp (Except.ok.inj hfirst)
  exact absurd hread (by decide)

end Luther
