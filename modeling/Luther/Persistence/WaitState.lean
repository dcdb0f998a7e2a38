/-
The `wait_states` table: what a suspended run waits for.

A row of the model is the record that was written.  What its columns hold, and how they
are read back, is a translation of its own: numbers are signed in a column, and kinds,
times and JSON values are texts.
-/
import Luther.Lib.Json
import Luther.Lib.Sql
import Luther.Persistence.Time

namespace Luther

open Sql

/-- What kind of external event is waited for. -/
inductive WaitKind where
  | prChecks
  | coderabbitReview
  | humanReview
  | prMerge
  | rateLimitBackoff
  | dependencyChildWorkflow
  | dependencyChildMerge
  | scopeDecision
  deriving DecidableEq

namespace WaitKind

def toText : WaitKind → String
  | prChecks => "pr_checks"
  | coderabbitReview => "coderabbit_review"
  | humanReview => "human_review"
  | prMerge => "pr_merge"
  | rateLimitBackoff => "rate_limit_backoff"
  | dependencyChildWorkflow => "dependency_child_workflow"
  | dependencyChildMerge => "dependency_child_merge"
  | scopeDecision => "scope_decision"

def fromStr (s : String) : Except String WaitKind :=
  match s with
  | "pr_checks" => .ok prChecks
  | "coderabbit_review" => .ok coderabbitReview
  | "human_review" => .ok humanReview
  | "pr_merge" => .ok prMerge
  | "rate_limit_backoff" => .ok rateLimitBackoff
  | "dependency_child_workflow" => .ok dependencyChildWorkflow
  | "dependency_child_merge" => .ok dependencyChildMerge
  | "scope_decision" => .ok scopeDecision
  | _ => .error s!"Unknown wait kind: {s}"

theorem fromStr_toText (kind : WaitKind) : fromStr kind.toText = .ok kind := by
  cases kind <;> rfl

end WaitKind

/-- The wait of a suspended run. -/
structure WaitStateRecord where
  runId : String
  suspensionId : String
  leaseId : Option String
  workflowType : String
  configId : String
  repository : String
  issueNumber : UInt64
  prNumber : Option UInt64
  headSha : Option String
  waitKind : WaitKind
  waitCondition : Json
  lastObservedState : Json
  nextPollAt : Timestamp
  pollIntervalSeconds : UInt64
  maxWaitSeconds : Option UInt64
  resumeStep : String
  checkpointId : String
  pollCount : UInt64
  createdAt : Timestamp
  updatedAt : Timestamp
  deriving DecidableEq

/-- `run_id TEXT PRIMARY KEY`. -/
def WaitStateRecord.Clash (a b : WaitStateRecord) : Prop := a.runId = b.runId

instance : DecidableRel WaitStateRecord.Clash := fun a b =>
  inferInstanceAs (Decidable (a.runId = b.runId))

instance : Std.Symm WaitStateRecord.Clash := ⟨fun _ _ h => Eq.symm h⟩

/-- The `wait_states` table. -/
abbrev WaitStateTable := Table WaitStateRecord WaitStateRecord.Clash

def getWaitState (waits : WaitStateTable) (runId : String) : Option WaitStateRecord :=
  waits.find? fun row => row.runId == runId

/-! ### The columns -/

/-- What the columns of a row hold. -/
structure WaitStateRow where
  runId : String
  suspensionId : String
  leaseId : Option String
  workflowType : String
  configId : String
  repository : String
  issueNumber : Int
  prNumber : Option Int
  headSha : Option String
  waitKind : String
  waitConditionJson : String
  lastObservedStateJson : String
  nextPollAt : String
  pollIntervalSeconds : Int
  maxWaitSeconds : Option Int
  resumeStep : String
  checkpointId : String
  pollCount : Int
  createdAt : String
  updatedAt : String

def toSqlI64 (value : UInt64) : Except Error Int :=
  if value.toNat < 2 ^ 63 then .ok value.toNat
  else .error (.toSqlConversionFailure "out of range integral type conversion attempted")

/-- `Option::map(to_sql_i64).transpose()`. -/
def optionalToSqlI64 : Option UInt64 → Except Error (Option Int)
  | none => .ok none
  | some value => (toSqlI64 value).map some

/-- `record_params`: the columns of a record. -/
def recordParams (record : WaitStateRecord) : Except Error WaitStateRow := do
  let issueNumber ← toSqlI64 record.issueNumber
  let prNumber ← optionalToSqlI64 record.prNumber
  let pollIntervalSeconds ← toSqlI64 record.pollIntervalSeconds
  let maxWaitSeconds ← optionalToSqlI64 record.maxWaitSeconds
  let pollCount ← toSqlI64 record.pollCount
  .ok
    { runId := record.runId
      suspensionId := record.suspensionId
      leaseId := record.leaseId
      workflowType := record.workflowType
      configId := record.configId
      repository := record.repository
      issueNumber := issueNumber
      prNumber := prNumber
      headSha := record.headSha
      waitKind := record.waitKind.toText
      waitConditionJson := record.waitCondition.render
      lastObservedStateJson := record.lastObservedState.render
      nextPollAt := record.nextPollAt.toRfc3339
      pollIntervalSeconds := pollIntervalSeconds
      maxWaitSeconds := maxWaitSeconds
      resumeStep := record.resumeStep
      checkpointId := record.checkpointId
      pollCount := pollCount
      createdAt := record.createdAt.toRfc3339
      updatedAt := record.updatedAt.toRfc3339 }

/-- How the libraries read what the program has written: `DateTime::parse_from_rfc3339` and
`serde_json::from_str`. -/
structure TextReader where
  parseFromRfc3339 : String → Except String Timestamp
  parseJson : String → Except String Json

def nonnegativeI64ToU64 (col : Nat) (value : Int) : Except Error UInt64 :=
  if 0 ≤ value then .ok (UInt64.ofNat value.toNat)
  else
    .error (.fromSqlConversionFailure col "Integer"
      "out of range integral type conversion attempted")

def optionalNonnegativeI64ToU64 (col : Nat) : Option Int → Except Error (Option UInt64)
  | none => .ok none
  | some value => (nonnegativeI64ToU64 col value).map some

/-- `row_to_wait_state`: the record of the columns. -/
def rowToWaitState (reader : TextReader) (row : WaitStateRow) : Except Error WaitStateRecord := do
  let issueNumber ← nonnegativeI64ToU64 6 row.issueNumber
  let prNumber ← optionalNonnegativeI64ToU64 7 row.prNumber
  let waitKind ← (WaitKind.fromStr row.waitKind).mapError (.fromSqlConversionFailure 9 "Text")
  let waitCondition ←
    (reader.parseJson row.waitConditionJson).mapError (.fromSqlConversionFailure 10 "Text")
  let lastObservedState ←
    (reader.parseJson row.lastObservedStateJson).mapError (.fromSqlConversionFailure 11 "Text")
  let nextPollAt ←
    (reader.parseFromRfc3339 row.nextPollAt).mapError (.fromSqlConversionFailure 12 "Text")
  let pollIntervalSeconds ← nonnegativeI64ToU64 13 row.pollIntervalSeconds
  let maxWaitSeconds ← optionalNonnegativeI64ToU64 14 row.maxWaitSeconds
  let pollCount ← nonnegativeI64ToU64 17 row.pollCount
  let createdAt ←
    (reader.parseFromRfc3339 row.createdAt).mapError (.fromSqlConversionFailure 18 "Text")
  let updatedAt ←
    (reader.parseFromRfc3339 row.updatedAt).mapError (.fromSqlConversionFailure 19 "Text")
  .ok
    { runId := row.runId
      suspensionId := row.suspensionId
      leaseId := row.leaseId
      workflowType := row.workflowType
      configId := row.configId
      repository := row.repository
      issueNumber := issueNumber
      prNumber := prNumber
      headSha := row.headSha
      waitKind := waitKind
      waitCondition := waitCondition
      lastObservedState := lastObservedState
      nextPollAt := nextPollAt
      pollIntervalSeconds := pollIntervalSeconds
      maxWaitSeconds := maxWaitSeconds
      resumeStep := row.resumeStep
      checkpointId := row.checkpointId
      pollCount := pollCount
      createdAt := createdAt
      updatedAt := updatedAt }

/-- The libraries read back the texts of the record. -/
structure TextReader.Reads (reader : TextReader) (record : WaitStateRecord) : Prop where
  waitCondition : reader.parseJson record.waitCondition.render = .ok record.waitCondition
  lastObservedState :
    reader.parseJson record.lastObservedState.render = .ok record.lastObservedState
  nextPollAt : reader.parseFromRfc3339 record.nextPollAt.toRfc3339 = .ok record.nextPollAt
  createdAt : reader.parseFromRfc3339 record.createdAt.toRfc3339 = .ok record.createdAt
  updatedAt : reader.parseFromRfc3339 record.updatedAt.toRfc3339 = .ok record.updatedAt

variable {col : Nat}

theorem toSqlI64_ok {value : UInt64} {n : Int} (h : toSqlI64 value = .ok n) :
    nonnegativeI64ToU64 col n = .ok value := by
  unfold toSqlI64 at h
  split at h
  · rw [← Except.ok.inj h]
    simp [nonnegativeI64ToU64]
  · simp at h

theorem optionalToSqlI64_ok {value : Option UInt64} {n : Option Int}
    (h : optionalToSqlI64 value = .ok n) : optionalNonnegativeI64ToU64 col n = .ok value := by
  cases value with
  | none =>
    rw [← Except.ok.inj h]
    rfl
  | some value =>
    cases hn : toSqlI64 value with
    | error e => simp [optionalToSqlI64, hn, Except.map] at h
    | ok n' =>
      simp only [optionalToSqlI64, hn, Except.map, Except.ok.injEq] at h
      rw [← h, optionalNonnegativeI64ToU64, toSqlI64_ok hn]
      rfl

/-- **The columns read back as the record exactly when the libraries read back its texts.** -/
theorem rowToWaitState_recordParams {reader : TextReader} {record : WaitStateRecord}
    {row : WaitStateRow} (h : recordParams record = .ok row) :
    rowToWaitState reader row = .ok record ↔ reader.Reads record := by
  obtain ⟨issueNumber, hissue, h⟩ := bind_ok.mp h
  obtain ⟨prNumber, hpr, h⟩ := bind_ok.mp h
  obtain ⟨interval, hinterval, h⟩ := bind_ok.mp h
  obtain ⟨maxWait, hmax, h⟩ := bind_ok.mp h
  obtain ⟨pollCount, hpoll, h⟩ := bind_ok.mp h
  rw [← Except.ok.inj h]
  constructor
  · intro hread
    obtain ⟨_, _, hread⟩ := bind_ok.mp hread
    obtain ⟨_, _, hread⟩ := bind_ok.mp hread
    obtain ⟨_, _, hread⟩ := bind_ok.mp hread
    obtain ⟨condition, hcondition, hread⟩ := bind_ok.mp hread
    obtain ⟨observed, hobserved, hread⟩ := bind_ok.mp hread
    obtain ⟨nextPollAt, hnext, hread⟩ := bind_ok.mp hread
    obtain ⟨_, _, hread⟩ := bind_ok.mp hread
    obtain ⟨_, _, hread⟩ := bind_ok.mp hread
    obtain ⟨_, _, hread⟩ := bind_ok.mp hread
    obtain ⟨createdAt, hcreated, hread⟩ := bind_ok.mp hread
    obtain ⟨updatedAt, hupdated, hread⟩ := bind_ok.mp hread
    have hrecord := Except.ok.inj hread
    rw [mapError_ok] at hcondition hobserved hnext hcreated hupdated
    refine ⟨?_, ?_, ?_, ?_, ?_⟩
    · rw [hcondition, ← congrArg WaitStateRecord.waitCondition hrecord]
    · rw [hobserved, ← congrArg WaitStateRecord.lastObservedState hrecord]
    · rw [hnext, ← congrArg WaitStateRecord.nextPollAt hrecord]
    · rw [hcreated, ← congrArg WaitStateRecord.createdAt hrecord]
    · rw [hupdated, ← congrArg WaitStateRecord.updatedAt hrecord]
  · intro hreads
    unfold rowToWaitState
    simp only [toSqlI64_ok hissue, optionalToSqlI64_ok hpr, WaitKind.fromStr_toText,
      hreads.waitCondition, hreads.lastObservedState, hreads.nextPollAt, toSqlI64_ok hinterval,
      optionalToSqlI64_ok hmax, toSqlI64_ok hpoll, hreads.createdAt, hreads.updatedAt]
    rfl

/-! ### The statements -/

/-- Why a wait cannot be written. -/
inductive WaitStateWriteError where
  | emptySuspensionId (runId : String)
  | sqlite (error : Error)
  deriving DecidableEq

/-- `upsert_wait_state`: every column of the excluded row, but `created_at`. -/
def upsertWaitState (record : WaitStateRecord) (waits : WaitStateTable) :
    Except WaitStateWriteError WaitStateTable :=
  if record.suspensionId = "" then .error (.emptySuspensionId record.runId)
  else do
    let _ ← (recordParams record).mapError .sqlite
    match waits.insert record with
    | some waits' => .ok waits'
    | none => .ok (waits.update (fun row => row.runId == record.runId)
        (fun row => { record with runId := row.runId, createdAt := row.createdAt })
        (fun _ _ h => h))

def WaitStateRecord.isSuspension (runId suspensionId : String) (row : WaitStateRecord) : Bool :=
  row.runId == runId && row.suspensionId == suspensionId

def deleteWaitStateForSuspension (runId suspensionId : String) (waits : WaitStateTable) :
    Bool × WaitStateTable :=
  (0 < waits.count (WaitStateRecord.isSuspension runId suspensionId),
    waits.delete (WaitStateRecord.isSuspension runId suspensionId))

/-- `update_wait_state_after_poll`: for the suspension and the poll count that were read. -/
def updateWaitStateAfterPoll (now : Timestamp) (runId : String) (lastObservedState : Json)
    (nextPollAt : Timestamp) (expectedPollCount : UInt64) (expectedSuspensionId : String)
    (waits : WaitStateTable) : Except Error (Bool × WaitStateTable) := do
  let expected ← toSqlI64 expectedPollCount
  let selected (row : WaitStateRecord) : Bool :=
    row.isSuspension runId expectedSuspensionId && (row.pollCount.toNat : Int) == expected
  .ok (0 < waits.count selected,
    waits.update selected
      (fun row =>
        { row with
          lastObservedState := lastObservedState
          nextPollAt := nextPollAt
          pollCount := row.pollCount + 1
          updatedAt := now })
      (fun _ _ h => h))

end Luther
