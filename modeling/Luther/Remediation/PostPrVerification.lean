/-
What a push asks of the artifacts before it.

The plan says what has to be fixed, the result says what an agent has done about it, and the
test result says how the local verification of that result has ended.  The three are tied
together by numbers: a test result repeats the numbers of the plan and of the result that it
was made for.
-/
import Luther.Remediation.IterationGuard

namespace Luther

def planFamily : String := "pr-remediation-plan"

def resultFamily : String := "pr-remediation-result"

def testFamily : String := "post-pr-test-result"

def stringField (value : Json) (field default : String) : String :=
  ((value.get? field).bind Json.asStr?).getD default

def arrayField (value : Json) (field : String) : List Json :=
  match value.get? field with
  | some (.arr elements) => elements
  | _ => []

/-! ### The items of a plan -/

def evidenceIsNonEmpty : Json → Bool
  | .obj entries => !entries.isEmpty
  | .arr elements => !elements.isEmpty
  | _ => false

/-- The statuses of an item that needs no more work. -/
def successStatuses : List String := ["fixed", "changed", "already_satisfied", "not_reproduced"]

/-- Whether an entry of a result says that the item is done, and why. -/
def entryCovers (item entry : Json) : Bool :=
  stringField entry "source_type" "" == stringField item "source_type" ""
    && stringField entry "source_id" "" == stringField item "source_id" ""
    && successStatuses.contains (stringField entry "status" "")
    && ((entry.get? "evidence").map evidenceIsNonEmpty).getD false

def mustFixSuccessEvidenceIsAcceptable (plan result : Json) : Bool :=
  (arrayField plan "must_fix").all fun item => (arrayField result "results").any (entryCovers item)

/-! ### The local verification -/

/-- `binding_from_value` of the remediation steps: a base that is no text is none. -/
def remediationBindingFromValue (value : Json) : Except String PrFollowupBinding := do
  let schemaVersion ← requireU64 "schema_version" value
  if 2 ^ 32 ≤ schemaVersion then
    .error "schema_version out of range: out of range integral type conversion attempted"
  let runId ← requireString "run_id" value
  let repositoryOwner ← requireString "repository_owner" value
  let repositoryName ← requireString "repository_name" value
  let prNumber ← requireU64 "pr_number" value
  let headRef ← requireString "head_ref" value
  let headSha ← requireString "head_sha" value
  let baseRef ← requireString "base_ref" value
  .ok
    { schemaVersion := UInt32.ofNat schemaVersion
      runId := runId
      repositoryOwner := repositoryOwner
      repositoryName := repositoryName
      prNumber := UInt64.ofNat prNumber
      headRef := headRef
      headSha := headSha
      baseRef := baseRef
      baseSha := (value.get? "base_sha").bind Json.asStr? }

section

variable (binding : PrFollowupBinding)

def validatePostPrTestResultBinding (testResult : Json) : List String :=
  (if (testResult.get? "test_state").bind Json.asStr? = some "passed" then []
    else ["test_state must be passed"]) ++
  (if (remediationBindingFromValue testResult).toOption = some binding then []
    else ["post-pr-test-result binding mismatch"])

def validatePostPrTestResultSequences (plan result testResult : Json) : List String :=
  (if testResult.get? "plan_artifact_sequence" = plan.get? "artifact_sequence" then []
    else ["plan_artifact_sequence mismatch"]) ++
  (if testResult.get? "remediation_result_artifact_sequence" = result.get? "artifact_sequence"
    then [] else ["remediation_result_artifact_sequence mismatch"])

def requireScopeStr (scope : Option Json) (field expected : String) : List String :=
  if (scope.bind (Json.get? field)).bind Json.asStr? = some expected then []
  else [s!"retry_scope.{field} mismatch"]

def requireScopeU64 (scope : Option Json) (field : String) (expected : Option Nat) :
    List String :=
  match expected with
  | none => [s!"missing source value for retry_scope.{field}"]
  | some _ =>
    if scope.bind (Json.u64? field) = expected then []
    else [s!"retry_scope.{field} mismatch"]

def validatePostPrRetryScope (plan result testResult : Json) : List String :=
  let scope := testResult.get? "retry_scope"
  requireScopeStr scope "run_id" binding.runId ++
  requireScopeStr scope "repository_owner" binding.repositoryOwner ++
  requireScopeStr scope "repository_name" binding.repositoryName ++
  requireScopeU64 scope "pr_number" (some binding.prNumber.toNat) ++
  requireScopeStr scope "head_sha" binding.headSha ++
  requireScopeU64 scope "plan_artifact_sequence" (plan.u64? "artifact_sequence") ++
  requireScopeU64 scope "remediation_result_artifact_sequence" (result.u64? "artifact_sequence")

/-- `validate_push_local_verification_result`: what is wrong with the test result. -/
def validatePushLocalVerificationResult (plan result testResult : Json) : List String :=
  validatePostPrTestResultBinding binding testResult ++
  validatePostPrTestResultSequences plan result testResult ++
  validatePostPrRetryScope binding plan result testResult ++
  (if (arrayField testResult "commands").isEmpty then
    ["commands must contain local verification evidence"] else [])

end

/-! ### The artifacts that an artifact is made of -/

/-- `artifact_sequence`. -/
def artifactSequenceOf (value : Json) : Json := (value.get? "artifact_sequence").getD .null

def sourceArtifact (value : Json) (family : String) : Json :=
  .obj
    [("artifact_family", .str family),
     ("artifact_sequence", artifactSequenceOf value),
     ("write_sequence", (value.get? "write_sequence").getD .null),
     ("producer_step_id", (value.get? "producer_step_id").getD .null),
     ("canonical_path",
      ((value.get? "history_metadata").bind (Json.get? "canonical_path")).getD .null)]

end Luther
