/-
The checks that GitHub tells of, in one shape.

The command line client lists checks by name, state and bucket; the interface lists check runs
by status and conclusion.  What a listing leaves out is made up from the fields it has, and the
bucket of a check is worked out from all of them.
-/
import Luther.Checks.PrCheckWait
import Luther.Feedback.PendingAction
import Luther.Remediation.RetryHistory

namespace Luther

/-- `NormalizedCheck` has the fields of an observation; its bucket is the one it was told. -/
structure NormalizedCheck where
  checkId : String
  name : String
  status : Option String
  conclusion : Option String
  state : String
  bucket : String
  url : Option String
  workflowName : Option String
  runId : Option Nat
  jobId : Option Nat
  startedAt : Option String
  completedAt : Option String
  headSha : Option String
  appSlug : Option String
  source : String

/-- The conversion of a `NormalizedCheck`. -/
def NormalizedCheck.toObservation (check : NormalizedCheck) : PrCheckObservation where
  checkId := check.checkId
  name := check.name
  status := check.status
  conclusion := check.conclusion
  state := check.state
  bucket := checkBucket check.status check.conclusion check.bucket check.state
  url := check.url
  workflowName := check.workflowName
  runId := check.runId
  jobId := check.jobId
  startedAt := check.startedAt
  completedAt := check.completedAt
  headSha := check.headSha
  appSlug := check.appSlug
  source := check.source

def rowString (row : Json) (field : String) : Option String := (row.get? field).bind Json.asStr?

def extractJobId (url : Option String) : Option Nat :=
  url.bind fun url =>
    if containsText url "/actions/runs/" && containsText url "/job/" then
      (url.toList.splitOn '/').getLast?.bind parseU64
    else none

def extractRunId (url : Option String) : Option Nat :=
  url.bind fun url =>
    (findText "/actions/runs/" url).bind fun found =>
      parseU64 (found.2.toList.takeWhile (· ≠ '/'))

/-- What `normalize_gh_pr_checks` makes of a row. -/
def normalizeGhPrCheck (toLowercase : String → String) (headSha : String) (index : Nat)
    (row : Json) : NormalizedCheck :=
  let name := (rowString row "name").getD "unknown"
  let state := (rowString row "state").getD "UNKNOWN"
  { checkId := s!"gh-pr-checks:{name}:{index}"
    name := name
    status := some state
    conclusion := some (toLowercase state)
    state := state
    bucket := (rowString row "bucket").getD "unknown"
    url := rowString row "link"
    workflowName := rowString row "workflow"
    runId := none
    jobId := extractJobId (rowString row "link")
    startedAt := rowString row "startedAt"
    completedAt := rowString row "completedAt"
    headSha := some headSha
    appSlug := none
    source := "gh_pr_checks" }

def checkRunUrl (row : Json) : Option String :=
  ((row.get? "html_url").or (row.get? "details_url")).bind Json.asStr?

/-- What `normalize_rest_check_runs` makes of a row. -/
def normalizeRestCheckRun (row : Json) : NormalizedCheck :=
  let id := ((row.get? "id").bind Json.asU64?).getD 0
  let status := rowString row "status"
  let conclusion := rowString row "conclusion"
  { checkId := s!"check-run:{id}"
    name := (rowString row "name").getD "unknown"
    status := status
    conclusion := conclusion
    state := (conclusion.or status).getD "unknown"
    bucket := (conclusion.or status).getD "unknown"
    url := checkRunUrl row
    workflowName := ((jsonPointer ["check_suite", "id"] row).bind Json.asU64?).map fun id =>
      s!"suite-{id}"
    runId := extractRunId (checkRunUrl row)
    jobId := extractJobId (rowString row "details_url")
    startedAt := rowString row "started_at"
    completedAt := rowString row "completed_at"
    headSha := rowString row "head_sha"
    appSlug := stringAt row ["app", "slug"]
    source := "rest_check_runs" }

end Luther
