/-
What was changed, and whether the charter of the task allows it.

A measurement is compared with the ceilings of the charter, and its paths with the subsystems
that the charter names.  The result depends on nothing else.
-/
import Luther.Lib.Path
import Luther.Scope.Review
import Mathlib.Data.List.Sort

namespace Luther

/-! ### Measurements and charters -/

/-- What has become of a file. -/
inductive ChangeStatus where
  | added
  | modified
  | deleted
  | untracked
  deriving DecidableEq

/-- A file of the patch. -/
structure FileChange where
  path : String
  status : ChangeStatus
  addedLines : Option UInt32
  deletedLines : Option UInt32
  isBinary : Bool
  deriving DecidableEq

/-- The size of a patch. -/
structure PatchMeasurement where
  mergeBase : String
  headSha : String
  divergence : UInt32
  filesChanged : UInt32
  addedLines : UInt32
  binaryFiles : UInt32
  newModules : UInt32
  dependenciesAdded : UInt32
  publicApisAdded : UInt32
  contentDigest : String
  changedPaths : List String
  changedSubsystems : List String
  fileDetails : List FileChange
  deriving DecidableEq

/-- How large a patch may be. -/
structure CanonicalBudget where
  maxFilesChanged : UInt32
  maxAddedLines : UInt32
  maxNewModules : UInt32
  maxDependenciesAdded : UInt32
  maxPublicApisAdded : UInt32

/-- `CanonicalTaskCharter`.  The subsystems are a map, in the order of its keys. -/
structure CanonicalTaskCharter where
  schemaVersion : UInt32
  charterId : String
  issueNumber : UInt64
  runId : String
  mergeBase : String
  acceptanceCriteria : List String
  nonGoals : List String
  subsystems : List (String × List String)
  budget : CanonicalBudget
  reviewCaps : CanonicalReviewCaps
  mandatoryGates : List String
  digest : String

/-! ### Violations -/

/-- What a patch exceeds. -/
inductive ViolationCode where
  | budgetFilesChanged
  | budgetAddedLines
  | budgetNewModules
  | budgetDependenciesAdded
  | budgetPublicApisAdded
  | pathOutsideCharter
  | subsystemOutsideCharter
  | divergenceFromMergeBase
  deriving DecidableEq

namespace ViolationCode

/-- `as_str`. -/
def text : ViolationCode → String
  | budgetFilesChanged => "BUDGET_FILES_CHANGED"
  | budgetAddedLines => "BUDGET_ADDED_LINES"
  | budgetNewModules => "BUDGET_NEW_MODULES"
  | budgetDependenciesAdded => "BUDGET_DEPENDENCIES_ADDED"
  | budgetPublicApisAdded => "BUDGET_PUBLIC_APIS_ADDED"
  | pathOutsideCharter => "PATH_OUTSIDE_CHARTER"
  | subsystemOutsideCharter => "SUBSYSTEM_OUTSIDE_CHARTER"
  | divergenceFromMergeBase => "DIVERGENCE_FROM_MERGE_BASE"

def isBudgetViolation : ViolationCode → Bool
  | budgetFilesChanged | budgetAddedLines | budgetNewModules | budgetDependenciesAdded
  | budgetPublicApisAdded => true
  | _ => false

end ViolationCode

/-- A limit that was passed. -/
structure Violation where
  code : ViolationCode
  message : String
  deriving DecidableEq

/-- A patch against its charter. -/
structure ScopeEvaluation where
  withinBudget : Bool
  withinSubsystems : Bool
  atMergeBase : Bool
  violations : List Violation
  deriving DecidableEq

/-! ### Paths -/

def stripSuffix (ending text : String) : Option String :=
  if ending.toList.isSuffixOf text.toList then
    some (String.ofList (text.toList.take (text.length - ending.length)))
  else none

def isPathWithin (path pathPrefix : String) : Bool :=
  let normalizedPrefix :=
    ((stripSuffix "/**" pathPrefix).or (stripSuffix "/" pathPrefix)).getD pathPrefix
  path == normalizedPrefix
    || (pathComponents normalizedPrefix).isPrefixOf (pathComponents path)

def pathIsWithinAnySubsystem (path : String) (prefixGroups : List (List String)) : Bool :=
  prefixGroups.any fun prefixes => prefixes.any (isPathWithin path)

/-! ### Evaluation -/

def checkBudget (code : ViolationCode) (metricName : String) (actual ceiling : UInt32) :
    List Violation :=
  if ceiling < actual then [⟨code, s!"{metricName} ({actual}) exceeds ceiling ({ceiling})"⟩]
  else []

section

variable (measurement : PatchMeasurement)

section

variable (charter : CanonicalTaskCharter)

def collectBudgetViolations : List Violation :=
  checkBudget .budgetFilesChanged "files_changed" measurement.filesChanged
      charter.budget.maxFilesChanged
    ++ checkBudget .budgetAddedLines "added_lines" measurement.addedLines
      charter.budget.maxAddedLines
    ++ checkBudget .budgetNewModules "new_modules" measurement.newModules
      charter.budget.maxNewModules
    ++ checkBudget .budgetDependenciesAdded "dependencies_added" measurement.dependenciesAdded
      charter.budget.maxDependenciesAdded
    ++ checkBudget .budgetPublicApisAdded "public_apis_added" measurement.publicApisAdded
      charter.budget.maxPublicApisAdded

def collectPathViolations : List Violation :=
  let pathOutside := measurement.changedPaths.filter fun path =>
    !pathIsWithinAnySubsystem path (charter.subsystems.map Prod.snd)
  if pathOutside = [] then []
  else
    [⟨.pathOutsideCharter,
      "changed paths outside charter subsystems: " ++ ", ".intercalate pathOutside⟩]

def collectSubsystemViolations : List Violation :=
  (measurement.changedSubsystems.filter fun sub => sub ∉ charter.subsystems.map Prod.fst).map
    fun sub => ⟨.subsystemOutsideCharter,
      s!"changed subsystem '{sub}' is not declared in the charter"⟩

def evaluate : ScopeEvaluation :=
  let violations :=
    (collectBudgetViolations measurement charter ++ collectPathViolations measurement charter
      ++ collectSubsystemViolations measurement charter).insertionSort
        fun a b => a.code.text ≤ b.code.text
  { withinBudget := violations.all fun v => !v.code.isBudgetViolation
    withinSubsystems := violations.all fun v =>
      v.code != .pathOutsideCharter && v.code != .subsystemOutsideCharter
    atMergeBase := measurement.divergence == 0
    violations := violations }

end

end

end Luther
