/-
Paths, taken apart and joined as the standard library of the source does it.
-/
import Mathlib.Data.List.Basic

namespace Luther

/-- A component of a path. -/
inductive PathComponent where
  | rootDir
  | curDir
  | parentDir
  | normal (name : String)
  deriving DecidableEq

/-- `Path::components`: repeated and trailing separators are dropped, and so is every `.` but
a leading one. -/
def pathComponents (path : String) : List PathComponent :=
  let parts := path.toList.splitOn '/'
  let rest (parts : List (List Char)) : List PathComponent :=
    parts.filterMap fun part =>
      if part = [] ∨ part = ['.'] then none
      else if part = ['.', '.'] then some .parentDir
      else some (.normal (String.ofList part))
  match parts with
  | [] :: more => if more = [] then [] else .rootDir :: rest more
  | ['.'] :: more => .curDir :: rest more
  | parts => rest parts

def fileName (path : String) : Option String :=
  match (pathComponents path).getLast? with
  | some (.normal name) => some name
  | _ => none

/-- `Path::extension`: what stands behind the last dot of the name, unless nothing stands before
it. -/
def extension? (path : String) : Option String :=
  (fileName path).bind fun name =>
    let reversed := name.toList.reverse
    match reversed.dropWhile (· != '.') with
    | [] | ['.'] => none
    | _ => some (String.ofList (reversed.takeWhile (· != '.')).reverse)

/-- `PathBuf::join`. -/
def joinPath (base path : String) : String :=
  if path.toList.head? = some '/' ∨ base = "" then path
  else if base.toList.getLast? = some '/' then base ++ path
  else base ++ "/" ++ path

/-- A path as Git lists it: not empty, and fit to be ended by a NUL. -/
structure ListedPath where
  text : String
  named : text ≠ ""
  terminable : '\x00' ∉ text.toList

end Luther
