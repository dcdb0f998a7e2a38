/-
What `git status --porcelain -z` says, and how it is read before a push.

An entry is two columns, a blank and a path; one that was renamed or copied, in either column, is
followed by the path it comes from.  Every path ends with a NUL, so that nothing but the columns
tells where the next entry begins.
-/
import Luther.Lib.Path
import Luther.Lib.Text
import Mathlib.Algebra.GroupWithZero.Nat

namespace Luther

/-! ### The listing -/

/-- A letter of `git status --porcelain`. -/
inductive StatusColumn where
  | unmodified
  | modified
  | typeChanged
  | added
  | deleted
  | renamed
  | copied
  | unmerged
  | untracked
  | ignored

def StatusColumn.letter : StatusColumn → Char
  | unmodified => ' '
  | modified => 'M'
  | typeChanged => 'T'
  | added => 'A'
  | deleted => 'D'
  | renamed => 'R'
  | copied => 'C'
  | unmerged => 'U'
  | untracked => '?'
  | ignored => '!'

/-- Whether the column says that the path was another one. -/
def StatusColumn.moved : StatusColumn → Bool
  | renamed | copied => true
  | _ => false

/-- An entry: the column of the index, the column of the worktree, and the path; and the path it
comes from, exactly where one of the columns says that there is one. -/
structure StatusEntry where
  index : StatusColumn
  worktree : StatusColumn
  path : ListedPath
  origin : Option ListedPath
  origin_iff : origin.isSome = (index.moved || worktree.moved)

namespace StatusEntry

/-- `XY path`. -/
def line (entry : StatusEntry) : List Char :=
  entry.index.letter :: entry.worktree.letter :: ' ' :: entry.path.text.toList

def fields (entry : StatusEntry) : List (List Char) :=
  entry.line :: (entry.origin.map fun origin => origin.text.toList).toList

def paths (entry : StatusEntry) : List String :=
  entry.path.text :: (entry.origin.map ListedPath.text).toList

end StatusEntry

def porcelainZ (entries : List StatusEntry) : String :=
  String.ofList (Fields.terminated '\x00' (entries.flatMap StatusEntry.fields))

/-! ### Reading it -/

/-- `str::len`. -/
def byteLength (text : List Char) : Nat := (text.map Char.utf8Size).sum

/-- `&text[..at]` and `&text[at..]`: nothing, which is a panic, where `at` is inside of a character
or behind the end. -/
def splitAtByte : Nat → List Char → Option (List Char × List Char)
  | 0, text => some ([], text)
  | _ + 1, [] => none
  | n + 1, c :: rest =>
    if c.utf8Size ≤ n + 1 then
      (splitAtByte (n + 1 - c.utf8Size) rest).map fun parts => (c :: parts.1, parts.2)
    else none

/-- The loop of `parse_porcelain_z` over what stands between the NULs: every text that is taken for
an entry, with the paths that it adds. -/
def readPorcelain : List (List Char) → Option (List (List Char × List String))
  | [] => some []
  | entry :: entries =>
    if byteLength entry < 3 then (readPorcelain entries).map ((entry, []) :: ·)
    else
      match splitAtByte 2 entry, splitAtByte 3 entry with
      | some (code, _), some (_, path) =>
        if path = [] then (readPorcelain entries).map ((entry, []) :: ·)
        else if code.head? = some 'R' ∨ code.head? = some 'C' then
          match entries with
          | [] => some [(entry, [String.ofList path])]
          | nextPath :: entries =>
            let added :=
              if nextPath = [] then [String.ofList path]
              else [String.ofList path, String.ofList nextPath]
            (readPorcelain entries).map ((entry, added) :: ·)
        else (readPorcelain entries).map ((entry, [String.ofList path]) :: ·)
      | _, _ => none

def parsePorcelainZ (output : String) : Option (List String) :=
  (readPorcelain (output.toList.splitOn '\x00')).map (List.flatMap Prod.snd)

end Luther
