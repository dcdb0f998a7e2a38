/-
Templates of shell commands.

The values of a template's placeholders never become part of the command: each is given to the
shell as an argument, and the command refers to it by its number.  Between single quotes a
reference would not be expanded, so the quotes are closed in front of it and opened again behind
it; where the binder takes itself to be between single quotes is what it has read off the text in
front of the placeholder.
-/
import Luther.Engine.StepContext
import Luther.Engine.Transition
import Luther.Lib.Lossy

namespace Luther.Shell

/-- `update_single_quote_state`: behind the text, with the backslash that was read last. -/
def scanQuotes : List Char → Bool → Bool → Bool
  | [], singleQuoted, _ => singleQuoted
  | c :: rest, singleQuoted, escaped =>
    if c = '\\' ∧ singleQuoted = false then scanQuotes rest singleQuoted (!escaped)
    else scanQuotes rest (if c = '\'' ∧ escaped = false then !singleQuoted else singleQuoted) false

def updateSingleQuoteState (text : List Char) (singleQuoted : Bool) : Bool :=
  scanQuotes text singleQuoted false

def parameter (index : Nat) : List Char := s!"$\x7b{index}\x7d".toList

/-- The loop of `bind_shell_template`; every pass reads a brace, so that it ends when what is left
of the template has as many characters as there are passes. -/
def bindLoop (context : StepContext) :
    Nat → List Char → List Char → List String → Bool → List Char × List String
  | 0, rest, command, args, _ => (command ++ rest, args)
  | passes + 1, rest, command, args, singleQuoted =>
    match Search.splitFirst ['{'] rest with
    | none => (command ++ rest, args)
    | some (before, token) =>
      let command := command ++ before
      let singleQuoted := updateSingleQuoteState before singleQuoted
      match Search.splitFirst ['}'] token with
      | none => (command ++ '{' :: token, args)
      | some (key, after) =>
        match context.get (String.ofList key) with
        | some value =>
          let args := args ++ [value]
          let parameter := parameter args.length
          bindLoop context passes after
            (if singleQuoted then command ++ "'\"".toList ++ parameter ++ "\"'".toList
              else command ++ parameter)
            args singleQuoted
        | none => bindLoop context passes after (command ++ '{' :: key ++ ['}']) args singleQuoted

/-- `bind_shell_template`: the command, and its arguments. -/
def bindShellTemplate (template : String) (context : StepContext) : String × List String :=
  let (command, args) :=
    bindLoop context (template.toList.length + 1) template.toList [] [] false
  (String.ofList command, args)

end Luther.Shell

/-
Markers in the output of a step.

The output comes in chunks, as the pipe gives them.  Each is decoded and put behind what is left of
the last line; every line that is now complete is held against the markers, and the rest is kept
for the next chunk.  Of the markers that were seen the first in the order of the configuration
says what the outcome is.
-/

namespace Luther

def parseOutcomeName : String → StepOutcome
  | "success" => .success
  | "fixable" => .fixable
  | "fatal" => .fatal
  | "retryable" => .retryable
  | "abandon" => .abandon
  | _ => .fatal

/-- `OutcomeScanner`: the markers in their order, which of them were seen, and the line that is not
ended. -/
structure OutcomeScanner where
  patterns : List (String × StepOutcome)
  seen : List Bool
  unended : List Char

/-- The markers of the parameters, in the order of the map. -/
def outcomePatterns (params : Json) : Option (List (String × StepOutcome)) :=
  match params.get? "outcome_on_stdout" with
  | some (.obj entries) =>
    some (entries.filterMap fun entry =>
      entry.2.asStr?.map fun name => (entry.1, parseOutcomeName name))
  | _ => none

/-- `match_index`: the first marker that the line is, but for blanks around it. -/
def matchIndex (patterns : List (String × StepOutcome)) (line : String) : Option Nat :=
  patterns.findIdx? fun pattern => trim line == pattern.1

namespace OutcomeScanner

def fromParams (params : Json) : Option OutcomeScanner :=
  (outcomePatterns params).bind fun patterns =>
    if patterns = [] then none else some ⟨patterns, List.replicate patterns.length false, []⟩

section

variable (s : OutcomeScanner)

def mark (lines : List (List Char)) : List Bool :=
  (lines.filterMap fun line => matchIndex s.patterns (String.ofList line)).foldl
    (fun seen index => seen.set index true) s.seen

def append (bytes : List UInt8) : OutcomeScanner :=
  let pieces := (s.unended ++ Utf8.decodeLossy bytes).splitOn '\n'
  { s with
    seen := s.mark pieces.dropLast
    unended := pieces.getLast?.getD [] }

def finish : OutcomeScanner :=
  if s.unended = [] then s else { s with seen := s.mark [s.unended], unended := [] }

def detected : Option StepOutcome :=
  (s.seen.findIdx? id).bind fun index => s.patterns[index]?.map Prod.snd

end

end OutcomeScanner

/-- The outcome of a step whose output came in these chunks. -/
def scanOutcome (params : Json) (chunks : List (List UInt8)) : Option StepOutcome :=
  (OutcomeScanner.fromParams params).bind fun s =>
    (chunks.foldl OutcomeScanner.append s).finish.detected

/-! ### The output as a whole -/

/-- The lines of a text, without the blanks around them. -/
def trimmedLines (text : List Char) : List String := (splitLines (String.ofList text)).map trim

/-- The outcome that the first marker names which is one of these lines. -/
def outcomeOf (params : Json) (lines : List String) : Option StepOutcome :=
  (((outcomePatterns params).getD []).find? fun pattern => lines.contains pattern.1).map Prod.snd

def wholeOutcome (params : Json) (bytes : List UInt8) : Option StepOutcome :=
  outcomeOf params (trimmedLines (Utf8.decodeLossy bytes))

end Luther
