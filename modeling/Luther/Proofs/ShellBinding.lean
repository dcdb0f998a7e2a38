/-
What the shell makes of a bound template.

The template is read as pieces: text, placeholders that have a value, and braces that are copied.
Whatever the values are, the command keeps every character of the others in its order, and refers
to the values by their numbers.  Whether a reference is expanded, and whether the characters behind
it stand in the quotes they stood in, depends on what the binder believes of the quotes in front of
a placeholder: it knows nothing of double quotes, and forgets a backslash at the end of a piece.
-/
import Luther.Lib.Quoting
import Luther.Steps.Shell

namespace Luther.Shell

open Quoting

/-! ### Pieces of a template -/

/-- A piece of a template, as the binder takes it. -/
inductive Piece where
  /-- Text, whose quotes the binder looks at. -/
  | plain (text : List Char)
  /-- Braces without a value, and what stands behind the last placeholder. -/
  | copied (text : List Char)
  /-- A placeholder that has a value. -/
  | bound (key : List Char) (value : String)

namespace Piece

def source : Piece → List Char
  | plain text | copied text => text
  | bound key _ => '{' :: key ++ ['}']

def kept : Piece → List Char
  | plain text | copied text => text
  | bound _ _ => []

def value? : Piece → Option String
  | bound _ value => some value
  | _ => none

@[simp]
theorem values_plain (text : List Char) (rest : List Piece) :
    (plain text :: rest).filterMap value? = rest.filterMap value? := rfl

@[simp]
theorem values_copied (text : List Char) (rest : List Piece) :
    (copied text :: rest).filterMap value? = rest.filterMap value? := rfl

@[simp]
theorem values_bound (key : List Char) (value : String) (rest : List Piece) :
    (bound key value :: rest).filterMap value? = value :: rest.filterMap value? := rfl

end Piece

def keyPiece (context : StepContext) (key : List Char) : Piece :=
  match context.get (String.ofList key) with
  | some value => .bound key value
  | none => .copied ('{' :: key ++ ['}'])

def piecesLoop (context : StepContext) : Nat → List Char → List Piece
  | 0, rest => [.copied rest]
  | passes + 1, rest =>
    match Search.splitFirst ['{'] rest with
    | none => [.copied rest]
    | some (before, token) =>
      .plain before ::
        match Search.splitFirst ['}'] token with
        | none => [.copied ('{' :: token)]
        | some (key, after) => keyPiece context key :: piecesLoop context passes after

def pieces (context : StepContext) (template : String) : List Piece :=
  piecesLoop context (template.toList.length + 1) template.toList

theorem source_keyPiece (context : StepContext) (key : List Char) :
    (keyPiece context key).source = '{' :: key ++ ['}'] := by
  unfold keyPiece
  split <;> rfl

section

variable {context : StepContext}

variable {passes : Nat}

theorem piecesLoop_none {rest : List Char} (hopen : Search.splitFirst ['{'] rest = none) :
    piecesLoop context (passes + 1) rest = [.copied rest] := by
  rw [piecesLoop, hopen]

theorem piecesLoop_unclosed {rest before token : List Char}
    (hopen : Search.splitFirst ['{'] rest = some (before, token))
    (hclose : Search.splitFirst ['}'] token = none) :
    piecesLoop context (passes + 1) rest = [.plain before, .copied ('{' :: token)] := by
  rw [piecesLoop, hopen]
  dsimp only
  rw [hclose]

theorem piecesLoop_key {rest before token key after : List Char}
    (hopen : Search.splitFirst ['{'] rest = some (before, token))
    (hclose : Search.splitFirst ['}'] token = some (key, after)) :
    piecesLoop context (passes + 1) rest =
      .plain before :: keyPiece context key :: piecesLoop context passes after := by
  rw [piecesLoop, hopen]
  dsimp only
  rw [hclose]

/-- **The pieces are the template.** -/
theorem source_piecesLoop (passes : Nat) (rest : List Char) :
    (piecesLoop context passes rest).flatMap Piece.source = rest := by
  induction passes generalizing rest with
  | zero => exact List.append_nil rest
  | succ passes ih =>
    cases hopen : Search.splitFirst ['{'] rest with
    | none =>
      rw [piecesLoop_none hopen]
      exact List.append_nil rest
    | some found =>
      obtain ⟨before, token⟩ := found
      have hrest := Search.splitFirst_eq hopen
      cases hclose : Search.splitFirst ['}'] token with
      | none =>
        rw [piecesLoop_unclosed hopen hclose, hrest]
        simp [Piece.source]
      | some cut =>
        obtain ⟨key, after⟩ := cut
        have htoken := Search.splitFirst_eq hclose
        rw [piecesLoop_key hopen hclose, List.flatMap_cons, List.flatMap_cons,
          source_keyPiece, ih, hrest, htoken]
        simp [Piece.source]

/-- A piece is what the search for braces makes of it: text up to a brace, a key between braces, or
what is left behind the last of them. -/
def WellRead (context : StepContext) : Piece → Prop
  | .plain text => '{' ∉ text
  | .copied text =>
    '{' ∉ text ∨ (∃ token, text = '{' :: token ∧ '}' ∉ token) ∨
      ∃ key, text = '{' :: key ++ ['}'] ∧ '}' ∉ key ∧ context.get (String.ofList key) = none
  | .bound key value => '}' ∉ key ∧ context.get (String.ofList key) = some value

theorem wellRead_keyPiece {key : List Char} (h : '}' ∉ key) :
    WellRead context (keyPiece context key) := by
  unfold keyPiece
  cases hget : context.get (String.ofList key) with
  | none => exact Or.inr (Or.inr ⟨key, rfl, h, hget⟩)
  | some value => exact ⟨h, hget⟩

/-- **Every piece is well read, when there are passes enough.** -/
theorem wellRead_of_mem {rest : List Char} (hpasses : rest.length < passes) {piece : Piece}
    (h : piece ∈ piecesLoop context passes rest) : WellRead context piece := by
  induction passes generalizing rest with
  | zero => omega
  | succ passes ih =>
    cases hopen : Search.splitFirst ['{'] rest with
    | none =>
      rw [piecesLoop_none hopen] at h
      rw [List.mem_singleton.mp h]
      exact Or.inl (Search.notMem_of_splitFirst hopen)
    | some found =>
      obtain ⟨before, token⟩ := found
      obtain ⟨hbefore, hrest⟩ := Search.splitFirst_singleton hopen
      cases hclose : Search.splitFirst ['}'] token with
      | none =>
        rw [piecesLoop_unclosed hopen hclose, List.mem_cons, List.mem_singleton] at h
        rcases h with rfl | rfl
        · exact hbefore
        · exact Or.inr (Or.inl ⟨token, rfl, Search.notMem_of_splitFirst hclose⟩)
      | some cut =>
        obtain ⟨key, after⟩ := cut
        obtain ⟨hkey, htoken⟩ := Search.splitFirst_singleton hclose
        rw [piecesLoop_key hopen hclose, List.mem_cons, List.mem_cons] at h
        rcases h with rfl | rfl | hmem
        · exact hbefore
        · exact wellRead_keyPiece hkey
        · have hrests := congrArg List.length hrest
          have htokens := congrArg List.length htoken
          rw [List.length_append, List.length_cons] at hrests htokens
          exact ih (by omega) hmem

end

/-! ### What is written for a piece -/

/-- A part of the command, with what it is there for. -/
inductive Mark where
  /-- A character of the template. -/
  | kept (c : Char)
  /-- A quote that the binder adds. -/
  | glue (c : Char)
  /-- A reference to an argument. -/
  | reference (index : Nat)

namespace Mark

def text : Mark → List Char
  | kept c | glue c => [c]
  | reference index => parameter index

def kept? : Mark → Option Char
  | kept c => some c
  | _ => none

def reference? : Mark → Option Nat
  | reference index => some index
  | _ => none

end Mark

/-- A reference, written for where the binder takes itself to be. -/
def referenceMarks (singleQuoted : Bool) (index : Nat) : List Mark :=
  if singleQuoted then
    [.glue '\'', .glue '"', .reference index, .glue '"', .glue '\'']
  else [.reference index]

/-- The command that is written for the pieces, behind so many arguments. -/
def marks (singleQuoted : Bool) (bound : Nat) : List Piece → List Mark
  | [] => []
  | .plain text :: rest =>
    text.map .kept ++ marks (updateSingleQuoteState text singleQuoted) bound rest
  | .copied text :: rest => text.map .kept ++ marks singleQuoted bound rest
  | .bound _ _ :: rest =>
    referenceMarks singleQuoted (bound + 1) ++ marks singleQuoted (bound + 1) rest

theorem text_map_kept (text : List Char) : (text.map Mark.kept).flatMap Mark.text = text := by
  induction text with
  | nil => rfl
  | cons c rest ih =>
    rw [List.map_cons, List.flatMap_cons, ih]
    rfl

theorem text_referenceMarks (singleQuoted : Bool) (index : Nat) :
    (referenceMarks singleQuoted index).flatMap Mark.text =
      if singleQuoted then "'\"".toList ++ parameter index ++ "\"'".toList
      else parameter index := by
  cases singleQuoted with
  | true =>
    show ['\''] ++ (['"'] ++ (parameter index ++ (['"'] ++ (['\''] ++ [])))) = _
    simp
  | false => exact List.append_nil _

/-- **The binder writes what is to be written for the pieces.** -/
theorem bindLoop_eq (context : StepContext) (passes : Nat) (rest command : List Char)
    (args : List String) (singleQuoted : Bool) :
    bindLoop context passes rest command args singleQuoted =
      (command ++ (marks singleQuoted args.length
          (piecesLoop context passes rest)).flatMap Mark.text,
        args ++ (piecesLoop context passes rest).filterMap Piece.value?) := by
  induction passes generalizing rest command args singleQuoted with
  | zero =>
    show (command ++ rest, args) = _
    simp [piecesLoop, marks, text_map_kept]
  | succ passes ih =>
    rw [bindLoop]
    cases hopen : Search.splitFirst ['{'] rest with
    | none =>
      rw [piecesLoop_none hopen]
      simp [marks, text_map_kept]
    | some found =>
      obtain ⟨before, token⟩ := found
      dsimp only
      cases hclose : Search.splitFirst ['}'] token with
      | none =>
        rw [piecesLoop_unclosed hopen hclose]
        show (command ++ before ++ '{' :: token, args) =
          (command ++ (before.map Mark.kept ++ (('{' :: token).map Mark.kept ++ [])).flatMap
            Mark.text, args ++ [])
        rw [List.append_nil, List.append_nil, List.flatMap_append, text_map_kept,
          text_map_kept, List.append_assoc]
      | some cut =>
        obtain ⟨key, after⟩ := cut
        rw [piecesLoop_key hopen hclose]
        dsimp only
        unfold keyPiece
        cases hget : context.get (String.ofList key) with
        | none =>
          dsimp only
          rw [ih]
          show _ = (command ++ (before.map Mark.kept ++
            (('{' :: key ++ ['}']).map Mark.kept ++ _)).flatMap Mark.text, _)
          rw [List.flatMap_append, List.flatMap_append, text_map_kept, text_map_kept]
          simp
        | some value =>
          dsimp only
          rw [ih]
          show _ = (command ++ (before.map Mark.kept ++
            (referenceMarks (updateSingleQuoteState before singleQuoted)
              (args.length + 1) ++ _)).flatMap Mark.text, _)
          rw [List.flatMap_append, List.flatMap_append, text_map_kept,
            text_referenceMarks, List.length_append]
          split <;> simp

/-- **The command and its arguments, by the pieces of the template.** -/
theorem bindShellTemplate_eq (template : String) (context : StepContext) :
    bindShellTemplate template context =
      (String.ofList ((marks false 0 (pieces context template)).flatMap Mark.text),
        (pieces context template).filterMap Piece.value?) := by
  unfold bindShellTemplate
  rw [bindLoop_eq]
  rfl

/-! ### Quotes -/

/-- The characters of a text, with the quotes they stand in. -/
def charQuotes : Position → List Char → List (Char × Quotes)
  | _, [] => []
  | p, c :: rest => (c, p.quotes) :: charQuotes (p.step c) rest

/-- The characters of a template that stay in the command, with the quotes they stand in; a
placeholder is no text, and ends a backslash. -/
def keptQuotes : Position → List Piece → List (Char × Quotes)
  | _, [] => []
  | p, .plain text :: rest | p, .copied text :: rest =>
    charQuotes p text ++ keptQuotes (p.run text) rest
  | p, .bound _ _ :: rest => keptQuotes p.settled rest

/-- The characters of the template in the command, with the quotes they stand in there. -/
def markQuotes : Position → List Mark → List (Char × Quotes)
  | _, [] => []
  | p, .kept c :: rest => (c, p.quotes) :: markQuotes (p.step c) rest
  | p, .glue c :: rest => markQuotes (p.step c) rest
  | p, .reference index :: rest => markQuotes (p.run (parameter index)) rest

def referencePositions : Position → List Mark → List Position
  | _, [] => []
  | p, .kept c :: rest | p, .glue c :: rest => referencePositions (p.step c) rest
  | p, .reference index :: rest => p :: referencePositions (p.run (parameter index)) rest

/-- The shell expands every reference, and reads every character of the template in the quotes it
stands in. -/
structure Respected (p : Position) (singleQuoted : Bool) (bound : Nat) (q : Position)
    (pieces : List Piece) : Prop where
  expanded : ∀ r ∈ referencePositions q (marks singleQuoted bound pieces), r.Expands
  quoted : markQuotes q (marks singleQuoted bound pieces) = keptQuotes p pieces

/-- Nothing of the pieces stays in the command but references. -/
def NothingKept (pieces : List Piece) : Prop := ∀ piece ∈ pieces, piece.kept = []

/-- The text for a reader to whom a double quote is a character like others. -/
def apostrophesOnly (text : List Char) : List Char := text.map fun c => if c = '"' then ' ' else c

/-- Where a reader who knows no double quotes is between apostrophes, the shell is between quotes;
elsewhere it is neither between single quotes nor behind a backslash. -/
def Heeded (p q : Position) : Prop := if q = .single then p.quotes ≠ .unquoted else p.Expands

instance (p q : Position) : Decidable (Heeded p q) :=
  inferInstanceAs (Decidable (if q = .single then _ else _))

/-- At every placeholder that has a value the shell, which reads the whole template, stands where
it does no harm to be taken for the other reader: the one who knows no double quotes, reads the text
but not the braces, and forgets a backslash that the text ends with.  The quotes that are added
behind a backslash are not closed, which no character is there to show when nothing follows. -/
def Fits : Position → Position → List Piece → Prop
  | _, _, [] => True
  | p, q, .plain text :: rest => Fits (p.run text) (q.run (apostrophesOnly text)).settled rest
  | p, q, .copied text :: rest => Fits (p.run text) q rest
  | p, q, .bound _ _ :: rest =>
    if q = .single ∧ p = .backslash then NothingKept rest
    else Heeded p q ∧ Fits p.settled q rest

/-! ### What the binder believes of the quotes -/

/-- The reader who knows no double quotes, by what the binder keeps of it. -/
def trackedAt (singleQuoted escaped : Bool) : Position :=
  if singleQuoted then .single else if escaped then .backslash else .unquoted

theorem scanQuotes_eq (text : List Char) (singleQuoted escaped : Bool)
    (h : singleQuoted = true → escaped = false) :
    ((trackedAt singleQuoted escaped).run (apostrophesOnly text)).settled
      = trackedAt (scanQuotes text singleQuoted escaped) false := by
  induction text generalizing singleQuoted escaped with
  | nil => cases singleQuoted <;> cases escaped <;> rfl
  | cons c rest ih =>
    have hstep : (trackedAt singleQuoted escaped).step (if c = '"' then ' ' else c)
        = if c = '\\' ∧ singleQuoted = false then trackedAt singleQuoted (!escaped)
          else trackedAt (if c = '\'' ∧ escaped = false then !singleQuoted else singleQuoted)
            false := by
      by_cases hdouble : c = '"'
      · subst hdouble
        cases singleQuoted <;> cases escaped <;> rfl
      · rw [if_neg hdouble]
        cases singleQuoted with
        | true =>
          rw [h rfl]
          by_cases hsingle : c = '\'' <;> simp [trackedAt, Position.step, hsingle]
        | false =>
          by_cases hback : c = '\\'
          · cases escaped <;> simp [trackedAt, Position.step, hback]
          · by_cases hsingle : c = '\'' <;>
              cases escaped <;> simp [trackedAt, Position.step, hsingle, hback, hdouble]
    show (((trackedAt singleQuoted escaped).step _).run (apostrophesOnly rest)).settled = _
    rw [hstep, scanQuotes]
    by_cases hback : c = '\\' ∧ singleQuoted = false
    · rw [if_pos hback, if_pos hback]
      exact ih _ _ fun hquoted => absurd (hquoted.symm.trans hback.2) (by decide)
    · rw [if_neg hback, if_neg hback]
      exact ih _ _ fun _ => rfl

theorem run_parameter (index : Nat) (p : Position) : p.run (parameter index) = p.settled := by
  refine Position.run_plain ?_ ?_ p
  · simp [parameter]
  · intro c hc
    have hchars : parameter index = '$' :: '{' :: (index.repr.toList ++ ['}']) := by
      simp [parameter, toString]
    rw [hchars] at hc
    simp only [List.mem_cons, List.mem_append, List.not_mem_nil, or_false] at hc
    rcases hc with rfl | rfl | hdigit | rfl
    · decide
    · decide
    · have hc := isDigit_of_mem_repr hdigit
      refine ⟨?_, ?_, ?_⟩ <;>
        · rintro rfl
          exact absurd hc (by decide)
    · decide

theorem markQuotes_kept (p : Position) (text : List Char) (rest : List Mark) :
    markQuotes p (text.map .kept ++ rest) = charQuotes p text ++ markQuotes (p.run text) rest := by
  induction text generalizing p with
  | nil => rfl
  | cons c text ih => exact congrArg ((c, p.quotes) :: ·) (ih (p.step c))

theorem referencePositions_kept (p : Position) (text : List Char) (rest : List Mark) :
    referencePositions p (text.map .kept ++ rest) = referencePositions (p.run text) rest := by
  induction text generalizing p with
  | nil => rfl
  | cons c text ih => exact ih (p.step c)

def referenceAt (p : Position) (singleQuoted : Bool) : Position :=
  if singleQuoted then (p.step '\'').step '"' else p

/-- Behind a reference and the quotes that are added to it. -/
def behindReference (p : Position) (singleQuoted : Bool) : Position :=
  if singleQuoted then ((referenceAt p true).settled.step '"').step '\'' else p.settled

theorem markQuotes_reference (p : Position) (singleQuoted : Bool) (index : Nat)
    (rest : List Mark) :
    markQuotes p (referenceMarks singleQuoted index ++ rest) =
      markQuotes (behindReference p singleQuoted) rest := by
  cases singleQuoted with
  | true =>
    show markQuotes (((referenceAt p true).run (parameter index)).step '"' |>.step '\'') rest = _
    rw [run_parameter]
    rfl
  | false =>
    show markQuotes (p.run (parameter index)) rest = _
    rw [run_parameter]
    rfl

theorem referencePositions_reference (p : Position) (singleQuoted : Bool) (index : Nat)
    (rest : List Mark) :
    referencePositions p (referenceMarks singleQuoted index ++ rest) =
      referenceAt p singleQuoted ::
        referencePositions (behindReference p singleQuoted) rest := by
  cases singleQuoted with
  | true =>
    show referenceAt p true ::
      referencePositions
        (((referenceAt p true).run (parameter index)).step '"' |>.step '\'') rest = _
    rw [run_parameter]
    rfl
  | false =>
    show p :: referencePositions (p.run (parameter index)) rest = _
    rw [run_parameter]
    rfl

theorem behindReference_eq {p : Position} {singleQuoted : Bool}
    (h : ¬ (singleQuoted = true ∧ p = .backslash)) :
    behindReference p singleQuoted = p.settled := by
  cases singleQuoted with
  | false => rfl
  | true =>
    cases p with
    | backslash => exact absurd ⟨rfl, rfl⟩ h
    | unquoted | single | double | doubleBackslash => rfl

theorem expands_referenceAt {p : Position} {singleQuoted : Bool}
    (h : ¬ (singleQuoted = true ∧ p = .backslash)) :
    (referenceAt p singleQuoted).Expands ↔ Heeded p (trackedAt singleQuoted false) := by
  cases singleQuoted with
  | false => exact Iff.rfl
  | true =>
    cases p with
    | backslash => exact absurd ⟨rfl, rfl⟩ h
    | unquoted | single | double | doubleBackslash => decide

theorem trackedAt_eq_single (singleQuoted : Bool) :
    trackedAt singleQuoted false = .single ↔ singleQuoted = true := by
  cases singleQuoted <;> decide

section

variable {p q : Position} {singleQuoted : Bool} {bound : Nat} {rest : List Piece}

theorem respected_text {text : List Char} {pieces : List Piece} {singleQuoted' : Bool}
    (hmarks : marks singleQuoted bound pieces =
      text.map .kept ++ marks singleQuoted' bound rest)
    (hkept : keptQuotes p pieces = charQuotes p text ++ keptQuotes (p.run text) rest) :
    Respected p singleQuoted bound p pieces ↔
      Respected (p.run text) singleQuoted' bound (p.run text) rest := by
  constructor
  · rintro ⟨hexpanded, hquoted⟩
    rw [hmarks, referencePositions_kept] at hexpanded
    rw [hmarks, hkept, markQuotes_kept] at hquoted
    exact ⟨hexpanded, List.append_cancel_left hquoted⟩
  · rintro ⟨hexpanded, hquoted⟩
    constructor
    · rw [hmarks, referencePositions_kept]
      exact hexpanded
    · rw [hmarks, hkept, markQuotes_kept, hquoted]

/-- Where the added quotes are not closed, a character is read between single quotes that stood
outside of quotes. -/
theorem not_respected_text {c : Char} {text : List Char} {pieces : List Piece}
    {singleQuoted' : Bool}
    (hmarks : marks singleQuoted bound pieces =
      (c :: text).map .kept ++ marks singleQuoted' bound rest)
    (hkept : keptQuotes .unquoted pieces =
      charQuotes .unquoted (c :: text) ++ keptQuotes (Position.unquoted.run (c :: text)) rest) :
    ¬ Respected .unquoted singleQuoted bound .single pieces := by
  rintro ⟨-, hquoted⟩
  rw [hmarks, hkept, markQuotes_kept] at hquoted
  have hhead := congrArg List.head? hquoted
  simp [charQuotes, Position.quotes] at hhead

theorem respected_bound {key : List Char} {value : String} :
    Respected p singleQuoted bound q (.bound key value :: rest) ↔
      (referenceAt q singleQuoted).Expands ∧
        Respected p.settled singleQuoted (bound + 1) (behindReference q singleQuoted) rest := by
  have hpositions := referencePositions_reference q singleQuoted (bound + 1)
    (marks singleQuoted (bound + 1) rest)
  have hquotes := markQuotes_reference q singleQuoted (bound + 1)
    (marks singleQuoted (bound + 1) rest)
  constructor
  · rintro ⟨hexpanded, hquoted⟩
    have hall : ∀ r ∈ referencePositions q (referenceMarks singleQuoted (bound + 1) ++
        marks singleQuoted (bound + 1) rest), r.Expands := hexpanded
    rw [hpositions, List.forall_mem_cons] at hall
    exact ⟨hall.1, hall.2, hquotes.symm.trans hquoted⟩
  · rintro ⟨hreference, hexpanded, hquoted⟩
    refine ⟨?_, hquotes.trans hquoted⟩
    show ∀ r ∈ referencePositions q (referenceMarks singleQuoted (bound + 1) ++
        marks singleQuoted (bound + 1) rest), r.Expands
    rw [hpositions, List.forall_mem_cons]
    exact ⟨hreference, hexpanded⟩

theorem respected_unclosed (pieces : List Piece) (bound : Nat) :
    Respected .unquoted true bound .single pieces ↔ NothingKept pieces := by
  induction pieces generalizing bound with
  | nil => exact iff_of_true ⟨(fun r hr => by cases hr), rfl⟩ (fun piece hpiece => by cases hpiece)
  | cons piece rest ih =>
    unfold NothingKept
    rw [List.forall_mem_cons]
    cases piece with
    | plain text | copied text =>
      cases text with
      | nil =>
        constructor
        · exact fun h => ⟨rfl, (ih bound).mp ⟨h.expanded, h.quoted⟩⟩
        · rintro ⟨-, h⟩
          obtain ⟨hexpanded, hquoted⟩ := (ih bound).mpr h
          exact ⟨hexpanded, hquoted⟩
      | cons c text => exact iff_of_false (not_respected_text rfl rfl) fun h => by cases h.1
    | bound key value =>
      rw [respected_bound]
      have hreference : (referenceAt .single true).Expands := by decide
      exact (and_iff_right hreference).trans
        ((ih (bound + 1)).trans (and_iff_right rfl).symm)

/-- **The quotes of a template are respected exactly where what the binder believes of them does no
harm at any placeholder.** -/
theorem respected_iff (pieces : List Piece) (p : Position) (singleQuoted : Bool) (bound : Nat) :
    Respected p singleQuoted bound p pieces ↔ Fits p (trackedAt singleQuoted false) pieces := by
  induction pieces generalizing p singleQuoted bound with
  | nil => exact iff_of_true ⟨(fun r hr => by cases hr), rfl⟩ trivial
  | cons piece rest ih =>
    cases piece with
    | plain text =>
      refine (respected_text rfl rfl).trans ((ih _ _ _).trans ?_)
      rw [Fits, scanQuotes_eq text singleQuoted false fun _ => rfl]
      rfl
    | copied text => exact (respected_text rfl rfl).trans (ih _ _ _)
    | bound key value =>
      rw [respected_bound, Fits]
      have hcase := and_congr_left' (trackedAt_eq_single singleQuoted) (c := p = .backslash)
      by_cases hbackslash : singleQuoted = true ∧ p = .backslash
      · rw [if_pos (hcase.mpr hbackslash)]
        obtain ⟨rfl, rfl⟩ := hbackslash
        have hreference : (referenceAt .backslash true).Expands := by decide
        exact (and_iff_right hreference).trans (respected_unclosed rest (bound + 1))
      · rw [if_neg (hcase.not.mpr hbackslash), expands_referenceAt hbackslash,
          behindReference_eq hbackslash, ih]

end

/-! ### References and values -/

theorem references_marks (pieces : List Piece) (singleQuoted : Bool) (bound : Nat) :
    (marks singleQuoted bound pieces).filterMap Mark.reference? =
      List.range' (bound + 1) (pieces.filterMap Piece.value?).length := by
  induction pieces generalizing singleQuoted bound with
  | nil => rfl
  | cons piece rest ih =>
    have hkept : ∀ text : List Char,
        (text.map Mark.kept).filterMap Mark.reference? = [] := by
      intro text
      rw [List.filterMap_map]
      exact List.filterMap_eq_nil_iff.mpr fun c _ => rfl
    cases piece with
    | plain text | copied text =>
      show (text.map Mark.kept ++ marks _ bound rest).filterMap Mark.reference? = _
      rw [List.filterMap_append, hkept, ih]
      rfl
    | bound key value =>
      show (referenceMarks singleQuoted (bound + 1) ++
        marks singleQuoted (bound + 1) rest).filterMap Mark.reference? = _
      rw [List.filterMap_append, ih, Piece.values_bound, List.length_cons, List.range'_succ]
      cases singleQuoted <;> rfl

theorem kept_marks (pieces : List Piece) (singleQuoted : Bool) (bound : Nat) :
    (marks singleQuoted bound pieces).filterMap Mark.kept? = pieces.flatMap Piece.kept := by
  induction pieces generalizing singleQuoted bound with
  | nil => rfl
  | cons piece rest ih =>
    have hkept : ∀ text : List Char, (text.map Mark.kept).filterMap Mark.kept? = text := by
      intro text
      rw [List.filterMap_map]
      exact List.filterMap_some
    cases piece with
    | plain text | copied text =>
      show (text.map Mark.kept ++ marks _ bound rest).filterMap Mark.kept? = _
      rw [List.filterMap_append, hkept, ih]
      rfl
    | bound key value =>
      show (referenceMarks singleQuoted (bound + 1) ++
        marks singleQuoted (bound + 1) rest).filterMap Mark.kept? = _
      rw [List.filterMap_append, ih]
      cases singleQuoted <;> rfl

theorem marks_piecesLoop_congr {context other : StepContext}
    (h : ∀ key, (other.get key).isSome = (context.get key).isSome) (passes : Nat)
    (rest : List Char) (singleQuoted : Bool) (bound : Nat) :
    marks singleQuoted bound (piecesLoop other passes rest) =
      marks singleQuoted bound (piecesLoop context passes rest) := by
  induction passes generalizing rest singleQuoted bound with
  | zero => rfl
  | succ passes ih =>
    cases hopen : Search.splitFirst ['{'] rest with
    | none => rw [piecesLoop_none hopen, piecesLoop_none hopen]
    | some found =>
      obtain ⟨before, token⟩ := found
      cases hclose : Search.splitFirst ['}'] token with
      | none => rw [piecesLoop_unclosed hopen hclose, piecesLoop_unclosed hopen hclose]
      | some cut =>
        obtain ⟨key, after⟩ := cut
        rw [piecesLoop_key hopen hclose, piecesLoop_key hopen hclose]
        have hkey := h (String.ofList key)
        unfold keyPiece
        cases hother : other.get (String.ofList key) with
        | none =>
          rw [hother, Option.isSome_none, eq_comm, Option.isSome_eq_false_iff,
            Option.isNone_iff_eq_none] at hkey
          rw [hkey]
          simp [marks, ih]
        | some value =>
          rw [hother, Option.isSome_some, eq_comm, Option.isSome_iff_exists] at hkey
          obtain ⟨value', hvalue⟩ := hkey
          rw [hvalue]
          simp [marks, ih]

/-! ### The binding of a template -/

/-- The command and the arguments of a template, whatever its quotes are. -/
structure Carried (context : StepContext) (template : String) : Prop where
  /-- The pieces are the template. -/
  source : (pieces context template).flatMap Piece.source = template.toList
  read : ∀ piece ∈ pieces context template, WellRead context piece
  /-- The arguments are the values of the placeholders, from the left. -/
  written : bindShellTemplate template context =
    (String.ofList ((marks false 0 (pieces context template)).flatMap Mark.text),
      (pieces context template).filterMap Piece.value?)
  numbered : (marks false 0 (pieces context template)).filterMap Mark.reference? =
    List.range' 1 ((pieces context template).filterMap Piece.value?).length
  /-- Everything else of the template stays as it is. -/
  kept : (marks false 0 (pieces context template)).filterMap Mark.kept? =
    (pieces context template).flatMap Piece.kept
  /-- The command is the same for all values. -/
  valueless : ∀ other : StepContext,
    (∀ key, (other.get key).isSome = (context.get key).isSome) →
      (bindShellTemplate template other).1 = (bindShellTemplate template context).1

theorem carried (context : StepContext) (template : String) : Carried context template where
  source := source_piecesLoop _ _
  read _ h := wellRead_of_mem (Nat.lt_succ_self _) h
  written := bindShellTemplate_eq template context
  numbered := references_marks _ _ _
  kept := kept_marks _ _ _
  valueless other h := by
    rw [bindShellTemplate_eq, bindShellTemplate_eq]
    unfold pieces
    rw [marks_piecesLoop_congr h]

/-- An apostrophe between double quotes, and a placeholder outside of quotes. -/
def apostropheTemplate : String := "\"'\" {a}"

def oneVariable (key value : String) : StepContext := { «variables» := [(key, value)] }

end Luther.Shell
