/-
The quotes of a shell command.

A character stands outside of quotes, between single quotes or between double ones.  Between single
quotes nothing but the closing quote says anything; elsewhere a backslash takes from the next
character what it says.
-/
import Mathlib.Data.List.Basic

namespace Quoting

/-- The quotes that a character stands in. -/
inductive Quotes where
  | unquoted
  | single
  | double
  deriving DecidableEq

/-- Where the reader of a command stands; behind a backslash that says something, it does so in
front of one character only. -/
inductive Position where
  | unquoted
  | backslash
  | single
  | double
  | doubleBackslash
  deriving DecidableEq

namespace Position

/-- The quotes that the next character stands in. -/
def quotes : Position → Quotes
  | unquoted | backslash => .unquoted
  | single => .single
  | double | doubleBackslash => .double

/-- The next character is taken as itself. -/
def Escaping (p : Position) : Prop := p = backslash ∨ p = doubleBackslash

instance (p : Position) : Decidable p.Escaping := inferInstanceAs (Decidable (_ ∨ _))

/-- A parameter that is written here is expanded. -/
def Expands (p : Position) : Prop := p.quotes ≠ .single ∧ ¬ p.Escaping

instance (p : Position) : Decidable p.Expands := inferInstanceAs (Decidable (_ ∧ _))

/-- Behind a character that is neither a quote nor a backslash. -/
def settled : Position → Position
  | unquoted | backslash => unquoted
  | single => single
  | double | doubleBackslash => double

def step (p : Position) (c : Char) : Position :=
  match p with
  | unquoted =>
    if c = '\\' then backslash
    else if c = '\'' then single
    else if c = '"' then double
    else unquoted
  | backslash => unquoted
  | single => if c = '\'' then unquoted else single
  | double => if c = '\\' then doubleBackslash else if c = '"' then unquoted else double
  | doubleBackslash => double

def run (p : Position) (text : List Char) : Position := text.foldl step p

@[simp]
theorem run_nil (p : Position) : p.run [] = p := rfl

@[simp]
theorem run_cons (p : Position) (c : Char) (text : List Char) :
    p.run (c :: text) = (p.step c).run text := rfl

/-- A character that says nothing about quotes. -/
def Plain (c : Char) : Prop := c ≠ '\\' ∧ c ≠ '\'' ∧ c ≠ '"'

instance (c : Char) : Decidable (Plain c) := inferInstanceAs (Decidable (_ ∧ _ ∧ _))

theorem step_plain {c : Char} (h : Plain c) (p : Position) : p.step c = p.settled := by
  obtain ⟨hbackslash, hsingle, hdouble⟩ := h
  cases p with
  | unquoted => simp [step, settled, hbackslash, hsingle, hdouble]
  | backslash => rfl
  | single => simp [step, settled, hsingle]
  | double => simp [step, settled, hbackslash, hdouble]
  | doubleBackslash => rfl

@[simp]
theorem settled_settled (p : Position) : p.settled.settled = p.settled := by
  cases p <;> rfl

theorem run_plain {text : List Char} (hne : text ≠ []) (h : ∀ c ∈ text, Plain c) (p : Position) :
    p.run text = p.settled := by
  induction text generalizing p with
  | nil => exact absurd rfl hne
  | cons c rest ih =>
    rw [run_cons, step_plain (h c List.mem_cons_self)]
    by_cases hrest : rest = []
    · rw [hrest, run_nil]
    · rw [ih hrest fun d hd => h d (List.mem_cons_of_mem c hd), settled_settled]

end Position

end Quoting
