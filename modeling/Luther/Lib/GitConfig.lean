/-
Git's configuration files, read character by character.

A file is a sequence of section headers and of keys, most of which have a value.  A value goes to
the end of its line or to a comment; the blanks around it are dropped, double quotes keep blanks
and comment characters, and a backslash says what the character behind it stands for, or joins two
lines.  A value that is written without quotes and escapes is read back as it stands only if it
needs neither.
-/
import Mathlib.Data.List.Basic
import Mathlib.Data.Option.Basic

namespace GitConfig

/-! ### Values -/

def blank (c : Char) : Bool := c == ' ' || c == '\t' || c == '\r'

/-- What a character stands for behind a backslash. -/
def escaped (c : Char) : Option Char :=
  if c = 'n' then some '\n'
  else if c = 't' then some '\t'
  else if c = 'b' then some '\x08'
  else if c = '\\' ∨ c = '"' then some c
  else none

/-- Where the reader of a value stands. -/
inductive Place where
  | within (quoted : Bool)
  | backslash (quoted : Bool)
  | comment
  deriving DecidableEq

/-- A value, as far as it has been read, and the blanks behind it that may yet belong to it. -/
structure Value where
  text : List Char
  held : List Char
  place : Place
  deriving DecidableEq

namespace Value

def start : Value := { text := [], held := [], place := .within false }

def step (v : Value) (c : Char) : Option Value :=
  match v.place with
  | .comment => some v
  | .backslash quoted =>
    (escaped c).map fun d => { text := v.text ++ [d], held := [], place := .within quoted }
  | .within quoted =>
    if !quoted && blank c then
      some { v with held := if v.text = [] then [] else v.held ++ [c] }
    else if !quoted && (c == '#' || c == ';') then some { v with place := .comment }
    else if c = '\\' then
      some { text := v.text ++ v.held, held := [], place := .backslash quoted }
    else if c = '"' then
      some { text := v.text ++ v.held, held := [], place := .within !quoted }
    else some { text := v.text ++ v.held ++ [c], held := [], place := .within quoted }

def run (v : Value) (text : List Char) : Option Value := text.foldlM step v

@[simp] theorem run_nil (v : Value) : v.run [] = some v := rfl

theorem run_cons (v : Value) (c : Char) (text : List Char) :
    v.run (c :: text) = (v.step c).bind fun w => w.run text := by
  unfold run
  rw [List.foldlM_cons]
  rfl

theorem run_append (v : Value) (a b : List Char) :
    v.run (a ++ b) = (v.run a).bind fun w => w.run b := by
  unfold run
  rw [List.foldlM_append]
  rfl

theorem run_concat (v : Value) (text : List Char) (c : Char) :
    v.run (text ++ [c]) = (v.run text).bind fun w => w.step c := by
  rw [run_append]
  refine congrArg _ (funext fun w => ?_)
  rw [run_cons]
  exact Option.bind_fun_some _

/-! ### Values that need no quotes -/

/-- A character that says nothing but itself inside a value. -/
def ordinary (c : Char) : Bool := c != '#' && c != ';' && c != '"' && c != '\\'

/-- The value needs neither quotes nor escapes: every character says itself, and none of the
blanks stands at an end. -/
structure Plain (text : List Char) : Prop where
  ordinary : ∀ c ∈ text, ordinary c = true
  head : ∀ c ∈ text.head?, blank c = false
  last : ∀ c ∈ text.getLast?, blank c = false

def size (v : Value) : Nat := v.text.length + v.held.length

/-- The character is read into the value as itself. -/
def Takes (v : Value) (c : Char) : Prop := ordinary c = true ∧ (v.text = [] → blank c = false)

variable {c : Char} {w : Value} {text : List Char}

variable {v : Value}

theorem step_ordinary {quoted : Bool} (hplace : v.place = .within quoted) (h : ordinary c) :
    v.step c = some (if !quoted && blank c then
        { v with held := if v.text = [] then [] else v.held ++ [c] }
      else { text := v.text ++ v.held ++ [c], held := [], place := .within quoted }) := by
  simp only [ordinary, Bool.and_eq_true, bne_iff_ne, ne_eq] at h
  obtain ⟨⟨⟨hhash, hsemicolon⟩, hquote⟩, hbackslash⟩ := h
  unfold step
  rw [hplace]
  dsimp only
  by_cases hblank : (!quoted && blank c) = true
  · rw [if_pos hblank, if_pos hblank]
  · rw [if_neg hblank, if_neg hblank, if_neg (by simp [hhash, hsemicolon]), if_neg hbackslash,
      if_neg hquote]

theorem size_step_le (h : v.step c = some w) : w.size ≤ v.size + 1 := by
  unfold step at h
  unfold size
  cases hplace : v.place with
  | comment =>
    rw [hplace] at h
    obtain rfl := Option.some.inj h
    omega
  | backslash quoted =>
    rw [hplace] at h
    obtain ⟨d, _, rfl⟩ := Option.map_eq_some_iff.mp h
    rw [List.length_append, List.length_singleton, List.length_nil]
    omega
  | within quoted =>
    rw [hplace] at h
    dsimp only at h
    split at h
    · obtain rfl := Option.some.inj h
      dsimp only
      split <;> simp <;> omega
    split at h
    · obtain rfl := Option.some.inj h
      simp
    split at h
    · obtain rfl := Option.some.inj h
      simp
    split at h
    · obtain rfl := Option.some.inj h
      simp
    · obtain rfl := Option.some.inj h
      simp
      omega

theorem size_run_le (h : v.run text = some w) : w.size ≤ v.size + text.length := by
  induction text generalizing v with
  | nil => simp at h; simp [h]
  | cons c text ih =>
    rw [run_cons] at h
    obtain ⟨next, hstep, hrest⟩ := Option.bind_eq_some_iff.mp h
    have hone := size_step_le hstep
    have hmore := ih hrest
    rw [List.length_cons]
    omega

theorem size_step_of_not_takes (hplace : v.place = .within false) (hnot : ¬ v.Takes c)
    (hheld : v.text = [] → v.held = []) (h : v.step c = some w) : w.size = v.size := by
  unfold step at h
  rw [hplace] at h
  dsimp only at h
  unfold size
  by_cases hblank : (!false && blank c) = true
  · rw [if_pos hblank] at h
    obtain rfl := Option.some.inj h
    have htext : v.text = [] := by
      by_contra htext
      refine hnot ⟨?_, fun hnil => absurd hnil htext⟩
      simp only [Bool.not_false, Bool.true_and, blank, Bool.or_eq_true, beq_iff_eq] at hblank
      rcases hblank with (rfl | rfl) | rfl <;> rfl
    rw [if_pos htext, hheld htext]
  · rw [if_neg hblank] at h
    by_cases hcomment : (!false && (c == '#' || c == ';')) = true
    · rw [if_pos hcomment] at h
      obtain rfl := Option.some.inj h
      rfl
    rw [if_neg hcomment] at h
    by_cases hbackslash : c = '\\'
    · rw [if_pos hbackslash] at h
      obtain rfl := Option.some.inj h
      simp
    rw [if_neg hbackslash] at h
    by_cases hquote : c = '"'
    · rw [if_pos hquote] at h
      obtain rfl := Option.some.inj h
      simp
    refine absurd ⟨?_, fun _ => ?_⟩ hnot
    · simp only [Bool.not_false, Bool.true_and, Bool.or_eq_true, beq_iff_eq, not_or] at hcomment
      simp [ordinary, hcomment.1, hcomment.2, hbackslash, hquote]
    · simpa using hblank

/-- Outside quotes, with no blanks held back in front of the value. -/
structure Open (v : Value) : Prop where
  place : v.place = .within false
  held : v.text = [] → v.held = []

theorem open_start : start.Open := ⟨rfl, fun _ => rfl⟩

theorem Open.step (hopen : v.Open) (h : v.Takes c) :
    ∃ w, v.step c = some w ∧ w.Open ∧ w.text ++ w.held = v.text ++ v.held ++ [c] ∧
      (blank c = false → w.held = []) ∧ (blank c = true → w.held ≠ []) ∧ w.text ≠ [] := by
  refine ⟨_, step_ordinary hopen.place h.1, ?_⟩
  by_cases hblank : blank c = true
  · have htext : v.text ≠ [] := fun hnil => by simp [h.2 hnil] at hblank
    rw [if_pos (by simp [hblank]), if_neg htext]
    exact ⟨⟨hopen.place, fun hnil => absurd hnil htext⟩, by simp, by simp [hblank], by simp, htext⟩
  · rw [if_neg (by simp [hblank])]
    exact ⟨⟨rfl, fun _ => rfl⟩, by simp, fun _ => rfl, fun htrue => absurd htrue hblank, by simp⟩

theorem Open.run (hopen : v.Open) (hordinary : ∀ c ∈ text, ordinary c = true)
    (hhead : v.text = [] → ∀ c ∈ text.head?, blank c = false) :
    ∃ w, v.run text = some w ∧ w.Open ∧ w.text ++ w.held = v.text ++ v.held ++ text := by
  induction text generalizing v with
  | nil => exact ⟨v, rfl, hopen, (List.append_nil _).symm⟩
  | cons c text ih =>
    have htakes : v.Takes c := ⟨hordinary c List.mem_cons_self, fun hnil => hhead hnil c rfl⟩
    obtain ⟨next, hstep, hnext, htext, -, -, hne⟩ := hopen.step htakes
    obtain ⟨w, hrun, hw, hread⟩ :=
      ih hnext (fun d hd => hordinary d (List.mem_cons_of_mem _ hd)) (fun hnil => absurd hnil hne)
    refine ⟨w, ?_, hw, ?_⟩
    · rw [run_cons, hstep]
      exact hrun
    · rw [hread, htext, List.append_assoc, List.singleton_append]

theorem Open.of_size (hopen : v.Open) (hrun : v.run text = some w)
    (hsize : w.size = v.size + text.length) :
    w.Open ∧ (∀ c ∈ text, ordinary c = true) ∧
      (v.text = [] → ∀ c ∈ text.head?, blank c = false) := by
  induction text generalizing v with
  | nil =>
    obtain rfl := Option.some.inj hrun
    exact ⟨hopen, by simp, by simp⟩
  | cons c text ih =>
    rw [run_cons] at hrun
    obtain ⟨next, hstep, hrest⟩ := Option.bind_eq_some_iff.mp hrun
    rw [List.length_cons] at hsize
    have hle := size_run_le hrest
    have htakes : v.Takes c := by
      by_contra hnot
      have hsame := size_step_of_not_takes hopen.place hnot hopen.held hstep
      omega
    have hone := size_step_le hstep
    obtain ⟨next', hstep', hnext, -⟩ := hopen.step htakes
    obtain rfl := Option.some.inj (hstep.symm.trans hstep')
    obtain ⟨hw, hordinary, -⟩ := ih hnext hrest (by omega)
    refine ⟨hw, ?_, ?_⟩
    · intro d hd
      rcases List.mem_cons.mp hd with rfl | hlater
      · exact htakes.1
      · exact hordinary d hlater
    · intro hnil d hd
      obtain rfl := Option.some.inj hd
      exact htakes.2 hnil

theorem run_within {quoted : Bool} (hplace : v.place = .within quoted)
    (h : ∀ c ∈ text, ordinary c = true) :
    ∃ w, v.run text = some w ∧ w.place = .within quoted := by
  induction text generalizing v with
  | nil => exact ⟨v, rfl, hplace⟩
  | cons c text ih =>
    rw [List.forall_mem_cons] at h
    have hstep : ∃ next, v.step c = some next ∧ next.place = .within quoted := by
      refine ⟨_, step_ordinary hplace h.1, ?_⟩
      split
      · exact hplace
      · rfl
    obtain ⟨next, hnext, hquotes⟩ := hstep
    obtain ⟨w, hrun, hw⟩ := ih hquotes h.2
    refine ⟨w, ?_, hw⟩
    rw [run_cons, hnext]
    exact hrun

def ended (v : Value) : Option (List Char) :=
  match v.place with
  | .comment | .within false => some v.text
  | .within true | .backslash _ => none

theorem Open.ended (hopen : v.Open) : v.ended = some v.text := by
  unfold Value.ended
  rw [hopen.place]

theorem text_of_ended (h : v.ended = some text) : v.text = text := by
  unfold Value.ended at h
  cases hplace : v.place with
  | comment =>
    rw [hplace] at h
    exact Option.some.inj h
  | backslash quoted =>
    rw [hplace] at h
    cases h
  | within quoted =>
    rw [hplace] at h
    cases quoted with
    | false => exact Option.some.inj h
    | true => cases h

/-- **A value on one line is read back as it is written exactly if it needs no quotes.** -/
theorem run_ended_iff (text : List Char) :
    (start.run text).bind ended = some text ↔ Plain text := by
  rcases List.eq_nil_or_concat text with rfl | ⟨init, c, rfl⟩
  · exact iff_of_true rfl ⟨by simp, by simp, by simp⟩
  rw [List.concat_eq_append]
  constructor
  · intro h
    obtain ⟨w, hrun, hended⟩ := Option.bind_eq_some_iff.mp h
    have htext := text_of_ended hended
    have hle := size_run_le hrun
    have hwhole : w.size = start.size + (init ++ [c]).length := by
      refine Nat.le_antisymm hle ?_
      show 0 + (init ++ [c]).length ≤ w.text.length + w.held.length
      rw [← htext]
      omega
    have hheld : w.held = [] := by
      refine List.length_eq_zero_iff.mp ?_
      rw [size, htext] at hwhole
      exact Nat.add_left_cancel (hwhole.trans (Nat.zero_add _))
    obtain ⟨-, hordinary, hhead⟩ := open_start.of_size hrun hwhole
    refine ⟨hordinary, hhead rfl, ?_⟩
    rw [List.getLast?_concat]
    intro d hd
    obtain rfl := Option.some.inj hd
    rw [run_concat] at hrun
    obtain ⟨before, hinit, hlast⟩ := Option.bind_eq_some_iff.mp hrun
    have hinitLe := size_run_le hinit
    have hone := size_step_le hlast
    rw [List.length_append, List.length_singleton] at hwhole
    obtain ⟨hbefore, -, -⟩ := open_start.of_size hinit (by omega)
    have htakes : before.Takes c := by
      by_contra hnot
      have hsame := size_step_of_not_takes hbefore.place hnot hbefore.held hlast
      omega
    obtain ⟨w', hstep, -, -, -, hkept, -⟩ := hbefore.step htakes
    obtain rfl := Option.some.inj (hlast.symm.trans hstep)
    by_contra hblank
    exact hkept (by simpa using hblank) hheld
  · intro h
    have hordinary := h.ordinary
    have hc : blank c = false := h.last c (by simp)
    have hhead : ∀ d ∈ init.head?, blank d = false := by
      intro d hd
      refine h.head d ?_
      cases init with
      | nil => cases hd
      | cons e init => exact hd
    obtain ⟨before, hinit, hbefore, hread⟩ := open_start.run
      (fun d hd => hordinary d (List.mem_append_left _ hd)) (fun _ => hhead)
    obtain ⟨w, hstep, hw, htext, hheld, -⟩ :=
      hbefore.step ⟨hordinary c (by simp), fun _ => hc⟩
    rw [run_concat, hinit, Option.bind_some, hstep, Option.bind_some, hw.ended]
    rw [hheld hc, List.append_nil, hread] at htext
    rw [htext]
    rfl

end Value

/-! ### Files -/

/-- A section, with its keys and what each is set to. -/
structure Section where
  name : List Char
  subsection : Option (List Char)
  entries : List (List Char × Option (List Char))
  deriving DecidableEq

/-- What the reader of a file is in the middle of. -/
inductive Mode where
  | line
  | comment
  | header (name : List Char)
  | headerBlank (name : List Char)
  | subsection (name sub : List Char)
  | subsectionBackslash (name sub : List Char)
  | headerEnd (name sub : List Char)
  | key (key : List Char)
  | keyBlank (key : List Char)
  | value (key : List Char) (value : Value)
  deriving DecidableEq

/-- The sections that have been begun, the last one first. -/
structure Reader where
  sections : List Section
  mode : Mode
  deriving DecidableEq

namespace Reader

def start : Reader := { sections := [], mode := .line }

def openSection (r : Reader) (name : List Char) (sub : Option (List Char)) : Reader :=
  { sections := { name := name, subsection := sub, entries := [] } :: r.sections, mode := .line }

def set (r : Reader) (key : List Char) (value : Option (List Char)) : Option Reader :=
  match r.sections with
  | [] => none
  | last :: before =>
    some { sections := { last with entries := last.entries ++ [(key, value)] } :: before
           mode := .line }

def nameChar (c : Char) : Bool := c.isAlphanum || c == '-'

/-- Behind a key, at a character that does not belong to it. -/
def stepKeyBlank (r : Reader) (key : List Char) (c : Char) : Option Reader :=
  if c = ' ' ∨ c = '\t' then some { r with mode := .keyBlank key }
  else if c = '\n' then r.set key none
  else if c = '=' then some { r with mode := .value key .start }
  else none

def stepNewline (r : Reader) (key : List Char) (v : Value) : Option Reader :=
  match v.place with
  | .comment | .within false => r.set key (some v.text)
  | .within true => none
  | .backslash quoted => some { r with mode := .value key { v with place := .within quoted } }

/-- Behind one more character.  Names and keys are the same in either case. -/
def step (r : Reader) (c : Char) : Option Reader :=
  match r.mode with
  | .line =>
    if c = '\n' ∨ blank c = true then some r
    else if c = '#' ∨ c = ';' then some { r with mode := .comment }
    else if c = '[' then some { r with mode := .header [] }
    else if c.isAlpha then some { r with mode := .key [c.toLower] }
    else none
  | .comment => some (if c = '\n' then { r with mode := .line } else r)
  | .header name =>
    if c = ']' then some (r.openSection name none)
    else if blank c then some { r with mode := .headerBlank name }
    else if nameChar c || c == '.' then some { r with mode := .header (name ++ [c.toLower]) }
    else none
  | .headerBlank name =>
    if blank c then some r
    else if c = '"' then some { r with mode := .subsection name [] }
    else none
  | .subsection name sub =>
    if c = '\n' then none
    else if c = '"' then some { r with mode := .headerEnd name sub }
    else if c = '\\' then some { r with mode := .subsectionBackslash name sub }
    else some { r with mode := .subsection name (sub ++ [c]) }
  | .subsectionBackslash name sub =>
    if c = '\n' then none else some { r with mode := .subsection name (sub ++ [c]) }
  | .headerEnd name sub => if c = ']' then some (r.openSection name (some sub)) else none
  | .key key =>
    if nameChar c then some { r with mode := .key (key ++ [c.toLower]) }
    else r.stepKeyBlank key c
  | .keyBlank key => r.stepKeyBlank key c
  | .value key v =>
    if c = '\n' then r.stepNewline key v
    else (v.step c).map fun w => { r with mode := .value key w }

def run (r : Reader) (text : List Char) : Option Reader := text.foldlM step r

@[simp] theorem run_nil (r : Reader) : r.run [] = some r := rfl

theorem run_cons (r : Reader) (c : Char) (text : List Char) :
    r.run (c :: text) = (r.step c).bind fun next => next.run text := by
  unfold run
  rw [List.foldlM_cons]
  rfl

theorem run_append (r : Reader) (a b : List Char) :
    r.run (a ++ b) = (r.run a).bind fun next => next.run b := by
  unfold run
  rw [List.foldlM_append]
  rfl

theorem run_value {text : List Char} (h : '\n' ∉ text) (sections : List Section)
    (key : List Char) (v : Value) :
    (Reader.mk sections (.value key v)).run text =
      (v.run text).map fun w => Reader.mk sections (.value key w) := by
  induction text generalizing v with
  | nil => rfl
  | cons c text ih =>
    rw [List.mem_cons, not_or] at h
    have hstep : (Reader.mk sections (.value key v)).step c =
        (v.step c).map fun w => Reader.mk sections (.value key w) := by
      unfold step
      dsimp only
      rw [if_neg (Ne.symm h.1)]
    rw [run_cons, hstep, Value.run_cons, Option.map_bind, Option.bind_map]
    refine congrArg _ (funext fun w => ?_)
    exact ih h.2 w

section Newline

variable {v : Value} (sections : List Section) (key : List Char)

theorem step_newline : (Reader.mk sections (.value key v)).step '\n' =
    (Reader.mk sections (.value key v)).stepNewline key v := rfl

theorem step_newline_of_ended {text : List Char} (h : v.ended = some text) :
    (Reader.mk sections (.value key v)).step '\n' =
      (Reader.mk sections (.value key v)).set key (some text) := by
  rw [step_newline, stepNewline, ← Value.text_of_ended h]
  unfold Value.ended at h
  cases hplace : v.place with
  | comment => rfl
  | backslash quoted =>
    rw [hplace] at h
    cases h
  | within quoted =>
    cases quoted with
    | false => rfl
    | true =>
      rw [hplace] at h
      cases h

theorem step_newline_of_quoted (h : v.place = .within true) :
    (Reader.mk sections (.value key v)).step '\n' = none := by
  rw [step_newline, stepNewline, h]

theorem step_newline_of_backslash {quoted : Bool} (h : v.place = .backslash quoted) :
    (Reader.mk sections (.value key v)).step '\n' =
      some (Reader.mk sections (.value key { v with place := .within quoted })) := by
  rw [step_newline, stepNewline, h]

end Newline

end Reader

/-- The sections of a file; the file's end ends its last line. -/
def parse (text : List Char) : Option (List Section) :=
  (Reader.start.run (text ++ ['\n'])).bind fun r =>
    if r.mode = .line then some r.sections.reverse else none

end GitConfig
