/-
Texts, taken apart as the standard library of the source does it.
-/
import Luther.Lib.Fields
import Mathlib.Algebra.Group.Nat.Defs

namespace Luther

def isWhitespace (c : Char) : Bool :=
  ('\u0009' ≤ c && c ≤ '\u000d') || c == ' ' || c == '\u0085' || c == '\u00a0'
    || c == '\u1680' || ('\u2000' ≤ c && c ≤ '\u200a') || c == '\u2028' || c == '\u2029'
    || c == '\u202f' || c == '\u205f' || c == '\u3000'

def trimStart (text : String) : String := String.ofList (text.toList.dropWhile isWhitespace)

def trim (text : String) : String :=
  String.ofList ((text.toList.dropWhile isWhitespace).rdropWhile isWhitespace)

def startsWith (text opening : String) : Bool := opening.toList.isPrefixOf text.toList

def stripPrefix (opening text : String) : Option String :=
  if startsWith text opening then some (String.ofList (text.toList.drop opening.length)) else none

variable {text : String} {c : Char} {lines : List (List Char)}

theorem toList_of_stripPrefix {opening rest : String} (h : stripPrefix opening text = some rest) :
    text.toList = opening.toList ++ rest.toList := by
  unfold stripPrefix at h
  by_cases hopen : startsWith text opening = true
  · have hprefix : opening.toList <+: text.toList := List.isPrefixOf_iff_prefix.mp hopen
    rw [if_pos hopen, Option.some.injEq] at h
    rw [← h, String.toList_ofList, ← String.length_toList]
    exact (List.prefix_iff_eq_append.mp hprefix).symm
  · rw [if_neg hopen] at h
    cases h

/-- `str::find`, as what stands before and behind the place that is found. -/
def findText (pattern text : String) : Option (String × String) :=
  (Search.splitFirst pattern.toList text.toList).map fun (before, after) =>
    (String.ofList before, String.ofList after)

/-- `str::contains`. -/
def containsText (text pattern : String) : Bool := decide (pattern.toList <:+: text.toList)

/-- `str::replace`, of a pattern that is not empty. -/
def replaceText (pattern replacement text : String) : String :=
  String.ofList (Search.replace pattern.toList replacement.toList text.toList)

theorem toList_trim (text : String) :
    (trim text).toList = (text.toList.dropWhile isWhitespace).rdropWhile isWhitespace :=
  String.toList_ofList

theorem trim_ne_empty (hc : c ∈ text.toList) (hblank : isWhitespace c = false) :
    trim text ≠ "" := by
  intro hempty
  have hnil : (text.toList.dropWhile isWhitespace).rdropWhile isWhitespace = [] := by
    rw [← toList_trim, hempty]
    rfl
  have hrest := List.rdropWhile_eq_nil_iff.mp hnil
  rw [← List.takeWhile_append_dropWhile (p := isWhitespace) (l := text.toList)] at hc
  have hwhite : isWhitespace c = true :=
    (List.mem_append.mp hc).elim List.mem_takeWhile_imp (hrest c)
  simp [hblank] at hwhite

theorem trim_of_no_blank (h : ∀ c ∈ text.toList, isWhitespace c = false) :
    trim text = text := by
  have hstart : text.toList.dropWhile isWhitespace = text.toList := by
    refine List.dropWhile_eq_self_iff.mpr fun hpos => ?_
    rw [h _ (List.getElem_mem hpos)]
    simp
  have hend : text.toList.rdropWhile isWhitespace = text.toList := by
    refine List.rdropWhile_eq_self_iff.mpr fun hne => ?_
    rw [h _ (List.getLast_mem hne)]
    simp
  unfold trim
  rw [hstart, hend, String.ofList_toList]

theorem toList_replaceText (pattern replacement text : String) :
    (replaceText pattern replacement text).toList
      = Search.replace pattern.toList replacement.toList text.toList :=
  String.toList_ofList

/-- `str::split_once`, at a character. -/
def splitOnce (c : Char) (s : String) : Option (String × String) :=
  match s.toList.dropWhile (· != c) with
  | [] => none
  | _ :: after => some (String.ofList (s.toList.takeWhile (· != c)), String.ofList after)

theorem splitOnce_eq_some {before after : String} :
    splitOnce c text = some (before, after) ↔
      c ∉ before.toList ∧ text.toList = before.toList ++ c :: after.toList := by
  unfold splitOnce
  constructor
  · intro h
    have hparts : text.toList.takeWhile (· != c) ++ text.toList.dropWhile (· != c) = text.toList :=
      List.takeWhile_append_dropWhile
    split at h
    · cases h
    · rename_i d rest hdrop
      obtain ⟨rfl, rfl⟩ := Prod.mk.inj (Option.some.inj h)
      have hne : text.toList.dropWhile (· != c) ≠ [] := by
        rw [hdrop]
        exact List.cons_ne_nil _ _
      obtain rfl : d = c := by
        have hhead := List.head_dropWhile_not (· != c) hne
        simpa [hdrop] using hhead
      rw [String.toList_ofList, String.toList_ofList, ← hdrop, hparts]
      exact ⟨fun hmem => by simpa using List.mem_takeWhile_imp hmem, rfl⟩
  · rintro ⟨hfirst, htext⟩
    have hall : ∀ x ∈ before.toList, (x != c) = true := by
      intro x hx
      refine bne_iff_ne.mpr ?_
      rintro rfl
      exact hfirst hx
    have hdrop : text.toList.dropWhile (· != c) = c :: after.toList := by
      rw [htext, List.dropWhile_append_of_pos hall, List.dropWhile_cons_of_neg (by simp)]
    have htake : text.toList.takeWhile (· != c) = before.toList := by
      rw [htext, List.takeWhile_append_of_pos hall, List.takeWhile_cons_of_neg (by simp),
        List.append_nil]
    rw [hdrop, htake, String.ofList_toList]
    dsimp only
    rw [String.ofList_toList]

def splitWhitespace (text : String) : List String :=
  (Search.words isWhitespace text.toList).map String.ofList

/-- `str::lines`: a line ends before a `\n`, or before the `\r` that stands there. -/
def splitLines (text : String) : List String :=
  let pieces := text.toList.splitOn '\n'
  let ended := pieces.dropLast.map fun piece =>
    if piece.getLast? = some '\r' then piece.dropLast else piece
  let unended := pieces.getLast?.toList.filter (· ≠ [])
  (ended ++ unended).map String.ofList

/-- A line without the carriage return before its end. -/
def withoutReturn (line : List Char) : List Char :=
  if line.getLast? = some '\r' then line.dropLast else line

theorem withoutReturn_cons (hc : c ≠ '\r') (line : List Char) :
    withoutReturn (c :: line) = c :: withoutReturn line := by
  cases line with
  | nil =>
    have hlast : [c].getLast? ≠ some '\r' := fun h => hc (Option.some.inj h)
    unfold withoutReturn
    rw [if_neg hlast]
    rfl
  | cons d rest =>
    unfold withoutReturn
    rw [List.getLast?_cons_cons]
    split <;> rfl

theorem splitLines_of_ended (h : text.toList.splitOn '\n' = lines ++ [[]]) :
    splitLines text = lines.map fun line => String.ofList (withoutReturn line) := by
  unfold splitLines
  simp only [h, List.dropLast_concat, List.getLast?_concat]
  show ((lines.map withoutReturn) ++ []).map String.ofList = _
  rw [List.append_nil, List.map_map]
  rfl

theorem splitLines_of_open {last : List Char} (h : text.toList.splitOn '\n' = lines ++ [last])
    (hlast : last ≠ []) :
    splitLines text =
      (lines.map fun line => String.ofList (withoutReturn line)) ++ [String.ofList last] := by
  unfold splitLines
  simp only [h, List.dropLast_concat, List.getLast?_concat]
  show ((lines.map withoutReturn) ++ [last].filter (· ≠ [])).map String.ofList = _
  rw [List.filter_cons_of_pos (by simpa using hlast), List.filter_nil, List.map_append,
    List.map_map]
  rfl

/-- **Lines that are written are read back**, each without the carriage return at its end. -/
theorem splitLines_terminated (h : ∀ line ∈ lines, '\n' ∉ line) :
    splitLines (String.ofList (Fields.terminated '\n' lines)) =
      lines.map fun line => String.ofList (withoutReturn line) := by
  refine splitLines_of_ended ?_
  rw [String.toList_ofList]
  exact Fields.splitOn_terminated h

def toAsciiLowercase (text : String) : String := text.map Char.toLower

def eqIgnoreAsciiCase (a b : String) : Bool := a.map Char.toLower == b.map Char.toLower

/-- `Regex::new`, and what it matches. -/
abbrev RegexEngine := String → Option (String → Bool)

theorem isDigit_of_mem_repr {n : Nat} (h : c ∈ n.repr.toList) :
    Char.isDigit c = true := by
  rw [Nat.toList_repr] at h
  exact Nat.isDigit_of_mem_toDigits (by decide) (by decide) h

/-! ### Numbers -/

def withoutPlus : List Char → List Char
  | '+' :: rest => rest
  | text => text

/-- `str::parse::<u64>`. -/
def parseU64 (text : List Char) : Option Nat :=
  let digits := withoutPlus text
  if digits ≠ [] ∧ digits.all Char.isDigit then
    let n := Nat.ofDigitChars 10 digits 0
    if n < 2 ^ 64 then some n else none
  else none

/-- `str::parse::<u32>`. -/
def parseU32 (text : String) : Option UInt32 :=
  (parseU64 text.toList).bind fun n => if n < 2 ^ 32 then some (UInt32.ofNat n) else none

theorem withoutPlus_of_digits {text : List Char} (h : ∀ c ∈ text, Char.isDigit c = true) :
    withoutPlus text = text := by
  unfold withoutPlus
  split
  · have hdigit := h '+' (by simp)
    simp at hdigit
  · rfl

theorem parseU64_repr {n : Nat} (h : n < 2 ^ 64) : parseU64 n.repr.toList = some n := by
  have hdigits : ∀ c ∈ n.repr.toList, Char.isDigit c = true := fun c hc => isDigit_of_mem_repr hc
  have hne : n.repr.toList ≠ [] := by simp
  unfold parseU64
  simp only [withoutPlus_of_digits hdigits]
  rw [if_pos ⟨hne, List.all_eq_true.mpr hdigits⟩, Nat.toList_repr, Nat.ofDigitChars_ten_toDigits,
    if_pos h]

theorem parseU32_repr (n : UInt32) : parseU32 n.toNat.repr = some n := by
  have hlt : n.toNat < 2 ^ 32 := n.toNat_lt
  unfold parseU32
  rw [parseU64_repr (by omega), Option.bind_some, if_pos hlt, UInt32.ofNat_toNat]

theorem isWhitespace_iff : isWhitespace c = true ↔
    (9 ≤ c.toNat ∧ c.toNat ≤ 13) ∨ c.toNat = 32 ∨ c.toNat = 133 ∨ c.toNat = 160 ∨
      c.toNat = 5760 ∨ (8192 ≤ c.toNat ∧ c.toNat ≤ 8202) ∨ c.toNat = 8232 ∨ c.toNat = 8233 ∨
      c.toNat = 8239 ∨ c.toNat = 8287 ∨ c.toNat = 12288 := by
  unfold isWhitespace
  simp only [Bool.or_eq_true, Bool.and_eq_true, decide_eq_true_eq, beq_iff_eq, Char.le_def,
    UInt32.le_iff_toNat_le, Char.ext_iff, ← UInt32.toNat_inj, or_assoc]
  rfl

theorem isAlphanum_iff : c.isAlphanum = true ↔
    (65 ≤ c.toNat ∧ c.toNat ≤ 90) ∨ (97 ≤ c.toNat ∧ c.toNat ≤ 122) ∨
      (48 ≤ c.toNat ∧ c.toNat ≤ 57) := by
  unfold Char.isAlphanum Char.isAlpha Char.isUpper Char.isLower Char.isDigit
  simp only [Bool.or_eq_true, Bool.and_eq_true, decide_eq_true_eq, ge_iff_le,
    UInt32.le_iff_toNat_le, or_assoc]
  rfl

theorem isWhitespace_of_isAlphanum (h : c.isAlphanum) : isWhitespace c = false := by
  refine Bool.eq_false_iff.mpr fun hblank => ?_
  have hword := isAlphanum_iff.mp h
  have hnumbers := isWhitespace_iff.mp hblank
  omega

theorem isWhitespace_of_isDigit (h : Char.isDigit c) : isWhitespace c = false := by
  refine isWhitespace_of_isAlphanum ?_
  unfold Char.isAlphanum
  rw [h, Bool.or_true]

end Luther
