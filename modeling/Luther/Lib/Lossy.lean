/-
Bytes that need not be UTF-8, read as a text.

A byte that may not come ends the sequence it stands in and begins the next one; each sequence that
is broken off is replaced by one character.  A text that is read in pieces is the same as one that
is read whole exactly where no piece ends inside of a sequence that the next byte goes on with:
everywhere else the pieces have a character more.
-/
import Luther.Lib.Utf8

namespace Utf8

/-! ### One byte after the other -/

/-- Where a reader stands: between two characters, or in one of which so many bytes are missing
behind the next, which has bounds. -/
inductive Position where
  | between
  | inside (missing low high value : Nat)
  deriving DecidableEq

def replacement : Char := '\uFFFD'

/-- Where a byte from `80` on leads that begins a character. -/
def lead (b : Nat) : Option Position :=
  if 0xC2 ≤ b ∧ b ≤ 0xDF then some (.inside 0 0x80 0xBF (b - 0xC0))
  else if 0xE0 ≤ b ∧ b ≤ 0xEF then
    some (.inside 1 (if b = 0xE0 then 0xA0 else 0x80) (if b = 0xED then 0x9F else 0xBF) (b - 0xE0))
  else if 0xF0 ≤ b ∧ b ≤ 0xF4 then
    some (.inside 2 (if b = 0xF0 then 0x90 else 0x80) (if b = 0xF4 then 0x8F else 0xBF) (b - 0xF0))
  else none

/-- A byte between two characters: what is read, and where the reader then stands. -/
def readFirst (b : UInt8) : List Char × Position :=
  if b.toNat < 0x80 then ([Char.ofNat b.toNat], .between)
  else
    match lead b.toNat with
    | some position => ([], position)
    | none => ([replacement], .between)

/-- The byte goes on with a sequence of these bounds. -/
def Within (low high b : Nat) : Prop := 0x80 ≤ b ∧ b ≤ 0xBF ∧ low ≤ b ∧ b ≤ high

instance (low high b : Nat) : Decidable (Within low high b) :=
  inferInstanceAs (Decidable (_ ∧ _ ∧ _ ∧ _))

def readByte : Position → UInt8 → List Char × Position
  | .between, b => readFirst b
  | .inside missing low high value, b =>
    if Within low high b.toNat then
      match missing with
      | 0 => ([Char.ofNat (value * 64 + (b.toNat - 0x80))], .between)
      | more + 1 => ([], .inside more 0x80 0xBF (value * 64 + (b.toNat - 0x80)))
    else (replacement :: (readFirst b).1, (readFirst b).2)

def flush : Position → List Char
  | .between => []
  | .inside _ _ _ _ => [replacement]

/-- What the bytes are read as, from a position on. -/
def readFrom : Position → List UInt8 → List Char
  | position, [] => flush position
  | position, b :: rest => (readByte position b).1 ++ readFrom (readByte position b).2 rest

/-- `String::from_utf8_lossy`. -/
def decodeLossy (bytes : List UInt8) : List Char := readFrom .between bytes

def emitted : Position → List UInt8 → List Char
  | _, [] => []
  | position, b :: rest => (readByte position b).1 ++ emitted (readByte position b).2 rest

def positionAfter : Position → List UInt8 → Position
  | position, [] => position
  | position, b :: rest => positionAfter (readByte position b).2 rest

theorem readFrom_append (position : Position) (a b : List UInt8) :
    readFrom position (a ++ b) = emitted position a ++ readFrom (positionAfter position a) b := by
  induction a generalizing position with
  | nil => rfl
  | cons byte rest ih =>
    show (readByte position byte).1 ++ readFrom (readByte position byte).2 (rest ++ b) = _
    rw [ih, ← List.append_assoc]
    rfl

theorem readFrom_eq (position : Position) (bytes : List UInt8) :
    readFrom position bytes = emitted position bytes ++ flush (positionAfter position bytes) := by
  have hsplit := readFrom_append position bytes []
  rwa [List.append_nil] at hsplit

theorem decodeLossy_append (a b : List UInt8) :
    decodeLossy (a ++ b) = emitted .between a ++ readFrom (positionAfter .between a) b :=
  readFrom_append .between a b

theorem decodeLossy_eq (bytes : List UInt8) :
    decodeLossy bytes = emitted .between bytes ++ flush (positionAfter .between bytes) :=
  readFrom_eq .between bytes

/-! ### Pieces -/

/-- The bytes go on with the sequence that the reader stands in. -/
def Continued : Position → List UInt8 → Prop
  | .inside _ low high _, b :: _ => Within low high b.toNat
  | _, _ => False

instance (position : Position) (bytes : List UInt8) : Decidable (Continued position bytes) :=
  match position, bytes with
  | .inside _ low high _, b :: _ => inferInstanceAs (Decidable (Within low high b.toNat))
  | .between, _ | .inside _ _ _ _, [] => isFalse fun h => by cases h

/-- No piece ends inside of a sequence that the next byte goes on with. -/
def CleanlyCut : List (List UInt8) → Prop
  | [] => True
  | piece :: rest => ¬ Continued (positionAfter .between piece) rest.flatten ∧ CleanlyCut rest

instance decidableCleanlyCut : (pieces : List (List UInt8)) → Decidable (CleanlyCut pieces)
  | [] => isTrue trivial
  | _ :: rest =>
    have := decidableCleanlyCut rest
    inferInstanceAs (Decidable (¬ _ ∧ CleanlyCut rest))

variable {position : Position}

theorem readFrom_of_not_continued {bytes : List UInt8} (h : ¬ Continued position bytes) :
    readFrom position bytes = flush position ++ decodeLossy bytes := by
  cases position with
  | between => rfl
  | inside missing low high value =>
    cases bytes with
    | nil => rfl
    | cons b rest =>
      have hbyte : readByte (.inside missing low high value) b =
          (replacement :: (readFirst b).1, (readFirst b).2) := if_neg h
      show (readByte (.inside missing low high value) b).1 ++ _ = _
      rw [hbyte]
      rfl

/-- **Pieces that are cut cleanly are read as the whole is.** -/
theorem CleanlyCut.decodeLossy_flatten {pieces : List (List UInt8)} (h : CleanlyCut pieces) :
    decodeLossy pieces.flatten = pieces.flatMap decodeLossy := by
  induction pieces with
  | nil => rfl
  | cons piece rest ih =>
    rw [List.flatten_cons, List.flatMap_cons, ← ih h.2, decodeLossy_append,
      readFrom_of_not_continued h.1, decodeLossy_eq piece, List.append_assoc]

theorem decodeLossy_cons_of_within {low high : Nat} {b : UInt8} (h : Within low high b.toNat)
    (rest : List UInt8) : decodeLossy (b :: rest) = replacement :: decodeLossy rest := by
  obtain ⟨hlow, hhigh, -, -⟩ := h
  have hnone : lead b.toNat = none := by
    unfold lead
    rw [if_neg (by omega), if_neg (by omega), if_neg (by omega)]
  have hfirst : readFirst b = ([replacement], .between) := by
    unfold readFirst
    rw [if_neg (by omega), hnone]
  show (readFirst b).1 ++ readFrom (readFirst b).2 rest = _
  rw [hfirst]
  rfl

theorem readByte_of_within (missing value : Nat) {low high : Nat} {b : UInt8}
    (h : Within low high b.toNat) :
    (readByte (.inside missing low high value) b).1.length ≤ 1 ∧
      ((readByte (.inside missing low high value) b).2 ≠ .between →
        (readByte (.inside missing low high value) b).1 = []) := by
  unfold readByte
  dsimp only
  rw [if_pos h]
  cases missing with
  | zero => exact ⟨Nat.le_refl 1, fun hne => absurd rfl hne⟩
  | succ more => exact ⟨Nat.zero_le 1, fun _ => rfl⟩

section

variable {counts : Char → Bool} (hcounts : counts replacement = true)

include hcounts

theorem countP_readFrom_le (position : Position) (bytes : List UInt8) :
    (readFrom position bytes).countP counts ≤ 1 + (decodeLossy bytes).countP counts := by
  induction bytes generalizing position with
  | nil =>
    cases position with
    | between => exact Nat.zero_le _
    | inside missing low high value =>
      show [replacement].countP counts ≤ 1 + [].countP counts
      rw [List.countP_cons_of_pos hcounts]
      exact Nat.le_refl _
  | cons b rest ih =>
    cases position with
    | between => exact Nat.le_add_left _ _
    | inside missing low high value =>
      by_cases hwithin : Within low high b.toNat
      · obtain ⟨hone, hnone⟩ := readByte_of_within missing value hwithin
        have hcount := List.countP_le_length (p := counts)
          (l := (readByte (.inside missing low high value) b).1)
        rw [decodeLossy_cons_of_within hwithin, List.countP_cons_of_pos hcounts]
        show ((readByte (.inside missing low high value) b).1 ++
          readFrom (readByte (.inside missing low high value) b).2 rest).countP counts ≤ _
        rw [List.countP_append]
        by_cases hbetween : (readByte (.inside missing low high value) b).2 = .between
        · rw [hbetween]
          show _ + (decodeLossy rest).countP counts ≤ _
          omega
        · have hrest := ih (readByte (.inside missing low high value) b).2
          rw [hnone hbetween, List.countP_nil]
          omega
      · have hbroken : ¬ Continued (.inside missing low high value) (b :: rest) := hwithin
        rw [readFrom_of_not_continued hbroken, List.countP_append]
        show [replacement].countP counts + _ ≤ _
        rw [List.countP_cons_of_pos hcounts]
        exact Nat.le_refl _

theorem countP_readFrom_lt {bytes : List UInt8} (h : Continued position bytes) :
    (readFrom position bytes).countP counts <
      (flush position ++ decodeLossy bytes).countP counts := by
  cases position with
  | between => exact absurd h id
  | inside missing low high value =>
    cases bytes with
    | nil => exact absurd h id
    | cons b rest =>
      have hwithin : Within low high b.toNat := h
      obtain ⟨hone, hnone⟩ := readByte_of_within missing value hwithin
      have hcount := List.countP_le_length (p := counts)
        (l := (readByte (.inside missing low high value) b).1)
      have hflush : (flush (.inside missing low high value)).countP counts = 1 :=
        List.countP_cons_of_pos hcounts
      rw [decodeLossy_cons_of_within hwithin, List.countP_append, hflush,
        List.countP_cons_of_pos hcounts]
      show ((readByte (.inside missing low high value) b).1 ++
        readFrom (readByte (.inside missing low high value) b).2 rest).countP counts < _
      rw [List.countP_append]
      by_cases hbetween : (readByte (.inside missing low high value) b).2 = .between
      · rw [hbetween]
        show _ + (decodeLossy rest).countP counts < _
        omega
      · have hrest := countP_readFrom_le hcounts
          (readByte (.inside missing low high value) b).2 rest
        rw [hnone hbetween, List.countP_nil]
        omega

theorem countP_flatten_le (pieces : List (List UInt8)) :
    (decodeLossy pieces.flatten).countP counts ≤ (pieces.flatMap decodeLossy).countP counts := by
  induction pieces with
  | nil => exact Nat.le_refl _
  | cons piece rest ih =>
    rw [List.flatten_cons, List.flatMap_cons, List.countP_append, decodeLossy_append,
      decodeLossy_eq piece, List.countP_append, List.countP_append]
    by_cases hcontinued : Continued (positionAfter .between piece) rest.flatten
    · have hlt := countP_readFrom_lt hcounts hcontinued
      rw [List.countP_append] at hlt
      omega
    · rw [readFrom_of_not_continued hcontinued, List.countP_append]
      omega

/-- **Pieces that are not cut cleanly have a character more than the whole.** -/
theorem cleanlyCut_of_countP_eq {pieces : List (List UInt8)}
    (h : (decodeLossy pieces.flatten).countP counts =
      (pieces.flatMap decodeLossy).countP counts) : CleanlyCut pieces := by
  induction pieces with
  | nil => trivial
  | cons piece rest ih =>
    have hrest := countP_flatten_le hcounts rest
    rw [List.flatten_cons, List.flatMap_cons, List.countP_append, decodeLossy_append,
      decodeLossy_eq piece, List.countP_append, List.countP_append] at h
    by_cases hcontinued : Continued (positionAfter .between piece) rest.flatten
    · have hlt := countP_readFrom_lt hcounts hcontinued
      rw [List.countP_append] at hlt
      omega
    · rw [readFrom_of_not_continued hcontinued, List.countP_append] at h
      exact ⟨hcontinued, ih (by omega)⟩

end

/-! ### Line feeds -/

/-- What a position can still become is no character below `80`. -/
def Position.High : Position → Prop
  | .between => True
  | .inside missing low _ value => 128 ≤ (value * 64 + (low - 128)) * 64 ^ missing ∧ 128 ≤ low

theorem toNat_ofNat {n : Nat} (h : n.isValidChar) : (Char.ofNat n).toNat = n := by
  unfold Char.ofNat
  rw [dif_pos h]
  rfl

theorem ofNat_ne_newline {n : Nat} (h : n ≠ 10) : Char.ofNat n ≠ '\n' := by
  intro heq
  have hnat := congrArg Char.toNat heq
  by_cases hvalid : n.isValidChar
  · rw [toNat_ofNat hvalid] at hnat
    exact h hnat
  · unfold Char.ofNat at hnat
    rw [dif_neg hvalid] at hnat
    exact absurd hnat (by decide)

theorem high_lead {b : Nat} (h : lead b = some position) :
    position.High := by
  unfold lead at h
  split at h
  · obtain rfl := Option.some.inj h
    constructor
    · simp
      omega
    · omega
  · split at h
    · obtain rfl := Option.some.inj h
      constructor
      · by_cases hb : b = 0xE0
        · subst hb
          decide
        · rw [if_neg hb]
          simp
          omega
      · split <;> omega
    · split at h
      · obtain rfl := Option.some.inj h
        constructor
        · by_cases hb : b = 0xF0
          · subst hb
            decide
          · rw [if_neg hb]
            simp
            omega
        · split <;> omega
      · cases h

theorem readFirst_newline (b : UInt8) :
    ('\n' ∈ (readFirst b).1 ↔ b = 10) ∧ (readFirst b).2.High := by
  unfold readFirst
  by_cases hascii : b.toNat < 0x80
  · rw [if_pos hascii]
    refine ⟨?_, trivial⟩
    rw [List.mem_singleton]
    constructor
    · intro h
      have hten : b.toNat = 10 := by
        by_contra hne
        exact ofNat_ne_newline hne h.symm
      exact UInt8.toNat_inj.mp hten
    · rintro rfl
      rfl
  · have hne : b ≠ 10 := by
      rintro rfl
      exact hascii (by decide)
    rw [if_neg hascii]
    cases hlead : lead b.toNat with
    | none => exact ⟨⟨fun h => absurd (List.mem_singleton.mp h) (by decide), fun h => absurd h hne⟩,
        trivial⟩
    | some position => exact ⟨⟨(fun h => by cases h), fun h => absurd h hne⟩, high_lead hlead⟩

theorem readByte_newline (h : position.High) (b : UInt8) :
    ('\n' ∈ (readByte position b).1 ↔ b = 10) ∧ (readByte position b).2.High := by
  cases position with
  | between => exact readFirst_newline b
  | inside missing low high value =>
    obtain ⟨hvalue, hlow⟩ := h
    unfold readByte
    dsimp only
    by_cases hwithin : Within low high b.toNat
    · have hne : b ≠ 10 := by
        rintro rfl
        exact absurd hwithin.1 (by decide)
      have hgrown : value * 64 + (low - 128) ≤ value * 64 + (b.toNat - 128) := by
        have := hwithin.2.2.1
        omega
      rw [if_pos hwithin]
      cases missing with
      | zero =>
        refine ⟨⟨fun hmem => ?_, fun heq => absurd heq hne⟩, trivial⟩
        rw [pow_zero, Nat.mul_one] at hvalue
        exact absurd (List.mem_singleton.mp hmem).symm (ofNat_ne_newline (by omega))
      | succ more =>
        refine ⟨⟨(fun hmem => by cases hmem), fun heq => absurd heq hne⟩, ?_, by decide⟩
        calc 128 ≤ (value * 64 + (low - 128)) * 64 ^ (more + 1) := hvalue
          _ ≤ (value * 64 + (b.toNat - 128)) * 64 ^ (more + 1) :=
            Nat.mul_le_mul_right _ hgrown
          _ = ((value * 64 + (b.toNat - 128)) * 64 + (128 - 128)) * 64 ^ more := by
            rw [pow_succ, Nat.sub_self, Nat.add_zero, Nat.mul_assoc, Nat.mul_comm 64]
    · rw [if_neg hwithin, List.mem_cons]
      obtain ⟨hfirst, hhigh⟩ := readFirst_newline b
      refine ⟨⟨fun hmem => ?_, fun heq => Or.inr (hfirst.mpr heq)⟩, hhigh⟩
      rcases hmem with heq | hmem
      · exact absurd heq (by decide)
      · exact hfirst.mp hmem

/-- **Line feeds stand in a text where their bytes do.** -/
theorem newline_mem_readFrom (h : position.High) (bytes : List UInt8) :
    '\n' ∈ readFrom position bytes ↔ 10 ∈ bytes := by
  induction bytes generalizing position with
  | nil =>
    cases position with
    | between => simp [readFrom, flush]
    | inside missing low high value => simp [readFrom, flush, replacement]
  | cons b rest ih =>
    obtain ⟨hbyte, hhigh⟩ := readByte_newline h b
    show '\n' ∈ (readByte position b).1 ++ readFrom (readByte position b).2 rest ↔ _
    rw [List.mem_append, hbyte, ih hhigh, List.mem_cons, eq_comm]

theorem newline_mem_decodeLossy (bytes : List UInt8) :
    '\n' ∈ decodeLossy bytes ↔ 10 ∈ bytes := @newline_mem_readFrom .between trivial bytes

end Utf8
