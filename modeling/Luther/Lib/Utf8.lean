/-
UTF-8, read byte by byte.

Between two bytes a reader is either between two characters or inside of one, and then it knows
how many bytes are missing and which the next may be.  A byte that may not come ends the sequence
it stands in, which is malformed, and begins the next one.  Read so, a malformed sequence is as
long as it could have been the beginning of a character, and one replacement stands for it.
-/
import Luther.Lib.Fields
import Mathlib.Tactic.IntervalCases

namespace Utf8

/-! ### Texts as bytes -/

def encode (text : List Char) : List UInt8 := text.flatMap String.utf8EncodeChar

@[simp] theorem encode_nil : encode [] = [] := rfl

@[simp] theorem encode_cons (c : Char) (text : List Char) :
    encode (c :: text) = String.utf8EncodeChar c ++ encode text := rfl

@[simp] theorem encode_append (a b : List Char) : encode (a ++ b) = encode a ++ encode b :=
  List.flatMap_append

variable {c : Char}

/-- A character below `80` is its own byte. -/
theorem encodeChar_ascii (h : c.toNat < 128) :
    String.utf8EncodeChar c = [UInt8.ofNat c.toNat] := by
  unfold String.utf8EncodeChar
  exact if_pos (Nat.le_of_lt_succ h)

/-- Every other one has bytes from `80` on. -/
theorem le_of_mem_encodeChar (h : 128 ≤ c.toNat) {b : UInt8} (hb : b ∈ String.utf8EncodeChar c) :
    128 ≤ b.toNat := by
  have hlong : ¬ c.val.toNat ≤ 0x7f := Nat.not_le.mpr h
  unfold String.utf8EncodeChar at hb
  dsimp only at hb
  rw [if_neg hlong] at hb
  have hmod : ∀ n k : Nat, 128 ≤ k → k + n < 256 → 128 ≤ (UInt8.ofNat (n + k)).toNat := by
    intro n k hk hlt
    rw [UInt8.toNat_ofNat']
    omega
  split at hb
  · simp only [List.mem_cons, List.not_mem_nil, or_false] at hb
    rcases hb with rfl | rfl <;> exact hmod _ _ (by decide) (by omega)
  · split at hb
    · simp only [List.mem_cons, List.not_mem_nil, or_false] at hb
      rcases hb with rfl | rfl | rfl <;> exact hmod _ _ (by decide) (by omega)
    · simp only [List.mem_cons, List.not_mem_nil, or_false] at hb
      rcases hb with rfl | rfl | rfl | rfl <;> exact hmod _ _ (by decide) (by omega)

/-- **A byte below `80` stands for itself** and in no other character. -/
theorem mem_encode_ascii (hc : c.toNat < 128) {text : List Char} :
    UInt8.ofNat c.toNat ∈ encode text ↔ c ∈ text := by
  unfold encode
  rw [List.mem_flatMap]
  constructor
  · rintro ⟨d, hd, hmem⟩
    have hbyte : (UInt8.ofNat c.toNat).toNat = c.toNat := by
      rw [UInt8.toNat_ofNat']
      omega
    by_cases hascii : d.toNat < 128
    · rw [encodeChar_ascii hascii, List.mem_singleton] at hmem
      have heq := congrArg UInt8.toNat hmem
      rw [hbyte, UInt8.toNat_ofNat', Nat.mod_eq_of_lt (by omega)] at heq
      rwa [Char.toNat_inj.mp heq]
    · have hle := le_of_mem_encodeChar (Nat.not_lt.mp hascii) hmem
      omega
  · intro hmem
    exact ⟨c, hmem, by rw [encodeChar_ascii hc]; exact List.mem_singleton_self _⟩

theorem encodeChar_ne_nil (c : Char) : String.utf8EncodeChar c ≠ [] := by
  unfold String.utf8EncodeChar
  dsimp only
  split
  · exact List.cons_ne_nil _ _
  · split
    · exact List.cons_ne_nil _ _
    · split <;> exact List.cons_ne_nil _ _

theorem isEmpty_encode (text : List Char) : (encode text).isEmpty = text.isEmpty := by
  cases text with
  | nil => rfl
  | cons c rest =>
    obtain ⟨b, bytes, hbytes⟩ := List.exists_cons_of_ne_nil (encodeChar_ne_nil c)
    rw [encode_cons, hbytes]
    rfl

/-! ### Bytes that part a text -/

variable {sep : Char}

/-- **A byte below `80` parts the bytes where its character parts the text.** -/
theorem splitOn_encode (hsep : sep.toNat < 128) (text : List Char) :
    (encode text).splitOn (UInt8.ofNat sep.toNat) = (text.splitOn sep).map encode := by
  induction text with
  | nil => rw [encode_nil, List.splitOn_nil, List.splitOn_nil]; rfl
  | cons c rest ih =>
    by_cases hc : c = sep
    · subst hc
      rw [encode_cons, encodeChar_ascii hsep, List.singleton_append, Fields.splitOn_cons_self,
        Fields.splitOn_cons_self, ih]
      rfl
    · have hbytes : UInt8.ofNat sep.toNat ∉ String.utf8EncodeChar c := by
        intro hmem
        have hone : UInt8.ofNat sep.toNat ∈ encode [c] := by simpa [encode] using hmem
        exact hc (List.mem_singleton.mp ((mem_encode_ascii hsep).mp hone)).symm
      rw [encode_cons, Fields.splitOn_append_of_notMem hbytes, Fields.splitOn_cons_ne hc, ih]
      obtain ⟨first, others, hparts⟩ :=
        List.exists_cons_of_ne_nil (List.splitOn_ne_nil sep rest)
      rw [hparts]
      rfl

theorem fields_encode (hsep : sep.toNat < 128) (text : List Char) :
    Fields.fields (UInt8.ofNat sep.toNat) (encode text) = (Fields.fields sep text).map encode := by
  have hlast : ((text.splitOn sep).map encode).getLast?.all List.isEmpty =
      (text.splitOn sep).getLast?.all List.isEmpty := by
    rw [List.getLast?_map]
    cases (text.splitOn sep).getLast? with
    | none => rfl
    | some part => exact isEmpty_encode part
  unfold Fields.fields
  dsimp only
  rw [splitOn_encode hsep, hlast]
  split
  · exact List.map_dropLast.symm
  · rfl

theorem encode_terminated (hsep : sep.toNat < 128) (lines : List (List Char)) :
    encode (Fields.terminated sep lines) =
      Fields.terminated (UInt8.ofNat sep.toNat) (lines.map encode) := by
  induction lines with
  | nil => rfl
  | cons line rest ih =>
    rw [List.map_cons, Fields.terminated_cons, Fields.terminated_cons, encode_append,
      encode_cons, encodeChar_ascii hsep, ih]
    rfl

/-! ### Bytes as a text -/

def fromUtf8 (bytes : List UInt8) : Option String := String.fromUTF8? ⟨bytes.toArray⟩

theorem toUTF8_eq_encode (text : String) : text.toUTF8.data.toList = encode text.toList := by
  show text.toByteArray.data.toList = _
  rw [← String.utf8Encode_toList]
  simp [List.utf8Encode, encode]

/-- **What is read is what the bytes spell.** -/
theorem fromUtf8_eq_some {bytes : List UInt8} {text : String} :
    fromUtf8 bytes = some text ↔ bytes = encode text.toList := by
  rw [← toUTF8_eq_encode]
  unfold fromUtf8 String.fromUTF8?
  constructor
  · intro h
    split at h
    · rw [← Option.some.inj h]
      rfl
    · cases h
  · rintro rfl
    have hbytes : (⟨text.toUTF8.data.toList.toArray⟩ : ByteArray) = text.toByteArray := rfl
    have hvalid : (⟨text.toUTF8.data.toList.toArray⟩ : ByteArray).IsValidUTF8 :=
      hbytes ▸ text.isValidUTF8
    rw [dif_pos hvalid]
    rfl

end Utf8
