/-
What digests are computed over.

SHA-256 comes from a crate and is a parameter here: a function from bytes to the
text of the digest.  Where a result needs that no two inputs collide it says so.
The bytes themselves are built by the repository, and are modelled.
-/
import Luther.Lib.Framing
import Mathlib.Data.List.Basic

namespace Luther

/-- The digest of a byte string, in lower-case hexadecimal. -/
abbrev Sha256Hex := List UInt8 → String

def asBytes (s : String) : List UInt8 := s.toUTF8.data.toList

theorem asBytes_inj {s t : String} (h : asBytes s = asBytes t) : s = t :=
  String.toByteArray_inj.mp (ByteArray.ext (Array.toList_inj.mp h))

theorem length_asBytes (s : String) : (asBytes s).length = s.utf8ByteSize := rfl

/-- `push_len_prefixed`: behind its length as a `u64`. -/
def pushLenPrefixed (bytes : List UInt8) : List UInt8 := Framing.lenPrefixed 8 bytes

/-- `write_len_prefixed`: behind its length as a `u32`. -/
def writeLenPrefixed (bytes : List UInt8) : List UInt8 := Framing.lenPrefixed 4 bytes

/-- The bytes as characters: a stand-in for a digest that no two inputs share. -/
def spelled : Sha256Hex := fun bytes => String.ofList (bytes.map Char.ofUInt8)

theorem spelled_injective : Function.Injective spelled := by
  have hchar : Function.Injective Char.ofUInt8 := by
    intro a b h
    have hval := congrArg Char.val h
    exact UInt8.toUInt32_inj.mp hval
  intro xs ys h
  exact List.map_injective_iff.mpr hchar (String.ofList_injective h)

end Luther
