/-
Byte strings put one after another so that they can be told apart again.

To hash several fields at once a program writes them into one buffer.  Written
bare, two different lists of fields can give one buffer; written with their length
in front, they cannot.  This holds as long as the length fits the bytes it is
written in, and not a byte further: a length that does not fit is written as the
largest that does.
-/
import Mathlib.Data.Nat.ModEq
import Mathlib.Tactic.Ring

namespace Framing

/-- The lowest `width` bytes of a number, most significant first. -/
def beBytes : Nat → Nat → List UInt8
  | 0, _ => []
  | width + 1, n => UInt8.ofNat (n / 256 ^ width) :: beBytes width n

/-- The number that bytes spell, most significant first. -/
def ofBeBytes : List UInt8 → Nat
  | [] => 0
  | b :: rest => b.toNat * 256 ^ rest.length + ofBeBytes rest

@[simp] theorem length_beBytes (width n : Nat) : (beBytes width n).length = width := by
  induction width with
  | zero => rfl
  | succ width ih => simp only [beBytes, List.length_cons, ih]

theorem ofBeBytes_beBytes (width n : Nat) : ofBeBytes (beBytes width n) = n % 256 ^ width := by
  induction width with
  | zero => simp [beBytes, ofBeBytes, Nat.mod_one]
  | succ width ih =>
    have hbyte : (UInt8.ofNat (n / 256 ^ width)).toNat = n / 256 ^ width % 256 := by simp
    rw [beBytes, ofBeBytes, length_beBytes, ih, hbyte, pow_succ, Nat.mod_mul]
    ring

variable {width : Nat}

/-- **Numbers that fit are told apart by their bytes.** -/
theorem beBytes_inj {m n : Nat} (hm : m < 256 ^ width) (hn : n < 256 ^ width)
    (h : beBytes width m = beBytes width n) : m = n := by
  have hof := congrArg ofBeBytes h
  rwa [ofBeBytes_beBytes, ofBeBytes_beBytes, Nat.mod_eq_of_lt hm, Nat.mod_eq_of_lt hn] at hof

/-- A byte string behind its length, which is cut to the largest that fits. -/
def lenPrefixed (width : Nat) (bytes : List UInt8) : List UInt8 :=
  beBytes width (min bytes.length (256 ^ width - 1)) ++ bytes

/-- **What is framed is told apart from what follows it.** -/
theorem lenPrefixed_append_inj {a b x y : List UInt8} (ha : a.length < 256 ^ width)
    (hb : b.length < 256 ^ width) (h : lenPrefixed width a ++ x = lenPrefixed width b ++ y) :
    a = b ∧ x = y := by
  unfold lenPrefixed at h
  rw [List.append_assoc, List.append_assoc] at h
  have hlen : (beBytes width (min a.length (256 ^ width - 1))).length
      = (beBytes width (min b.length (256 ^ width - 1))).length := by simp
  obtain ⟨hlenBytes, hrest⟩ := List.append_inj h hlen
  have hab : a.length = b.length := by
    have := beBytes_inj (by omega) (by omega) hlenBytes
    omega
  exact List.append_inj hrest hab

theorem lenPrefixed_inj {a b : List UInt8} (ha : a.length < 256 ^ width)
    (hb : b.length < 256 ^ width) (h : lenPrefixed width a = lenPrefixed width b) : a = b := by
  have h' : lenPrefixed width a ++ [] = lenPrefixed width b ++ [] := by rw [h]
  exact (lenPrefixed_append_inj ha hb h').1

/-! ### Whole buffers -/

/-- The fields one after another, each behind its length. -/
def buffer (width : Nat) (fields : List (List UInt8)) : List UInt8 :=
  fields.flatMap (lenPrefixed width)

@[simp] theorem buffer_nil (width : Nat) : buffer width [] = [] := rfl

@[simp] theorem buffer_cons (width : Nat) (field : List UInt8) (fields : List (List UInt8)) :
    buffer width (field :: fields) = lenPrefixed width field ++ buffer width fields := rfl

/-- **A buffer of so many fields is read back in one way only.** -/
theorem buffer_inj {xs ys : List (List UInt8)} (hcount : xs.length = ys.length)
    (hxs : ∀ x ∈ xs, x.length < 256 ^ width) (hys : ∀ y ∈ ys, y.length < 256 ^ width) :
    buffer width xs = buffer width ys ↔ xs = ys := by
  refine ⟨fun h => ?_, congrArg _⟩
  induction xs generalizing ys with
  | nil => exact (List.eq_nil_of_length_eq_zero hcount.symm).symm
  | cons x xs ih =>
    obtain _ | ⟨y, ys⟩ := ys
    · simp at hcount
    · rw [buffer_cons, buffer_cons] at h
      obtain ⟨hfield, hrest⟩ := lenPrefixed_append_inj (hxs x (by simp)) (hys y (by simp)) h
      have htail : xs = ys := by
        apply ih (by simpa using hcount) _ _ hrest
        · intro z hz
          exact hxs z (List.mem_cons_of_mem _ hz)
        · intro z hz
          exact hys z (List.mem_cons_of_mem _ hz)
      rw [hfield, htail]

end Framing
