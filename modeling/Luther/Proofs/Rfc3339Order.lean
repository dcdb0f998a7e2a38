/-
Instants are told apart by their texts, and sort as they do while their years have four digits.

The tables compare the texts.  Up to the seconds the fields have a fixed width, and the
first in which two texts differ decides.  A fraction is cut behind its last group of digits that
are not all zero: what follows it is a `+`, which sorts before the digits the other text has there.
-/
import Luther.Proofs.Rfc3339
import Mathlib.Data.String.Basic

namespace Luther

variable {m n : Nat} {xs ys l r : List Char}

/-! ### Digits -/

theorem digit_bounds {c : Char} (h : c.isDigit) : 48 ≤ c.toNat ∧ c.toNat ≤ 57 := by
  simpa [Char.isDigit, UInt32.le_iff_toNat_le] using h

theorem char_lt_iff {c d : Char} : c < d ↔ c.toNat < d.toNat :=
  Char.lt_def.trans UInt32.lt_iff_toNat_lt

/-- **Of two texts of as many digits, that of the lesser number sorts first**, whatever follows. -/
theorem append_lt_of_ofDigitChars (hlength : xs.length = ys.length)
    (hxs : ∀ c ∈ xs, c.isDigit = true) (hys : ∀ c ∈ ys, c.isDigit = true) (hle : n ≤ m)
    (h : Nat.ofDigitChars 10 xs m < Nat.ofDigitChars 10 ys n) : m = n ∧ xs ++ l < ys ++ r := by
  induction xs generalizing ys m n with
  | nil =>
    obtain rfl := List.length_eq_zero_iff.mp hlength.symm
    exact absurd h (Nat.not_lt.mpr hle)
  | cons c xs ih =>
    cases ys with
    | nil => cases hlength
    | cons d ys =>
      have hc := digit_bounds (hxs c List.mem_cons_self)
      have hd := digit_bounds (hys d List.mem_cons_self)
      rw [Nat.ofDigitChars_cons, Nat.ofDigitChars_cons] at h
      have hzero : '0'.toNat = 48 := rfl
      rw [hzero] at h
      rw [List.cons_append, List.cons_append, List.cons_lt_cons_iff]
      by_cases hlt : 10 * m + (c.toNat - 48) < 10 * n + (d.toNat - 48)
      · obtain rfl : m = n := by omega
        exact ⟨rfl, .inl (char_lt_iff.mpr (by omega))⟩
      · obtain ⟨heq, hrest⟩ := ih (Nat.succ.inj hlength)
          (fun x hx => hxs x (List.mem_cons_of_mem c hx))
          (fun y hy => hys y (List.mem_cons_of_mem d hy)) (Nat.le_of_not_lt hlt) h
        obtain rfl : m = n := by omega
        exact ⟨rfl, .inr ⟨Char.toNat_inj.mp (by omega), hrest⟩⟩

/-- A field of a fixed width decides, or it is the same. -/
theorem zeroPadded_append_lt {width : Nat} (hpos : 0 < width) (hm : m < 10 ^ width)
    (hn : n < 10 ^ width) (h : m < n ∨ m = n ∧ l < r) :
    (zeroPadded width m).toList ++ l < (zeroPadded width n).toList ++ r := by
  rcases h with h | ⟨rfl, h⟩
  · have hlength : (zeroPadded width m).toList.length = (zeroPadded width n).toList.length := by
      rw [length_zeroPadded hpos hm, length_zeroPadded hpos hn]
    refine (append_lt_of_ofDigitChars hlength (fun _ => isDigit_of_mem_zeroPadded)
      (fun _ => isDigit_of_mem_zeroPadded) (Nat.le_refl 0) ?_).2
    rwa [ofDigitChars_zeroPadded, ofDigitChars_zeroPadded]
  · exact List.append_left_lt h

/-! ### Fractions -/

/-- Digits never sort before as many zeros. -/
theorem not_lt_zeros (hxs : ∀ c ∈ xs, c.isDigit = true) :
    ¬ xs < List.replicate xs.length '0' := by
  induction xs with
  | nil => exact List.lt_irrefl _
  | cons c xs ih =>
    have hc := (digit_bounds (hxs c List.mem_cons_self)).1
    rw [List.length_cons, List.replicate_succ, List.cons_lt_cons_iff]
    rintro (hlt | ⟨-, hlt⟩)
    · exact absurd (char_lt_iff.mp hlt) (Nat.not_lt.mpr hc)
    · exact ih (fun x hx => hxs x (List.mem_cons_of_mem c hx)) hlt

/-- **Zeros may be cut from the end** where what follows sorts before every digit. -/
theorem append_plus_lt {j k : Nat} (hlength : xs.length + j = ys.length + k)
    (hxs : ∀ c ∈ xs, c.isDigit = true) (hys : ∀ c ∈ ys, c.isDigit = true)
    (h : xs ++ List.replicate j '0' < ys ++ List.replicate k '0') :
    xs ++ '+' :: l < ys ++ '+' :: r := by
  induction xs generalizing ys with
  | nil =>
    cases ys with
    | nil =>
      obtain rfl : j = k := by simpa using hlength
      exact absurd h (List.lt_irrefl _)
    | cons d ys =>
      refine List.cons_lt_cons_iff.mpr (.inl (char_lt_iff.mpr ?_))
      exact Nat.lt_of_lt_of_le (by decide) (digit_bounds (hys d List.mem_cons_self)).1
  | cons c xs ih =>
    cases ys with
    | nil =>
      obtain rfl : (c :: xs ++ List.replicate j '0').length = k := by
        rw [List.length_append, List.length_replicate, hlength, List.length_nil, Nat.zero_add]
      refine absurd h (not_lt_zeros fun x hx => ?_)
      rcases List.mem_append.mp hx with hx | hx
      · exact hxs x hx
      · rw [List.eq_of_mem_replicate hx]
        rfl
    | cons d ys =>
      refine List.cons_lt_cons_iff.mpr ((List.cons_lt_cons_iff.mp h).imp_right ?_)
      rintro ⟨rfl, hrest⟩
      exact ⟨rfl, ih (by simpa [Nat.add_right_comm] using hlength)
        (fun x hx => hxs x (List.mem_cons_of_mem c hx))
        (fun y hy => hys y (List.mem_cons_of_mem c hy)) hrest⟩

theorem toDigits_mul_pow (hn : 0 < n) (zeros : Nat) :
    Nat.toDigits 10 (n * 10 ^ zeros) = Nat.toDigits 10 n ++ List.replicate zeros '0' := by
  induction zeros with
  | zero => rw [Nat.pow_zero, Nat.mul_one, List.replicate_zero, List.append_nil]
  | succ zeros ih =>
    have hpos : 0 < n * 10 ^ zeros := Nat.mul_pos hn (Nat.pow_pos (by decide))
    have hstep := Nat.toDigits_append_toDigits (b := 10) (d := 0) (by decide) hpos (by decide)
    rw [Nat.pow_succ, ← Nat.mul_assoc, Nat.mul_comm, ← Nat.add_zero (10 * _), ← hstep, ih,
      List.append_assoc, List.replicate_succ']
    rfl

/-- All nine digits of a fraction: those that are written, and zeros. -/
theorem zeroPadded_nanos {nanos : Nat} (h : nanos < 1000000000) (hpos : nanos ≠ 0) :
    ∃ digits zeros, (fractionText nanos).toList = '.' :: digits ∧
      (zeroPadded 9 nanos).toList = digits ++ List.replicate zeros '0' ∧
      ∀ c ∈ digits, c.isDigit = true := by
  obtain ⟨width, n, -, hn, hzero | ⟨hwidth, htext⟩⟩ := fractionText_eq h
  · exact absurd hzero.1 hpos
  refine ⟨_, 10 - width, htext, ?_, fun _ => isDigit_of_mem_zeroPadded⟩
  have hfactor : 0 < n := Nat.pos_of_ne_zero fun hzero => hpos (by rw [hn, hzero, Nat.zero_mul])
  rw [toList_zeroPadded, toList_zeroPadded, hn, toDigits_mul_pow hfactor, List.length_append,
    List.length_replicate, List.append_assoc]
  congr 2
  omega

theorem fractionText_lt (hn : n < 1000000000) (h : m < n) :
    (fractionText m).toList ++ "+00:00".toList < (fractionText n).toList ++ "+00:00".toList := by
  obtain ⟨ys, k, htextOther, hdigitsOther, hys⟩ := zeroPadded_nanos hn (Nat.ne_zero_of_lt h)
  rw [htextOther]
  by_cases hzero : m = 0
  · subst hzero
    exact List.cons_lt_cons_iff.mpr (.inl (by decide))
  obtain ⟨xs, j, htext, hdigits, hxs⟩ := zeroPadded_nanos (h.trans hn) hzero
  rw [htext]
  refine List.cons_lt_cons_iff.mpr (.inr ⟨rfl, append_plus_lt (j := j) (k := k) ?_ hxs hys ?_⟩)
  · have hlength : ∀ a < 1000000000, (zeroPadded 9 a).toList.length = 9 := fun a ha =>
      length_zeroPadded (by decide) ha
    have hm9 := hlength m (h.trans hn)
    have hn9 := hlength n hn
    rw [hdigits, List.length_append, List.length_replicate] at hm9
    rw [hdigitsOther, List.length_append, List.length_replicate] at hn9
    rw [hm9, hn9]
  · rw [← hdigits, ← hdigitsOther]
    simpa using zeroPadded_append_lt (l := []) (r := []) (by decide : 0 < 9) (h.trans hn) hn (.inl h)

/-! ### The text -/

/-- The year of the instant needs no sign. -/
def FourDigitYear (t : Timestamp) : Prop :=
  0 ≤ (civilFromDays (t / 1000000000 / 86400)).1 ∧ (civilFromDays (t / 1000000000 / 86400)).1 ≤ 9999

instance (t : Timestamp) : Decidable (FourDigitYear t) := inferInstanceAs (Decidable (_ ∧ _))

theorem instant_lt {t u : Int} (h : t < u) : t / 1000000000 / 86400 < u / 1000000000 / 86400 ∨
    t / 1000000000 / 86400 = u / 1000000000 / 86400 ∧
      ((t / 1000000000 % 86400).toNat < (u / 1000000000 % 86400).toNat ∨
        (t / 1000000000 % 86400).toNat = (u / 1000000000 % 86400).toNat ∧
          (t % 1000000000).toNat < (u % 1000000000).toNat) := by
  omega

/-- The fields of the time of day, from the hours on. -/
theorem clock_lt_of_lt (h : m < n) : m / 3600 < n / 3600 ∨ m / 3600 = n / 3600 ∧
    (m / 60 % 60 < n / 60 % 60 ∨ m / 60 % 60 = n / 60 % 60 ∧ m % 60 < n % 60) := by
  omega

theorem separated_lt {width : Nat} (hpos : 0 < width) (hm : m < 10 ^ width) (hn : n < 10 ^ width)
    {c : Char} (h : m < n ∨ m = n ∧ l < r) :
    (zeroPadded width m).toList ++ c :: l < (zeroPadded width n).toList ++ c :: r :=
  zeroPadded_append_lt hpos hm hn
    (h.imp_right (And.imp_right fun h => List.cons_lt_cons_iff.mpr (.inr ⟨rfl, h⟩)))

/-- What stands behind the year and its dash. -/
def behindYear (t : Timestamp) : List Char :=
  let date := civilFromDays (t / 1000000000 / 86400)
  let ofDay := (t / 1000000000 % 86400).toNat
  (zeroPadded 2 date.2.1).toList ++ '-' :: ((zeroPadded 2 date.2.2).toList ++ 'T' ::
    ((zeroPadded 2 (ofDay / 3600)).toList ++ ':' :: ((zeroPadded 2 (ofDay / 60 % 60)).toList ++
      ':' :: ((zeroPadded 2 (ofDay % 60)).toList ++
        ((fractionText (t % 1000000000).toNat).toList ++ "+00:00".toList)))))

theorem toList_eq_behindYear (t : Timestamp) :
    t.toRfc3339.toList =
      (yearText (civilFromDays (t / 1000000000 / 86400)).1).toList ++ '-' :: behindYear t :=
  toList_toRfc3339 t

variable {t u : Timestamp}

/-- **The year of the earlier instant is less, or it is the same and the rest sorts first.** -/
theorem behindYear_lt (h : t < u) :
    (civilFromDays (t / 1000000000 / 86400)).1 < (civilFromDays (u / 1000000000 / 86400)).1 ∨
      (civilFromDays (t / 1000000000 / 86400)).1 = (civilFromDays (u / 1000000000 / 86400)).1 ∧
        behindYear t < behindYear u := by
  obtain ⟨hmonth, hday⟩ := civilFromDays_lt (t / 1000000000 / 86400)
  obtain ⟨hmonthOther, hdayOther⟩ := civilFromDays_lt (u / 1000000000 / 86400)
  obtain ⟨hhour, hminute, hsecond, -⟩ := clock_lt t
  obtain ⟨hhourOther, hminuteOther, hsecondOther, hnanoOther⟩ := clock_lt u
  unfold behindYear
  rcases instant_lt h with hdays | ⟨hdays, hclock⟩
  · refine (civilFromDays_lt_of_lt hdays).imp_right (And.imp_right fun hdate => ?_)
    refine separated_lt (by decide) hmonth hmonthOther ?_
    refine hdate.imp_right (And.imp_right fun hdate => ?_)
    exact separated_lt (by decide) hday hdayOther (.inl hdate)
  rw [hdays]
  refine .inr ⟨rfl, separated_lt (by decide) hmonthOther hmonthOther (.inr ⟨rfl, ?_⟩)⟩
  refine separated_lt (by decide) hdayOther hdayOther (.inr ⟨rfl, ?_⟩)
  refine separated_lt (by decide) hhour hhourOther ?_
  rcases hclock with hclock | ⟨hclock, hnanos⟩
  · refine (clock_lt_of_lt hclock).imp_right (And.imp_right fun hclock => ?_)
    refine separated_lt (by decide) hminute hminuteOther ?_
    refine hclock.imp_right (And.imp_right fun hclock => ?_)
    exact zeroPadded_append_lt (by decide) hsecond hsecondOther (.inl hclock)
  · rw [hclock]
    refine .inr ⟨rfl, separated_lt (by decide) hminuteOther hminuteOther (.inr ⟨rfl, ?_⟩)⟩
    exact zeroPadded_append_lt (by decide) hsecondOther hsecondOther
      (.inr ⟨rfl, fractionText_lt hnanoOther hnanos⟩)

/-- **Instants are told apart by their texts.** -/
theorem toRfc3339_inj (h : t.toRfc3339 = u.toRfc3339) : t = u := by
  have htext := congrArg String.toList h
  rw [toList_eq_behindYear, toList_eq_behindYear] at htext
  obtain ⟨c, rest, hyear, hdash⟩ := toList_yearText (civilFromDays (t / 1000000000 / 86400)).1
  obtain ⟨d, others, hother, hdashOther⟩ :=
    toList_yearText (civilFromDays (u / 1000000000 / 86400)).1
  rw [hyear, hother, List.cons_append, List.cons_append] at htext
  obtain ⟨rfl, htail⟩ := List.cons.inj htext
  obtain ⟨rfl, hbehind⟩ := Fields.append_cons_inj hdash hdashOther htail
  have hyears := yearText_inj (hyear.trans hother.symm)
  rcases lt_trichotomy t u with hlt | rfl | hgt
  · rcases behindYear_lt hlt with hless | ⟨-, hless⟩
    · exact absurd hyears (ne_of_lt hless)
    · exact absurd hbehind (ne_of_lt hless)
  · rfl
  · rcases behindYear_lt hgt with hless | ⟨-, hless⟩
    · exact absurd hyears (ne_of_gt hless)
    · exact absurd hbehind (ne_of_gt hless)

/-- **Earlier instants have texts that sort first.** -/
theorem toRfc3339_lt (ht : FourDigitYear t) (hu : FourDigitYear u) (h : t < u) :
    t.toRfc3339 < u.toRfc3339 := by
  rw [String.lt_iff_toList_lt, toList_eq_behindYear, toList_eq_behindYear]
  unfold FourDigitYear at ht hu
  unfold yearText
  rw [if_pos ht, if_pos hu]
  refine separated_lt (by decide) (by omega) (by omega) ?_
  exact (behindYear_lt h).imp (by omega) (And.imp_left (congrArg Int.toNat))

theorem toRfc3339_lt_iff (ht : FourDigitYear t) (hu : FourDigitYear u) :
    t.toRfc3339 < u.toRfc3339 ↔ t < u := by
  refine ⟨fun htext => ?_, toRfc3339_lt ht hu⟩
  rcases lt_trichotomy t u with hlt | rfl | hgt
  · exact hlt
  · exact absurd htext (lt_irrefl _)
  · exact absurd htext (toRfc3339_lt hu ht hgt).asymm

end Luther
