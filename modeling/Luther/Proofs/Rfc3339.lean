/-
The text of an instant, from left to right.

It is a year up to the first dash behind its first character, five numbers of two digits, and a
fraction whose length says how it was cut.  Later days have later dates, century by century.
-/
import Luther.Lib.Fields
import Luther.Persistence.Time
import Mathlib.Tactic.IntervalCases
import Mathlib.Tactic.Cases

namespace Luther

/-! ### The calendar -/

theorem yearOfEra_bounds {doe : Nat} (h : doe < 146097) {yoe : Nat}
    (hyoe : (doe - doe / 1460 + doe / 36524 - doe / 146096) / 365 = yoe) :
    yoe < 400 ∧ 365 * yoe + yoe / 4 - yoe / 100 ≤ doe ∧
      doe < 365 * (yoe + 1) + (yoe + 1) / 4 - (yoe + 1) / 100 + (yoe + 1) / 400 := by
  by_cases hlast : doe = 146096
  · -- The last day of an era, which four centuries of four years leave out.
    subst hlast
    obtain rfl : yoe = 399 := by omega
    decide
  obtain ⟨century, hcentury⟩ : ∃ century, doe / 36524 = century := ⟨_, rfl⟩
  have hnone : doe / 146096 = 0 := by omega
  rw [hcentury, hnone, Nat.sub_zero] at hyoe
  have hcenturies : century ≤ 3 := by omega
  have hhundreds : yoe / 100 = century := by
    interval_cases century <;> omega
  have hfours : doe / 1460 ≤ (yoe + 1) / 4 := by omega
  have hnext : (yoe + 1) / 100 = century ∨ yoe = 100 * century + 99 := by omega
  rw [hhundreds]
  -- Linear, once it is known which century it is, and whether it ends with the year.
  rcases hnext with hnext | rfl
  · rw [hnext]
    interval_cases century <;> omega
  · interval_cases century <;> omega

/-- The first of March of a year, in days since that of year zero. -/
def firstOfMarch (year : Int) : Int := 365 * year + year / 4 - year / 100 + year / 400

/-- **A date tells the year of March it is in and the day of that year.** -/
theorem civilFromDays_spec (days : Int) : ∃ (year : Int) (doy mp : Nat),
    civilFromDays days =
        (year + if mp < 10 then 0 else 1, if mp < 10 then mp + 3 else mp - 9,
          doy - (153 * mp + 2) / 5 + 1) ∧
      mp = (5 * doy + 2) / 153 ∧ doy ≤ 365 ∧ days + 719468 = firstOfMarch year + doy ∧
      days + 719468 < firstOfMarch (year + 1) := by
  obtain ⟨z, hz⟩ : ∃ z, days + 719468 = z := ⟨_, rfl⟩
  obtain ⟨era, hera⟩ : ∃ era, z / 146097 = era := ⟨_, rfl⟩
  obtain ⟨doe, hdoe⟩ : ∃ doe, (z % 146097).toNat = doe := ⟨_, rfl⟩
  obtain ⟨yoe, hyoe⟩ : ∃ yoe, (doe - doe / 1460 + doe / 36524 - doe / 146096) / 365 = yoe :=
    ⟨_, rfl⟩
  have hdays : z = era * 146097 + doe := by omega
  obtain ⟨hyear, hle, hlt⟩ := yearOfEra_bounds (by omega) hyoe
  refine ⟨yoe + era * 400, doe - (365 * yoe + yoe / 4 - yoe / 100), _, ?_, rfl, ?_, ?_, ?_⟩
  · unfold civilFromDays
    dsimp only
    rw [hz, hera, hdoe, hyoe]
    split
    · rw [if_neg (by omega)]
    · rw [if_pos (by omega)]
  · clear hz hera hdoe hyoe hdays
    omega
  all_goals
    rw [hz, hdays]
    unfold firstOfMarch
    clear hz hera hdoe hyoe hdays
    omega

/-- **Later days have later dates.** -/
theorem civilFromDays_lt_of_lt {a b : Int} (h : a < b) :
    (civilFromDays a).1 < (civilFromDays b).1 ∨
      (civilFromDays a).1 = (civilFromDays b).1 ∧
        ((civilFromDays a).2.1 < (civilFromDays b).2.1 ∨
          (civilFromDays a).2.1 = (civilFromDays b).2.1 ∧
            (civilFromDays a).2.2 < (civilFromDays b).2.2) := by
  obtain ⟨year, doy, mp, hdate, hmp, hdoy, hday, hyear⟩ := civilFromDays_spec a
  obtain ⟨other, doyOther, mpOther, hdateOther, hmpOther, hdoyOther, hdayOther, -⟩ :=
    civilFromDays_spec b
  have hle : year ≤ other := by
    by_contra hlt
    unfold firstOfMarch at *
    omega
  rw [hdate, hdateOther]
  dsimp only
  rcases hle.lt_or_eq with hlt | rfl
  · split <;> split <;> omega
  · have hlt : doy < doyOther := by omega
    split <;> split <;> omega

theorem civilFromDays_lt (days : Int) :
    (civilFromDays days).2.1 < 100 ∧ (civilFromDays days).2.2 < 100 := by
  obtain ⟨year, doy, mp, hdate, hmp, hdoy, -⟩ := civilFromDays_spec days
  rw [hdate]
  constructor
  · dsimp only
    split <;> omega
  · dsimp only
    omega

/-! ### Numbers -/

theorem toList_zeroPadded (width n : Nat) :
    (zeroPadded width n).toList =
      List.replicate (width - (Nat.toDigits 10 n).length) '0' ++ Nat.toDigits 10 n := by
  unfold zeroPadded
  rw [String.toList_append, String.toList_ofList, Nat.toString_eq_ofList_toDigits,
    String.toList_ofList, String.length_ofList]

/-- **A number is read back from its digits**, whatever stands before them. -/
theorem ofDigitChars_zeroPadded (width n : Nat) :
    Nat.ofDigitChars 10 (zeroPadded width n).toList 0 = n := by
  rw [toList_zeroPadded, Nat.ofDigitChars_append, Nat.ofDigitChars_replicate_zero, Nat.mul_zero,
    Nat.ofDigitChars_ten_toDigits]

variable {width m n : Nat} {c : Char}

theorem zeroPadded_inj (h : (zeroPadded width m).toList = (zeroPadded width n).toList) : m = n := by
  rw [← ofDigitChars_zeroPadded width m, h, ofDigitChars_zeroPadded]

theorem length_zeroPadded (hpos : 0 < width) (h : n < 10 ^ width) :
    (zeroPadded width n).toList.length = width := by
  have hle := (Nat.length_toDigits_le_iff (by decide) hpos).mpr h
  rw [toList_zeroPadded, List.length_append, List.length_replicate]
  omega

theorem isDigit_of_mem_zeroPadded (h : c ∈ (zeroPadded width n).toList) : c.isDigit = true := by
  rw [toList_zeroPadded] at h
  rcases List.mem_append.mp h with h | h
  · rw [List.eq_of_mem_replicate h]
    rfl
  · exact Nat.isDigit_of_mem_toDigits (by decide) (by decide) h

/-! ### Years and fractions -/

theorem toList_yearText (year : Int) :
    ∃ c rest, (yearText year).toList = c :: rest ∧ '-' ∉ rest := by
  have hdash : ∀ n, '-' ∉ (zeroPadded 4 n).toList := fun n hmem =>
    absurd (isDigit_of_mem_zeroPadded hmem) (by decide)
  unfold yearText
  by_cases hyear : 0 ≤ year ∧ year ≤ 9999
  · rw [if_pos hyear]
    have hlength : (zeroPadded 4 year.toNat).toList.length = 4 :=
      length_zeroPadded (by decide) (by omega)
    cases htext : (zeroPadded 4 year.toNat).toList with
    | nil =>
      rw [htext] at hlength
      cases hlength
    | cons c rest =>
      exact ⟨c, rest, rfl, fun hmem => hdash year.toNat (htext ▸ List.mem_cons_of_mem _ hmem)⟩
  · rw [if_neg hyear, String.toList_append]
    by_cases hneg : year < 0
    · rw [if_pos hneg]
      exact ⟨'-', _, rfl, hdash _⟩
    · rw [if_neg hneg]
      exact ⟨'+', _, rfl, hdash _⟩

theorem head_yearText (year : Int) :
    ∃ c ∈ (yearText year).toList.head?,
      if 0 ≤ year ∧ year ≤ 9999 then c.isDigit = true else c = if year < 0 then '-' else '+' := by
  obtain ⟨c, rest, htext, -⟩ := toList_yearText year
  refine ⟨c, by rw [htext]; rfl, ?_⟩
  by_cases hyear : 0 ≤ year ∧ year ≤ 9999
  · rw [if_pos hyear]
    unfold yearText at htext
    rw [if_pos hyear] at htext
    exact isDigit_of_mem_zeroPadded (htext ▸ List.mem_cons_self)
  · rw [if_neg hyear]
    unfold yearText at htext
    rw [if_neg hyear, String.toList_append] at htext
    by_cases hneg : year < 0
    · rw [if_pos hneg] at htext ⊢
      exact (List.cons.inj htext).1.symm
    · rw [if_neg hneg] at htext ⊢
      exact (List.cons.inj htext).1.symm

theorem yearText_inj {y z : Int} (h : (yearText y).toList = (yearText z).toList) : y = z := by
  obtain ⟨c, hc, hy⟩ := head_yearText y
  obtain ⟨d, hd, hz⟩ := head_yearText z
  rw [h] at hc
  obtain rfl := Option.mem_unique hc hd
  unfold yearText at h
  by_cases hyear : 0 ≤ y ∧ y ≤ 9999
  · rw [if_pos hyear] at hy h
    by_cases hother : 0 ≤ z ∧ z ≤ 9999
    · rw [if_pos hother] at h
      have := zeroPadded_inj h
      omega
    · rw [if_neg hother] at hz
      rw [hz] at hy
      split at hy <;> exact absurd hy (by decide)
  · rw [if_neg hyear] at hy h
    by_cases hother : 0 ≤ z ∧ z ≤ 9999
    · rw [if_pos hother] at hz
      rw [hy] at hz
      split at hz <;> exact absurd hz (by decide)
    · rw [if_neg hother] at hz h
      rw [hy] at hz
      have habs : y.natAbs = z.natAbs := by
        rw [String.toList_append, String.toList_append] at h
        refine @zeroPadded_inj 4 _ _ (List.append_inj_right h ?_)
        split <;> split <;> rfl
      by_cases hneg : y < 0
      · by_cases hnegOther : z < 0
        · omega
        · rw [if_pos hneg, if_neg hnegOther] at hz
          exact absurd hz (by decide)
      · by_cases hnegOther : z < 0
        · rw [if_neg hneg, if_pos hnegOther] at hz
          exact absurd hz (by decide)
        · omega

/-- The fraction of a second, in as many groups of three digits as it needs. -/
def fractionText (nanos : Nat) : String :=
  if nanos = 0 then ""
  else if nanos % 1000000 = 0 then "." ++ zeroPadded 3 (nanos / 1000000)
  else if nanos % 1000 = 0 then "." ++ zeroPadded 6 (nanos / 1000)
  else "." ++ zeroPadded 9 nanos

theorem fractionText_eq {nanos : Nat} (h : nanos < 1000000000) :
    ∃ width n, (fractionText nanos).toList.length = width ∧
      nanos = n * 10 ^ (10 - width) ∧
      (nanos = 0 ∧ width = 0 ∨
        (0 < width ∧ width ≤ 10) ∧
          (fractionText nanos).toList = '.' :: (zeroPadded (width - 1) n).toList) := by
  unfold fractionText
  by_cases hzero : nanos = 0
  · rw [if_pos hzero]
    exact ⟨0, 0, rfl, by omega, .inl ⟨hzero, rfl⟩⟩
  rw [if_neg hzero]
  have hdigits : ∀ width n, 0 < width → n < 10 ^ width →
      ("." ++ zeroPadded width n).toList.length = width + 1 ∧
        ("." ++ zeroPadded width n).toList = '.' :: (zeroPadded width n).toList := by
    intro width n hpos hn
    have htext : ("." ++ zeroPadded width n).toList = '.' :: (zeroPadded width n).toList := by
      rw [String.toList_append]
      rfl
    rw [htext, List.length_cons, length_zeroPadded hpos hn]
    exact ⟨rfl, rfl⟩
  by_cases hmillis : nanos % 1000000 = 0
  · rw [if_pos hmillis]
    obtain ⟨hlength, htext⟩ := hdigits 3 (nanos / 1000000) (by decide) (by omega)
    exact ⟨4, nanos / 1000000, hlength, by omega, .inr ⟨by decide, htext⟩⟩
  rw [if_neg hmillis]
  by_cases hmicros : nanos % 1000 = 0
  · rw [if_pos hmicros]
    obtain ⟨hlength, htext⟩ := hdigits 6 (nanos / 1000) (by decide) (by omega)
    exact ⟨7, nanos / 1000, hlength, by omega, .inr ⟨by decide, htext⟩⟩
  rw [if_neg hmicros]
  obtain ⟨hlength, htext⟩ := hdigits 9 nanos (by decide) (by omega)
  exact ⟨10, nanos, hlength, by omega, .inr ⟨by decide, htext⟩⟩

/-! ### The text -/

theorem toList_toRfc3339 (t : Timestamp) :
    let date := civilFromDays (t / 1000000000 / 86400)
    let ofDay := (t / 1000000000 % 86400).toNat
    t.toRfc3339.toList =
      (yearText date.1).toList ++ '-' :: ((zeroPadded 2 date.2.1).toList ++ '-' ::
        ((zeroPadded 2 date.2.2).toList ++ 'T' :: ((zeroPadded 2 (ofDay / 3600)).toList ++ ':' ::
          ((zeroPadded 2 (ofDay / 60 % 60)).toList ++ ':' :: ((zeroPadded 2 (ofDay % 60)).toList ++
            ((fractionText (t % 1000000000).toNat).toList ++ "+00:00".toList)))))) := by
  intro date ofDay
  have hdash : "-".toList = ['-'] := rfl
  have hcolon : ":".toList = [':'] := rfl
  have htime : "T".toList = ['T'] := rfl
  unfold Timestamp.toRfc3339
  show (yearText date.1 ++ "-" ++ zeroPadded 2 date.2.1 ++ "-" ++ zeroPadded 2 date.2.2 ++ "T"
    ++ zeroPadded 2 (ofDay / 3600) ++ ":" ++ zeroPadded 2 (ofDay / 60 % 60) ++ ":"
    ++ zeroPadded 2 (ofDay % 60) ++ fractionText (t % 1000000000).toNat ++ "+00:00").toList = _
  simp only [String.toList_append, hdash, hcolon, htime, List.append_assoc, List.nil_append,
    List.cons_append]

/-- Hours, minutes and seconds have two digits at most, and there are fewer nanoseconds than make a
second. -/
theorem clock_lt (t : Int) :
    (t / 1000000000 % 86400).toNat / 3600 < 100 ∧
      (t / 1000000000 % 86400).toNat / 60 % 60 < 100 ∧
      (t / 1000000000 % 86400).toNat % 60 < 100 ∧ (t % 1000000000).toNat < 1000000000 := by
  omega

theorem at_notMem_toRfc3339 (t : Timestamp) : '@' ∉ t.toRfc3339.toList := by
  have hdigits : ∀ width n, '@' ∉ (zeroPadded width n).toList := fun width n hmem =>
    absurd (isDigit_of_mem_zeroPadded hmem) (by decide)
  have hyear : '@' ∉ (yearText (civilFromDays (t / 1000000000 / 86400)).1).toList := by
    unfold yearText
    split
    · exact hdigits _ _
    · rw [String.toList_append, List.mem_append, not_or]
      refine ⟨?_, hdigits _ _⟩
      split <;> decide
  have hfraction : '@' ∉ (fractionText (t % 1000000000).toNat).toList := by
    have hlt := (clock_lt t).2.2.2
    obtain ⟨width, n, hwidth, -, hzero | ⟨-, htext⟩⟩ := fractionText_eq hlt
    · rw [List.length_eq_zero_iff.mp (hwidth.trans hzero.2)]
      exact List.not_mem_nil
    · rw [htext, List.mem_cons, not_or]
      exact ⟨by decide, hdigits _ _⟩
  rw [toList_toRfc3339]
  simp only [List.mem_append, List.mem_cons, not_or]
  exact ⟨hyear, by decide, hdigits _ _, by decide, hdigits _ _, by decide, hdigits _ _, by decide,
    hdigits _ _, by decide, hdigits _ _, hfraction, by decide⟩

end Luther
