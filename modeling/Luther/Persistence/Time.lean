/-
Instants, as the tables store them.

Every time column holds RFC 3339 text in UTC.  Statements compare that text, and
for years of four digits the order of the text is the order of the instants: the
fractional digits are dropped only from the right, and the `+` that ends the text
sorts before `.` and before every digit.  So an instant is the number of
nanoseconds since the Unix epoch, and columns are compared as numbers.
-/
import Mathlib.Algebra.Group.Int.Defs

namespace Luther

/-- A `DateTime<Utc>`: nanoseconds since the Unix epoch. -/
abbrev Timestamp := Int

/-- `DateTime::timestamp_nanos_opt`: nothing where an `i64` cannot hold the count. -/
def Timestamp.timestampNanosOpt (t : Timestamp) : Option Int :=
  if -2 ^ 63 ≤ t ∧ t < 2 ^ 63 then some t else none

def zeroPadded (width n : Nat) : String :=
  let digits := toString n
  String.ofList (List.replicate (width - digits.length) '0') ++ digits

/-- The year, month and day of a number of days since the Unix epoch. -/
def civilFromDays (days : Int) : Int × Nat × Nat :=
  -- Counted from the first of March of year zero, in eras of 400 years.
  let z := days + 719468
  let era := z / 146097
  let doe := (z % 146097).toNat
  let yoe := (doe - doe / 1460 + doe / 36524 - doe / 146096) / 365
  let doy := doe - (365 * yoe + yoe / 4 - yoe / 100)
  let mp := (5 * doy + 2) / 153
  let day := doy - (153 * mp + 2) / 5 + 1
  let month := if mp < 10 then mp + 3 else mp - 9
  (yoe + era * 400 + (if month ≤ 2 then 1 else 0), month, day)

/-- A year: four digits, and a sign before them where four do not suffice. -/
def yearText (year : Int) : String :=
  if 0 ≤ year ∧ year ≤ 9999 then zeroPadded 4 year.toNat
  else (if year < 0 then "-" else "+") ++ zeroPadded 4 year.natAbs

/-- `DateTime::<Utc>::to_rfc3339`: as many groups of three fractional digits as are needed. -/
def Timestamp.toRfc3339 (t : Timestamp) : String :=
  let seconds := t / 1000000000
  let nanos := (t % 1000000000).toNat
  let (year, month, day) := civilFromDays (seconds / 86400)
  let ofDay := (seconds % 86400).toNat
  let fraction :=
    if nanos = 0 then ""
    else if nanos % 1000000 = 0 then "." ++ zeroPadded 3 (nanos / 1000000)
    else if nanos % 1000 = 0 then "." ++ zeroPadded 6 (nanos / 1000)
    else "." ++ zeroPadded 9 nanos
  yearText year ++ "-" ++ zeroPadded 2 month ++ "-" ++ zeroPadded 2 day ++ "T"
    ++ zeroPadded 2 (ofDay / 3600) ++ ":" ++ zeroPadded 2 (ofDay / 60 % 60) ++ ":"
    ++ zeroPadded 2 (ofDay % 60) ++ fraction ++ "+00:00"

/-- The nanoseconds of `chrono::Duration::seconds(secs as i64)`. -/
def durationSeconds (secs : UInt64) : Int := secs.toInt64.toInt * 1000000000

end Luther
