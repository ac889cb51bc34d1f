import Shopping.Lib.Digits

/-!
# Calendar dates

The date of a clock reading in seconds since 1 January 1970, UTC, and the
parts of it that are printed.  The day is counted in eras of 400 years, which
all have 146097 days, and in years that begin on 1 March, so that the leap day
is the last one of its year.
-/

namespace Shopping

/-- A day of the Gregorian calendar. -/
structure Date where
  year : Nat
  month : Nat
  day : Nat
  deriving DecidableEq, Repr

namespace Date

/-- The date of the day `days` after 1 January 1970. -/
def ofDays (days : Nat) : Date :=
  -- 1 January 1970 is 719468 days after 1 March 0000.
  let era := (days + 719468) / 146097
  let dayOfEra := (days + 719468) % 146097
  let yearOfEra := (dayOfEra - dayOfEra / 1460 + dayOfEra / 36524 - dayOfEra / 146096) / 365
  let dayOfYear := dayOfEra - (365 * yearOfEra + yearOfEra / 4 - yearOfEra / 100)
  let marchMonth := (5 * dayOfYear + 2) / 153
  let month := if marchMonth < 10 then marchMonth + 3 else marchMonth - 9
  { year := era * 400 + yearOfEra + if month ≤ 2 then 1 else 0
    month := month
    day := dayOfYear - (153 * marchMonth + 2) / 5 + 1 }

/-- The date of a clock reading. -/
def ofSeconds (t : Nat) : Date := ofDays (t / 86400)

/-- `strftime("%Y-%m")`. -/
def yearMonth (d : Date) : String := zeroPadded 4 d.year ++ "-" ++ zeroPadded 2 d.month

/-- `strftime("%Y%m%d")`. -/
def compact (d : Date) : String :=
  zeroPadded 4 d.year ++ zeroPadded 2 d.month ++ zeroPadded 2 d.day

end Date

example : (Date.ofSeconds 1736942400).compact = "20250115" := by decide +kernel

end Shopping
