import CoreCheck.Number.Decimal

/-!
# Instant — points in time, in the civil calendar

An instant is a count of seconds from the start of 1970 in UTC, with nanoseconds. The calendar date
is found by counting days in the cycle of 400 years, which always has 146097 days.
-/

namespace CoreCheck

/-- **A point in time**: seconds from the start of 1970, and nanoseconds. -/
structure Instant where
  seconds : Int
  nanos : Nat
deriving DecidableEq, Inhabited

namespace Instant

/-- The year, month and day of a count of days from the start of 1970. Years are counted from March
here, so that the leap day is the last day of a year. -/
def civil (days : Int) : Int × Nat × Nat :=
  let shifted := days + 719468
  let era := shifted.fdiv 146097
  let day := (shifted - era * 146097).toNat
  let year := (day - day / 1460 + day / 36524 - day / 146096) / 365
  let inYear := day - (365 * year + year / 4 - year / 100)
  let index := (5 * inYear + 2) / 153
  let month := if index < 10 then index + 3 else index - 9
  let base : Int := year + era * 400
  (if month ≤ 2 then base + 1 else base, month, inYear - (153 * index + 2) / 5 + 1)

/-- A number with a fixed count of digits. -/
def padded (places n : Nat) : List Char := padDigits places (digitsOf n)

/-- The date and the time of day, with a separator between them, and the fraction of a second. -/
def civilChars (t : Instant) (sep : Char) : List Char :=
  let (y, m, d) := civil (t.seconds.fdiv 86400)
  let s := (t.seconds.fmod 86400).toNat
  let year := (if y < 0 then ['-'] else []) ++ padded 4 y.natAbs
  let frac := match dropTrailingZeros (padded 9 t.nanos) with
    | [] => []
    | ds => '.' :: ds
  year ++ '-' :: padded 2 m ++ '-' :: padded 2 d ++ sep :: padded 2 (s / 3600) ++
    ':' :: padded 2 (s / 60 % 60) ++ ':' :: padded 2 (s % 60) ++ frac

/-- The form used in traces: `2006-01-02T15:04:05.5Z`. -/
def traceText (t : Instant) : String := String.ofList (t.civilChars 'T' ++ ['Z'])

/-- The form used in messages: `2006-01-02 15:04:05.5 +0000 UTC`. -/
def plainText (t : Instant) : String := String.ofList (t.civilChars ' ') ++ " +0000 UTC"

end Instant

end CoreCheck
