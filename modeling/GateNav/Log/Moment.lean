/-!
# Moments

A `Moment` is a point of time. Its text is the date and the time of day at the zero meridian, down to microseconds.
-/

namespace GateNav.Log

/-- The microseconds since 1970 began. -/
structure Moment where
  micros : Nat
deriving DecidableEq, Repr

namespace Moment

/-- The year, the month and the day so many days after the beginning of 1970. Years are counted from March here, so
that a leap day is the last day of its year, and in eras of 400 years, which all have 146097 days. -/
def date (days : Nat) : Nat × Nat × Nat :=
  let shifted := days + 719468
  let day := shifted % 146097
  let year := (day - day / 1460 + day / 36524 - day / 146096) / 365
  let dayOfYear := day - (365 * year + year / 4 - year / 100)
  let month := (5 * dayOfYear + 2) / 153
  let year := shifted / 146097 * 400 + year
  (if month < 10 then year else year + 1, if month < 10 then month + 3 else month - 9,
    dayOfYear - (153 * month + 2) / 5 + 1)

/-- A number in so many digits at least. -/
def digits (width n : Nat) : String :=
  let text := Nat.toDigits 10 n
  String.ofList (List.replicate (width - text.length) '0' ++ text)

/-- The date and the time of day. -/
def text (m : Moment) : String :=
  let seconds := m.micros / 1000000
  let (year, month, day) := date (seconds / 86400)
  let time := seconds % 86400
  digits 4 year ++ "-" ++ digits 2 month ++ "-" ++ digits 2 day ++ "T" ++ digits 2 (time / 3600) ++ ":" ++
    digits 2 (time / 60 % 60) ++ ":" ++ digits 2 (time % 60) ++ "." ++ digits 6 (m.micros % 1000000) ++ "Z"

end Moment

end GateNav.Log
