/-!
Points in time, to the nanosecond. An instant is written as a date of the
Gregorian calendar, which is taken to hold for all years, and a time of day.
-/

namespace RecordValidation

/-- A point in time, by the nanoseconds since the start of 1970. -/
structure Instant where
  nanos : Int
  deriving DecidableEq, Repr

namespace Instant

def nanosPerSecond : Int := 1000000000

/-- An instant by whole seconds and the nanoseconds that follow them. -/
def ofSeconds (seconds nanos : Int) : Instant := ⟨seconds * nanosPerSecond + nanos⟩

/-- The whole seconds that have passed since the start of 1970, or the negative
number of those still to pass, the second at hand included. -/
def seconds (t : Instant) : Int := Int.fdiv t.nanos nanosPerSecond

/-- How long ago an instant was, in whole seconds; the fraction is dropped. So an
instant in the future has a negative age, unless it is less than a second away:
then its age is zero. -/
def ageAt (t now : Instant) : Int := Int.tdiv (now.nanos - t.nanos) nanosPerSecond

/-- A day of the calendar. -/
structure Date where
  year : Int
  month : Nat
  day : Nat
  deriving DecidableEq, Repr

/-- The date of a day counted from the start of 1970. Years are counted from
March here, in eras of 400 years, so the day that leap years add comes last. -/
def Date.ofDays (days : Int) : Date :=
  let shifted := days + 719468
  let era := Int.fdiv shifted 146097
  let dayOfEra := (Int.fmod shifted 146097).toNat
  let yearOfEra :=
    (dayOfEra - dayOfEra / 1460 + dayOfEra / 36524 - dayOfEra / 146096) / 365
  let dayOfYear := dayOfEra - (365 * yearOfEra + yearOfEra / 4 - yearOfEra / 100)
  let marchMonth := (5 * dayOfYear + 2) / 153
  let day := dayOfYear - (153 * marchMonth + 2) / 5 + 1
  let month := if marchMonth < 10 then marchMonth + 3 else marchMonth - 9
  let year := yearOfEra + era * 400 + if month ≤ 2 then 1 else 0
  ⟨year, month, day⟩

/-- A number with zeros before it, to a width. -/
def padded (width n : Nat) : String :=
  let digits := Nat.toDigits 10 n
  String.ofList (List.replicate (width - digits.length) '0' ++ digits)

/-- A year has four digits, and a sign if it is beyond them. -/
def yearText (year : Int) : String :=
  if 0 ≤ year ∧ year ≤ 9999 then padded 4 year.toNat
  else (if year < 0 then "-" else "+") ++ padded 4 year.natAbs

/-- The fraction of a second in milliseconds, microseconds or nanoseconds, by
the coarsest unit that gives it in full. -/
def fractionText (nanos : Nat) : String :=
  if nanos = 0 then ""
  else if nanos % 1000000 = 0 then "." ++ padded 3 (nanos / 1000000)
  else if nanos % 1000 = 0 then "." ++ padded 6 (nanos / 1000)
  else "." ++ padded 9 nanos

def text (t : Instant) : String :=
  let date := Date.ofDays (Int.fdiv t.seconds 86400)
  let second := (Int.fmod t.seconds 86400).toNat
  let nanos := (Int.fmod t.nanos nanosPerSecond).toNat
  yearText date.year ++ "-" ++ padded 2 date.month ++ "-" ++ padded 2 date.day ++ "T" ++
    padded 2 (second / 3600) ++ ":" ++ padded 2 (second / 60 % 60) ++ ":" ++
    padded 2 (second % 60) ++ fractionText nanos ++ "Z"

end Instant

end RecordValidation
