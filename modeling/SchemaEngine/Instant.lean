/-!
# Instants

An `Instant` is a number of seconds since the start of 1970, UTC, and a number of
nanoseconds within the second.  Nanoseconds from `10 ^ 9` on belong to a leap
second: they are counted on from the second before it, so a leap second is an
instant of its own and not the next second.

`Instant.render` writes an instant as a date and time of day with three digits
after the point; further digits are cut off.  `Instant.spelled` keeps them.  The calendar
is the Gregorian one at all times.
-/

namespace SchemaEngine

/-- A moment in UTC. -/
structure Instant where
  /-- Whole seconds since the start of 1970. -/
  seconds : Int
  /-- Nanoseconds within the second; from `10 ^ 9` on, within the leap second after it. -/
  nanos : Nat
deriving DecidableEq

namespace Instant

/-- A day of the Gregorian calendar. -/
@[ext]
structure Day where
  /-- The year; 0 is the year before 1. -/
  year : Int
  /-- The month, from 1. -/
  month : Nat
  /-- The day of the month, from 1. -/
  day : Nat
deriving DecidableEq

/-- The day that is `n` days after the first of January 1970.  Years are taken to
begin in March, so that the leap day comes last, and are counted within eras of
400 years, which all have 146097 days. -/
def dayOfCount (n : Int) : Day :=
  let shifted := n + 719468
  let era := shifted / 146097
  let inEra := (shifted % 146097).toNat
  let yearOfEra := (inEra - inEra / 1460 + inEra / 36524 - inEra / 146096) / 365
  let inYear := inEra - (365 * yearOfEra + yearOfEra / 4 - yearOfEra / 100)
  let month := (5 * inYear + 2) / 153
  let year := (yearOfEra : Int) + era * 400
  { year := if month < 10 then year else year + 1
    month := if month < 10 then month + 3 else month - 9
    day := inYear - (153 * month + 2) / 5 + 1 }

/-- The digits of `n`, with zeros in front up to a width. -/
def padded (width n : Nat) : String :=
  let digits := toString n
  String.ofList (List.replicate (width - digits.length) '0') ++ digits

/-- A year: four digits, and a sign outside the years 0 to 9999. -/
def renderYear (y : Int) : String :=
  if y < 0 then "-" ++ padded 4 y.natAbs
  else if y ≤ 9999 then padded 4 y.natAbs
  else "+" ++ padded 4 y.natAbs

/-- The date and the time of day, to the second.  A leap second is second 60 of its
minute. -/
def clock (t : Instant) : String :=
  let day := dayOfCount (t.seconds / 86400)
  let ofDay := (t.seconds % 86400).toNat
  let leap := t.nanos / 1000000000
  renderYear day.year ++ "-" ++ padded 2 day.month ++ "-" ++ padded 2 day.day ++ "T"
    ++ padded 2 (ofDay / 3600) ++ ":" ++ padded 2 (ofDay / 60 % 60) ++ ":"
    ++ padded 2 (ofDay % 60 + leap)

/-- An instant as date, time of day and milliseconds, UTC. -/
def render (t : Instant) : String :=
  t.clock ++ "." ++ padded 3 (t.nanos % 1000000000 / 1000000) ++ "Z"

/-- A part of a second in nanoseconds: three, six or nine digits, as many as it takes, and
none for a whole second. -/
def fraction (n : Nat) : String :=
  if n = 0 then ""
  else if n % 1000000 = 0 then "." ++ padded 3 (n / 1000000)
  else if n % 1000 = 0 then "." ++ padded 6 (n / 1000)
  else "." ++ padded 9 n

/-- An instant spelled out, to the nanosecond. -/
def spelled (t : Instant) : String := t.clock ++ fraction (t.nanos % 1000000000) ++ "Z"

end Instant

end SchemaEngine
