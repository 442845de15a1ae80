/-!
# `Instant.lean` — points in time and how they are written

An instant is a number of seconds since the beginning of 1970 and a part of a second. A part of a
second or more beyond stands for a leap second, which is written as second 60.

Instants are written in the calendar of today, extended to all years: date and time, and as many
digits of the part as it needs, in groups of three. Years of more than four digits, and years
before the year zero, carry a sign.

A report shows when its run began and ended in this form, always in universal time. The calendar is
computed and not looked up, and it is proved elsewhere that an instant can be read back from its
text.
-/

set_option autoImplicit false

namespace CatalogEntities

/-- **A point in time.** -/
structure Instant where
  seconds : Int
  /-- Nanoseconds into the second; from a thousand million on, nanoseconds into a leap second. -/
  nanos : Nat
  deriving Repr, DecidableEq

/-- **A day of the calendar.** -/
structure CalendarDay where
  year : Int
  month : Nat
  day : Nat
  deriving Repr, DecidableEq

namespace CalendarDay

/-- Days of four hundred years, after which the calendar repeats. -/
def cycle : Int := 146097

/-- Days from the first of March of the year zero to the beginning of 1970. -/
def epoch : Int := 719468

/-- The year of a cycle that a day of it belongs to, if years begin in March. The three corrections
take out the leap days before the day, so that what is left is years of 365 days. -/
def yearOfCycle (day : Nat) : Nat := (day - day / 1460 + day / 36524 - day / 146096) / 365

/-- The day of a cycle on which a year of it begins, in March. -/
def startOfYear (year : Nat) : Nat := 365 * year + year / 4 - year / 100

/-- The day on which a month begins, counted from March on. From March the lengths of months repeat
every five months, in which there are 153 days; February is the last and may be cut short. -/
def startOfMonth (month : Nat) : Nat := (153 * month + 2) / 5

/-- **The calendar day** so many days after the beginning of 1970. Years are cut in March, so that
the leap day is the last of its year and months have a regular pattern. -/
def ofDays (days : Int) : CalendarDay :=
  let shifted := days + epoch
  let day := (shifted % cycle).toNat
  let year := yearOfCycle day
  let rest := day - startOfYear year
  let month := (5 * rest + 2) / 153
  { year := shifted / cycle * 400 + year + (if month < 10 then 0 else 1)
    month := if month < 10 then month + 3 else month - 9
    day := rest - startOfMonth month + 1 }

end CalendarDay

namespace Instant

/-- A number in at least so many digits. -/
def padded (width n : Nat) : String :=
  let ds := Nat.toDigits 10 n
  String.ofList (List.replicate (width - ds.length) '0' ++ ds)

/-- A year in four digits, or with a sign. -/
def yearText (year : Int) : String :=
  if 0 ≤ year ∧ year ≤ 9999 then padded 4 year.toNat
  else (if year < 0 then "-" else "+") ++ padded 4 year.natAbs

/-- A part of a second in no, three, six or nine digits. -/
def fractionText (nanos : Nat) : String :=
  if nanos = 0 then ""
  else if nanos % 1000000 = 0 then "." ++ padded 3 (nanos / 1000000)
  else if nanos % 1000 = 0 then "." ++ padded 6 (nanos / 1000)
  else "." ++ padded 9 nanos

def second : Nat := 1000000000

def nanoseconds (i : Instant) : Int := i.seconds * second + i.nanos

/-- The instant so many nanoseconds after the beginning of 1970. -/
def ofNanoseconds (n : Int) : Instant := ⟨n / second, (n % second).toNat⟩

/-- **The text of an instant**, date and time with a `Z` behind it. A leap second is the second
after the fifty-ninth, whichever minute that is in. -/
def text (i : Instant) : String :=
  let date := CalendarDay.ofDays (i.seconds / 86400)
  let time := (i.seconds % 86400).toNat
  let leap := if i.nanos < second then 0 else 1
  yearText date.year ++ "-" ++ padded 2 date.month ++ "-" ++ padded 2 date.day ++ "T"
    ++ padded 2 (time / 3600) ++ ":" ++ padded 2 (time / 60 % 60) ++ ":"
    ++ padded 2 (time % 60 + leap) ++ fractionText (i.nanos - leap * second) ++ "Z"

end Instant

end CatalogEntities
