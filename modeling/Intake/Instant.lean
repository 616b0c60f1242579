import Intake.Calendar
import Intake.Number.Decimal

/-!
# Instants

An instant is a number of whole seconds since 1970-01-01T00:00:00Z and a number of
nanoseconds into that second. During a leap second the nanoseconds run on from 10^9.
Instants lie in the years -262143 to 262142.
-/
namespace Intake

namespace Instant

/-- The first second of the range of instants. -/
def firstSecond : Int := Calendar.dayNumber ⟨Calendar.firstYear, 1, 1⟩ * 86400

/-- The first second after the range of instants. -/
def endSecond : Int := Calendar.dayNumber ⟨Calendar.lastYear + 1, 1, 1⟩ * 86400

/-- Whether a second lies in the range of instants. -/
def inRange (seconds : Int) : Bool := firstSecond ≤ seconds && seconds < endSecond

end Instant

/-- A point in time. -/
structure Instant where
  seconds : Int
  nanos : Nat
  range : Instant.inRange seconds = true
  nanos_lt : nanos < 2000000000
  -- a leap second is the last second of a minute
  leap : 1000000000 ≤ nanos → seconds % 60 = 59
  deriving DecidableEq

namespace Instant

/-- The instant at a second and some nanoseconds into it, if there is one. -/
def of? (seconds : Int) (nanos : Nat) : Option Instant :=
  if proper : inRange seconds = true ∧ nanos < 2000000000 ∧
      (1000000000 ≤ nanos → seconds % 60 = 59) then
    some ⟨seconds, nanos, proper.1, proper.2.1, proper.2.2⟩
  else none

/-- The instant a number of whole seconds after the epoch. -/
def ofSeconds? (seconds : Int) : Option Instant := of? seconds 0

/-- The instant a number of milliseconds after the epoch. -/
def ofMillis? (millis : Int) : Option Instant :=
  of? (millis.fdiv 1000) ((millis.fmod 1000).toNat * 1000000)

/-- Milliseconds since the epoch, rounded down. -/
def millis (t : Instant) : Int := t.seconds * 1000 + (t.nanos / 1000000 : Nat)

def date (t : Instant) : Calendar.Date := Calendar.dateOf (t.seconds.fdiv 86400)

/-- The second of the day, 0 to 86399. -/
def secondOfDay (t : Instant) : Nat := (t.seconds.fmod 86400).toNat

/-- A number below a hundred with two digits. -/
def twoDigits (n : Nat) : List UInt8 := [Decimal.digitByte (n / 10 % 10), Decimal.digitByte (n % 10)]

/-- A number with at least `width` digits, filled up with zeros. -/
def padded (width n : Nat) : List UInt8 :=
  let digits := Decimal.ofNat n
  List.replicate (width - digits.length) 0x30 ++ digits

/-- A year has four digits; before the year 0 and after 9999 it also has a sign. -/
def yearText (year : Int) : List UInt8 :=
  if 0 ≤ year ∧ year ≤ 9999 then padded 4 year.natAbs
  else (if year < 0 then 0x2d else 0x2b) :: padded 4 year.natAbs

def dateText (d : Calendar.Date) : List UInt8 :=
  yearText d.year ++ [0x2d] ++ twoDigits d.month ++ [0x2d] ++ twoDigits d.day

/-- Hours, minutes and seconds; a leap second is the second 60. -/
def timeText (t : Instant) : List UInt8 :=
  let s := t.secondOfDay
  let second := s % 60 + t.nanos / 1000000000
  twoDigits (s / 3600) ++ [0x3a] ++ twoDigits (s / 60 % 60) ++ [0x3a] ++ twoDigits second

/-- The fraction of a second in groups of three digits, as many as are needed. -/
def fractionText (t : Instant) : List UInt8 :=
  let n := t.nanos % 1000000000
  if n = 0 then []
  else if n % 1000000 = 0 then 0x2e :: padded 3 (n / 1000000)
  else if n % 1000 = 0 then 0x2e :: padded 6 (n / 1000)
  else 0x2e :: padded 9 n

/-- The text of an instant for people, to the second. -/
def display (t : Instant) : List UInt8 :=
  dateText t.date ++ [0x20] ++ timeText t ++ [0x20, 0x55, 0x54, 0x43]

def interchange (t : Instant) : List UInt8 :=
  dateText t.date ++ [0x54] ++ timeText t ++ fractionText t ++ [0x5a]

end Instant
end Intake
