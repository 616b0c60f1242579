import Intake.Instant
import Intake.Text.Blank

/-!
# Reading instants

Reads the interchange text of an instant, in the relaxed form: blanks may stand around
the numbers, one blank may stand for the `T`, the offset may be written with a colon,
without it or as `UTC`, and blanks may follow. Numbers are checked as they are read, so
the first fault from the left is the one reported.
-/
namespace Intake

/-- Why a text is not an instant. -/
inductive InstantFault where
  | outOfRange
  | impossible
  | invalid
  | tooShort
  | tooLong
  deriving DecidableEq

def InstantFault.message : InstantFault → String
  | .outOfRange => "input is out of range"
  | .impossible => "no possible date and time matching input"
  | .invalid => "input contains invalid characters"
  | .tooShort => "premature end of input"
  | .tooLong => "trailing input"

namespace Instant

/-- Digits onto a value, at most `count` of them; the value must stay below 2^63. -/
def readDigits : Nat → Nat → List Char → Except InstantFault (Nat × List Char)
  | 0, value, rest => .ok (value, rest)
  | _ + 1, value, [] => .ok (value, [])
  | count + 1, value, c :: rest =>
    if c.isDigit then
      let next := value * 10 + (c.toNat - 0x30)
      if next < Nat.pow 2 63 then readDigits count next rest else .error .outOfRange
    else .ok (value, c :: rest)

/-- A number of one to `count` digits. -/
def readNumber (count : Nat) (s : List Char) : Except InstantFault (Nat × List Char) :=
  match s with
  | [] => .error .tooShort
  | c :: _ => if c.isDigit then readDigits count 0 s else .error .invalid

/-- A number within bounds, after blanks. -/
def readField (low high : Nat) (s : List Char) : Except InstantFault (Nat × List Char) := do
  let (value, rest) ← readNumber 2 (Text.trimStart s)
  if low ≤ value ∧ value ≤ high then .ok (value, rest) else .error .outOfRange

/-- A year: four digits at most, or a sign and any number of digits. -/
def readYear (s : List Char) : Except InstantFault (Int × List Char) := do
  let s := Text.trimStart s
  let (year, rest) ← match s with
    | '-' :: tail =>
      let (n, rest) ← readNumber tail.length tail
      pure (-(n : Int), rest)
    | '+' :: tail =>
      let (n, rest) ← readNumber tail.length tail
      pure ((n : Int), rest)
    | _ =>
      let (n, rest) ← readNumber 4 s
      pure ((n : Int), rest)
  if -2147483648 ≤ year ∧ year ≤ 2147483647 then .ok (year, rest) else .error .outOfRange

/-- A separator, after blanks. -/
def readMark (mark : Char) (s : List Char) : Except InstantFault (List Char) :=
  match Text.trimStart s with
  | [] => .error .tooShort
  | c :: rest => if c = mark then .ok rest else .error .invalid

/-- The letter or blank between the date and the time. -/
def readJoint (s : List Char) : Except InstantFault (List Char) :=
  match s with
  | [] => .error .tooShort
  | c :: rest => if c = 't' ∨ c = 'T' ∨ c = ' ' then .ok rest else .error .invalid

/-- A fraction of a second in nanoseconds; digits after the ninth are dropped. -/
def readFraction (s : List Char) : Except InstantFault (Nat × List Char) :=
  match s with
  | '.' :: tail => do
    let (value, rest) ← readNumber 9 tail
    let used := tail.length - rest.length
    pure (value * Nat.pow 10 (9 - used), rest.dropWhile Char.isDigit)
  | _ => .ok (0, s)

/-- The sign of an offset; a typographic minus counts. -/
def readSign (s : List Char) : Except InstantFault (Int × List Char) :=
  match s with
  | [] => .error .tooShort
  | c :: rest =>
    if c = '+' then .ok (1, rest)
    else if c = '-' ∨ c = '\u2212' then .ok (-1, rest)
    else .error .invalid

/-- The fault of fewer than two characters where two digits are wanted. -/
def shortage (s : List Char) : InstantFault :=
  if s.all (fun c => c.toNat < 128) then .tooShort else .invalid

/-- The offset from UTC in seconds. -/
def readOffset (s : List Char) : Except InstantFault (Int × List Char) :=
  match s with
  | 'Z' :: rest | 'z' :: rest => .ok (0, rest)
  | _ =>
    if s.length ≥ 3 ∧ Text.sameIgnoringCase (s.take 3) ['u', 't', 'c'] then .ok (0, s.drop 3)
    else do
      let (sign, s) ← readSign s
      match s with
      | h1 :: h2 :: s =>
        if h1.isDigit && h2.isDigit then
          let hours := (h1.toNat - 0x30) * 10 + (h2.toNat - 0x30)
          match s.dropWhile (fun c => c = ':' || Text.isBlank c) with
          | m1 :: m2 :: s =>
            if m1.isDigit && m2.isDigit then
              if m1.toNat < 0x36 then
                let minutes := (m1.toNat - 0x30) * 10 + (m2.toNat - 0x30)
                .ok (sign * ((hours * 3600 + minutes * 60 : Nat) : Int), s)
              else .error .outOfRange
            else .error .invalid
          | s => .error (shortage s)
        else .error .invalid
      | s => .error (shortage s)

/-- The instant with a date, a time of day and an offset. -/
def assemble (date : Calendar.Date) (hour minute second nanos : Nat) (offset : Int) :
    Except InstantFault Instant :=
  if !date.isValid || date.year < Calendar.firstYear || Calendar.lastYear < date.year then
    .error .outOfRange
  else if offset ≤ -86400 || 86400 ≤ offset then .error .outOfRange
  else
    let leap := second = 60
    let whole := hour * 3600 + minute * 60 + (if leap then 59 else second)
    let seconds := Calendar.dayNumber date * 86400 + whole - offset
    match of? seconds (nanos + (if leap then 1000000000 else 0)) with
    | some t => .ok t
    | none => .error .impossible

def read (s : List Char) : Except InstantFault Instant := do
  let (year, s) ← readYear s
  let s ← readMark '-' s
  let (month, s) ← readField 1 12 s
  let s ← readMark '-' s
  let (day, s) ← readField 1 31 s
  let s ← readJoint s
  let (hour, s) ← readField 0 23 s
  let s ← readMark ':' s
  let (minute, s) ← readField 0 59 s
  let s ← readMark ':' s
  let (second, s) ← readField 0 60 s
  let (nanos, s) ← readFraction s
  let (offset, s) ← readOffset (Text.trimStart s)
  if (Text.trimStart s).isEmpty then assemble ⟨year, month, day⟩ hour minute second nanos offset
  else .error .tooLong

end Instant
end Intake
