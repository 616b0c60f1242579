import Intake.Number.Nearest
import Intake.Text.Blank

/-!
# Numbers from text

Reading of whole numbers and of doubles from text that holds nothing else. A sign may come
first; leading zeros do not matter.
-/
namespace Intake.Number

/-- The value of a digit in a radix up to sixteen. -/
def digit? (radix : Nat) (c : Char) : Option Nat :=
  let n := c.toNat
  let value :=
    if 0x30 ≤ n ∧ n ≤ 0x39 then n - 0x30
    else if 0x61 ≤ n ∧ n ≤ 0x66 then n - 0x57
    else if 0x41 ≤ n ∧ n ≤ 0x46 then n - 0x37
    else radix
  if value < radix then some value else none

def digitsOnto (radix : Nat) : Nat → List Char → Option Nat
  | value, [] => some value
  | value, c :: rest =>
    match digit? radix c with
    | some d => digitsOnto radix (value * radix + d) rest
    | none => none

def natural? (radix : Nat) (s : List Char) : Option Nat :=
  if s.isEmpty then none else digitsOnto radix 0 s

/-- A sign, if there is one, and what follows it. -/
def splitSign : List Char → Bool × List Char
  | '-' :: rest => (true, rest)
  | '+' :: rest => (false, rest)
  | s => (false, s)

/-- A whole number of sixty-four bits with an optional sign. -/
def int64? (radix : Nat) (s : List Char) : Option Int64 :=
  let (negative, digits) := splitSign s
  match natural? radix digits with
  | none => none
  | some n =>
    let i : Int := if negative then -(n : Int) else n
    if Int64.minValue.toInt ≤ i ∧ i ≤ Int64.maxValue.toInt then some (Int64.ofInt i) else none

/-- A sixty-four-bit word with an optional plus sign. -/
def word64? (s : List Char) : Option UInt64 :=
  match s with
  | '-' :: _ => none
  | _ =>
    match natural? 10 (splitSign s).2 with
    | some n => if n < UInt64.size then some n.toUInt64 else none
    | none => none

/-- The exponent of a number; without one it is zero. -/
def exponent? : List Char → Option Int
  | [] => some 0
  | c :: rest =>
    if c = 'e' || c = 'E' then
      let (negative, digits) := splitSign rest
      (natural? 10 digits).map fun n => if negative then -(n : Int) else n
    else none

/-- An unsigned decimal number: digits, among them perhaps a point, and perhaps an exponent. -/
def decimal? (s : List Char) : Option Double :=
  let isDigit (c : Char) : Bool := c.isDigit
  let whole := s.takeWhile isDigit
  let (fraction, rest) :=
    match s.dropWhile isDigit with
    | '.' :: tail => (tail.takeWhile isDigit, tail.dropWhile isDigit)
    | rest => ([], rest)
  match natural? 10 (whole ++ fraction), exponent? rest with
  | some digits, some e => some (.ofDecimal digits (e - fraction.length))
  | _, _ => none

/-- A double with an optional sign: a decimal number, or a word for infinity or for what is not a
number. -/
def double? (s : List Char) : Option Double :=
  let (negative, rest) := splitSign s
  let word := Text.asciiLower rest
  let value :=
    if word = "inf".toList || word = "infinity".toList then some .infinity
    else if word = "nan".toList then some .notANumber
    else decimal? rest
  value.map fun d => if negative then d.negate else d

/-- The character whose number is written in hexadecimal digits. -/
def charOfHex? (digits : List Char) : Option Char := do
  let n ← natural? 16 digits
  if n.isValidChar then some (Char.ofNat n) else none

end Intake.Number
