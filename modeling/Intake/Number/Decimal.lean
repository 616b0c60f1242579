import Intake.Number.Double

/-!
# Decimal text of numbers

Whole numbers are written with the fewest digits. A finite double is written with the
fewest significant digits that still identify it among all doubles, and of those the
ones nearest to its exact value: positional from 1e-5 up to below 1e16, and with an
exponent outside that range.
-/
namespace Intake.Decimal

/-- The byte of a decimal digit below ten. -/
def digitByte (n : Nat) : UInt8 := 0x30 + n.toUInt8

/-- Decimal digits in front of an accumulator; `fuel` bounds their number. -/
def digitsOnto : Nat → Nat → List UInt8 → List UInt8
  | 0, _, acc => acc
  | fuel + 1, n, acc =>
    let next := digitByte (n % 10) :: acc
    if n < 10 then next else digitsOnto fuel (n / 10) next

/-- The decimal digits of a natural number, without leading zeros. -/
def ofNat (n : Nat) : List UInt8 := digitsOnto (n + 1) n []

/-- A signed whole number, with a minus sign only below zero. -/
def ofInt (i : Int) : List UInt8 :=
  if i < 0 then 0x2d :: ofNat i.natAbs else ofNat i.natAbs

/-- Whether `num / den < 10 ^ k`. -/
def belowPowerOfTen (num den : Nat) (k : Int) : Bool :=
  if 0 ≤ k then num < den * Nat.pow 10 k.toNat else num * Nat.pow 10 (-k).toNat < den

/-- The least `k` from `start` upward, within `fuel`, with `num / den < 10 ^ k`. -/
def decimalMagnitude (num den : Nat) : Nat → Int → Int
  | 0, k => k
  | fuel + 1, k => if belowPowerOfTen num den k then k else decimalMagnitude num den fuel (k + 1)

/-- Four times a double and the two ends of the interval that rounds to it, over one denominator. -/
structure Interval where
  low : Nat
  value : Nat
  high : Nat
  denominator : Nat
  closed : Bool

/-- The interval of reals that round to a positive finite double. -/
def interval (d : Double) : Interval :=
  let m := d.significand
  let below := if d.fractionBits = 0 && 1 < d.exponentBits then 1 else 2
  let up := if 0 ≤ d.exponent then Nat.pow 2 d.exponent.toNat else 1
  let down := if 0 ≤ d.exponent then 1 else Nat.pow 2 (-d.exponent).toNat
  { low := (4 * m - below) * up, value := 4 * m * up, high := (4 * m + 2) * up
    denominator := 4 * down, closed := m % 2 = 0 }

/-- Whether `n * 10 ^ k` rounds to the double of the interval. -/
def Interval.contains (i : Interval) (n : Nat) (k : Int) : Bool :=
  let scaled := if 0 ≤ k then n * Nat.pow 10 k.toNat * i.denominator else n * i.denominator
  let unit := if 0 ≤ k then 1 else Nat.pow 10 (-k).toNat
  if i.closed then i.low * unit ≤ scaled && scaled ≤ i.high * unit
  else i.low * unit < scaled && scaled < i.high * unit

/-- The two neighbours of the value on the grid of multiples of `10 ^ k`, the nearer one first. -/
def Interval.neighbours (i : Interval) (k : Int) : List Nat :=
  let num := if 0 ≤ k then i.value else i.value * Nat.pow 10 (-k).toNat
  let den := if 0 ≤ k then i.denominator * Nat.pow 10 k.toNat else i.denominator
  let floor := num / den
  let excess := 2 * (num % den)
  if excess < den || (excess = den && floor % 2 = 0) then [floor, floor + 1] else [floor + 1, floor]

/-- The first grid, from coarse to fine, with a point that identifies the double. -/
def shortestFrom (i : Interval) : Nat → Int → Nat × Int
  | 0, k => ((i.neighbours k).headD 0, k)
  | fuel + 1, k =>
    match (i.neighbours k).find? (i.contains · k) with
    | some n => (n, k)
    | none => shortestFrom i fuel (k - 1)

/-- Trailing zeros of the digits moved into the exponent. -/
def stripZeros : Nat → Nat → Int → Nat × Int
  | 0, n, k => (n, k)
  | fuel + 1, n, k => if n % 10 = 0 && n != 0 then stripZeros fuel (n / 10) (k + 1) else (n, k)

/-- The fewest digits `n` and the exponent `k` such that `n * 10 ^ k` identifies a positive double. -/
def shortest (d : Double) : Nat × Int :=
  let i := interval d
  let magnitude := decimalMagnitude i.value i.denominator 700 (-330)
  let (n, k) := shortestFrom i 17 (magnitude - 1)
  stripZeros 20 n k

/-- The text of a positive finite double from its digits and exponent. -/
def layout (digits : List UInt8) (k : Int) : List UInt8 :=
  let point := (digits.length : Int) + k
  if 0 ≤ k && point ≤ 16 then
    digits ++ List.replicate k.toNat 0x30 ++ [0x2e, 0x30]
  else if 0 < point && point ≤ 16 then
    digits.take point.toNat ++ [0x2e] ++ digits.drop point.toNat
  else if -5 < point && point ≤ 0 then
    [0x30, 0x2e] ++ List.replicate (-point).toNat 0x30 ++ digits
  else
    let scale := point - 1
    let sign : UInt8 := if scale < 0 then 0x2d else 0x2b
    let mantissa := if digits.length = 1 then digits else digits.take 1 ++ [0x2e] ++ digits.drop 1
    mantissa ++ [0x65, sign] ++ ofNat scale.natAbs

/-- The text of a finite double; `none` for infinities and not-a-numbers. -/
def ofDouble? (d : Double) : Option (List UInt8) :=
  if !d.isFinite then none
  else
    let sign := if d.isNegative then [0x2d] else []
    if d.isZero then some (sign ++ [0x30, 0x2e, 0x30])
    else
      let (n, k) := shortest d
      some (sign ++ layout (ofNat n) k)

end Intake.Decimal
