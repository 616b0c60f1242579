import Intake.Number.Double

/-!
# The double nearest to a fraction

A fraction is rounded to the nearest double, a tie to the one whose significand is even;
a fraction beyond the greatest double gives infinity.
-/
namespace Intake.Double

def infinity : Double := ⟨0x7ff0000000000000⟩

def notANumber : Double := ⟨0x7ff8000000000000⟩

def zero : Double := ⟨0⟩

/-- The whole number nearest to `num / den`, a tie to the even one. -/
def roundEven (num den : Nat) : Nat :=
  let floor := num / den
  let excess := 2 * (num % den)
  if excess < den || (excess = den && floor % 2 = 0) then floor else floor + 1

/-- The power of two in which `num / den` is measured, so that it has fifty-three bits, or fewer
when the number is too small for that. -/
def scaleOf (num den : Nat) : Int :=
  let guess : Int := (num.log2 : Int) - den.log2 - 52
  let reaches (e : Int) : Bool :=
    if 0 ≤ e then Nat.pow 2 52 * den * Nat.pow 2 e.toNat ≤ num
    else Nat.pow 2 52 * den ≤ num * Nat.pow 2 (-e).toNat
  max (-1074) (if reaches guess then guess else guess - 1)

/-- The double nearest to `num / den`, for a positive denominator. -/
def ofFraction (num den : Nat) : Double :=
  if num = 0 then zero
  else
    let e := scaleOf num den
    let q :=
      if 0 ≤ e then roundEven num (den * Nat.pow 2 e.toNat)
      else roundEven (num * Nat.pow 2 (-e).toNat) den
    let bits := if q < Nat.pow 2 52 then q else (e + 1074).toNat * Nat.pow 2 52 + q
    if infinity.bits.toNat ≤ bits then infinity else ⟨bits.toUInt64⟩

/-- The double nearest to `digits * 10 ^ scale`. Scales that are out of every range are decided
without computing the power. -/
def ofDecimal (digits : Nat) (scale : Int) : Double :=
  if digits = 0 then zero
  else if 400 < scale then infinity
  else if 0 ≤ scale then ofFraction (digits * Nat.pow 10 scale.toNat) 1
  else if (digits.log2 : Int) + 1200 < -scale * 3 then zero
  else ofFraction digits (Nat.pow 10 (-scale).toNat)

/-- The whole number nearest to a finite double without its sign, a half away from zero. -/
def roundedMagnitude (d : Double) : Nat :=
  if 0 ≤ d.exponent then d.significand * Nat.pow 2 d.exponent.toNat
  else
    let unit := Nat.pow 2 (-d.exponent).toNat
    (2 * d.significand + unit) / (2 * unit)

/-- The nearest sixty-four-bit word. What is not a number becomes zero, and what is out of range
becomes the nearer bound. -/
def toWord (d : Double) : UInt64 :=
  if d.isNaN || d.isNegative then 0
  else if d.isInfinite then (UInt64.size - 1).toUInt64
  else (min d.roundedMagnitude (UInt64.size - 1)).toUInt64

end Intake.Double
