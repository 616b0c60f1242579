/-!
# Double precision numbers

A double is kept by its sixty-four bits, so that two doubles can be told apart and
carried through storage without loss. Comparison follows the usual floating-point
rule: no value equals a not-a-number, and the two zeros are equal.
-/
namespace Intake

/-- A double precision number, given by its bits. -/
structure Double where
  bits : UInt64
  deriving DecidableEq

namespace Double

/-- The biased exponent, 0 to 2047. -/
def exponentBits (d : Double) : Nat := (d.bits.toNat / Nat.pow 2 52) % Nat.pow 2 11

/-- The stored fraction, below 2^52. -/
def fractionBits (d : Double) : Nat := d.bits.toNat % Nat.pow 2 52

def isNegative (d : Double) : Bool := Nat.pow 2 63 ≤ d.bits.toNat

def isNaN (d : Double) : Bool := d.exponentBits = 2047 && d.fractionBits != 0

def isInfinite (d : Double) : Bool := d.exponentBits = 2047 && d.fractionBits = 0

def isFinite (d : Double) : Bool := d.exponentBits != 2047

def isZero (d : Double) : Bool := d.exponentBits = 0 && d.fractionBits = 0

/-- A positive finite double is `significand * 2 ^ exponent`; so is its negation up to sign. -/
def significand (d : Double) : Nat :=
  if d.exponentBits = 0 then d.fractionBits else d.fractionBits + Nat.pow 2 52

/-- The power of two that scales `significand`. -/
def exponent (d : Double) : Int :=
  if d.exponentBits = 0 then -1074 else (d.exponentBits : Int) - 1075

/-- Numeric comparison: never true of a not-a-number, true of the two zeros. -/
def same (a b : Double) : Bool :=
  !a.isNaN && !b.isNaN && (a.bits == b.bits || (a.isZero && b.isZero))

def negate (d : Double) : Double := ⟨d.bits ^^^ 0x8000000000000000⟩

def toFloat (d : Double) : Float := Float.ofBits d.bits

def ofFloat (x : Float) : Double := ⟨x.toBits⟩

/-- The double nearest to a natural number below 2^64. -/
def ofNat (n : Nat) : Double := ofFloat n.toUInt64.toFloat

/-- The double nearest to `10 ^ n`, for `n` up to 308. -/
def powerOfTen (n : Nat) : Double := ofFloat (Float.ofScientific 1 false n)

def times (a b : Double) : Double := ofFloat (a.toFloat * b.toFloat)

def dividedBy (a b : Double) : Double := ofFloat (a.toFloat / b.toFloat)

end Double
end Intake
