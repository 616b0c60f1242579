import Intake.Json.Cursor

/-!
# Numbers in JSON text

A number without fraction or exponent that fits in sixty-four bits is a whole number,
except for a negated zero. Every other number is a double: its first digits, as many as
fit in sixty-four bits, are scaled by a power of ten.
-/
namespace Intake.Json

/-- A number as it is read. -/
inductive Number where
  | whole (value : Int)
  | double (value : Double)

def maxWhole : Nat := UInt64.size - 1

/-- Scales a double down by `10 ^ 308` until the rest of the scale is within the powers of ten. -/
def scaleDown : Nat → Double → Nat → Double
  | 0, d, _ => d
  | fuel + 1, d, k =>
    if k ≤ 308 then d.dividedBy (Double.powerOfTen k)
    else if d.isZero then d
    else scaleDown fuel (d.dividedBy (Double.powerOfTen 308)) (k - 308)

/-- The double `digits * 10 ^ scale`; a double that is too big is a fault. -/
def scaled (positive : Bool) (digits : Nat) (scale : Int) (c : Cursor) :
    Except Fault (Number × Cursor) :=
  let start := Double.ofNat digits
  let finish (d : Double) := .ok (.double (if positive then d else d.negate), c)
  if scale < 0 then finish (scaleDown 4 start scale.natAbs)
  else if 308 < scale then
    if start.isZero then finish start else .error (c.fault .numberOutOfRange)
  else
    let d := start.times (Double.powerOfTen scale.toNat)
    if d.isInfinite then .error (c.fault .numberOutOfRange) else finish d

/-- The greatest exponent that is read as such. -/
def maxExponent : Nat := Nat.pow 2 31 - 1

/-- Reads the digits of an exponent onto its value. -/
def readExponentDigits (positive : Bool) (digits : Nat) (scale : Int) (raising : Bool) :
    Nat → List UInt8 → Position → Except Fault (Number × Cursor)
  | value, [], p => scaled positive digits (if raising then scale + value else scale - value) ⟨[], p⟩
  | value, b :: rest, p =>
    if Cursor.isDigit b then
      let next := value * 10 + (b.toNat - 0x30)
      if maxExponent < next then
        if digits != 0 && raising then .error (.malformed .numberOutOfRange (p.after b))
        else
          let zero := Double.ofNat 0
          .ok (.double (if positive then zero else zero.negate),
            Cursor.skipDigitsFrom rest (p.after b))
      else readExponentDigits positive digits scale raising next rest (p.after b)
    else scaled positive digits (if raising then scale + value else scale - value) ⟨b :: rest, p⟩

/-- Reads what follows the letter of an exponent. -/
def readExponent (positive : Bool) (digits : Nat) (scale : Int) (rest : List UInt8) (p : Position) :
    Except Fault (Number × Cursor) :=
  let (raising, rest, p) :=
    match rest with
    | b :: tail =>
      if b = 0x2b then (true, tail, p.after b)
      else if b = 0x2d then (false, tail, p.after b)
      else (true, rest, p)
    | [] => (true, rest, p)
  match rest with
  | [] => .error (.malformed .endInValue p)
  | d :: tail =>
    if Cursor.isDigit d then
      readExponentDigits positive digits scale raising (d.toNat - 0x30) tail (p.after d)
    else .error (.malformed .invalidNumber (p.after d))

/-- Reads an exponent, if there is one. -/
def readOptionalExponent (positive : Bool) (digits : Nat) (scale : Int) (c : Cursor) :
    Except Fault (Number × Cursor) :=
  match c.rest with
  | b :: tail =>
    if b = 0x65 || b = 0x45 then readExponent positive digits scale tail (c.position.after b)
    else scaled positive digits scale c
  | [] => scaled positive digits scale c

/-- Reads the digits of a fraction onto `digits`; those that no longer fit are dropped. -/
def readFractionDigits (positive : Bool) :
    Nat → Int → List UInt8 → Position → Except Fault (Number × Cursor)
  | digits, scale, [], p => readOptionalExponent positive digits scale ⟨[], p⟩
  | digits, scale, b :: rest, p =>
    if Cursor.isDigit b then
      let next := digits * 10 + (b.toNat - 0x30)
      if maxWhole < next then
        readOptionalExponent positive digits scale (Cursor.skipDigitsFrom rest (p.after b))
      else readFractionDigits positive next (scale - 1) rest (p.after b)
    else readOptionalExponent positive digits scale ⟨b :: rest, p⟩

/-- Reads what follows the point; there must be a digit. -/
def readFraction (positive : Bool) (digits : Nat) (scale : Int) (rest : List UInt8) (p : Position) :
    Except Fault (Number × Cursor) :=
  match rest with
  | [] => .error (.malformed .endInValue p)
  | b :: _ =>
    if Cursor.isDigit b then readFractionDigits positive digits scale rest p
    else .error (.malformed .invalidNumber (p.after b))

/-- Reads on after digits that no longer fit; each of them raises the scale by one. -/
def readLongWhole (positive : Bool) (digits : Nat) :
    Int → List UInt8 → Position → Except Fault (Number × Cursor)
  | scale, [], p => scaled positive digits scale ⟨[], p⟩
  | scale, b :: rest, p =>
    if Cursor.isDigit b then readLongWhole positive digits (scale + 1) rest (p.after b)
    else if b = 0x2e then readFraction positive digits scale rest (p.after b)
    else readOptionalExponent positive digits scale ⟨b :: rest, p⟩

/-- The whole number with a sign and digits, where it is one. -/
def wholeOf (positive : Bool) (digits : Nat) : Number :=
  if positive then .whole digits
  else if 0 < digits ∧ digits ≤ Nat.pow 2 63 then .whole (-(digits : Int))
  else .double (Double.ofNat digits).negate

def readAfterWhole (positive : Bool) (digits : Nat) (c : Cursor) : Except Fault (Number × Cursor) :=
  match c.rest with
  | b :: tail =>
    if b = 0x2e then readFraction positive digits 0 tail (c.position.after b)
    else if b = 0x65 || b = 0x45 then readExponent positive digits 0 tail (c.position.after b)
    else .ok (wholeOf positive digits, c)
  | [] => .ok (wholeOf positive digits, c)

/-- Reads whole digits onto `digits`. -/
def readWholeDigits (positive : Bool) :
    Nat → List UInt8 → Position → Except Fault (Number × Cursor)
  | digits, [], p => readAfterWhole positive digits ⟨[], p⟩
  | digits, b :: rest, p =>
    if Cursor.isDigit b then
      let next := digits * 10 + (b.toNat - 0x30)
      if maxWhole < next then readLongWhole positive digits 1 rest (p.after b)
      else readWholeDigits positive next rest (p.after b)
    else readAfterWhole positive digits ⟨b :: rest, p⟩

def readNumber (positive : Bool) (rest : List UInt8) (p : Position) :
    Except Fault (Number × Cursor) :=
  match rest with
  | [] => .error (.malformed .endInValue p)
  | b :: rest =>
    if b = 0x30 then
      match rest with
      | [] => readAfterWhole positive 0 ⟨[], p.after b⟩
      | d :: _ =>
        if Cursor.isDigit d then .error (.malformed .invalidNumber ((p.after b).after d))
        else readAfterWhole positive 0 ⟨rest, p.after b⟩
    else if Cursor.isDigit b then readWholeDigits positive (b.toNat - 0x30) rest (p.after b)
    else .error (.malformed .invalidNumber (p.after b))

end Intake.Json
