import Intake.Json.Fault

/-!
# Cursors over JSON text

A cursor is what is left of a text together with the place reached. Faults are reported
either at that place, or at the byte that is looked at but not yet read.
-/
namespace Intake.Json

/-- What is left of a text, and the place reached in it. -/
structure Cursor where
  rest : List UInt8
  position : Position

namespace Cursor

def ofBytes (bs : List UInt8) : Cursor := ⟨bs, Position.start⟩

/-- The place of the byte that comes next; at the end, the place reached. -/
def nextPosition (c : Cursor) : Position :=
  match c.rest with
  | [] => c.position
  | b :: _ => c.position.after b

/-- A fault at the place reached. -/
def fault (c : Cursor) (cause : Cause) : Fault := .malformed cause c.position

/-- A fault at the byte that comes next. -/
def faultNext (c : Cursor) (cause : Cause) : Fault := .malformed cause c.nextPosition

/-- The four blanks of JSON. -/
def isBlank (b : UInt8) : Bool := b = 0x20 || b = 0x0a || b = 0x09 || b = 0x0d

def skipBlanksFrom : List UInt8 → Position → Cursor
  | [], p => ⟨[], p⟩
  | b :: rest, p => if isBlank b then skipBlanksFrom rest (p.after b) else ⟨b :: rest, p⟩

def skipBlanks (c : Cursor) : Cursor := skipBlanksFrom c.rest c.position

def isDigit (b : UInt8) : Bool := 0x30 ≤ b && b ≤ 0x39

def skipDigitsFrom : List UInt8 → Position → Cursor
  | [], p => ⟨[], p⟩
  | b :: rest, p => if isDigit b then skipDigitsFrom rest (p.after b) else ⟨b :: rest, p⟩

/-- Reads the rest of a word whose first letter is read. -/
def expectWord : List UInt8 → List UInt8 → Position → Except Fault Cursor
  | [], rest, p => .ok ⟨rest, p⟩
  | _ :: _, [], p => .error (.malformed .endInValue p)
  | w :: word, b :: rest, p =>
    if b = w then expectWord word rest (p.after b)
    else .error (.malformed .expectedWord (p.after b))

/-- The letters that follow in `null`. -/
def nullTail : List UInt8 := [0x75, 0x6c, 0x6c]

/-- The letters that follow in `true`. -/
def trueTail : List UInt8 := [0x72, 0x75, 0x65]

/-- The letters that follow in `false`. -/
def falseTail : List UInt8 := [0x61, 0x6c, 0x73, 0x65]

/-- Nothing but blanks may follow a document. -/
def finish (c : Cursor) : Except Fault Unit :=
  let c := c.skipBlanks
  if c.rest.isEmpty then .ok () else .error (c.faultNext .trailingCharacters)

def hexValue? (b : UInt8) : Option Nat :=
  if 0x30 ≤ b && b ≤ 0x39 then some (b.toNat - 0x30)
  else if 0x61 ≤ b && b ≤ 0x66 then some (b.toNat - 0x57)
  else if 0x41 ≤ b && b ≤ 0x46 then some (b.toNat - 0x37)
  else none

def hexQuad? (a b c d : UInt8) : Option Nat :=
  match hexValue? a, hexValue? b, hexValue? c, hexValue? d with
  | some w, some x, some y, some z => some (((w * 16 + x) * 16 + y) * 16 + z)
  | _, _, _, _ => none

end Cursor
end Intake.Json
