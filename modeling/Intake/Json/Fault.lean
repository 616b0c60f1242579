import Intake.Number.Decimal

/-!
# Faults of JSON text

A text can fail in two ways: it is not JSON, and then the fault has a cause and a
position; or it is JSON that does not suit the type that was asked for. Lines count from
one; the column is the number of bytes of the line up to and including the offending one.
-/
namespace Intake.Json

/-- A place in the text: how many lines were begun, and how many bytes of the last were read. -/
structure Position where
  line : Nat
  column : Nat
  deriving DecidableEq

namespace Position

def start : Position := ⟨1, 0⟩

def after (p : Position) (b : UInt8) : Position :=
  if b = 0x0a then ⟨p.line + 1, 0⟩ else ⟨p.line, p.column + 1⟩

def afterAll (p : Position) (bs : List UInt8) : Position := bs.foldl after p

/-- The place some bytes before, on the same line. -/
def back (p : Position) (n : Nat) : Position := ⟨p.line, p.column - n⟩

end Position

/-- Why a text is not JSON. -/
inductive Cause where
  | endInList | endInObject | endInString | endInValue
  | expectedColon | expectedListEnd | expectedObjectEnd | expectedWord | expectedValue
  | invalidEscape | invalidNumber | numberOutOfRange | invalidCodePoint | controlCharacter
  | keyNotText | loneSurrogate | trailingComma | trailingCharacters | unfinishedPair | tooDeep
  deriving DecidableEq

namespace Cause

def message : Cause → String
  | .endInList => "EOF while parsing a list"
  | .endInObject => "EOF while parsing an object"
  | .endInString => "EOF while parsing a string"
  | .endInValue => "EOF while parsing a value"
  | .expectedColon => "expected `:`"
  | .expectedListEnd => "expected `,` or `]`"
  | .expectedObjectEnd => "expected `,` or `\x7d`"
  | .expectedWord => "expected ident"
  | .expectedValue => "expected value"
  | .invalidEscape => "invalid escape"
  | .invalidNumber => "invalid number"
  | .numberOutOfRange => "number out of range"
  | .invalidCodePoint => "invalid unicode code point"
  | .controlCharacter => "control character (\\u0000-\\u001F) found while parsing a string"
  | .keyNotText => "key must be a string"
  | .loneSurrogate => "lone leading surrogate in hex escape"
  | .trailingComma => "trailing comma"
  | .trailingCharacters => "trailing characters"
  | .unfinishedPair => "unexpected end of hex escape"
  | .tooDeep => "recursion limit exceeded"

/-- Whether more text could have mended the fault. -/
def isEnd : Cause → Bool
  | .endInList | .endInObject | .endInString | .endInValue => true
  | _ => false

end Cause

/-- A value found where another was wanted. -/
inductive Found where
  | null
  | flag (value : Bool)
  | whole (value : Int)
  | double (value : Double)
  | text (value : String)
  | list
  | object
  | bareVariant

/-- How well-formed text fails to suit a type. -/
inductive Mismatch where
  | wrongType (found : Found) (expected : String)
  | wrongValue (found : Found) (expected : String)
  | wrongLength (length : Nat) (expected : String)
  | unknownVariant (name : String) (known : List String)
  | missingField (name : String)
  | duplicateField (name : String)
  | unreadable (reason : String)

/-- Why a text cannot be read. -/
inductive Fault where
  | malformed (cause : Cause) (position : Position)
  | unsuitable (mismatch : Mismatch)

end Intake.Json
