import Intake.Json.Cursor

/-!
# Acceptance of JSON text

Checks that bytes are one JSON text, without building a value. Nesting is kept on an
explicit stack, so there is no limit on depth; a number may have any magnitude; a string
may hold any byte from 0x20 up except the quote and the backslash, and any four
hexadecimal digits after an escaped `u`.
-/
namespace Intake.Json

/-- Reads past an integer part, whose first byte is not yet read. -/
def skipWhole (rest : List UInt8) (p : Position) : Except Fault Cursor :=
  match rest with
  | [] => .error (.malformed .invalidNumber p)
  | b :: rest =>
    if b = 0x30 then
      match rest with
      | [] => .ok ⟨[], p.after b⟩
      | d :: _ =>
        if Cursor.isDigit d then .error (.malformed .invalidNumber ((p.after b).after d))
        else .ok ⟨rest, p.after b⟩
    else if Cursor.isDigit b then .ok (Cursor.skipDigitsFrom rest (p.after b))
    else .error (.malformed .invalidNumber (p.after b))

/-- Reads past what follows the letter of an exponent. -/
def skipExponent (rest : List UInt8) (p : Position) : Except Fault Cursor :=
  let signed : Cursor :=
    match rest with
    | b :: tail => if b = 0x2b || b = 0x2d then ⟨tail, p.after b⟩ else ⟨rest, p⟩
    | [] => ⟨rest, p⟩
  match signed.rest with
  | [] => .error (.malformed .invalidNumber signed.position)
  | d :: tail =>
    if Cursor.isDigit d then .ok (Cursor.skipDigitsFrom tail (signed.position.after d))
    else .error (.malformed .invalidNumber (signed.position.after d))

/-- Reads past an exponent, if there is one. -/
def skipOptionalExponent (c : Cursor) : Except Fault Cursor :=
  match c.rest with
  | b :: tail => if b = 0x65 || b = 0x45 then skipExponent tail (c.position.after b) else .ok c
  | [] => .ok c

/-- Reads past a fraction and an exponent, as far as there are any. -/
def skipFraction (c : Cursor) : Except Fault Cursor :=
  match c.rest with
  | 0x2e :: tail =>
    let dot : Cursor := ⟨tail, c.position.after 0x2e⟩
    match tail with
    | [] => .error (dot.faultNext .invalidNumber)
    | d :: more =>
      if Cursor.isDigit d then
        skipOptionalExponent (Cursor.skipDigitsFrom more (dot.position.after d))
      else .error (dot.faultNext .invalidNumber)
  | _ => skipOptionalExponent c

def skipNumber (rest : List UInt8) (p : Position) : Except Fault Cursor :=
  match skipWhole rest p with
  | .error e => .error e
  | .ok c => skipFraction c

/-- The letters that may follow a backslash, apart from `u`. -/
def isEscapeLetter (b : UInt8) : Bool :=
  b = 0x22 || b = 0x5c || b = 0x2f || b = 0x62 || b = 0x66 || b = 0x6e || b = 0x72 || b = 0x74

/-- Reads past a string whose opening quote is read. -/
def skipString : List UInt8 → Position → Except Fault Cursor
  | [], p => .error (.malformed .endInString p)
  | b :: rest, p =>
    if b = 0x22 then .ok ⟨rest, p.after b⟩
    else if b = 0x5c then
      match rest with
      | [] => .error (.malformed .endInString (p.after b))
      | e :: tail =>
        if isEscapeLetter e then skipString tail ((p.after b).after e)
        else if e = 0x75 then
          match tail with
          | h1 :: h2 :: h3 :: h4 :: more =>
            let q := ((p.after b).after e).afterAll [h1, h2, h3, h4]
            if (Cursor.hexQuad? h1 h2 h3 h4).isSome then skipString more q
            else .error (.malformed .invalidEscape q)
          | _ => .error (.malformed .endInString (((p.after b).after e).afterAll tail))
        else .error (.malformed .invalidEscape ((p.after b).after e))
    else if b < 0x20 then .error (.malformed .controlCharacter p)
    else skipString rest (p.after b)

/-- Reads past a value without parts, whose first byte is `b`. -/
def skipScalar (b : UInt8) (rest : List UInt8) (p : Position) : Except Fault Cursor :=
  if b = 0x6e then Cursor.expectWord Cursor.nullTail rest (p.after b)
  else if b = 0x74 then Cursor.expectWord Cursor.trueTail rest (p.after b)
  else if b = 0x66 then Cursor.expectWord Cursor.falseTail rest (p.after b)
  else if b = 0x2d then skipNumber rest (p.after b)
  else if Cursor.isDigit b then skipNumber (b :: rest) p
  else if b = 0x22 then skipString rest (p.after b)
  else .error (.malformed .expectedValue (p.after b))

/-- Reads past the key of a member and its colon. -/
def skipKey (c : Cursor) : Except Fault Cursor :=
  let c := c.skipBlanks
  match c.rest with
  | [] => .error (c.fault .endInObject)
  | b :: rest =>
    if b = 0x22 then
      match skipString rest (c.position.after b) with
      | .error e => .error e
      | .ok d =>
        let d := d.skipBlanks
        match d.rest with
        | [] => .error (d.fault .endInObject)
        | colon :: tail =>
          if colon = 0x3a then .ok ⟨tail, d.position.after colon⟩
          else .error (d.faultNext .expectedColon)
    else .error (c.faultNext .keyNotText)

/-- A list or an object that is open. -/
inductive Frame where
  | list
  | object
  deriving DecidableEq

namespace Frame

def closing : Frame → UInt8
  | .list => 0x5d
  | .object => 0x7d

/-- The fault of a text that ends inside the frame. -/
def atEnd : Frame → Cause
  | .list => .endInList
  | .object => .endInObject

/-- The fault of a byte that neither separates nor closes. -/
def unexpected : Frame → Cause
  | .list => .expectedListEnd
  | .object => .expectedObjectEnd

end Frame

/-- What the scanner looks for next. -/
inductive Phase where
  -- a value
  | value
  -- the first part of the innermost frame, or its end
  | opened
  -- what follows a value
  | closed
  deriving DecidableEq

/-- Reads past one value and the frames around it. `fuel` bounds the number of steps; every
step but the ones from `opened` reads a byte, so twice the length of the text is enough. -/
def scan : Nat → Phase → List Frame → Cursor → Except Fault Cursor
  | 0, _, _, c => .error (c.fault .endInValue)
  | fuel + 1, .value, frames, c =>
    let c := c.skipBlanks
    match c.rest with
    | [] => .error (c.fault .endInValue)
    | b :: rest =>
      if b = 0x5b then scan fuel .opened (.list :: frames) ⟨rest, c.position.after b⟩
      else if b = 0x7b then scan fuel .opened (.object :: frames) ⟨rest, c.position.after b⟩
      else
        match skipScalar b rest c.position with
        | .error e => .error e
        | .ok d => scan fuel .closed frames d
  | _ + 1, .opened, [], c => .ok c
  | fuel + 1, .opened, frame :: frames, c =>
    let c := c.skipBlanks
    match c.rest with
    | [] => .error (c.fault frame.atEnd)
    | b :: rest =>
      if b = frame.closing then scan fuel .closed frames ⟨rest, c.position.after b⟩
      else if frame = .object then
        match skipKey c with
        | .error e => .error e
        | .ok d => scan fuel .value (frame :: frames) d
      else scan fuel .value (frame :: frames) c
  | _ + 1, .closed, [], c => .ok c
  | fuel + 1, .closed, frame :: frames, c =>
    let c := c.skipBlanks
    match c.rest with
    | [] => .error (c.fault frame.atEnd)
    | b :: rest =>
      if b = 0x2c then
        if frame = .object then
          match skipKey ⟨rest, c.position.after b⟩ with
          | .error e => .error e
          | .ok d => scan fuel .value (frame :: frames) d
        else scan fuel .value (frame :: frames) ⟨rest, c.position.after b⟩
      else if b = frame.closing then scan fuel .closed frames ⟨rest, c.position.after b⟩
      else .error (c.faultNext frame.unexpected)

def skipValue (c : Cursor) : Except Fault Cursor :=
  scan (2 * c.rest.length + 2) .value [] c

/-- Accepts exactly the bytes that are one JSON text. -/
def accept (bs : List UInt8) : Except Fault Unit :=
  match skipValue (Cursor.ofBytes bs) with
  | .error e => .error e
  | .ok c => c.finish

end Intake.Json
