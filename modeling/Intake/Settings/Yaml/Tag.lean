import Intake.Number.Reading
import Intake.Settings.Yaml.Token

/-!
# Tags in YAML text

A tag is a suffix behind a handle, or a whole text between angles. A directive declares what
a handle puts in front of its suffixes. In all these texts a percent sign and two hexadecimal
digits stand for a byte, and one to four such bytes for a character.
-/
namespace Intake.Yaml.Lexer

/-- Whether a character may stand in a tag between angles, or in the head of tags. -/
def isUriChar (c : Char) : Bool := isWord c || "#;/?:@&=+$,.!~*'()[]%".toList.contains c

/-- Whether a character may stand in the suffix of a tag. -/
def isTagChar (c : Char) : Bool := isUriChar c && c ≠ '!' && !isFlow c

/-! ### Characters by their bytes -/

/-- Reads a byte that is written as a percent sign and two digits. -/
def percentByte? : List Char → Option (Nat × List Char)
  | '%' :: a :: b :: rest => do
    let high ← Number.digit? 16 a
    let low ← Number.digit? 16 b
    some (high * 16 + low, rest)
  | _ => none

/-- The number of bytes that follow the first byte of a character. -/
def trailingCount? (b : Nat) : Option Nat :=
  if b < 0x80 then some 0
  else if b < 0xc0 then none
  else if b < 0xe0 then some 1
  else if b < 0xf0 then some 2
  else if b < 0xf8 then some 3
  else none

/-- Reads some further bytes of a character. -/
def trailingBytes : Nat → Nat → List Char → Option (Nat × List Char)
  | 0, code, s => some (code, s)
  | n + 1, code, s => do
    let (b, s) ← percentByte? s
    if 0x80 ≤ b && b < 0xc0 then trailingBytes n (code * 0x100 + b) s else none

/-- Reads a character that is written by its bytes. Its number is that of the bytes side by side. -/
def percentChar? (s : List Char) : Option (Char × List Char) := do
  let (b, s) ← percentByte? s
  let n ← trailingCount? b
  let (code, s) ← trailingBytes n b s
  if code.isValidChar then some (Char.ofNat code, s) else none

/-- Reads characters that meet a condition onto reversed text. -/
def uriChars (p : Char → Bool) : Nat → List Char → List Char → Option (List Char × List Char)
  | fuel + 1, acc, c :: rest =>
    if !p c then some (acc.reverse, c :: rest)
    else if c = '%' then do
      let (d, rest) ← percentChar? (c :: rest)
      uriChars p fuel (d :: acc) rest
    else uriChars p fuel (c :: acc) rest
  | _, acc, s => some (acc.reverse, s)

def uri (l : Lexer) (p : Char → Bool) : Option (String × Lexer) := do
  let (text, rest) ← uriChars p l.rest.length [] l.rest
  some (String.ofList text, l.skip (l.rest.length - rest.length))

/-! ### Tags -/

/-- Reads a tag: its handle and what follows it. -/
def tagParts (l : Lexer) : Option (String × String × Lexer) := do
  if l.peek 1 = '<' then
    let (text, l) ← (l.skip 2).uri isUriChar
    if l.next = '>' then some ("", text, l.skip 1) else none
  else
    let l := l.skip 1
    let word := l.run isWord
    let m := l.skip word.length
    if m.next = '!' then
      let (suffix, m) ← (m.skip 1).uri isTagChar
      if suffix.isEmpty then none else some (String.ofList ('!' :: word ++ ['!']), suffix, m)
    else
      let (suffix, l) ← l.uri isTagChar
      some (if suffix.isEmpty then ("", "!", l) else ("!", suffix, l))

/-- Reads the handle and the head of tags that a directive declares. -/
def tagDeclaration (l : Lexer) : Option (String × String × Lexer) := do
  let l := l.skipBlanks (l.run isBlank).length
  if l.next ≠ '!' then none
  else
    let l := l.skip 1
    let word := l.run isWord
    let l := l.skip word.length
    if l.next ≠ '!' && !word.isEmpty then none
    else
      let marks := if l.next = '!' then ['!'] else []
      let l := l.skip marks.length
      let l := l.skipBlanks (l.run isBlank).length
      if l.next ≠ '!' && !isTagChar l.next then none
      else
        let (head, l) ← l.uri isUriChar
        if isBlankOrEnd l.next then some (String.ofList ('!' :: word ++ marks), head, l) else none

end Intake.Yaml.Lexer
