import Intake.Json.Cursor
import Intake.Text.Bytes

/-!
# Strings in JSON text

Reading and writing strings. The strict reading wants the escapes of surrogate pairs
complete, refuses control characters and wants UTF-8; the raw reading takes any bytes
and writes a lone surrogate as three bytes.
-/
namespace Intake.Json

/-- The byte that a letter after a backslash stands for. -/
def escapedByte? (letter : UInt8) : Option UInt8 :=
  if letter = 0x22 || letter = 0x5c || letter = 0x2f then some letter
  else if letter = 0x62 then some 0x08
  else if letter = 0x66 then some 0x0c
  else if letter = 0x6e then some 0x0a
  else if letter = 0x72 then some 0x0d
  else if letter = 0x74 then some 0x09
  else none

def isLeading (n : Nat) : Bool := 0xd800 ≤ n && n ≤ 0xdbff

def isTrailing (n : Nat) : Bool := 0xdc00 ≤ n && n ≤ 0xdfff

/-- The bytes of a code point, surrogates included. -/
def codePointBytes (n : Nat) : List UInt8 :=
  if n < 0x80 then [n.toUInt8]
  else if n < 0x800 then [(0xc0 + n / 64).toUInt8, (0x80 + n % 64).toUInt8]
  else if n < 0x10000 then
    [(0xe0 + n / 4096).toUInt8, (0x80 + n / 64 % 64).toUInt8, (0x80 + n % 64).toUInt8]
  else
    [(0xf0 + n / 262144).toUInt8, (0x80 + n / 4096 % 64).toUInt8, (0x80 + n / 64 % 64).toUInt8,
      (0x80 + n % 64).toUInt8]

def pairedCodePoint (leading trailing : Nat) : Nat :=
  (leading - 0xd800) * 1024 + (trailing - 0xdc00) + 0x10000

/-- Puts a code point in front of reversed bytes. -/
def pushCodePoint (n : Nat) (acc : List UInt8) : List UInt8 := (codePointBytes n).reverse ++ acc

/-- Puts a leading surrogate that found no partner in front of reversed bytes. -/
def pushLone (pending : Option Nat) (acc : List UInt8) : List UInt8 :=
  match pending with
  | some n => pushCodePoint n acc
  | none => acc

/-- Reads a string whose opening quote is read. `pending` is a leading surrogate that waits for
its partner; `acc` holds the bytes read so far, last first. -/
def readString (strict : Bool) :
    Option Nat → List UInt8 → Position → List UInt8 → Except Fault (List UInt8 × Cursor)
  | _, [], p, _ => .error (.malformed .endInString p)
  | pending, b :: rest, p, acc =>
    if b = 0x5c then
      match rest with
      | [] => .error (.malformed .endInString (p.after b))
      | e :: tail =>
        let q := (p.after b).after e
        if e = 0x75 then
          match tail with
          | h1 :: h2 :: h3 :: h4 :: more =>
            let q := q.afterAll [h1, h2, h3, h4]
            match Cursor.hexQuad? h1 h2 h3 h4 with
            | none => .error (.malformed .invalidEscape q)
            | some n =>
              match pending with
              | some lead =>
                if isTrailing n then
                  readString strict none more q (pushCodePoint (pairedCodePoint lead n) acc)
                else if strict then .error (.malformed .loneSurrogate q)
                else if isLeading n then readString strict (some n) more q (pushCodePoint lead acc)
                else readString strict none more q (pushCodePoint n (pushCodePoint lead acc))
              | none =>
                if strict && isTrailing n then .error (.malformed .loneSurrogate q)
                else if isLeading n then readString strict (some n) more q acc
                else readString strict none more q (pushCodePoint n acc)
          | _ => .error (.malformed .endInString (q.afterAll tail))
        else if strict && pending.isSome then .error (.malformed .unfinishedPair q)
        else
          match escapedByte? e with
          | some x => readString strict none tail q (x :: pushLone pending acc)
          | none => .error (.malformed .invalidEscape q)
    else if strict && pending.isSome then .error (.malformed .unfinishedPair (p.after b))
    else if b = 0x22 then .ok ((pushLone pending acc).reverse, ⟨rest, p.after b⟩)
    else if strict && b < 0x20 then .error (.malformed .controlCharacter (p.after b))
    else readString strict none rest (p.after b) (b :: pushLone pending acc)

/-- Reads a text whose opening quote is read. Bytes that are not UTF-8 are reported as far in front
of the place behind the closing quote as they lie before the end of the text. -/
def readText (rest : List UInt8) (p : Position) : Except Fault (String × Cursor) :=
  match readString true none rest p [] with
  | .error e => .error e
  | .ok (bs, c) =>
    match Text.decode? bs with
    | some s => .ok (s, c)
    | none =>
      .error (.malformed .invalidCodePoint (c.position.back (bs.length - Text.wellFormedLength bs)))

/-- The lower-case hexadecimal digit of a number below sixteen. -/
def hexByte (n : Nat) : UInt8 := if n < 10 then 0x30 + n.toUInt8 else 0x57 + n.toUInt8

/-- The bytes that stand for a byte inside a string. -/
def escape (b : UInt8) : List UInt8 :=
  if b = 0x22 then [0x5c, 0x22]
  else if b = 0x5c then [0x5c, 0x5c]
  else if b = 0x08 then [0x5c, 0x62]
  else if b = 0x0c then [0x5c, 0x66]
  else if b = 0x0a then [0x5c, 0x6e]
  else if b = 0x0d then [0x5c, 0x72]
  else if b = 0x09 then [0x5c, 0x74]
  else if b < 0x20 then [0x5c, 0x75, 0x30, 0x30, hexByte (b.toNat / 16), hexByte (b.toNat % 16)]
  else [b]

/-- A text as a JSON string. -/
def writeText (s : String) : List UInt8 := 0x22 :: (Text.encode s).flatMap escape ++ [0x22]

end Intake.Json
