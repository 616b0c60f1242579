/-!
# Lossy decoding

Reading bytes as UTF-8 without failing: what is not well-formed is read as the replacement
character, one for each longest beginning of a character that breaks off.
-/
namespace Intake.Text

def replacement : Char := '\ufffd'

/-- Whether a byte continues a character. -/
def isContinuation (b : UInt8) : Bool := 0x80 ≤ b && b ≤ 0xbf

/-- The payload of a byte that continues a character. -/
def payload (b : UInt8) : Nat := b.toNat % 64

/-- Reads one character of two, three or four bytes behind its first byte. The second byte has
bounds of its own. Gives the character and the number of further bytes read. -/
def readTail (first : Nat) (further : Nat) (low high : UInt8) (rest : List UInt8) : Char × Nat :=
  match rest with
  | [] => (replacement, 0)
  | b :: rest =>
    if low ≤ b && b ≤ high then
      let tail := rest.take (further - 1)
      let good := tail.takeWhile isContinuation
      if good.length = further - 1 then
        (Char.ofNat (good.foldl (fun n b => n * 64 + payload b) (first * 64 + payload b)), further)
      else (replacement, 1 + good.length)
    else (replacement, 0)

/-- Reads one character. Gives the number of bytes read behind the first one. -/
def readLossy (b : UInt8) (rest : List UInt8) : Char × Nat :=
  if b < 0x80 then (Char.ofNat b.toNat, 0)
  else if 0xc2 ≤ b && b ≤ 0xdf then readTail (b.toNat % 32) 1 0x80 0xbf rest
  else if 0xe0 ≤ b && b ≤ 0xef then
    readTail (b.toNat % 16) 2 (if b = 0xe0 then 0xa0 else 0x80) (if b = 0xed then 0x9f else 0xbf)
      rest
  else if 0xf0 ≤ b && b ≤ 0xf4 then
    readTail (b.toNat % 8) 3 (if b = 0xf0 then 0x90 else 0x80) (if b = 0xf4 then 0x8f else 0xbf)
      rest
  else (replacement, 0)

/-- Reads bytes as text, for at most `fuel` characters. -/
def decodeLossyFrom : Nat → List UInt8 → List Char
  | 0, _ => []
  | _ + 1, [] => []
  | fuel + 1, b :: rest =>
    let (c, n) := readLossy b rest
    c :: decodeLossyFrom fuel (rest.drop n)

def decodeLossy (bs : List UInt8) : List Char := decodeLossyFrom bs.length bs

end Intake.Text
