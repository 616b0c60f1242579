/-!
# Bytes and text

Text is carried as bytes in UTF-8. Reading goes through lists of bytes, because the
scanners recurse on what is left; storage is a byte array.
-/
namespace Intake.Text

instance decEqByteArray : DecidableEq ByteArray := fun a b =>
  decidable_of_iff (a.data = b.data) ByteArray.ext_iff.symm

/-- The bytes of an array, in order. -/
def bytes (b : ByteArray) : List UInt8 := b.data.toList

/-- The array that holds the given bytes. -/
def pack (bs : List UInt8) : ByteArray := ⟨bs.toArray⟩

/-- The text that the bytes encode, if they are well-formed UTF-8. -/
def decode? (bs : List UInt8) : Option String := String.fromUTF8? (pack bs)

/-- The place where well-formed characters end, from a place on; `fuel` bounds their number. -/
def wellFormedFrom : Nat → ByteArray → Nat → Nat
  | 0, _, place => place
  | fuel + 1, b, place =>
    match b.utf8DecodeChar? place with
    | some c => wellFormedFrom fuel b (place + c.utf8Size)
    | none => place

/-- The length of the longest beginning that is well-formed UTF-8. -/
def wellFormedLength (bs : List UInt8) : Nat := wellFormedFrom bs.length (pack bs) 0

def encode (s : String) : List UInt8 := bytes s.toUTF8

@[simp] theorem bytes_pack (bs : List UInt8) : bytes (pack bs) = bs := by
  simp [bytes, pack]

@[simp] theorem pack_bytes (b : ByteArray) : pack (bytes b) = b := by
  cases b
  simp [bytes, pack]

end Intake.Text
