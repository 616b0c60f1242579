import Intake.Json.Acceptance
import Intake.Json.Number
import Intake.Json.Text

/-!
# Codecs

A codec writes the values of one type as JSON text and reads them back. Codecs of records,
mappings and choices are put together from the codecs of their parts. Reading goes through
the text once, from left to right, so the first fault in the text is the one reported.
-/
namespace Intake.Json

/-- Reads a value and the cursor behind it. -/
abbrev Reader (α : Type) := Cursor → Except Fault (α × Cursor)

/-- How the values of a type are written and read. -/
structure Codec (α : Type) where
  write : α → List UInt8
  read : Reader α

def unsuitable {α : Type} (m : Mismatch) : Except Fault α := .error (.unsuitable m)

/-- The value found, where a number was read. -/
def Number.found : Number → Found
  | .whole i => .whole i
  | .double d => .double d

/-- The fault of finding another kind of value than the expected one. The value is read as far
as its kind and its text are told, and a fault met there comes first. -/
def mismatch {α : Type} (expected : String) (c : Cursor) : Except Fault α :=
  match c.rest with
  | [] => .error (c.fault .expectedValue)
  | b :: rest =>
    let p := c.position.after b
    let word (tail : List UInt8) (found : Found) : Except Fault α := do
      let _ ← Cursor.expectWord tail rest p
      unsuitable (.wrongType found expected)
    if b = 0x6e then word Cursor.nullTail .null
    else if b = 0x74 then word Cursor.trueTail (.flag true)
    else if b = 0x66 then word Cursor.falseTail (.flag false)
    else if b = 0x2d then do
      let (n, _) ← readNumber false rest p
      unsuitable (.wrongType n.found expected)
    else if Cursor.isDigit b then do
      let (n, _) ← readNumber true c.rest c.position
      unsuitable (.wrongType n.found expected)
    else if b = 0x22 then do
      let (s, _) ← readText rest p
      unsuitable (.wrongType (.text s) expected)
    else if b = 0x5b then unsuitable (.wrongType .list expected)
    else if b = 0x7b then unsuitable (.wrongType .object expected)
    else .error (c.faultNext .expectedValue)

/-- Skips blanks; the text must go on. -/
def beginValue (c : Cursor) : Except Fault (UInt8 × Cursor) :=
  let c := c.skipBlanks
  match c.rest with
  | [] => .error (c.fault .endInValue)
  | b :: _ => .ok (b, c)

/-- The cursor behind the next byte. -/
def Cursor.step (c : Cursor) : Cursor :=
  match c.rest with
  | [] => c
  | b :: rest => ⟨rest, c.position.after b⟩

namespace Codec

/-- Values that correspond one to one. -/
def via {α β : Type} (c : Codec β) (forth : α → β) (back : β → α) : Codec α where
  write a := c.write (forth a)
  read cursor := do
    let (b, cursor) ← c.read cursor
    pure (back b, cursor)

def flag : Codec Bool where
  write b := if b then 0x74 :: Cursor.trueTail else 0x66 :: Cursor.falseTail
  read c := do
    let (b, c) ← beginValue c
    if b = 0x74 then
      let c ← Cursor.expectWord Cursor.trueTail c.step.rest c.step.position
      pure (true, c)
    else if b = 0x66 then
      let c ← Cursor.expectWord Cursor.falseTail c.step.rest c.step.position
      pure (false, c)
    else mismatch "a boolean" c

/-- Reads any number where a number is expected. -/
def readAnyNumber (expected : String) : Reader Number := fun c => do
  let (b, c) ← beginValue c
  if b = 0x2d then readNumber false c.step.rest c.step.position
  else if Cursor.isDigit b then readNumber true c.rest c.position
  else mismatch expected c

def whole (low high : Int) (expected : String) : Codec Int where
  write := Decimal.ofInt
  read c := do
    let (n, c) ← readAnyNumber expected c
    match n with
    | .whole i =>
      if low ≤ i ∧ i ≤ high then pure (i, c)
      else unsuitable (.wrongValue (.whole i) expected)
    | .double d => unsuitable (.wrongType (.double d) expected)

def word8 : Codec UInt8 :=
  (whole 0 255 "u8").via (fun n => n.toNat) (fun i => i.toNat.toUInt8)

/-- Sixty-four-bit words; `expected` is what a fault says was wanted. -/
def word64 (expected : String) : Codec UInt64 :=
  (whole 0 (UInt64.size - 1) expected).via (fun n => n.toNat) (fun i => i.toNat.toUInt64)

def int64 : Codec Int64 :=
  (whole Int64.minValue.toInt Int64.maxValue.toInt "i64").via Int64.toInt Int64.ofInt

/-- Doubles; one without a decimal text is written as null. -/
def double : Codec Double where
  write d := (Decimal.ofDouble? d).getD (0x6e :: Cursor.nullTail)
  read c := do
    let (n, c) ← readAnyNumber "f64" c
    match n with
    | .double d => pure (d, c)
    | .whole i => pure (if i < 0 then (Double.ofNat i.natAbs).negate else Double.ofNat i.natAbs, c)

/-- Reads a text; `expected` is what a fault says was wanted. -/
def readString (expected : String) : Reader String := fun c => do
  let (b, c) ← beginValue c
  if b = 0x22 then readText c.step.rest c.step.position else mismatch expected c

def text : Codec String where
  write := writeText
  read := readString "a string"

/-- Whether one more element follows in a list; reads past the comma before it. -/
def moreElements (first : Bool) (c : Cursor) : Except Fault (Bool × Cursor) := do
  let c := c.skipBlanks
  match c.rest with
  | [] => .error (c.fault .endInList)
  | b :: _ =>
    if b = 0x5d then pure (false, c)
    else if first then pure (true, c)
    else if b = 0x2c then
      let c := c.step.skipBlanks
      match c.rest with
      | [] => .error (c.fault .endInValue)
      | d :: _ => if d = 0x5d then .error (c.faultNext .trailingComma) else pure (true, c)
    else .error (c.faultNext .expectedListEnd)

/-- Whether one more member follows in an object; reads past the comma before it. -/
def moreMembers (first : Bool) (c : Cursor) : Except Fault (Bool × Cursor) := do
  let c := c.skipBlanks
  match c.rest with
  | [] => .error (c.fault .endInObject)
  | b :: _ =>
    if b = 0x7d then pure (false, c)
    else if first then
      if b = 0x22 then pure (true, c) else .error (c.faultNext .keyNotText)
    else if b = 0x2c then
      let c := c.step.skipBlanks
      match c.rest with
      | [] => .error (c.fault .endInValue)
      | d :: _ =>
        if d = 0x22 then pure (true, c)
        else if d = 0x7d then .error (c.faultNext .trailingComma)
        else .error (c.faultNext .keyNotText)
    else .error (c.faultNext .expectedObjectEnd)

/-- Reads the end of a list of which enough elements were read. -/
def endList (c : Cursor) : Except Fault Cursor :=
  let c := c.skipBlanks
  match c.rest with
  | [] => .error (c.fault .endInList)
  | b :: _ =>
    if b = 0x5d then .ok c.step
    else if b = 0x2c then
      let c := c.step.skipBlanks
      match c.rest with
      | 0x5d :: _ => .error (c.faultNext .trailingComma)
      | _ => .error (c.faultNext .trailingCharacters)
    else .error (c.faultNext .trailingCharacters)

def readColon (c : Cursor) : Except Fault Cursor :=
  let c := c.skipBlanks
  match c.rest with
  | [] => .error (c.fault .endInObject)
  | b :: _ => if b = 0x3a then .ok c.step else .error (c.faultNext .expectedColon)

/-- Reads the elements of a list up to its end, which is read too. -/
def readElements {α : Type} (read : Reader α) :
    Nat → Bool → List α → Cursor → Except Fault (List α × Cursor)
  | 0, _, _, c => .error (c.fault .endInList)
  | fuel + 1, first, acc, c => do
    let (more, c) ← moreElements first c
    if more then
      let (a, c) ← read c
      readElements read fuel false (a :: acc) c
    else pure (acc.reverse, c.step)

/-- Texts put side by side with commas between them. -/
def commaSeparated : List (List UInt8) → List UInt8
  | [] => []
  | [t] => t
  | t :: ts => t ++ 0x2c :: commaSeparated ts

/-- Bytes, written as a list of numbers and read from a list or from a string. -/
def octets : Codec ByteArray where
  write b := 0x5b :: commaSeparated ((Text.bytes b).map word8.write) ++ [0x5d]
  read c := do
    let (b, c) ← beginValue c
    if b = 0x22 then
      let (bs, c) ← Json.readString false none c.step.rest c.step.position []
      pure (Text.pack bs, c)
    else if b = 0x5b then
      let (bs, c) ← readElements word8.read (c.rest.length + 1) true [] c.step
      pure (Text.pack bs, c)
    else mismatch "byte array" c

/-- A value that may be absent; an absent one is null. -/
def optional {α : Type} (inner : Codec α) : Codec (Option α) where
  write
    | some a => inner.write a
    | none => 0x6e :: Cursor.nullTail
  read c := do
    let c := c.skipBlanks
    match c.rest with
    | 0x6e :: rest =>
      let c ← Cursor.expectWord Cursor.nullTail rest (c.position.after 0x6e)
      pure (none, c)
    | _ =>
      let (a, c) ← inner.read c
      pure (some a, c)

/-- Reads the members of an object up to its end, which is read too. -/
def readEntries {α : Type} (read : Reader α) :
    Nat → Bool → List (String × α) → Cursor → Except Fault (List (String × α) × Cursor)
  | 0, _, _, c => .error (c.fault .endInObject)
  | fuel + 1, first, acc, c => do
    let (more, c) ← moreMembers first c
    if more then
      let (key, c) ← readText c.step.rest c.step.position
      let c ← readColon c
      let (a, c) ← read c
      readEntries read fuel false ((key, a) :: acc) c
    else pure (acc.reverse, c.step)

/-- The text of one member of an object. -/
def writeMember (name : String) (value : List UInt8) : List UInt8 :=
  writeText name ++ 0x3a :: value

/-- Named values, in the order of the text. -/
def entries {α : Type} (inner : Codec α) : Codec (List (String × α)) where
  write es := 0x7b :: commaSeparated (es.map fun e => writeMember e.1 (inner.write e.2)) ++ [0x7d]
  read c := do
    let (b, c) ← beginValue c
    if b = 0x7b then readEntries inner.read (c.rest.length + 1) true [] c.step
    else mismatch "a map" c

/-- A member of a record of type `α`. -/
structure Member (α : Type) where
  name : String
  -- whether an object without the member is refused
  required : Bool
  write : α → List UInt8
  -- reads the member and puts it into a record
  read : α → Reader α

/-- The member with a codec, a view and an update. -/
def member {α β : Type} (name : String) (required : Bool) (codec : Codec β) (get : α → β)
    (put : β → α → α) : Member α where
  name := name
  required := required
  write a := codec.write (get a)
  read a c := do
    let (b, c) ← codec.read c
    pure (put b a, c)

/-- Reads the members of a record from an object. Unknown members are skipped; a member may
come once. `seen` lists the names of the members read so far. -/
def readMembers {α : Type} (members : List (Member α)) :
    Nat → Bool → List String → α → Cursor → Except Fault (List String × α × Cursor)
  | 0, _, _, _, c => .error (c.fault .endInObject)
  | fuel + 1, first, seen, a, c => do
    let (more, c) ← moreMembers first c
    if more then
      let (key, c) ← readText c.step.rest c.step.position
      match members.find? (·.name == key) with
      | none =>
        let c ← readColon c
        let c ← skipValue c
        readMembers members fuel false seen a c
      | some m =>
        if seen.contains key then unsuitable (.duplicateField key)
        else
          let c ← readColon c
          let (a, c) ← m.read a c
          readMembers members fuel false (key :: seen) a c
    else pure (seen, a, c.step)

/-- Reads the members of a record from a list, in order. A list that ends early is refused,
unless the record is sparse. `index` counts the members read. -/
def readPositional {α : Type} (sparse : Bool) (expected : String) :
    List (Member α) → Nat → α → Cursor → Except Fault (α × Cursor)
  | [], _, a, c => pure (a, c)
  | m :: members, index, a, c => do
    let (more, c) ← moreElements (index == 0) c
    if more then
      let (a, c) ← m.read a c
      readPositional sparse expected members (index + 1) a c
    else if sparse then pure (a, c)
    else unsuitable (.wrongLength index expected)

/-- A record with a title, a value to start from and its members. In a sparse record every
member may be absent and keeps the value it has to start with. -/
def record {α : Type} (title : String) (sparse : Bool) (blank : α) (members : List (Member α)) :
    Codec α where
  write a :=
    0x7b :: commaSeparated (members.map fun m => writeMember m.name (m.write a)) ++ [0x7d]
  read c := do
    let (b, c) ← beginValue c
    if b = 0x7b then
      let (seen, a, c) ← readMembers members (c.rest.length + 1) true [] blank c.step
      match members.find? (fun m => m.required && !seen.contains m.name) with
      | some m => unsuitable (.missingField m.name)
      | none => pure (a, c)
    else if b = 0x5b then
      let expected := "struct " ++ title ++ " with " ++ toString members.length ++ " elements"
      let (a, c) ← readPositional sparse expected members 0 blank c.step
      let c ← endList c
      pure (a, c)
    else mismatch ("struct " ++ title) c

/-- A variant of a choice of type `α`. -/
structure Variant (α : Type) where
  name : String
  -- the value, where the variant has no payload
  bare : Option α
  -- reads the payload
  read : Reader α

/-- A variant without payload; written with a name only, read also with a null. -/
def bareVariant {α : Type} (name : String) (value : α) : Variant α where
  name := name
  bare := some value
  read c := do
    let (b, c) ← beginValue c
    if b = 0x6e then
      let c ← Cursor.expectWord Cursor.nullTail c.step.rest c.step.position
      pure (value, c)
    else mismatch "unit" c

def variant {α β : Type} (name : String) (codec : Codec β) (make : β → α) : Variant α where
  name := name
  bare := none
  read c := do
    let (b, c) ← codec.read c
    pure (make b, c)

def writeBare (name : String) : List UInt8 := writeText name

/-- The text of a variant with a payload. -/
def writeVariant (name : String) (payload : List UInt8) : List UInt8 :=
  0x7b :: writeMember name payload ++ [0x7d]

def readVariant {α : Type} (variants : List (Variant α)) : Reader (Variant α) := fun c => do
  let (name, c) ← readString "variant identifier" c
  match variants.find? (·.name == name) with
  | some v => pure (v, c)
  | none => unsuitable (.unknownVariant name (variants.map (·.name)))

/-- Moves to the only key of an object. -/
def toKey (c : Cursor) : Except Fault Cursor :=
  let c := c.skipBlanks
  match c.rest with
  | [] => .error (c.fault .endInObject)
  | b :: _ =>
    if b = 0x22 then .ok c
    else .error (c.faultNext (if b = 0x7d then .expectedValue else .keyNotText))

def choice {α : Type} (variants : List (Variant α)) (write : α → List UInt8) : Codec α where
  write := write
  read c := do
    let (b, c) ← beginValue c
    if b = 0x7b then
      let c ← toKey c.step
      let (v, c) ← readVariant variants c
      let c ← readColon c
      let (a, c) ← v.read c
      let c := c.skipBlanks
      match c.rest with
      | [] => .error (c.fault .endInObject)
      | d :: _ => if d = 0x7d then pure (a, c.step) else .error (c.fault .expectedValue)
    else if b = 0x22 then
      let (v, c) ← readVariant variants c
      match v.bare with
      | some a => pure (a, c)
      | none => unsuitable (.wrongType .bareVariant "newtype variant")
    else .error (c.faultNext .expectedValue)

/-- Reads a document that is one value and nothing else. -/
def parse {α : Type} (codec : Codec α) (bs : List UInt8) : Except Fault α := do
  let (a, c) ← codec.read (Cursor.ofBytes bs)
  c.finish
  pure a

end Codec
end Intake.Json
