import Intake.Settings.Value

/-!
# Paths into settings

A path is a name followed by names after points and positions in brackets. The names that a
source gives at its root are read as paths; a name that is no path stands for itself.
-/
namespace Intake.Setting

inductive Part where
  | name (text : String)
  -- a position in a list, counted from the end if it is negative
  | position (index : Int)
  deriving DecidableEq

/-- Whether a character may occur in a name on a path. -/
def isNameChar (c : Char) : Bool := c.isAlphanum || c = '_' || c = '-'

def readName (s : List Char) : Option (Part × List Char) :=
  let name := s.takeWhile isNameChar
  if name.isEmpty then none else some (.name (String.ofList name), s.dropWhile isNameChar)

/-- Whether a character may stand around a position. -/
def isPadding (c : Char) : Bool := c = ' ' || c = '\t'

/-- Reads a position and the bracket after it. -/
def readPosition (s : List Char) : Option (Part × List Char) :=
  let s := s.dropWhile isPadding
  let (sign, digits) :=
    match s with
    | '-' :: rest => (['-'], rest)
    | _ => ([], s)
  match (digits.dropWhile Char.isDigit).dropWhile isPadding,
      Number.int64? 10 (sign ++ digits.takeWhile Char.isDigit) with
  | ']' :: rest, some i => some (.position i.toInt, rest)
  | _, _ => none

/-- Reads the parts of a path after the first; `fuel` bounds their number. -/
def readParts : Nat → List Char → Option (List Part)
  | _, [] => some []
  | 0, _ => none
  | fuel + 1, c :: rest => do
    let (part, rest) ←
      if c = '.' then readName rest
      else if c = '[' then readPosition rest
      else none
    let parts ← readParts fuel rest
    pure (part :: parts)

def readPath? (text : String) : Option (List Part) := do
  let s := text.toList
  let (first, rest) ← readName s
  let parts ← readParts s.length rest
  pure (first :: parts)

/-- The path that a name at the root of a source stands for. -/
def pathOf (name : String) : List Part := (readPath? name).getD [.name name]

/-- The elements of a list; other values have none. -/
def elements : Setting → List Setting
  | .list es => es
  | _ => []

/-- Changes one element of a list. A list that is too short is filled up with nulls, at the end or,
for a position counted from the end, at the beginning. -/
def modifyElement (s : Setting) (index : Int) (f : Setting → Setting) : Setting :=
  let es := s.elements
  if 0 ≤ index then
    let place := index.toNat
    .list ((es ++ List.replicate (place + 1 - es.length) Setting.null).modify place f)
  else
    let back := index.natAbs
    .list ((List.replicate (back - es.length) Setting.null ++ es).modify (es.length - back) f)

/-- Puts a value at the end of a path. What is missing on the way is made, and a
table is merged into a table that is there. -/
def putAt (value : Setting) : List Part → Setting → Setting
  | [], s => s
  | [.name n], s => s.put n value
  | [.position i], s => s.modifyElement i fun _ => value
  | .name n :: path, s => s.insert n (putAt value path ((s.find? n).getD Setting.null))
  | .position i :: path, s => s.modifyElement i (putAt value path)

/-- Puts the entries of a source over what other sources gave. -/
def overlay (s : Setting) (source : List (String × Setting)) : Setting :=
  source.foldl (fun s e => putAt e.2 (pathOf e.1) s) s

end Intake.Setting
