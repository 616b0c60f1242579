import Intake.Json.Codec

/-!
# JSON documents

A document of any shape, read as a tree. Lists and objects nest up to a limit; of several
members with one name the last counts. A choice between names can be read from such a tree.
-/
namespace Intake.Json

inductive Document where
  | null
  | flag (value : Bool)
  | number (value : Number)
  | text (value : String)
  | list (elements : List Document)
  | object (members : List (String × Document))

namespace Document

/-- How deep lists and objects may nest. -/
def maxDepth : Nat := 127

/-- Reads a value that is no list and no object. -/
def readScalar (b : UInt8) : Reader Document := fun c => do
  if b = 0x6e then
    let c ← Cursor.expectWord Cursor.nullTail c.step.rest c.step.position
    pure (.null, c)
  else if b = 0x74 then
    let c ← Cursor.expectWord Cursor.trueTail c.step.rest c.step.position
    pure (.flag true, c)
  else if b = 0x66 then
    let c ← Cursor.expectWord Cursor.falseTail c.step.rest c.step.position
    pure (.flag false, c)
  else if b = 0x2d then
    let (n, c) ← readNumber false c.step.rest c.step.position
    pure (.number n, c)
  else if Cursor.isDigit b then
    let (n, c) ← readNumber true c.rest c.position
    pure (.number n, c)
  else if b = 0x22 then
    let (s, c) ← readText c.step.rest c.step.position
    pure (.text s, c)
  else .error (c.faultNext .expectedValue)

/-- Reads a value in which lists and objects nest at most `depth` deep. -/
def read : Nat → Reader Document
  | 0 => fun c => do
    let (b, c) ← beginValue c
    if b = 0x5b || b = 0x7b then .error (c.faultNext .tooDeep) else readScalar b c
  | depth + 1 => fun c => do
    let (b, c) ← beginValue c
    if b = 0x5b then
      let (elements, c) ← Codec.readElements (read depth) (c.rest.length + 1) true [] c.step
      pure (.list elements, c)
    else if b = 0x7b then
      let (members, c) ← Codec.readEntries (read depth) (c.rest.length + 1) true [] c.step
      pure (.object members, c)
    else readScalar b c

def parse (bs : List UInt8) : Except Fault Document := do
  let (d, c) ← read maxDepth (Cursor.ofBytes bs)
  c.finish
  pure d

/-- The member of an object with a name. -/
def member? (name : String) : Document → Option Document
  | .object members => members.reverse.lookup name
  | _ => none

/-! ### Choices -/

/-- What a document is found to be, where something else was wanted. -/
def found : Document → Found
  | .null => .null
  | .flag b => .flag b
  | .number n => n.found
  | .text s => .text s
  | .list _ => .list
  | .object _ => .object

/-- Reads the payload of a variant that has none. -/
def readNull : Document → Except Fault Unit
  | .null => .ok ()
  | d => unsuitable (.wrongType d.found "unit")

def readName {α : Type} (values : List (String × α)) (name : String) : Except Fault α :=
  match values.lookup name with
  | some a => .ok a
  | none => unsuitable (.unknownVariant name (values.map (·.1)))

/-- Reads a choice between named values from a name, or from an object whose only member has the
name and is null. -/
def readChoice {α : Type} (values : List (String × α)) : Document → Except Fault α
  | .text name => readName values name
  | .object members =>
    match members.reverse with
    | [] => unsuitable (.wrongValue .object "map with a single key")
    | (name, payload) :: others => do
      if others.all (·.1 = name) then
        let a ← readName values name
        payload.readNull
        pure a
      else unsuitable (.wrongValue .object "map with a single key")
  | d => unsuitable (.wrongType d.found "string or map")

end Document
end Intake.Json
