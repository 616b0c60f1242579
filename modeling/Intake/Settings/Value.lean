import Intake.Number.Reading

/-!
# Trees of settings

Settings from any source are trees of scalars, tables and lists. A table holds a name at
most once. Trees are put over one another name by name: tables are merged, and everything
else replaces what was there.
-/
namespace Intake

inductive Setting where
  | null
  | flag (value : Bool)
  | whole (value : Int64)
  -- a whole number, which may be too large for a signed one
  | word (value : UInt64)
  | double (value : Double)
  | text (value : String)
  | list (elements : List Setting)
  | table (entries : List (String × Setting))

namespace Setting

def emptyTable : Setting := .table []

/-- The entries of a table; other values have none. -/
def entries : Setting → List (String × Setting)
  | .table es => es
  | _ => []

def isTable : Setting → Bool
  | .table _ => true
  | _ => false

/-- The value of a name in a table. -/
def find? (s : Setting) (name : String) : Option Setting := s.entries.lookup name

/-- Sets the value of a name among entries; a new name goes to the end. -/
def setEntry (name : String) (value : Setting) :
    List (String × Setting) → List (String × Setting)
  | [] => [(name, value)]
  | (n, v) :: rest => if n = name then (name, value) :: rest else (n, v) :: setEntry name value rest

/-- The table with a name set; a value that is no table becomes one. -/
def insert (s : Setting) (name : String) (value : Setting) : Setting :=
  .table (setEntry name value s.entries)

mutual

/-- Puts a value in the place of a name: a table is merged into what is there, and every other
value replaces it. -/
def put (target : Setting) (name : String) : Setting → Setting
  | .table incoming =>
    target.insert name (putAll ((target.find? name).getD emptyTable) incoming)
  | value => target.insert name value

def putAll (target : Setting) : List (String × Setting) → Setting
  | [] => target
  | (name, value) :: rest => putAll (target.put name value) rest

end

/-! ### Typed values -/

/-- The text of a lenient boolean. -/
def lenientFlag? (word : List Char) : Option Bool :=
  if word = "true".toList || word = "on".toList || word = "yes".toList then some true
  else if word = "false".toList || word = "off".toList || word = "no".toList then some false
  else none

/-- A setting where a sixty-four-bit word is wanted: a whole number that is not negative, a
rounded double, a boolean as one or zero, or a text of one of these. -/
def asWord? : Setting → Option UInt64
  | .whole i => if 0 ≤ i then some i.toUInt64 else none
  | .word w => some w
  | .double d => some d.toWord
  | .flag b => some (if b then 1 else 0)
  | .text s =>
    match lenientFlag? (Text.asciiLower s.toList) with
    | some b => some (if b then 1 else 0)
    | none => Number.word64? s.toList
  | .null | .list _ | .table _ => none

/-- A setting where a boolean is wanted: a number stands for whether it differs from zero. -/
def asFlag? : Setting → Option Bool
  | .flag b => some b
  | .whole i => some (i ≠ 0)
  | .word w => some (w ≠ 0)
  | .double d => some (!d.isZero)
  | .text s =>
    if s = "1" then some true
    else if s = "0" then some false
    else lenientFlag? (Text.asciiLower s.toList)
  | .null | .list _ | .table _ => none

end Setting
end Intake
