import Intake.Settings.Toml.Scalar

/-!
# Settings from TOML text

A text is a sequence of lines: headers of tables, headers of rows, and keys with values for
the table or row begun last. A table is begun by a header once, and a key is given once.
Tables that are only named on the way to others may still be begun by a header, until a key
with points gives them a value. Such keys extend no table that a header has begun.
-/
namespace Intake.Toml

/-- What a key stands for while a text is read. -/
inductive Item where
  | value (setting : Setting)
  -- a table; open ones have no header of their own yet, and a key with points made or extended
  -- dotted ones
  | table (isOpen isDotted : Bool) (entries : List (String × Item))
  -- rows of a table, the last one first
  | rows (rows : List (List (String × Item)))

abbrev Items := List (String × Item)

/-- Changes what a key stands for; a new key goes to the end. -/
def modifyKey (key : String) (f : Option Item → Option Item) : Items → Option Items
  | [] => (f none).map fun item => [(key, item)]
  | (k, item) :: rest =>
    if k = key then (f (some item)).map fun item => (k, item) :: rest
    else (modifyKey key f rest).map ((k, item) :: ·)

/-- Changes the table at the end of a path; tables that are missing are made. `dotted` tells that the
path comes from a key with points. Such a path passes tables without a header only, and it does
not end at a row. -/
def descend (dotted : Bool) (f : Items → Option Items) : List String → Items → Option Items
  | [], items => f items
  | key :: path, items =>
    modifyKey key (fun
      | none => (descend dotted f path []).map (.table true dotted)
      | some (.value _) => none
      | some (.rows []) => none
      | some (.rows (row :: others)) =>
        if dotted && path.isEmpty then none
        else (descend dotted f path row).map fun row => .rows (row :: others)
      | some (.table isOpen isDotted inner) =>
        if dotted && !isOpen then none
        else
          (descend dotted f path inner).map
            (.table isOpen (isDotted || (dotted && path.isEmpty)))) items

def beginTable (path : List String) (key : String) (items : Items) : Option Items :=
  descend false (modifyKey key fun
    | none => some (.table false false [])
    | some (.table true false inner) => some (.table false false inner)
    | _ => none) path items

def beginRow (path : List String) (key : String) (items : Items) : Option Items :=
  descend false (modifyKey key fun
    | none => some (.rows [[]])
    | some (.rows rows) => some (.rows ([] :: rows))
    | _ => none) path items

/-- Gives a key with points a value in a table. -/
def giveKey (path : List String) (key : String) (value : Setting) (items : Items) : Option Items :=
  descend true (modifyKey key fun
    | none => some (.value value)
    | some _ => none) path items

mutual

def Item.setting : Item → Setting
  | .value s => s
  | .table _ _ items => .table (itemSettings items)
  | .rows rows => .list (rowSettings rows [])

/-- The settings of the entries of a table. -/
def itemSettings : List (String × Item) → List (String × Setting)
  | [] => []
  | (key, item) :: rest => (key, item.setting) :: itemSettings rest

/-- The settings of rows, the last one first, in front of others. -/
def rowSettings : List (List (String × Item)) → List Setting → List Setting
  | [], acc => acc
  | row :: rest, acc => rowSettings rest (.table (itemSettings row) :: acc)

end

/-! ### Keys and values -/

def keyPart : Scan String
  | '"' :: rest => (lineString '"' (rest.length + 1) [] rest).map fun r => (String.ofList r.1, r.2)
  | '\'' :: rest => (lineString '\'' (rest.length + 1) [] rest).map fun r => (String.ofList r.1, r.2)
  | s =>
    let name := s.takeWhile isBareChar
    if name.isEmpty then none else some (String.ofList name, s.drop name.length)

/-- How deep lists and tables in braces may nest, and how many parts a key may have. -/
def maxDepth : Nat := 80

/-- Reads the parts of a key: those before the last point, and the one after it. -/
def keyParts : Nat → Scan (List String × String)
  | 0, _ => none
  | fuel + 1, s => do
    let (part, s) ← keyPart (skipBlanks s)
    match skipBlanks s with
    | '.' :: rest => do
      let ((path, key), rest) ← keyParts fuel rest
      some ((part :: path, key), rest)
    | rest => some (([], part), rest)

def keyPath : Scan (List String × String) := fun s => do
  let ((path, key), rest) ← keyParts (s.length + 1) s
  if path.length < maxDepth then some ((path, key), rest) else none

/-- Moves past blanks, comments and ends of lines; `fuel` bounds the number of lines. -/
def skipSomeLines : Nat → List Char → List Char
  | 0, s => s
  | fuel + 1, s =>
    let s := skipComment (skipBlanks s)
    match newline? s with
    | some rest => skipSomeLines fuel rest
    | none => s

/-- Moves past blanks, comments and ends of lines. -/
def skipLines (s : List Char) : List Char := skipSomeLines (s.length + 1) s

mutual

/-- Reads a value in which lists and tables nest at most `depth` deep. -/
def value (depth : Nat) : Nat → Scan Setting
  | 0, _ => none
  | fuel + 1, s =>
    match s, depth with
    | '"' :: rest, _ => (quoted '"' rest).map fun r => (.text r.1, r.2)
    | '\'' :: rest, _ => (quoted '\'' rest).map fun r => (.text r.1, r.2)
    | '[' :: _, 0 => none
    | '{' :: _, 0 => none
    | '[' :: rest, depth + 1 => (listElements depth fuel rest).map fun r => (.list r.1, r.2)
    | '{' :: rest, depth + 1 =>
      (inlineEntries depth fuel [] rest).map fun r => (.table (itemSettings r.1), r.2)
    | _, _ => bare s

/-- Reads the elements of a list and its end. -/
def listElements (depth : Nat) : Nat → Scan (List Setting)
  | 0, _ => none
  | fuel + 1, s =>
    match skipLines s with
    | ']' :: rest => some ([], rest)
    | s => do
      let (v, s) ← value depth fuel s
      match skipLines s with
      | ',' :: rest => do
        let (vs, rest) ← listElements depth fuel rest
        some (v :: vs, rest)
      | ']' :: rest => some ([v], rest)
      | _ => none

/-- Reads the entries of a table in braces and its end. As in a list, the last entry may be
followed by a comma, and all parts but those of a key may stand on lines of their own. -/
def inlineEntries (depth : Nat) : Nat → Items → Scan Items
  | 0, _, _ => none
  | fuel + 1, items, s =>
    match skipLines s with
    | '}' :: rest => some (items, rest)
    | s => do
      let ((path, key), s) ← keyPath s
      let s ← mark '=' (skipLines s)
      let (v, s) ← value depth fuel (skipLines s)
      let items ← giveKey path key v items
      match skipLines s with
      | ',' :: rest => inlineEntries depth fuel items rest
      | '}' :: rest => some (items, rest)
      | _ => none

end

/-! ### Documents -/

/-- Reads the end of a line, perhaps behind a comment. -/
def lineEnd (s : List Char) : Option (List Char) :=
  match skipComment (skipBlanks s) with
  | [] => some []
  | s => newline? s

/-- Reads the lines of a text. `header` is the path of the table or row begun last. -/
def lines : Nat → List String → Items → List Char → Option Items
  | 0, _, _, _ => none
  | fuel + 1, header, items, s =>
    match skipLines s with
    | [] => some items
    | '[' :: '[' :: rest => do
      let ((path, key), rest) ← keyPath rest
      let items ← beginRow path key items
      let rest ← lineEnd (← mark ']' (← mark ']' rest))
      lines fuel (path ++ [key]) items rest
    | '[' :: rest => do
      let ((path, key), rest) ← keyPath rest
      let items ← beginTable path key items
      let rest ← lineEnd (← mark ']' rest)
      lines fuel (path ++ [key]) items rest
    | s => do
      let ((path, key), rest) ← keyPath s
      let rest ← mark '=' rest
      let (v, rest) ← value maxDepth (rest.length + 1) (skipBlanks rest)
      let items ← descend false (giveKey path key v) header items
      let rest ← lineEnd rest
      lines fuel header items rest

/-- The settings that a text gives. A mark of byte order at its beginning is skipped. -/
def settingsOf? (text : List Char) : Option (List (String × Setting)) :=
  let text :=
    match text with
    | '\ufeff' :: rest => rest
    | _ => text
  (lines (text.length + 1) [] [] text).map itemSettings

end Intake.Toml
