import Intake.Settings.Yaml.Node

/-!
# Settings from YAML text

A text holds one document at most, and that is a mapping. A text without a document gives no
settings.
-/
namespace Intake.Yaml

/-! ### Documents -/

/-- Reads directives. A version may be declared once. For tags the last directive alone counts. -/
def directives : Nat → Bool → Reading → Option Reading
  | 0, _, _ => none
  | fuel + 1, versioned, r =>
    match r.next with
    | .versionDirective =>
      if versioned then none else directives fuel true { r.skip with declared := none }
    | .tagDirective handle head =>
      directives fuel versioned { r.skip with declared := some (handle, head) }
    | _ => some r

/-- Reads a document behind its mark, which may be empty. -/
def markedDocument (fuel : Nat) : Read Node := fun r =>
  match r.next with
  | .versionDirective => some (.null, r)
  | .tagDirective .. => some (.null, r)
  | .documentStart => some (.null, r)
  | .documentEnd => some (.null, r)
  | .streamEnd => some (.null, r)
  | _ => node true false fuel r

/-- Reads a document that begins with directives or with its mark. -/
def explicitDocument (fuel : Nat) : Read Node := fun r => do
  let r ← directives fuel false r
  match r.next with
  | .documentStart => markedDocument fuel r.skip
  | _ => none

/-- Reads all documents. `unmarked` tells that a document may come without its mark: only the first,
and one behind the end mark of another. -/
def documents (size : Nat) : Nat → Bool → Reading → Option (List Node)
  | 0, _, _ => none
  | fuel + 1, unmarked, r =>
    match r.next with
    | .documentEnd => documents size fuel unmarked r.skip
    | .streamEnd => some []
    | t => do
      let (n, r) ←
        match t with
        | .versionDirective => explicitDocument size r
        | .tagDirective .. => explicitDocument size r
        | .documentStart => explicitDocument size r
        | _ => if unmarked then node true false size r else none
      let r := { r with declared := none }
      let ns ←
        match r.next with
        | .documentEnd => documents size fuel true r.skip
        | .versionDirective => none
        | .tagDirective .. => none
        | _ => documents size fuel false r
      some (n :: ns)

def documents? (text : List Char) : Option (List Node) := do
  let tokens ← Lexer.tokens? text
  documents (4 * tokens.length + 8) (tokens.length + 1) true { tokens := tokens }

/-! ### Settings -/

mutual

/-- The setting that a node stands for; an infinity or what is not a number stands for none. -/
def Node.setting? : Node → Option Setting
  | .null => some .null
  | .void => some .null
  | .flag b => some (.flag b)
  | .whole i => some (.whole i)
  | .real s => if specialReals.contains s then none else (Number.double? s.toList).map .double
  | .text s => some (.text s)
  | .sequence ns => (settings? ns).map .list
  | .mapping es => (entrySettings? es).map .table

/-- The settings that the elements of a sequence stand for. -/
def settings? : List Node → Option (List Setting)
  | [] => some []
  | n :: ns => do
    let s ← n.setting?
    let ss ← settings? ns
    some (s :: ss)

/-- The settings that the entries of a mapping stand for. -/
def entrySettings? : List (Node × Node) → Option (List (String × Setting))
  | [] => some []
  | (key, value) :: es => do
    let (_, name) ← key.keyName?
    let s ← value.setting?
    let rest ← entrySettings? es
    some (if (rest.lookup name).isSome then rest else (name, s) :: rest)

end

def settingsOf? (text : List Char) : Option (List (String × Setting)) := do
  match ← documents? text with
  | [] => some []
  | [root] =>
    match ← root.setting? with
    | .table entries => some entries
    | _ => none
  | _ => none

end Intake.Yaml
