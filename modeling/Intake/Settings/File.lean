import Intake.Json.Document
import Intake.Settings.Toml.Document
import Intake.Settings.Yaml.Document
import Intake.Text.Lossy

/-!
# Settings from files

The name of a file tells its format. A file that is not there under the path given is
looked for under that path with the known endings. A mark of byte order at its beginning is
skipped.
-/
namespace Intake

/-- The setting that a JSON number stands for. -/
def Json.Number.setting : Json.Number → Setting
  | .whole i => if i ≤ Int64.maxValue.toInt then .whole (Int64.ofInt i) else .word i.toNat.toUInt64
  | .double d => .double d

mutual

/-- The setting that a JSON document stands for. -/
def Json.Document.setting : Json.Document → Setting
  | .null => .null
  | .flag b => .flag b
  | .number n => n.setting
  | .text s => .text s
  | .list ds => .list (documentSettings ds)
  | .object ms => .table (memberSettings ms)

/-- The settings that the elements of a list stand for. -/
def documentSettings : List Json.Document → List Setting
  | [] => []
  | d :: ds => d.setting :: documentSettings ds

/-- The settings that the members of an object stand for; of several with one name, the last. -/
def memberSettings : List (String × Json.Document) → List (String × Setting)
  | [] => []
  | (name, d) :: ms =>
    let rest := memberSettings ms
    if (rest.lookup name).isSome then rest else (name, d.setting) :: rest

end

inductive FileFormat where
  | toml
  | json
  | yaml
  deriving DecidableEq

namespace FileFormat

/-- The endings of file names and the formats they tell. -/
def endings : List (String × FileFormat) :=
  [("toml", .toml), ("json", .json), ("yaml", .yaml), ("yml", .yaml)]

/-- The ending of a file name: what stands behind its last point, if something stands before it. -/
def endingOf? (name : String) : Option String :=
  let base := name.toList.reverse.takeWhile (· ≠ '/')
  let ending := base.takeWhile (· ≠ '.')
  if ending.length + 1 < base.length then some (String.ofList ending.reverse) else none

/-- The format that a file name tells. -/
def ofName? (name : String) : Option FileFormat :=
  (endingOf? name).bind fun ending => endings.lookup ending

/-- The settings that a text of a format gives; none if it is malformed or is no table. -/
def settings? (text : List Char) : FileFormat → Option (List (String × Setting))
  | .toml => Toml.settingsOf? text
  | .yaml => Yaml.settingsOf? text
  | .json =>
    match Json.Document.parse (Text.encode (String.ofList text)) with
    | .ok d =>
      match d.setting with
      | .table entries => some entries
      | _ => none
    | .error _ => none

end FileFormat

/-- The files there are, by their names. -/
abbrev Files := String → Option ByteArray

/-- The steps of a path. A step that is empty or a point stays where it is. -/
def pathSteps (path : String) : List String := path.splitOn "/"

/-- The name of the file that a path leads to, below the directory of the files. -/
def fileName? (path : String) : Option String :=
  let names := (pathSteps path).filter fun step => step ≠ "" && step ≠ "."
  if path.startsWith "/" || names.isEmpty || names.contains ".." then none
  else some ("/".intercalate names)

/-- Whether a path leads to a directory, since its last step stays where it is. -/
def isDirectoryPath (path : String) : Bool :=
  (pathSteps path).getLast?.any fun step => step = "" || step = "."

/-- Finds the file that a path leads to, and its format. -/
def Files.find? (files : Files) (path : String) : Option (FileFormat × ByteArray) := do
  let name ← fileName? path
  match if isDirectoryPath path then none else files name with
  | some content => (FileFormat.ofName? name).map fun format => (format, content)
  | none =>
    FileFormat.endings.findSome? fun (ending, format) =>
      (files (name ++ "." ++ ending)).map fun content => (format, content)

/-- The text of a file without a mark of byte order. -/
def fileText (content : ByteArray) : List Char :=
  let bs := Text.bytes content
  Text.decodeLossy (if bs.take 3 = [0xef, 0xbb, 0xbf] then bs.drop 3 else bs)

end Intake
