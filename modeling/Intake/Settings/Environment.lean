import Intake.Settings.Value

/-!
# Settings from environment variables

A variable whose name begins with `BRIDGE__`, in any case of letters, holds one setting.
In the rest of the name two underscores separate the parts of a path.
-/
namespace Intake.Environment

/-- The beginning of the names of variables that hold settings, in lower case. -/
def head : List Char := "bridge__".toList

/-- Every two underscores, from the left, as a point. -/
def separated : List Char → List Char
  | '_' :: '_' :: rest => '.' :: separated rest
  | c :: rest => c :: separated rest
  | [] => []

/-- The name of the setting that a variable holds, if it holds one. -/
def settingName? (variableName : String) : Option String :=
  let name := Text.asciiLower variableName.toList
  if head.isPrefixOf name then some (String.ofList (separated (name.drop head.length))) else none

/-- The value of a variable: a boolean, a whole number, a double, or else a text. -/
def settingValue (text : String) : Setting :=
  let word := Text.asciiLower text.toList
  if word = "true".toList then .flag true
  else if word = "false".toList then .flag false
  else
    match Number.int64? 10 text.toList with
    | some i => .whole i
    | none =>
      match Number.double? text.toList with
      | some d => .double d
      | none => .text text

/-- The settings that variables hold, given by their names and texts. -/
def settings (bindings : List (String × String)) : List (String × Setting) :=
  bindings.filterMap fun (name, text) => (settingName? name).map fun n => (n, settingValue text)

end Intake.Environment
