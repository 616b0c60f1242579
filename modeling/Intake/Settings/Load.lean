import Intake.Configuration
import Intake.Settings.Environment
import Intake.Settings.File
import Intake.Settings.Path

/-!
# Loading the configuration

The settings of a file are put over nothing, and those of the environment over these. What
neither source gives has its default. The configuration that results must be valid.
-/
namespace Intake

namespace Setting

/-- What a section gives for a field: by name in a table, by place in a list. -/
def field? (s : Setting) (name : String) (place : Nat) : Option Setting :=
  match s with
  | .list es => es[place]?
  | s => s.find? name

/-- Whether a value can hold the fields of a section. -/
def isSection : Setting → Bool
  | .table _ | .list _ => true
  | _ => false

/-- Reads a field of a section. A field that is left out has its default. -/
def readField {α : Type} (s : Setting) (name : String) (place : Nat) (read : Setting → Option α)
    (default : α) : Option α :=
  match s.field? name place with
  | some v => read v
  | none => some default

end Setting

def ConsumerConfig.ofSetting? (s : Setting) : Option ConsumerConfig :=
  if s.isSection then do
    let blank : ConsumerConfig := {}
    let batchingSize ← s.readField "batching_size" 0 Setting.asWord? blank.batchingSize
    let cancelTimeoutMs ← s.readField "cancel_timeout_ms" 1 Setting.asWord? blank.cancelTimeoutMs
    let requeueOnOverflow ←
      s.readField "requeue_on_overflow" 2 Setting.asFlag? blank.requeueOnOverflow
    let requeueAfterCancel ←
      s.readField "requeue_after_cancel" 3 Setting.asFlag? blank.requeueAfterCancel
    some ⟨batchingSize, cancelTimeoutMs, requeueOnOverflow, requeueAfterCancel⟩
  else none

def BrowseConfig.ofSetting? (s : Setting) : Option BrowseConfig :=
  if s.isSection then do
    let blank : BrowseConfig := {}
    let timeoutMs ← s.readField "timeout_ms" 0 Setting.asWord? blank.timeoutMs
    let maxMessages ← s.readField "max_messages" 1 Setting.asWord? blank.maxMessages
    some ⟨timeoutMs, maxMessages⟩
  else none

namespace BridgeConfig

def ofSetting? (s : Setting) : Option BridgeConfig :=
  if s.isSection then do
    let consumer ← s.readField "consumer" 0 ConsumerConfig.ofSetting? {}
    let browse ← s.readField "browse" 1 BrowseConfig.ofSetting? {}
    some ⟨consumer, browse⟩
  else none

/-- The configuration that sources give, each put over those before it. -/
def ofSources (sources : List (List (String × Setting))) :
    Except ConfigurationError BridgeConfig :=
  match ofSetting? (sources.foldl Setting.overlay Setting.emptyTable) with
  | none => .error (.parsing "a setting has an unsuitable value")
  | some c =>
    match c.validate with
    | .ok () => .ok c
    | .error e => .error e

def fileSettings (files : Files) (name : String) :
    Except ConfigurationError (List (String × Setting)) :=
  match files.find? name with
  | none => .error (.parsing ("no configuration file " ++ name))
  | some (format, content) =>
    match format.settings? (fileText content) with
    | none => .error (.parsing ("malformed configuration file " ++ name))
    | some settings => .ok settings

/-- Loads the configuration from a file, if one is named, and from environment variables. -/
def load (files : Files) (name : Option String) (bindings : List (String × String)) :
    Except ConfigurationError BridgeConfig :=
  let environment := Environment.settings bindings
  match name with
  | none => ofSources [environment]
  | some name =>
    match fileSettings files name with
    | .error e => .error e
    | .ok file => ofSources [file, environment]

end BridgeConfig
end Intake
