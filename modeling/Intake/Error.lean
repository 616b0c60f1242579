import Intake.Conversion
import Intake.Text.Quoted

/-!
# Errors

What can go wrong between the broker and the application, and the texts that say so. A
failed conversion concerns one delivery and is transient; a failed command on the channel
is fatal.
-/
namespace Intake

namespace Json

def Found.describe : Found → String
  | .null => "null"
  | .flag b => if b then "boolean `true`" else "boolean `false`"
  | .whole i => "integer `" ++ toString i ++ "`"
  | .double d =>
    "floating point `" ++ (((Decimal.ofDouble? d).bind Text.decode?).getD "") ++ "`"
  | .text s => "string " ++ Text.quoted s
  | .list => "sequence"
  | .object => "map"
  | .bareVariant => "unit variant"

/-- The names of variants, as a fault lists them. -/
def expectedVariants : List String → String
  | [] => "there are no variants"
  | [a] => "expected `" ++ a ++ "`"
  | [a, b] => "expected `" ++ a ++ "` or `" ++ b ++ "`"
  | names => "expected one of " ++ ", ".intercalate (names.map fun n => "`" ++ n ++ "`")

def Mismatch.message : Mismatch → String
  | .wrongType found expected => "invalid type: " ++ found.describe ++ ", expected " ++ expected
  | .wrongValue found expected => "invalid value: " ++ found.describe ++ ", expected " ++ expected
  | .wrongLength length expected => s!"invalid length {length}, expected {expected}"
  | .unknownVariant name known => "unknown variant `" ++ name ++ "`, " ++ expectedVariants known
  | .missingField name => "missing field `" ++ name ++ "`"
  | .duplicateField name => "duplicate field `" ++ name ++ "`"
  | .unreadable reason => reason

/-- The text of a fault; a fault of malformed text tells its place. -/
def Fault.message : Fault → String
  | .malformed cause position =>
    cause.message ++ s!" at line {position.line} column {position.column}"
  | .unsuitable mismatch => mismatch.message

end Json

/-- A command on the channel failed. -/
inductive TransportError where
  | channelClosed
  | connectionFailed (message : String)
  | protocolError (code : UInt16) (message : String)
  deriving DecidableEq

inductive ConfigurationError where
  | invalid (message : String)
  | parsing (message : String)
  deriving DecidableEq

/-- What an operation of a consumer can fail with. -/
inductive ConsumerError where
  | conversion (error : ConversionError)
  | transport (error : TransportError)
  | configuration (error : ConfigurationError)
  | validation (error : ValidationError)

def ConversionError.message : ConversionError → String
  | .malformedJson fault => "JSON body is malformed: " ++ fault.message
  | .invalidUtf8 => "Message body is not valid UTF-8"
  | .invalidHeader name message => s!"Header '{name}' is invalid: {message}"
  | .tooLarge size limit => s!"Message exceeds size limit: {size} bytes (max: {limit})"
  | .unsupported message => s!"Unsupported message: {message}"

def TransportError.message : TransportError → String
  | .channelClosed => "Channel is closed"
  | .connectionFailed message => s!"Connection failed: {message}"
  | .protocolError code message => s!"Protocol error: {code} - {message}"

def ConfigurationError.message : ConfigurationError → String
  | .invalid message => s!"Invalid configuration: {message}"
  | .parsing message => s!"Configuration parsing failed: {message}"

namespace ConsumerError

def message : ConsumerError → String
  | .conversion e => "Message conversion failed: " ++ e.message
  | .transport e => "Transport failure: " ++ e.message
  | .configuration e => "Configuration error: " ++ e.message
  | .validation e => "Validation error: " ++ e.message

/-- Whether the consumer can go on. -/
def isTransient : ConsumerError → Bool
  | .conversion _ => true
  | _ => false

/-- Whether the channel has to be closed. -/
def isFatal : ConsumerError → Bool
  | .transport _ => true
  | _ => false

end ConsumerError
end Intake
