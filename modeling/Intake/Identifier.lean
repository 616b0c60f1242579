/-!
# Identifiers

Names of queues, tags of deliveries and tags of consumers. A queue name is checked when
it is made from text; a consumer tag is any text, and a generated one is a fixed head
followed by thirty-two hexadecimal digits. Handlers and tasks are known by their numbers.
-/
namespace Intake

/-- Why a name or field is refused. -/
inductive ValidationError where
  | required (field : String)
  | invalidFormat (field message : String)
  | outOfRange (field message : String)
  deriving DecidableEq

def ValidationError.message : ValidationError → String
  | .required field => s!"Required field missing: {field}"
  | .invalidFormat field message => s!"Invalid format for {field}: {message}"
  | .outOfRange field message => s!"Value out of range for {field}: {message}"

structure QueueName where
  text : String
  deriving DecidableEq

namespace QueueName

/-- The characters a queue name may hold. -/
def allowed (c : Char) : Bool := c.isAlphanum || c = '-' || c = '_' || c = '.' || c = ':'

/-- A queue name is 1 to 255 bytes of allowed characters; the length is checked first. -/
def ofText (text : String) : Except ValidationError QueueName :=
  if text.utf8ByteSize = 0 ∨ 255 < text.utf8ByteSize then
    .error (.outOfRange "queue_name" "must be 1-255 characters")
  else if text.toList.all allowed then .ok ⟨text⟩
  else
    .error (.invalidFormat "queue_name"
      "only ASCII alphanumeric, hyphens, underscores, periods and colons allowed")

/-- A name is parsed as it is made from text. -/
def parse (text : String) : Except ValidationError QueueName := ofText text

end QueueName

/-- The tag a channel gives to one delivery. -/
structure DeliveryTag where
  number : UInt64
  deriving DecidableEq

/-- The tag of a subscription on a channel. -/
structure ConsumerTag where
  text : String
  deriving DecidableEq

namespace ConsumerTag

/-- The lower-case hexadecimal digit of a number below sixteen. -/
def hexDigit (n : Nat) : Char := Char.ofNat (if n < 10 then 0x30 + n else 0x57 + n)

/-- The last `count` hexadecimal digits of a number. -/
def hexDigits : Nat → Nat → List Char
  | 0, _ => []
  | count + 1, n => hexDigits count (n / 16) ++ [hexDigit (n % 16)]

/-- The generated tag with a serial number; serials below 2^128 give different tags. -/
def generate (serial : Nat) : ConsumerTag :=
  ⟨"bridge-" ++ String.ofList (hexDigits 32 serial)⟩

end ConsumerTag

/-- The number of a consumer that is handed deliveries. -/
abbrev HandlerId := Nat

/-- The number of a subscription on a channel. -/
abbrev RegistrationId := Nat

abbrev TaskId := Nat

end Intake
