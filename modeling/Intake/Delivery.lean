import Intake.Header
import Intake.Identifier
import Intake.Instant

/-!
# Deliveries and messages

A delivery is one message as the broker pushes it: routing data, properties and a body
of bytes. A message is what the application gets: the same data with the body decoded.
-/
namespace Intake

structure Envelope where
  deliveryTag : DeliveryTag
  redelivered : Bool
  exchange : String
  routingKey : String
  deriving DecidableEq

/-- Descriptive properties of a message, all optional. -/
structure Properties where
  contentType : Option String := none
  contentEncoding : Option String := none
  headers : Headers := Headers.empty
  deliveryMode : Option UInt8 := none
  priority : Option UInt8 := none
  correlationId : Option String := none
  replyTo : Option String := none
  expiration : Option String := none
  messageId : Option String := none
  timestamp : Option Instant := none
  kind : Option String := none
  userId : Option String := none
  appId : Option String := none
  deriving DecidableEq

/-- Equality of properties, doubles in headers compared as numbers. -/
def Properties.same (a b : Properties) : Bool :=
  a.headers.same b.headers && { a with headers := b.headers } = b

/-- One pushed occurrence of a message. -/
structure Delivery where
  envelope : Envelope
  properties : Properties
  body : ByteArray
  deriving DecidableEq

def Delivery.tag (d : Delivery) : DeliveryTag := d.envelope.deliveryTag

inductive Body where
  | text (value : String)
  | octets (value : ByteArray)
  deriving DecidableEq

namespace Body

def bytes : Body → ByteArray
  | .text s => s.toUTF8
  | .octets b => b

def isText : Body → Bool
  | .text _ => true
  | .octets _ => false

def size (b : Body) : Nat := b.bytes.size

end Body

structure Message where
  deliveryTag : DeliveryTag
  redelivered : Bool
  exchange : String
  routingKey : String
  properties : Properties
  body : Body
  deriving DecidableEq

/-- Equality of messages, doubles in headers compared as numbers. -/
def Message.same (a b : Message) : Bool :=
  a.properties.same b.properties && { a with properties := b.properties } = b

end Intake
