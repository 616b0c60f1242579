import Intake.Delivery

/-!
# Header views and selectors

A selector decides by the headers of a message whether the application gets to see it. It
sees the view of the message: the headers that the producer set, and over them the
standard headers, which come from the properties and from the routing data.
-/
namespace Intake

/-- Decides by headers. -/
abbrev Selector := Headers → Bool

inductive StandardHeader where
  | messageId | correlationId | kind | priority | timestamp | deliveryMode | redelivered
  deriving DecidableEq

namespace StandardHeader

def name : StandardHeader → String
  | .messageId => "JMSMessageID"
  | .correlationId => "JMSCorrelationID"
  | .kind => "JMSType"
  | .priority => "JMSPriority"
  | .timestamp => "JMSTimestamp"
  | .deliveryMode => "JMSDeliveryMode"
  | .redelivered => "JMSRedelivered"

def all : List StandardHeader :=
  [.messageId, .correlationId, .kind, .priority, .timestamp, .deliveryMode, .redelivered]

/-- The value that a message gives to a standard header, if it gives one. -/
def value? (m : Message) : StandardHeader → Option HeaderValue
  | .messageId => m.properties.messageId.map .text
  | .correlationId => m.properties.correlationId.map .text
  | .kind => m.properties.kind.map .text
  | .priority => m.properties.priority.map fun p => .whole (Int64.ofInt p.toNat)
  | .timestamp => m.properties.timestamp.map fun t => .whole (Int64.ofInt t.millis)
  | .deliveryMode =>
    some (.text (if m.properties.deliveryMode = some 2 then "PERSISTENT" else "NON_PERSISTENT"))
  | .redelivered => some (.flag m.redelivered)

end StandardHeader

namespace Message

/-- Sets the standard headers that a message gives a value. -/
def addStandard (m : Message) (standard : List StandardHeader) (h : Headers) : Headers :=
  standard.foldl
    (fun h s => match s.value? m with
      | some v => h.insert s.name v
      | none => h) h

def headers (m : Message) : Headers := m.addStandard StandardHeader.all m.properties.headers

def userHeader? (m : Message) (name : String) : Option HeaderValue := m.properties.headers.find? name

/-- A single header: the producer's if there is one, and otherwise the one of the view. -/
def header? (m : Message) (name : String) : Option HeaderValue :=
  match m.userHeader? name with
  | some v => some v
  | none => m.headers.find? name

end Message

/-- Whether a message passes; without a selector every message does. -/
def selects (selector : Option Selector) (m : Message) : Bool :=
  match selector with
  | some s => s m.headers
  | none => true

inductive Condition where
  | equals (name : String) (value : HeaderValue)
  | has (name : String)
  | atLeast (name : String) (bound : Int64)
  | isText (name : String) (text : String)
  | isTrue (name : String)
  | always
  | never
  | not (inner : Condition)
  | both (left right : Condition)
  | either (left right : Condition)

namespace Condition

/-- All of some conditions; of none, always. -/
def allOf (conditions : List Condition) : Condition := conditions.foldr .both .always

/-- One of some conditions; of none, never. -/
def anyOf (conditions : List Condition) : Condition := conditions.foldr .either .never

def holds (h : Headers) : Condition → Bool
  | .equals name value => (h.find? name).any value.same
  | .has name => (h.find? name).isSome
  | .atLeast name bound => ((h.find? name).bind HeaderValue.asWhole?).any (bound ≤ ·)
  | .isText name text => (h.find? name).bind HeaderValue.asText? = some text
  | .isTrue name => (h.find? name).bind HeaderValue.asFlag? = some true
  | .always => true
  | .never => false
  | .not inner => !inner.holds h
  | .both left right => left.holds h && right.holds h
  | .either left right => left.holds h || right.holds h

end Condition

end Intake
