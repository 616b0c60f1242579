import Intake.Configuration
import Intake.Counters
import Intake.Instant.Reading
import Intake.Json.Document

/-!
# Interchange of the data model

The JSON form of every type that is stored or sent: identifiers and instants as plain
values, records with their members in a fixed order, header values and bodies as choices.
-/
namespace Intake

open Json

def QueueName.codec : Codec QueueName := Codec.text.via QueueName.text QueueName.mk

def ConsumerTag.codec : Codec ConsumerTag := Codec.text.via ConsumerTag.text ConsumerTag.mk

def DeliveryTag.codec : Codec DeliveryTag :=
  (Codec.word64 "u64").via DeliveryTag.number DeliveryTag.mk

/-- Instants as text. -/
def Instant.codec : Codec Instant where
  write t := 0x22 :: t.interchange ++ [0x22]
  read c := do
    let (s, c) ← Codec.readString "an RFC 3339 formatted date and time string" c
    match Instant.read s.toList with
    | .ok t => pure (t, c)
    | .error e => unsuitable (.unreadable e.message)

namespace HeaderValue

def write : HeaderValue → List UInt8
  | .flag b => Codec.writeVariant "Bool" (Codec.flag.write b)
  | .whole i => Codec.writeVariant "Int" (Codec.int64.write i)
  | .double d => Codec.writeVariant "Float" (Codec.double.write d)
  | .text s => Codec.writeVariant "String" (Codec.text.write s)
  | .octets b => Codec.writeVariant "Bytes" (Codec.octets.write b)
  | .null => Codec.writeBare "Null"

def codec : Codec HeaderValue :=
  Codec.choice
    [Codec.variant "Bool" Codec.flag .flag, Codec.variant "Int" Codec.int64 .whole,
      Codec.variant "Float" Codec.double .double, Codec.variant "String" Codec.text .text,
      Codec.variant "Bytes" Codec.octets .octets, Codec.bareVariant "Null" .null]
    write

end HeaderValue

def Headers.codec : Codec Headers :=
  (Codec.entries HeaderValue.codec).via Headers.entries Headers.ofList

def Envelope.codec : Codec Envelope :=
  Codec.record "Envelope" false ⟨⟨0⟩, false, "", ""⟩
    [Codec.member "delivery_tag" true DeliveryTag.codec (·.deliveryTag)
        (fun x e => { e with deliveryTag := x }),
      Codec.member "redelivered" true Codec.flag (·.redelivered)
        (fun x e => { e with redelivered := x }),
      Codec.member "exchange" true Codec.text (·.exchange) (fun x e => { e with exchange := x }),
      Codec.member "routing_key" true Codec.text (·.routingKey)
        (fun x e => { e with routingKey := x })]

/-- An optional text among the properties. -/
def Properties.textMember (name : String) (get : Properties → Option String)
    (put : Option String → Properties → Properties) : Codec.Member Properties :=
  Codec.member name false (Codec.optional Codec.text) get put

def Properties.codec : Codec Properties :=
  Codec.record "BasicProperties" false {}
    [textMember "content_type" (·.contentType) (fun x p => { p with contentType := x }),
      textMember "content_encoding" (·.contentEncoding) (fun x p => { p with contentEncoding := x }),
      Codec.member "headers" true Headers.codec (·.headers) (fun x p => { p with headers := x }),
      Codec.member "delivery_mode" false (Codec.optional Codec.word8) (·.deliveryMode)
        (fun x p => { p with deliveryMode := x }),
      Codec.member "priority" false (Codec.optional Codec.word8) (·.priority)
        (fun x p => { p with priority := x }),
      textMember "correlation_id" (·.correlationId) (fun x p => { p with correlationId := x }),
      textMember "reply_to" (·.replyTo) (fun x p => { p with replyTo := x }),
      textMember "expiration" (·.expiration) (fun x p => { p with expiration := x }),
      textMember "message_id" (·.messageId) (fun x p => { p with messageId := x }),
      Codec.member "timestamp" false (Codec.optional Instant.codec) (·.timestamp)
        (fun x p => { p with timestamp := x }),
      textMember "kind" (·.kind) (fun x p => { p with kind := x }),
      textMember "user_id" (·.userId) (fun x p => { p with userId := x }),
      textMember "app_id" (·.appId) (fun x p => { p with appId := x })]

def Delivery.codec : Codec Delivery :=
  Codec.record "Delivery" false ⟨⟨⟨0⟩, false, "", ""⟩, {}, ByteArray.empty⟩
    [Codec.member "envelope" true Envelope.codec (·.envelope) (fun x d => { d with envelope := x }),
      Codec.member "properties" true Properties.codec (·.properties)
        (fun x d => { d with properties := x }),
      Codec.member "body" true Codec.octets (·.body) (fun x d => { d with body := x })]

def Body.write : Body → List UInt8
  | .text s => Codec.writeVariant "Text" (Codec.text.write s)
  | .octets b => Codec.writeVariant "Bytes" (Codec.octets.write b)

def Body.codec : Codec Body :=
  Codec.choice [Codec.variant "Text" Codec.text .text, Codec.variant "Bytes" Codec.octets .octets]
    Body.write

def Message.codec : Codec Message :=
  Codec.record "ConsumerMessage" false ⟨⟨0⟩, false, "", "", {}, .text ""⟩
    [Codec.member "delivery_tag" true DeliveryTag.codec (·.deliveryTag)
        (fun x m => { m with deliveryTag := x }),
      Codec.member "redelivered" true Codec.flag (·.redelivered)
        (fun x m => { m with redelivered := x }),
      Codec.member "exchange" true Codec.text (·.exchange) (fun x m => { m with exchange := x }),
      Codec.member "routing_key" true Codec.text (·.routingKey)
        (fun x m => { m with routingKey := x }),
      Codec.member "properties" true Properties.codec (·.properties)
        (fun x m => { m with properties := x }),
      Codec.member "body" true Body.codec (·.body) (fun x m => { m with body := x })]

namespace ConsumerState

def write : ConsumerState → List UInt8
  | .active => Codec.writeBare "Active"
  | .cancelRequested => Codec.writeBare "CancelRequested"
  | .cancelled => Codec.writeBare "Cancelled"

/-- The states by their names. -/
def named : List (String × ConsumerState) :=
  [("Active", .active), ("CancelRequested", .cancelRequested), ("Cancelled", .cancelled)]

def codec : Codec ConsumerState :=
  Codec.choice (named.map fun (name, s) => Codec.bareVariant name s) write

def ofDocument : Document → Except Fault ConsumerState := Document.readChoice named

end ConsumerState

/-- A counter among the metrics. -/
def Metrics.counter (name : String) (get : Counters → UInt64)
    (put : UInt64 → Counters → Counters) : Codec.Member Metrics :=
  Codec.member name true (Codec.word64 "u64") (fun m => get m.counters)
    (fun x m => { m with counters := put x m.counters })

def Metrics.codec : Codec Metrics :=
  Codec.record "ConsumerMetrics" false ⟨.active, {}, 0⟩
    [Codec.member "state" true ConsumerState.codec (·.state) (fun x m => { m with state := x }),
      counter "delivered" (·.delivered) (fun x c => { c with delivered := x }),
      counter "accepted" (·.accepted) (fun x c => { c with accepted := x }),
      counter "filtered" (·.filtered) (fun x c => { c with filtered := x }),
      counter "overflowed" (·.overflowed) (fun x c => { c with overflowed := x }),
      counter "rejected_after_cancel" (·.rejectedAfterCancel)
        (fun x c => { c with rejectedAfterCancel := x }),
      counter "conversion_failures" (·.conversionFailures)
        (fun x c => { c with conversionFailures := x }),
      counter "received" (·.received) (fun x c => { c with received := x }),
      Codec.member "buffered" true (Codec.word64 "usize") (·.buffered)
        (fun x m => { m with buffered := x })]

def ConsumerConfig.codec : Codec ConsumerConfig :=
  Codec.record "ConsumerConfig" true {}
    [Codec.member "batching_size" false (Codec.word64 "usize") (·.batchingSize)
        (fun x c => { c with batchingSize := x }),
      Codec.member "cancel_timeout_ms" false (Codec.word64 "u64") (·.cancelTimeoutMs)
        (fun x c => { c with cancelTimeoutMs := x }),
      Codec.member "requeue_on_overflow" false Codec.flag (·.requeueOnOverflow)
        (fun x c => { c with requeueOnOverflow := x }),
      Codec.member "requeue_after_cancel" false Codec.flag (·.requeueAfterCancel)
        (fun x c => { c with requeueAfterCancel := x })]

def BrowseConfig.codec : Codec BrowseConfig :=
  Codec.record "BrowseConfig" true {}
    [Codec.member "timeout_ms" false (Codec.word64 "u64") (·.timeoutMs)
        (fun x c => { c with timeoutMs := x }),
      Codec.member "max_messages" false (Codec.word64 "usize") (·.maxMessages)
        (fun x c => { c with maxMessages := x })]

def BridgeConfig.codec : Codec BridgeConfig :=
  Codec.record "BridgeConfig" true {}
    [Codec.member "consumer" false ConsumerConfig.codec (·.consumer)
        (fun x c => { c with consumer := x }),
      Codec.member "browse" false BrowseConfig.codec (·.browse) (fun x c => { c with browse := x })]

end Intake
