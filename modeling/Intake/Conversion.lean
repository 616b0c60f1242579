import Intake.Delivery
import Intake.Json.Acceptance
import Intake.Text.Blank
import Intake.Text.Bytes

/-!
# Conversion of deliveries

The standard converter makes a message of a delivery. It checks, in this order, the size
of the body, the names of the headers, the content encoding and the body itself: a JSON
body must be JSON and then UTF-8, a body of a text type must be UTF-8, and any other body
stays as bytes.
-/
namespace Intake

/-- Why a delivery cannot be made a message. -/
inductive ConversionError where
  | malformedJson (fault : Json.Fault)
  | invalidUtf8
  | invalidHeader (name message : String)
  | tooLarge (size limit : Nat)
  | unsupported (message : String)

/-- Makes a message of a delivery. -/
abbrev Converter := Delivery → Except ConversionError Message

/-- The media type that a content type names: what stands before the first semicolon, without
blanks around it, in lower case. -/
def mediaType (contentType : String) : List Char :=
  Text.asciiLower (Text.trim (contentType.toList.takeWhile (· ≠ ';')))

/-- How the body of a delivery is treated. -/
inductive BodyForm where
  | json
  | text
  | octets
  deriving DecidableEq

/-- The form that a content type asks for. -/
def BodyForm.of : Option String → BodyForm
  | none => .octets
  | some contentType =>
    let m := mediaType contentType
    if m = "application/json".toList then .json
    else if "text/".toList.isPrefixOf m then .text
    else .octets

/-- The body as text, if it is UTF-8. -/
def decodeText (body : ByteArray) : Except ConversionError Body :=
  match String.fromUTF8? body with
  | some s => .ok (.text s)
  | none => .error .invalidUtf8

/-- The body of a message from the body of a delivery. -/
def decodeBody (form : BodyForm) (body : ByteArray) : Except ConversionError Body :=
  match form with
  | .json =>
    match Json.accept (Text.bytes body) with
    | .error fault => .error (.malformedJson fault)
    | .ok () => decodeText body
  | .text => decodeText body
  | .octets => .ok (.octets body)

/-- The largest body that is converted when nothing else is asked for. -/
def defaultSizeLimit : Nat := 10 * 1024 * 1024

/-- Whether a content encoding leaves the body as it is. -/
def isIdentityEncoding (encoding : String) : Bool :=
  encoding.isEmpty || Text.sameIgnoringCase encoding.toList "identity".toList

def standardConverter (limit : Nat) : Converter := fun d =>
  if limit < d.body.size then .error (.tooLarge d.body.size limit)
  else if d.properties.headers.entries.any (fun e => e.1.isEmpty) then
    .error (.invalidHeader "" "header names must not be empty")
  else
    match d.properties.contentEncoding.filter (fun e => !isIdentityEncoding e) with
    | some encoding => .error (.unsupported ("content encoding '" ++ encoding ++ "'"))
    | none =>
      match decodeBody (.of d.properties.contentType) d.body with
      | .error e => .error e
      | .ok body =>
        .ok { deliveryTag := d.envelope.deliveryTag, redelivered := d.envelope.redelivered
              exchange := d.envelope.exchange, routingKey := d.envelope.routingKey
              properties := d.properties, body := body }

end Intake
