import Intake.Channel
import Intake.Configuration
import Intake.Counters
import Intake.Selector

/-!
# Browsing consumers

A browsing consumer collects a given number of messages and then asks to be cancelled. It
settles no delivery, so the broker keeps all of them. Its latch is released once the wait
for messages is over, by the last message or by the end of the consumer.
-/
namespace Intake

/-- How a scan ended. -/
inductive ScanOutcome where
  -- all messages asked for were collected
  | exhausted
  -- the consumer was cancelled before
  | cancelled
  | timedOut
  deriving DecidableEq

namespace ScanOutcome

/-- Whether the wait ended before its time. -/
def isCompleted (o : ScanOutcome) : Bool := o ≠ .timedOut

/-- Whether all messages asked for are there. -/
def isFinished (o : ScanOutcome) : Bool := o = .exhausted

end ScanOutcome

structure ScanRequest where
  expected : UInt64
  selector : Option Selector := none
  timeout : Duration

/-- A request within the bounds of the settings. -/
def ScanRequest.ofConfig (expected : UInt64) (config : BrowseConfig) : ScanRequest :=
  { expected := config.cap expected, timeout := config.timeout }

structure Browser where
  tag : ConsumerTag
  converter : Converter
  selector : Option Selector
  -- how many messages are asked for
  expected : Nat
  -- how many are still missing
  remaining : Nat
  -- the messages collected and not yet taken, oldest first
  collected : List Message := []
  state : ConsumerState := .active
  -- whether the wait for messages is over
  released : Bool
  -- whether the consumer was asked to be cancelled
  cancelIssued : Bool := false
  counters : Counters := {}

/-- What a browsing consumer does with a delivery. -/
inductive BrowseVerdict where
  -- it comes after the end of the consumer
  | rejected
  -- no more messages are wanted
  | spent
  -- no message can be made of it
  | unconvertible (error : ConversionError)
  -- the selector does not want it
  | filtered
  -- it is collected
  | collected (message : Message)

namespace Browser

/-- A new consumer; when no message is asked for, the wait is over at once. -/
def create (tag : ConsumerTag) (converter : Converter) (expected : Nat)
    (selector : Option Selector) : Browser :=
  { tag := tag, converter := converter, selector := selector, expected := expected
    remaining := expected, released := expected = 0 }

/-- What is done with a delivery: the first of the verdicts, in their order, that applies. -/
def verdict (b : Browser) (d : Delivery) : BrowseVerdict :=
  if b.state.isCancelled then .rejected
  else if b.remaining = 0 then .spent
  else
    match b.converter d with
    | .error e => .unconvertible e
    | .ok m => if selects b.selector m then .collected m else .filtered

def count (v : BrowseVerdict) (c : Counters) : Counters :=
  let c := { c with delivered := c.delivered + 1 }
  match v with
  | .rejected => { c with rejectedAfterCancel := c.rejectedAfterCancel + 1 }
  | .spent => c
  | .unconvertible _ => { c with conversionFailures := c.conversionFailures + 1 }
  | .filtered => { c with filtered := c.filtered + 1 }
  | .collected _ => { c with accepted := c.accepted + 1 }

/-- The consumer has ended, and the wait for messages with it. -/
def markCancelled (b : Browser) : Browser := { b with state := .cancelled, released := true }

/-- The command that asks for the end of the consumer; it is sent once. -/
def cancellation? (b : Browser) : Option Command :=
  if b.cancelIssued then none else some (.cancel b.tag)

/-- Asks for the end of the consumer. `answer` is what the channel answers to the command, if one
is sent; a failed command ends the consumer. -/
def cancel (b : Browser) (answer : Except TransportError Unit) :
    Browser × Except ConsumerError Unit :=
  if b.cancelIssued then (b, .ok ())
  else
    let b := { b with cancelIssued := true, state := b.state.requestCancel }
    match answer with
    | .ok () => (b, .ok ())
    | .error e => (b.markCancelled, .error (.transport e))

/-- The consumer once a delivery is counted and, if wanted, collected. The last message wanted
ends the wait. -/
def keep (b : Browser) (d : Delivery) : Browser :=
  let v := b.verdict d
  let b := { b with counters := count v b.counters }
  match v with
  | .collected m =>
    { b with
      collected := b.collected ++ [m], remaining := b.remaining - 1
      released := b.released || b.remaining = 1 }
  | _ => b

/-- Whether a delivery is the last one wanted. -/
def completes (b : Browser) (d : Delivery) : Bool :=
  match b.verdict d with
  | .collected _ => b.remaining = 1
  | _ => false

/-- The command that a delivery makes the consumer send. -/
def command? (b : Browser) (d : Delivery) : Option Command :=
  if b.completes d then b.cancellation? else none

/-- Takes a delivery. `answer` is what the channel answers to the command, if one is sent. -/
def deliver (b : Browser) (d : Delivery) (answer : Except TransportError Unit) :
    Browser × Except ConsumerError Unit :=
  match b.verdict d with
  | .unconvertible e => (b.keep d, .error (.conversion e))
  | _ => if b.completes d then (b.keep d).cancel answer else (b.keep d, .ok ())

/-- How the wait for messages ended, or that it has not. -/
def outcome (b : Browser) : ScanOutcome :=
  if b.released then if b.remaining = 0 then .exhausted else .cancelled else .timedOut

def takeMessages (b : Browser) : List Message × Browser := (b.collected, { b with collected := [] })

def metrics (b : Browser) : Metrics := ⟨b.state, b.counters, b.collected.length.toUInt64⟩

end Browser
end Intake
