import Intake.Channel
import Intake.Configuration
import Intake.Counters
import Intake.Selector

/-!
# Receiving consumers

A receiving consumer converts deliveries and keeps the messages in a bounded buffer, from
which the application takes them. It settles every delivery that converts with one
command, and a delivery that it keeps is kept before it is acknowledged.

Calls to receive stand in line for the buffer: only the first may take a message, and its
wait begins when it gets to be the first. Calls to cancel wait for a confirmation, each up
to a deadline of its own.
-/
namespace Intake

/-- How long a call to receive waits. -/
inductive ReceiveTimeout where
  -- takes what is in the buffer
  | noWait
  -- waits up to a length of time
  | after (duration : Duration)
  -- waits for a message or for the end of the consumer
  | never
  deriving DecidableEq

namespace ReceiveTimeout

/-- A timeout in milliseconds: zero does not wait, and a negative one waits without end. -/
def ofMillis (millis : Int) : ReceiveTimeout :=
  if millis = 0 then .noWait else if millis < 0 then .never else .after (.ofMillis millis.toNat)

/-- A timeout of a length of time; the empty one does not wait. -/
def ofDuration (d : Duration) : ReceiveTimeout := if d = 0 then .noWait else .after d

end ReceiveTimeout

/-- How a call to cancel ended. -/
inductive CancelOutcome where
  -- the wait saw the consumer cancelled
  | confirmed
  -- no confirmation came in time
  | timedOut
  -- the consumer was cancelled before the call
  | alreadyCancelled
  deriving DecidableEq

/-- How far a call to receive is with its wait. -/
inductive Patience where
  -- the buffer was not looked at yet
  | fresh (timeout : ReceiveTimeout)
  -- waits up to a moment
  | limited (deadline : Nat)
  | unlimited
  deriving DecidableEq

def Patience.isFresh : Patience → Bool
  | .fresh _ => true
  | _ => false

/-- A call to receive that has not returned. -/
structure Taker where
  call : TaskId
  patience : Patience
  deriving DecidableEq

structure Receiver where
  queue : QueueName
  tag : ConsumerTag
  converter : Converter
  selector : Option Selector
  config : ConsumerConfig
  -- the messages kept for the application, oldest first
  buffer : List Message := []
  state : ConsumerState := .active
  -- whether a call to cancel was made
  cancelIssued : Bool := false
  counters : Counters := {}
  -- the calls to receive, in line
  takers : List Taker := []
  -- the calls to cancel that wait, and their deadlines
  cancels : List (TaskId × Nat) := []

/-- What a receiving consumer does with a delivery. -/
inductive Verdict where
  -- it comes after the end of the consumer
  | rejected
  -- no message can be made of it
  | unconvertible (error : ConversionError)
  -- the selector does not want it
  | filtered
  -- the buffer is full
  | overflowed
  -- it is kept
  | accepted (message : Message)

/-- Why a receiving consumer cannot be made. -/
inductive CreationError where
  | refused (error : ConfigurationError)
  -- no buffer can have the capacity
  | impossible (capacity : UInt64)

def maxCapacity : UInt64 := 2305843009213693951

def CreationError.message : CreationError → String
  | .refused error => error.message
  | .impossible _ =>
    "a semaphore may not have more than MAX_PERMITS permits (" ++ toString maxCapacity.toNat ++ ")"

namespace Receiver

/-- A new consumer; its settings are checked before its buffer is made. -/
def create (queue : QueueName) (tag : ConsumerTag) (converter : Converter)
    (selector : Option Selector) (config : ConsumerConfig) : Except CreationError Receiver :=
  match config.validate with
  | .error e => .error (.refused e)
  | .ok () =>
    if maxCapacity < config.batchingSize then .error (.impossible config.batchingSize)
    else .ok { queue := queue, tag := tag, converter := converter, selector := selector
               config := config }

/-- The most messages the buffer holds. -/
def capacity (r : Receiver) : Nat := r.config.batchingSize.toNat

def isFull (r : Receiver) : Bool := r.capacity ≤ r.buffer.length

/-- What is done with a delivery: the first of the verdicts, in their order, that applies. -/
def verdict (r : Receiver) (d : Delivery) : Verdict :=
  if r.state.isCancelled then .rejected
  else
    match r.converter d with
    | .error e => .unconvertible e
    | .ok m =>
      if !selects r.selector m then .filtered
      else if r.isFull then .overflowed
      else .accepted m

/-- The command that settles a delivery; a delivery that does not convert is left unsettled. -/
def settlement? (r : Receiver) (d : Delivery) : Option Command :=
  match r.verdict d with
  | .rejected => some (.nack d.tag r.config.requeueAfterCancel)
  | .unconvertible _ => none
  | .filtered => some (.ack d.tag false)
  | .overflowed => some (.nack d.tag r.config.requeueOnOverflow)
  | .accepted _ => some (.ack d.tag false)

def count (v : Verdict) (c : Counters) : Counters :=
  let c := { c with delivered := c.delivered + 1 }
  match v with
  | .rejected => { c with rejectedAfterCancel := c.rejectedAfterCancel + 1 }
  | .unconvertible _ => { c with conversionFailures := c.conversionFailures + 1 }
  | .filtered => { c with filtered := c.filtered + 1 }
  | .overflowed => { c with overflowed := c.overflowed + 1 }
  | .accepted _ => { c with accepted := c.accepted + 1 }

/-- The consumer has ended. -/
def markCancelled (r : Receiver) : Receiver := { r with state := .cancelled }

/-- A failed command ends the consumer. -/
def afterCommand (r : Receiver) (answer : Except TransportError Unit) :
    Receiver × Except ConsumerError Unit :=
  match answer with
  | .ok () => (r, .ok ())
  | .error e => (r.markCancelled, .error (.transport e))

/-- The consumer once a delivery is counted and, if accepted, kept, but not yet settled. -/
def keep (r : Receiver) (d : Delivery) : Receiver :=
  let v := r.verdict d
  let r := { r with counters := count v r.counters }
  match v with
  | .accepted m => { r with buffer := r.buffer ++ [m] }
  | _ => r

/-- Takes a delivery. `answer` is what the channel answers to the settlement, if there is one. -/
def deliver (r : Receiver) (d : Delivery) (answer : Except TransportError Unit) :
    Receiver × Except ConsumerError Unit :=
  match r.verdict d with
  | .unconvertible e => (r.keep d, .error (.conversion e))
  | _ => (r.keep d).afterCommand answer

/-! ### Receiving -/

/-- Puts a call to receive in line for the buffer. -/
def receive (r : Receiver) (call : TaskId) (timeout : ReceiveTimeout) : Receiver :=
  { r with takers := r.takers ++ [⟨call, .fresh timeout⟩] }

/-- How many calls in line have not looked at the buffer yet. -/
def newcomers (r : Receiver) : Nat := r.takers.countP (·.patience.isFresh)

/-- Whether a moment has come. -/
def expired (deadline now : Nat) : Bool := deadline ≤ now

/-- Whether a call is the first in line and has something to do. -/
def canTake (r : Receiver) (call : TaskId) (now : Nat) : Bool :=
  match r.takers with
  | [] => false
  | t :: _ =>
    t.call = call &&
      match t.patience with
      | .fresh _ => true
      | .limited deadline => !r.buffer.isEmpty || r.state.isCancelled || expired deadline now
      | .unlimited => !r.buffer.isEmpty || r.state.isCancelled

/-- How the first in line waits on when it finds the buffer empty; none when it gives up. -/
def patienceAt (now : Nat) : Patience → Option Patience
  | .fresh .noWait => none
  | .fresh (.after d) => if d = 0 then none else some (.limited (now + d))
  | .fresh .never => some .unlimited
  | .limited deadline => if expired deadline now then none else some (.limited deadline)
  | .unlimited => some .unlimited

/-- Lets the first in line look at the buffer. A message in the buffer is taken in every state;
with an empty buffer the call gives up when the consumer has ended or its time is over, and
otherwise waits on. -/
def take (r : Receiver) (now : Nat) : Receiver × Option (Option Message) :=
  match r.takers with
  | [] => (r, none)
  | t :: others =>
    match r.buffer with
    | m :: rest =>
      ({ r with
          buffer := rest, takers := others
          counters := { r.counters with received := r.counters.received + 1 } },
        some (some m))
    | [] =>
      match (if r.state.isCancelled then none else patienceAt now t.patience) with
      | none => ({ r with takers := others }, some none)
      | some p => ({ r with takers := { t with patience := p } :: others }, none)

/-! ### Cancelling -/

/-- Waits for the end of the consumer, up to the configured timeout. -/
def awaitEnd (r : Receiver) (call : TaskId) (now : Nat) :
    Receiver × Option (Except ConsumerError CancelOutcome) :=
  if r.state.isCancelled then (r, some (.ok .confirmed))
  else if r.config.cancelTimeout = 0 then (r.markCancelled, some (.ok .timedOut))
  else ({ r with cancels := r.cancels ++ [(call, now + r.config.cancelTimeout)] }, none)

/-- The command that a call to cancel sends: the first call sends one, and no other does. -/
def cancellation? (r : Receiver) : Option Command :=
  if r.cancelIssued then none else some (.cancel r.tag)

/-- A call to cancel. `answer` is what the channel answers to the command, if one is sent. -/
def cancel (r : Receiver) (call : TaskId) (now : Nat) (answer : Except TransportError Unit) :
    Receiver × Option (Except ConsumerError CancelOutcome) :=
  if r.cancelIssued then
    if r.state.isCancelled then (r, some (.ok .alreadyCancelled)) else r.awaitEnd call now
  else
    let r := { r with cancelIssued := true, state := r.state.requestCancel }
    match answer with
    | .error e => (r.markCancelled, some (.error (.transport e)))
    | .ok () => r.awaitEnd call now

/-- Whether a waiting call to cancel has something to do. -/
def canResume (r : Receiver) (call : TaskId) (now : Nat) : Bool :=
  match r.cancels.lookup call with
  | some deadline => r.state.isCancelled || expired deadline now
  | none => false

/-- Ends a call to cancel whose wait is over. A call that finds the consumer ended takes that for
the confirmation; a call whose time is over ends the consumer. -/
def resume (r : Receiver) (call : TaskId) : Receiver × CancelOutcome :=
  let waiting := { r with cancels := r.cancels.filter (fun c => c.1 ≠ call) }
  if r.state.isCancelled then (waiting, .confirmed) else (waiting.markCancelled, .timedOut)

/-- Forgets a call that is given up. -/
def drop (r : Receiver) (call : TaskId) : Receiver :=
  { r with
    takers := r.takers.filter (fun t => t.call ≠ call)
    cancels := r.cancels.filter (fun c => c.1 ≠ call) }

def metrics (r : Receiver) : Metrics := ⟨r.state, r.counters, r.buffer.length.toUInt64⟩

end Receiver
end Intake
