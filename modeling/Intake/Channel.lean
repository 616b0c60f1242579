import Intake.Error

/-!
# Channels

A channel keeps queues of messages, registers handlers under consumer tags and records
the commands that it takes. A command is refused as a whole or recorded as a whole; what
the channel goes on to do after a command is its follow-up, which a task carries out.

A registration outlives its tag: tasks that wait to call its handler stand in its line,
and only the first of the line may call.
-/
namespace Intake

/-- What consumers ask of a channel. -/
inductive Command where
  | consume (queue : QueueName) (tag : ConsumerTag) (handler : HandlerId)
  | ack (tag : DeliveryTag) (multiple : Bool)
  | nack (tag : DeliveryTag) (requeue : Bool)
  | cancel (tag : ConsumerTag)
  deriving DecidableEq

inductive CommandKind where
  | consume
  | ack
  | nack
  | cancel
  deriving DecidableEq

def Command.kind : Command → CommandKind
  | .consume .. => .consume
  | .ack .. => .ack
  | .nack .. => .nack
  | .cancel .. => .cancel

/-- A message as a queue holds it. -/
structure Stored where
  properties : Properties
  body : ByteArray
  deriving DecidableEq

structure Registration where
  handler : HandlerId
  -- the tasks that call the handler or wait to; only the first may call
  line : List TaskId := []
  deriving DecidableEq

/-- What a channel goes on to do after a command. -/
inductive Followup where
  | nothing
  -- tells the handler of a registration that its cancel is confirmed
  | confirm (registration : RegistrationId) (tag : ConsumerTag)
  -- delivers messages of a queue to whatever handler the tag has
  | replay (queue : QueueName) (tag : ConsumerTag) (messages : List Stored)
  deriving DecidableEq

structure Channel where
  isOpen : Bool := true
  -- whether cancels of consumers are confirmed
  confirmsCancels : Bool := true
  -- the delivery tag given out last
  lastTag : UInt64 := 0
  queues : List (QueueName × List Stored) := []
  -- every registration ever made, known by its place
  registrations : List Registration := []
  -- the consumer tags in use
  registered : List (ConsumerTag × RegistrationId) := []
  -- the commands taken, oldest first
  log : List Command := []
  deriving DecidableEq

namespace Channel

/-- The messages of a queue, oldest first. -/
def messages (ch : Channel) (queue : QueueName) : List Stored := (ch.queues.lookup queue).getD []

def depth (ch : Channel) (queue : QueueName) : Nat := (ch.messages queue).length

/-- Appends a message to a queue, which is made if it is not there. -/
def publish (ch : Channel) (queue : QueueName) (message : Stored) : Channel :=
  { ch with
    queues := (queue, ch.messages queue ++ [message]) :: ch.queues.filter (fun q => q.1 ≠ queue) }

/-- Gives out the next delivery tag. -/
def allocate (ch : Channel) : DeliveryTag × Channel :=
  let next := ch.lastTag + 1
  (⟨next⟩, { ch with lastTag := next })

/-- The registration that a tag stands for. -/
def registration? (ch : Channel) (tag : ConsumerTag) : Option RegistrationId :=
  ch.registered.lookup tag

/-- Frees a tag. -/
def unregister (ch : Channel) (tag : ConsumerTag) : Channel :=
  { ch with registered := ch.registered.filter (fun e => e.1 ≠ tag) }

/-- Closes the channel; all tags are free then. -/
def close (ch : Channel) : Channel := { ch with isOpen := false, registered := [] }

/-- Confirms no cancel any more. -/
def silence (ch : Channel) : Channel := { ch with confirmsCancels := false }

def record (ch : Channel) (c : Command) : Channel := { ch with log := ch.log ++ [c] }

/-- Makes a registration and gives it a tag. -/
def register (ch : Channel) (tag : ConsumerTag) (handler : HandlerId) : Channel :=
  { ch with
    registrations := ch.registrations ++ [{ handler := handler }]
    registered := (tag, ch.registrations.length) :: ch.registered }

/-- The code of the refusal of a tag that is in use. -/
def notAllowed : UInt16 := 530

def tagInUse (tag : ConsumerTag) : TransportError :=
  .protocolError notAllowed ("attempt to reuse consumer tag '" ++ tag.text ++ "'")

/-- Sends a command: a closed channel refuses every command, and a tag in use is not given out
again. Cancelling an unknown tag is no error, but nothing is confirmed then. -/
def send (ch : Channel) (c : Command) : Except TransportError (Channel × Followup) :=
  if ch.isOpen then
    match c with
    | .ack .. | .nack .. => .ok (ch.record c, .nothing)
    | .cancel tag =>
      match ch.registration? tag with
      | some r =>
        if ch.confirmsCancels then .ok ((ch.record c).unregister tag, .confirm r tag)
        else .ok (ch.record c, .nothing)
      | none => .ok (ch.record c, .nothing)
    | .consume queue tag handler =>
      match ch.registration? tag with
      | some _ => .error (tagInUse tag)
      | none => .ok ((ch.record c).register tag handler, .replay queue tag (ch.messages queue))
  else .error .channelClosed

def line (ch : Channel) (r : RegistrationId) : List TaskId :=
  (ch.registrations[r]?.map (·.line)).getD []

/-- Puts a task at the end of the line of a registration. -/
def enqueue (ch : Channel) (r : RegistrationId) (k : TaskId) : Channel :=
  { ch with registrations := ch.registrations.modify r fun g => { g with line := g.line ++ [k] } }

/-- Takes a task out of every line. -/
def leave (ch : Channel) (k : TaskId) : Channel :=
  { ch with registrations := ch.registrations.map fun g => { g with line := g.line.filter (· ≠ k) } }

/-- Whether a task is the first of the line of a registration. -/
def isFirst (ch : Channel) (r : RegistrationId) (k : TaskId) : Bool := (ch.line r).head? = some k

def handler? (ch : Channel) (r : RegistrationId) : Option HandlerId :=
  ch.registrations[r]?.map (·.handler)

/-- How often a consumer was asked to be cancelled. -/
def cancelCount (ch : Channel) (tag : ConsumerTag) : Nat := ch.log.count (.cancel tag)

/-- The delivery tags acknowledged, in order. -/
def acked (ch : Channel) : List DeliveryTag :=
  ch.log.filterMap fun
    | .ack tag _ => some tag
    | _ => none

/-- The delivery tags rejected, in order, and whether a requeue was asked for. -/
def nacked (ch : Channel) : List (DeliveryTag × Bool) :=
  ch.log.filterMap fun
    | .nack tag requeue => some (tag, requeue)
    | _ => none

end Channel
end Intake
