import Intake.Consumer

/-!
# Calls and tasks

A call is an operation that may have to wait. A task carries out a call or a follow-up of
the channel; its value says what it waits for, or that it has something to do.
-/
namespace Intake

/-- An operation that may have to wait. -/
inductive Call where
  -- hands a delivery to a handler
  | deliver (handler : HandlerId) (delivery : Delivery)
  -- cancels the registration of a tag from the side of the broker
  | brokerCancel (tag : ConsumerTag)
  | receive (receiver : HandlerId) (timeout : ReceiveTimeout)
  | cancel (receiver : HandlerId)
  -- waits for a browsing consumer to be done
  | watch (browser : HandlerId) (timeout : Duration)
  -- collects messages of a queue with a browsing consumer of its own
  | scan (queue : QueueName) (converter : Converter) (request : ScanRequest)
  | sleep (duration : Duration)

inductive Answer where
  | done
  | flag (value : Bool)
  | message (message : Option Message)
  | cancelled (outcome : CancelOutcome)
  | watched (outcome : ScanOutcome)
  | scanned (outcome : ScanOutcome) (messages : List Message)
  | failed (error : ConsumerError)

def Answer.ofResult : Except ConsumerError Unit → Answer
  | .ok () => .done
  | .error e => .failed e

/-- What a replay does next. -/
inductive ReplayStage where
  -- looks for the handler of the next message
  | next
  -- waits for its turn to hand over a delivery
  | queued (registration : RegistrationId) (delivery : Delivery)
  -- waits for the handler to be done with a delivery
  | handling (registration : RegistrationId) (delivery : Delivery) (deadline : Nat)

/-- A task, at the point it has reached. -/
inductive Task where
  -- has a call to begin with
  | start (call : Call)
  -- hands messages of a queue to the handler that a tag has at the moment
  | replay (queue : QueueName) (tag : ConsumerTag) (pending : List Stored) (stage : ReplayStage)
  -- confirms a cancel; `queued` tells whether it stands in line already
  | confirm (registration : RegistrationId) (tag : ConsumerTag) (queued : Bool)
  -- waits in line to tell a handler that the broker cancelled it
  | dismiss (registration : RegistrationId) (tag : ConsumerTag)
  -- waits for a message
  | taking (receiver : HandlerId)
  -- waits for the end of a receiving consumer
  | cancelling (receiver : HandlerId)
  -- waits for a browsing consumer to be done
  | watching (browser : HandlerId) (deadline : Nat)
  -- waits for the browsing consumer of a scan to be done
  | scanning (browser : HandlerId) (deadline : Nat)
  -- waits for a handler to be done with a delivery
  | handling (handler : HandlerId) (delivery : Delivery) (deadline : Nat)
  | sleeping (deadline : Nat)

end Intake
