import Intake.Browser
import Intake.Receiver

/-!
# Consumers

Whatever is handed deliveries and told of cancels: a receiving consumer, a browsing
consumer, or a recorder. A recorder keeps a log of what it is told and may take its time
over a delivery; it stands for the handlers that applications write themselves.
-/
namespace Intake

/-- What a recorder notes, and when. -/
inductive Note where
  | began (delivery : Delivery) (time : Nat)
  | ended (tag : DeliveryTag) (time : Nat)
  -- a cancel was confirmed
  | cancelOk (tag : ConsumerTag) (time : Nat)
  -- the broker cancelled the consumer
  | cancelled (tag : ConsumerTag) (time : Nat)

/-- A handler that notes what it is told. -/
structure Recorder where
  tag : ConsumerTag
  -- how long a delivery takes
  effort : Delivery → Duration
  -- whether a delivery fails in the end
  fails : Delivery → Bool
  log : List Note := []

namespace Recorder

def note (r : Recorder) (n : Note) : Recorder := { r with log := r.log ++ [n] }

def result (r : Recorder) (d : Delivery) : Except ConsumerError Unit :=
  if r.fails d then .error (.transport (.connectionFailed "handler failure")) else .ok ()

end Recorder

inductive Consumer where
  | receiver (state : Receiver)
  | browser (state : Browser)
  | recorder (state : Recorder)

namespace Consumer

def tag : Consumer → ConsumerTag
  | .receiver r => r.tag
  | .browser b => b.tag
  | .recorder r => r.tag

/-- Tells a consumer that its cancel is confirmed. -/
def cancelOk (tag : ConsumerTag) (now : Nat) : Consumer → Consumer
  | .receiver r => .receiver r.markCancelled
  | .browser b => .browser b.markCancelled
  | .recorder r => .recorder (r.note (.cancelOk tag now))

/-- Tells a consumer that the broker cancelled it. -/
def cancelledByBroker (tag : ConsumerTag) (now : Nat) : Consumer → Consumer
  | .receiver r => .receiver r.markCancelled
  | .browser b => .browser b.markCancelled
  | .recorder r => .recorder (r.note (.cancelled tag now))

end Consumer
end Intake
