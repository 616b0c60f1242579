import Intake.Lifecycle

/-!
# Delivery counters

What happened to the deliveries of one consumer. Counters are sixty-four-bit words and
wrap around.
-/
namespace Intake

/-- How often each thing happened. -/
structure Counters where
  delivered : UInt64 := 0
  accepted : UInt64 := 0
  filtered : UInt64 := 0
  overflowed : UInt64 := 0
  rejectedAfterCancel : UInt64 := 0
  conversionFailures : UInt64 := 0
  received : UInt64 := 0
  deriving DecidableEq

/-- The counters together with the state and the number of messages kept, at one moment. -/
structure Metrics where
  state : ConsumerState
  counters : Counters
  buffered : UInt64
  deriving DecidableEq

end Intake
