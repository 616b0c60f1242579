import Intake.Error

/-!
# Configuration

Settings of receiving consumers and of browse scans, their defaults and their validity.
Durations are kept in nanoseconds; settings hold them in milliseconds.
-/
namespace Intake

/-- A length of time in nanoseconds. -/
abbrev Duration := Nat

namespace Duration

def ofMillis (n : Nat) : Duration := n * 1000000

/-- Whole milliseconds, rounded down. -/
def wholeMillis (d : Duration) : Nat := d / 1000000

def ofParts (seconds nanos : Nat) : Duration := seconds * 1000000000 + nanos

end Duration

structure ConsumerConfig where
  -- capacity of the buffer
  batchingSize : UInt64 := 5
  -- how long a cancel waits for its confirmation, in milliseconds
  cancelTimeoutMs : UInt64 := 1000
  requeueOnOverflow : Bool := true
  requeueAfterCancel : Bool := true
  deriving DecidableEq

namespace ConsumerConfig

/-- The low sixty-four bits of the whole milliseconds of a duration are kept. -/
def withCancelTimeout (c : ConsumerConfig) (d : Duration) : ConsumerConfig :=
  { c with cancelTimeoutMs := d.wholeMillis.toUInt64 }

def cancelTimeout (c : ConsumerConfig) : Duration := Duration.ofMillis c.cancelTimeoutMs.toNat

/-- The buffer must hold at least one message. -/
def validate (c : ConsumerConfig) : Except ConfigurationError Unit :=
  if c.batchingSize = 0 then .error (.invalid "consumer.batching_size must be at least 1")
  else .ok ()

end ConsumerConfig

structure BrowseConfig where
  timeoutMs : UInt64 := 1000
  -- the most messages one scan collects; zero sets no bound
  maxMessages : UInt64 := 0
  deriving DecidableEq

namespace BrowseConfig

def timeout (c : BrowseConfig) : Duration := Duration.ofMillis c.timeoutMs.toNat

/-- A number of messages asked for, within the bound. -/
def cap (c : BrowseConfig) (expected : UInt64) : UInt64 :=
  if c.maxMessages = 0 then expected else min expected c.maxMessages

end BrowseConfig

structure BridgeConfig where
  consumer : ConsumerConfig := {}
  browse : BrowseConfig := {}
  deriving DecidableEq

def BridgeConfig.validate (c : BridgeConfig) : Except ConfigurationError Unit := c.consumer.validate

end Intake
