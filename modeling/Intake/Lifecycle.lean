/-!
# Life of a consumer

A consumer is active, then perhaps asked to stop, and finally cancelled. Nothing leaves
the last state, and the middle one is reached from the first only.
-/
namespace Intake

/-- Where a consumer is in its life. -/
inductive ConsumerState where
  | active
  | cancelRequested
  | cancelled
  deriving DecidableEq

namespace ConsumerState

def isCancelled (s : ConsumerState) : Bool := s = .cancelled

/-- Whether deliveries are still taken. -/
def accepts (s : ConsumerState) : Bool := !s.isCancelled

/-- A request to stop counts in the active state only. -/
def requestCancel : ConsumerState → ConsumerState
  | .active => .cancelRequested
  | s => s

def label : ConsumerState → String
  | .active => "active"
  | .cancelRequested => "cancel_requested"
  | .cancelled => "cancelled"

end ConsumerState
end Intake
