import Intake.Session.Step

/-!
# Scheduling

Tasks run one at a time, first come, first served, and each until it has to wait. Time
stands still while any task can run, and then moves on to the next deadline. Everything
here is a sequence of steps of single tasks and of moves of the clock; the bounds on
their number are computed from the work that is left.
-/
namespace Intake.Session

/-! ### Work that is left -/

/-- A bound on the steps of a replay with a number of messages to come. -/
def replayWork (pending : Nat) : ReplayStage → Nat
  | .next => 3 * pending + 1
  | .handling .. => 3 * pending + 2
  | .queued .. => 3 * pending + 3

/-- A bound on the steps of a call and of the tasks that it starts. -/
def callWork (s : Session) : Call → Nat
  | .scan queue _ _ => 3 * s.channel.depth queue + 8
  | _ => 5

/-- A bound on the steps of a task and of the tasks that it starts. -/
def taskWork (s : Session) : Task → Nat
  | .start call => s.callWork call
  | .replay _ _ pending stage => replayWork pending.length stage
  | .confirm _ _ queued => if queued then 1 else 2
  | _ => 1

/-- A bound on the steps that a consumer adds: its calls to receive take one for their first look at
the buffer, and the cancel that a browsing consumer may still send is followed by some. -/
def consumerWork : Consumer → Nat
  | .receiver r => r.newcomers
  | .browser b => if b.cancelIssued then 0 else 3
  | .recorder _ => 0

def tasksWork (s : Session) : List (TaskId × Task) → Nat
  | [] => 0
  | e :: es => s.taskWork e.2 + s.tasksWork es

def consumersWork : List Consumer → Nat
  | [] => 0
  | c :: cs => consumerWork c + consumersWork cs

/-- A bound on the steps before every task is done. -/
def workload (s : Session) : Nat := s.tasksWork s.tasks + consumersWork s.consumers

/-! ### Running -/

/-- The tasks that can run, oldest first. -/
def runnable (s : Session) : List TaskId := (s.tasks.map (·.1)).filter s.canRun

/-- Runs a task until it has to wait, for at most `fuel` steps. -/
def turn : Nat → TaskId → Session → Session
  | 0, _, s => s
  | fuel + 1, k, s => if s.canRun k then turn fuel k (s.step k) else s

/-- Runs the tasks of a queue; tasks that become able to run go to its end. -/
def serve : Nat → List TaskId → Session → Session
  | 0, _, s => s
  | _ + 1, [], s => s
  | fuel + 1, k :: queue, s =>
    let s := turn s.workload k s
    serve fuel (queue ++ s.runnable.filter (fun j => !queue.contains j)) s

/-- Runs all tasks until every one has to wait. -/
def settle (s : Session) : Session :=
  serve ((s.workload + 1) * (s.workload + s.tasks.length + 1)) s.runnable s

/-! ### Time -/

/-- The moment up to which a task waits at most. -/
def deadline? (s : Session) (k : TaskId) : Task → Option Nat
  | .replay _ _ _ (.handling _ _ deadline) => some deadline
  | .taking h =>
    match (s.receiver? h).map (·.takers) with
    | some (t :: _) =>
      match t.patience with
      | .limited deadline => if t.call = k then some deadline else none
      | _ => none
    | _ => none
  | .cancelling h => (s.receiver? h).bind (·.cancels.lookup k)
  | .watching _ deadline => some deadline
  | .scanning _ deadline => some deadline
  | .handling _ _ deadline => some deadline
  | .sleeping deadline => some deadline
  | _ => none

/-- The next moment at which a wait ends by itself. -/
def nextDeadline? (s : Session) : Option Nat := (s.tasks.filterMap fun e => s.deadline? e.1 e.2).min?

/-- The longest wait for one call. -/
def longestWait : Duration := Duration.ofMillis 86400000

/-- What came of a call, if it has returned. -/
def finished? (s : Session) (k : TaskId) : Option Finished := s.finished.find? (·.task = k)

/-- Runs tasks and moves the clock until a call has returned, but not beyond a moment. -/
def await : Nat → Nat → TaskId → Session → Session
  | 0, _, _, s => s
  | fuel + 1, limit, k, s =>
    let s := s.settle
    if (s.finished? k).isSome then s
    else
      match s.nextDeadline? with
      | some moment => if moment ≤ limit then await fuel limit k { s with clock := moment } else s
      | none => s

/-- Waits for a call, at most for the longest wait, and takes its answer. A call that has not
returned by then is left as it is. -/
def join (s : Session) (k : TaskId) : Option Finished × Session :=
  let limit := s.clock + longestWait
  let s := await (s.workload + 1) limit k s
  match s.finished? k with
  | some f => (some f, { s with finished := s.finished.filter (·.task ≠ k) })
  | none => (none, { s with clock := limit })

def start (s : Session) (call : Call) : TaskId × Session := (s.nextTask, s.spawn (.start call))

/-- Makes a call and waits for it. A call that takes too long is given up. -/
def perform (s : Session) (call : Call) : Option Answer × Session :=
  let (k, s) := s.start call
  match s.join k with
  | (some f, s) => (some f.answer, s.settle)
  | (none, s) => (none, (s.drop k).settle)

end Intake.Session
