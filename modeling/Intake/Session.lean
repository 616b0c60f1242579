import Intake.Task

/-!
# Sessions

A session is a channel together with the consumers and the tasks that use it, and a
clock. Commands may be made to fail before they reach the channel.
-/
namespace Intake

/-- A call that has returned. -/
structure Finished where
  task : TaskId
  answer : Answer
  time : Nat

structure Session where
  -- the time, in nanoseconds since the session began
  clock : Nat := 0
  channel : Channel := {}
  -- failures to come: the next command of a kind fails
  faults : List (CommandKind × TransportError) := []
  -- every consumer ever made, known by its place
  consumers : List Consumer := []
  -- the tasks that are not done, oldest first
  tasks : List (TaskId × Task) := []
  nextTask : TaskId := 0
  -- the calls that have returned, oldest first
  finished : List Finished := []

/-- What comes of handing a delivery to a handler. -/
inductive Handling where
  | done (result : Except ConsumerError Unit)
  -- the handler is busy up to a moment
  | busy (deadline : Nat)

namespace Session

/-! ### Consumers -/

def receiver? (s : Session) (h : HandlerId) : Option Receiver :=
  match s.consumers[h]? with
  | some (.receiver r) => some r
  | _ => none

def browser? (s : Session) (h : HandlerId) : Option Browser :=
  match s.consumers[h]? with
  | some (.browser b) => some b
  | _ => none

def addConsumer (s : Session) (c : Consumer) : HandlerId × Session :=
  (s.consumers.length, { s with consumers := s.consumers ++ [c] })

def setConsumer (s : Session) (h : HandlerId) (c : Consumer) : Session :=
  { s with consumers := s.consumers.set h c }

def setReceiver (s : Session) (h : HandlerId) (r : Receiver) : Session :=
  s.setConsumer h (.receiver r)

def setBrowser (s : Session) (h : HandlerId) (b : Browser) : Session :=
  s.setConsumer h (.browser b)

/-- A tag that no other consumer is given. -/
def freshTag (s : Session) : ConsumerTag := .generate s.consumers.length

def updateConsumer (s : Session) (h : HandlerId) (f : Consumer → Consumer) : Session :=
  { s with consumers := s.consumers.modify h f }

/-! ### Tasks -/

def task? (s : Session) (k : TaskId) : Option Task := s.tasks.lookup k

def spawn (s : Session) (t : Task) : Session :=
  { s with tasks := s.tasks ++ [(s.nextTask, t)], nextTask := s.nextTask + 1 }

def setTask (s : Session) (k : TaskId) (t : Task) : Session :=
  { s with tasks := s.tasks.map fun e => if e.1 = k then (k, t) else e }

def retire (s : Session) (k : TaskId) : Session :=
  { s with tasks := s.tasks.filter fun e => e.1 ≠ k }

/-- Ends the task of a call that returns. -/
def finish (s : Session) (k : TaskId) (answer : Answer) : Session :=
  { s.retire k with finished := s.finished ++ [⟨k, answer, s.clock⟩] }

/-! ### Commands -/

/-- The oldest failure of a kind of command, and the failures without it. -/
def takeFault? (kind : CommandKind) :
    List (CommandKind × TransportError) →
      Option (TransportError × List (CommandKind × TransportError))
  | [] => none
  | (k, e) :: rest =>
    if k = kind then some (e, rest)
    else (takeFault? kind rest).map fun (e', rest) => (e', (k, e) :: rest)

/-- Starts the follow-up of a command. -/
def follow (s : Session) : Followup → Session
  | .nothing => s
  | .confirm r tag => s.spawn (.confirm r tag false)
  | .replay queue tag messages => s.spawn (.replay queue tag messages .next)

/-- Sends a command, which fails if a failure of its kind is due. -/
def send (s : Session) (c : Command) : Session × Except TransportError Unit :=
  match takeFault? c.kind s.faults with
  | some (e, rest) => ({ s with faults := rest }, .error e)
  | none =>
    match s.channel.send c with
    | .error e => (s, .error e)
    | .ok (channel, followup) => ({ s with channel := channel }.follow followup, .ok ())

def sendIfAny (s : Session) : Option Command → Session × Except TransportError Unit
  | some c => s.send c
  | none => (s, .ok ())

/-! ### Deliveries -/

/-- Hands a delivery to a handler, which may go on to send a command. -/
def handOver (s : Session) (h : HandlerId) (d : Delivery) : Session × Handling :=
  match s.consumers[h]? with
  | some (.receiver r) =>
    let (s, answer) := s.sendIfAny (r.settlement? d)
    let (r, result) := r.deliver d answer
    (s.setReceiver h r, .done result)
  | some (.browser b) =>
    let (s, answer) := s.sendIfAny (b.command? d)
    let (b, result) := b.deliver d answer
    (s.setBrowser h b, .done result)
  | some (.recorder r) =>
    let r := r.note (.began d s.clock)
    if r.effort d = 0 then
      (s.setConsumer h (.recorder (r.note (.ended d.tag s.clock))), .done (r.result d))
    else (s.setConsumer h (.recorder r), .busy (s.clock + r.effort d))
  | none => (s, .done (.ok ()))

/-- Ends the work of a handler on a delivery that took it time. -/
def endHandling (s : Session) (h : HandlerId) (d : Delivery) :
    Session × Except ConsumerError Unit :=
  match s.consumers[h]? with
  | some (.recorder r) =>
    (s.setConsumer h (.recorder (r.note (.ended d.tag s.clock))), r.result d)
  | _ => (s, .ok ())

/-- Asks for the end of a browsing consumer. -/
def cancelBrowser (s : Session) (h : HandlerId) : Session × Except ConsumerError Unit :=
  match s.browser? h with
  | none => (s, .ok ())
  | some b =>
    let (s, answer) := s.sendIfAny b.cancellation?
    let (b, result) := b.cancel answer
    (s.setBrowser h b, result)

end Session
end Intake
