import Intake.Session

/-!
# Steps of tasks

A task that can run takes one step: it does what needs no waiting up to the next point
where it might have to wait. A task that cannot run stays as it is.
-/
namespace Intake.Session

open Receiver (expired)

/-- Whether a browsing consumer is done. -/
def isReleased (s : Session) (h : HandlerId) : Bool := (s.browser? h).any (·.released)

/-- Whether a task has something to do. -/
def ready (s : Session) (k : TaskId) : Task → Bool
  | .start _ => true
  | .replay _ _ _ .next => true
  | .replay _ _ _ (.queued r _) => s.channel.isFirst r k
  | .replay _ _ _ (.handling _ _ deadline) => expired deadline s.clock
  | .confirm r _ queued => !queued || s.channel.isFirst r k
  | .dismiss r _ => s.channel.isFirst r k
  | .taking h => (s.receiver? h).any (·.canTake k s.clock)
  | .cancelling h => (s.receiver? h).any (·.canResume k s.clock)
  | .watching h deadline => s.isReleased h || expired deadline s.clock
  | .scanning h deadline => s.isReleased h || expired deadline s.clock
  | .handling _ _ deadline => expired deadline s.clock
  | .sleeping deadline => expired deadline s.clock

/-- Whether there is a task of a number and it has something to do. -/
def canRun (s : Session) (k : TaskId) : Bool := (s.task? k).any (s.ready k)

def begin (s : Session) (k : TaskId) : Call → Session
  | .deliver h d =>
    match s.handOver h d with
    | (s, .done result) => s.finish k (.ofResult result)
    | (s, .busy deadline) => s.setTask k (.handling h d deadline)
  | .brokerCancel tag =>
    match s.channel.registration? tag with
    | none => s.finish k (.flag false)
    | some r =>
      { s with channel := (s.channel.unregister tag).enqueue r k }.setTask k (.dismiss r tag)
  | .receive h timeout =>
    match s.receiver? h with
    | none => s.finish k (.message none)
    | some r => (s.setReceiver h (r.receive k timeout)).setTask k (.taking h)
  | .cancel h =>
    match s.receiver? h with
    | none => s.finish k .done
    | some r =>
      let (s, answer) := s.sendIfAny r.cancellation?
      match r.cancel k s.clock answer with
      | (r, none) => (s.setReceiver h r).setTask k (.cancelling h)
      | (r, some (.ok outcome)) => (s.setReceiver h r).finish k (.cancelled outcome)
      | (r, some (.error e)) => (s.setReceiver h r).finish k (.failed e)
  | .watch h timeout => s.setTask k (.watching h (s.clock + timeout))
  | .scan queue converter request =>
    if request.expected = 0 then s.finish k (.scanned .exhausted [])
    else
      let tag := s.freshTag
      let (h, s) := s.addConsumer
        (.browser (.create tag converter request.expected.toNat request.selector))
      match s.send (.consume queue tag h) with
      | (s, .error e) => s.finish k (.failed (.transport e))
      | (s, .ok ()) => s.setTask k (.scanning h (s.clock + request.timeout))
  | .sleep d => s.setTask k (.sleeping (s.clock + d))

/-- A replay goes on to its next message. It ends after the last one, and also when the tag has no
handler any more. -/
def replayNext (s : Session) (k : TaskId) (queue : QueueName) (tag : ConsumerTag) :
    List Stored → Session
  | [] => s.retire k
  | m :: pending =>
    match s.channel.registration? tag with
    | none => s.retire k
    | some r =>
      let (deliveryTag, channel) := s.channel.allocate
      let d : Delivery :=
        { envelope := ⟨deliveryTag, false, "", queue.text⟩, properties := m.properties
          body := m.body }
      { s with channel := channel.enqueue r k }.setTask k (.replay queue tag pending (.queued r d))

/-- Frees the place that a task holds in line. -/
def leaveLine (s : Session) (k : TaskId) : Session := { s with channel := s.channel.leave k }

/-- A replay whose turn it is hands over its delivery. -/
def replayHandOver (s : Session) (k : TaskId) (queue : QueueName) (tag : ConsumerTag)
    (pending : List Stored) (r : RegistrationId) (d : Delivery) : Session :=
  match s.channel.handler? r with
  | none => s.retire k
  | some h =>
    match s.handOver h d with
    | (s, .done _) => (s.leaveLine k).setTask k (.replay queue tag pending .next)
    | (s, .busy deadline) => s.setTask k (.replay queue tag pending (.handling r d deadline))

/-- A replay whose handler is done with a delivery. -/
def replayHandled (s : Session) (k : TaskId) (queue : QueueName) (tag : ConsumerTag)
    (pending : List Stored) (r : RegistrationId) (d : Delivery) : Session :=
  match s.channel.handler? r with
  | none => s.retire k
  | some h => ((s.endHandling h d).1.leaveLine k).setTask k (.replay queue tag pending .next)

/-- Tells the handler of a registration something and leaves its line. -/
def notify (s : Session) (k : TaskId) (r : RegistrationId) (tell : Consumer → Consumer) : Session :=
  match s.channel.handler? r with
  | none => s.leaveLine k
  | some h => (s.updateConsumer h tell).leaveLine k

/-- The first in line for a buffer looks at it. -/
def takeMessage (s : Session) (k : TaskId) (h : HandlerId) : Session :=
  match s.receiver? h with
  | none => s
  | some r =>
    match r.take s.clock with
    | (r, none) => s.setReceiver h r
    | (r, some m) => (s.setReceiver h r).finish k (.message m)

/-- Ends a call to cancel whose wait is over. -/
def endCancel (s : Session) (k : TaskId) (h : HandlerId) : Session :=
  match s.receiver? h with
  | none => s
  | some r =>
    let (r, outcome) := r.resume k
    (s.setReceiver h r).finish k (.cancelled outcome)

/-- Ends a wait for a browsing consumer; for one that is not there it ends with its time. -/
def endWatch (s : Session) (k : TaskId) (h : HandlerId) : Session :=
  match s.browser? h with
  | none => s.finish k (.watched .timedOut)
  | some b => s.finish k (.watched b.outcome)

/-- Ends a scan whose wait is over. A scan that runs out of time asks for the end of its consumer;
whether that succeeds does not matter to it. -/
def endScan (s : Session) (k : TaskId) (h : HandlerId) : Session :=
  match s.browser? h with
  | none => s.finish k (.scanned .timedOut [])
  | some b =>
    let outcome := b.outcome
    let s := if outcome = .timedOut then (s.cancelBrowser h).1 else s
    match s.browser? h with
    | none => s
    | some b =>
      let (messages, b) := b.takeMessages
      (s.setBrowser h b).finish k (.scanned outcome messages)

/-- What a task does that has something to do. -/
def proceed (s : Session) (k : TaskId) : Task → Session
  | .start call => s.begin k call
  | .replay queue tag pending .next => s.replayNext k queue tag pending
  | .replay queue tag pending (.queued r d) => s.replayHandOver k queue tag pending r d
  | .replay queue tag pending (.handling r d _) => s.replayHandled k queue tag pending r d
  | .confirm r tag false =>
    { s with channel := s.channel.enqueue r k }.setTask k (.confirm r tag true)
  | .confirm r tag true => (s.notify k r (Consumer.cancelOk tag s.clock)).retire k
  | .dismiss r tag =>
    (s.notify k r (Consumer.cancelledByBroker tag s.clock)).finish k (.flag true)
  | .taking h => s.takeMessage k h
  | .cancelling h => s.endCancel k h
  | .watching h _ => s.endWatch k h
  | .scanning h _ => s.endScan k h
  | .handling h d _ =>
    let (s, result) := s.endHandling h d
    s.finish k (.ofResult result)
  | .sleeping _ => s.finish k .done

/-- One step of a task, if it can run. -/
def step (s : Session) (k : TaskId) : Session :=
  match s.task? k with
  | some t => if s.ready k t then s.proceed k t else s
  | none => s

/-- Gives up a task: its places in line are free, and what it has done so far stays. -/
def drop (s : Session) (k : TaskId) : Session :=
  { (s.leaveLine k).retire k with
    consumers := s.consumers.map fun
      | .receiver r => .receiver (r.drop k)
      | c => c }

end Intake.Session
