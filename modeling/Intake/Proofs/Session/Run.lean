import Intake.Session.Schedule

/-!
# Runs of a session

A run is a list of events: what applications, the broker and the tasks do, one thing after
another. Any task may take the next step, and time may pass at any moment, so that what the
scheduler does is one run among many. An observation tells what there is to see of an event;
its trace is what there is to see of a run.
-/
namespace Intake

/-- A delivery without properties and without a body. -/
def Delivery.bare (tag : DeliveryTag) : Delivery :=
  { envelope := ⟨tag, false, "", ""⟩, properties := {}, body := ByteArray.empty }

namespace Session

/-! ### Events -/

/-- One thing that happens in a session. -/
inductive Event where
  | publish (queue : QueueName) (message : Stored)
  -- takes a delivery tag without a delivery
  | allocate
  | close
  -- ends the confirming of cancels
  | silence
  -- lets a command of a kind fail
  | fault (kind : CommandKind) (error : TransportError)
  -- sends a command on behalf of no consumer
  | command (c : Command)
  | addReceiver (queue : QueueName) (tag : ConsumerTag) (converter : Converter)
      (selector : Option Selector) (config : ConsumerConfig)
  | addBrowser (tag : ConsumerTag) (converter : Converter) (expected : Nat)
      (selector : Option Selector)
  | addRecorder (tag : ConsumerTag) (effort : Delivery → Duration) (fails : Delivery → Bool)
  -- starts a call
  | call (c : Call)
  -- lets a task take a step
  | step (k : TaskId)
  -- gives up a call that has not returned
  | drop (k : TaskId)
  -- tells a handler that its cancel is confirmed
  | cancelOk (h : HandlerId) (tag : ConsumerTag)
  -- tells a handler that the broker cancelled it
  | cancelledByBroker (h : HandlerId) (tag : ConsumerTag)
  -- asks for the end of a browsing consumer
  | cancelBrowser (h : HandlerId)
  -- takes what a browsing consumer has collected
  | takeCollected (h : HandlerId)
  -- takes the answer of a call that has returned
  | collect (k : TaskId)
  -- lets time pass
  | pass (d : Duration)

/-- Whether a task carries out a call. The other tasks belong to the channel, and nobody can give
them up. -/
def isCall : Task → Bool
  | .replay .. => false
  | .confirm .. => false
  | _ => true

def addReceiver (s : Session) (created : Except CreationError Receiver) : Session :=
  match created with
  | .ok r => (s.addConsumer (.receiver r)).2
  | .error _ => s

def takeCollected (s : Session) (h : HandlerId) : Session :=
  match s.browser? h with
  | some b => s.setBrowser h b.takeMessages.2
  | none => s

def giveUp (s : Session) (k : TaskId) : Session :=
  if (s.task? k).any isCall then s.drop k else s

def apply (s : Session) : Event → Session
  | .publish queue message => { s with channel := s.channel.publish queue message }
  | .allocate => { s with channel := s.channel.allocate.2 }
  | .close => { s with channel := s.channel.close }
  | .silence => { s with channel := s.channel.silence }
  | .fault kind error => { s with faults := s.faults ++ [(kind, error)] }
  | .command c => (s.send c).1
  | .addReceiver queue tag converter selector config =>
    s.addReceiver (Receiver.create queue tag converter selector config)
  | .addBrowser tag converter expected selector =>
    (s.addConsumer (.browser (.create tag converter expected selector))).2
  | .addRecorder tag effort fails =>
    (s.addConsumer (.recorder { tag := tag, effort := effort, fails := fails })).2
  | .call c => (s.start c).2
  | .step k => s.step k
  | .drop k => s.giveUp k
  | .cancelOk h tag => s.updateConsumer h (Consumer.cancelOk tag s.clock)
  | .cancelledByBroker h tag => s.updateConsumer h (Consumer.cancelledByBroker tag s.clock)
  | .cancelBrowser h => (s.cancelBrowser h).1
  | .takeCollected h => s.takeCollected h
  | .collect k => { s with finished := s.finished.filter (·.task ≠ k) }
  | .pass d => { s with clock := s.clock + d }

/-- A session in which nothing has happened yet. -/
def initial (confirmsCancels : Bool) : Session :=
  { channel := { confirmsCancels := confirmsCancels } }

def run (s : Session) (es : List Event) : Session := es.foldl apply s

@[simp] theorem run_nil (s : Session) : s.run [] = s := rfl

@[simp] theorem run_cons (s : Session) (e : Event) (es : List Event) :
    s.run (e :: es) = (s.apply e).run es := rfl

theorem run_append (s : Session) (es fs : List Event) : s.run (es ++ fs) = (s.run es).run fs :=
  List.foldl_append

theorem run_concat (s : Session) (es : List Event) (e : Event) :
    s.run (es ++ [e]) = (s.run es).apply e := run_append s es [e]

/-! ### Observations -/

/-- What there is to see of a run, event by event. -/
def trace {α : Type} (see : Session → Event → List α) : Session → List Event → List α
  | _, [] => []
  | s, e :: es => see s e ++ trace see (s.apply e) es

theorem trace_append {α : Type} (see : Session → Event → List α) (s : Session)
    (es fs : List Event) : trace see s (es ++ fs) = trace see s es ++ trace see (s.run es) fs := by
  induction es generalizing s with
  | nil => rfl
  | cons e es ih => simp only [List.cons_append, trace, ih, run_cons, List.append_assoc]

theorem trace_concat {α : Type} (see : Session → Event → List α) (s : Session) (es : List Event)
    (e : Event) : trace see s (es ++ [e]) = trace see s es ++ see (s.run es) e := by
  rw [trace_append, trace, trace, List.append_nil]

/-- Two observations that see the same wherever a run gets see the same of the run. -/
theorem trace_congr_run {α : Type} {see see' : Session → Event → List α} {s : Session}
    {es : List Event}
    (same : ∀ before e after, es = before ++ e :: after →
      see (s.run before) e = see' (s.run before) e) : trace see s es = trace see' s es := by
  induction es generalizing s with
  | nil => rfl
  | cons e es ih =>
    -- An event of the rest is an event of the run with one more event before it.
    have now : see s e = see' s e := same [] e es rfl
    rw [trace, trace, now]
    congr 1
    apply ih
    intro before f after split
    exact same (e :: before) f after (by rw [split, List.cons_append])

theorem trace_map {α β : Type} (f : α → β) (see : Session → Event → List α) (s : Session)
    (es : List Event) : (trace see s es).map f = trace (fun s e => (see s e).map f) s es := by
  induction es generalizing s with
  | nil => rfl
  | cons e es ih => rw [trace, trace, List.map_append, ih]

theorem trace_sublist {α : Type} {see see' : Session → Event → List α}
    (sub : ∀ s e, (see s e).Sublist (see' s e)) (s : Session) (es : List Event) :
    (trace see s es).Sublist (trace see' s es) := by
  induction es generalizing s with
  | nil => exact List.Sublist.refl _
  | cons e es ih => exact (sub s e).append (ih (s.apply e))

/-- What is seen in a run is seen at one of its events. -/
theorem mem_trace {α : Type} (see : Session → Event → List α) (s : Session) (es : List Event)
    (a : α) : a ∈ trace see s es ↔
      ∃ before e after, es = before ++ e :: after ∧ a ∈ see (s.run before) e := by
  constructor
  · intro member
    induction es generalizing s with
    | nil => simp only [trace, List.not_mem_nil] at member
    | cons e es ih =>
      rcases List.mem_append.mp member with now | later
      · exact ⟨[], e, es, rfl, now⟩
      · obtain ⟨before, f, after, rfl, seen⟩ := ih (s.apply e) later
        exact ⟨e :: before, f, after, rfl, seen⟩
  · rintro ⟨before, e, after, rfl, seen⟩
    rw [trace_append, trace]
    exact List.mem_append_right _ (List.mem_append_left _ seen)

/-- What is never seen wherever a run gets is not seen of it. -/
theorem trace_eq_nil {α : Type} {see : Session → Event → List α} {s : Session}
    (unseen : ∀ es e, see (s.run es) e = []) (es : List Event) : trace see s es = [] := by
  rw [List.eq_nil_iff_forall_not_mem]
  intro a member
  obtain ⟨before, e, after, -, seen⟩ := (mem_trace see s es a).mp member
  rw [unseen] at seen
  exact List.not_mem_nil seen

def returned (s : Session) (e : Event) : List Finished :=
  (s.apply e).finished.drop s.finished.length

/-- The commands that the channel takes at an event. -/
def recorded (s : Session) (e : Event) : List Command :=
  (s.apply e).channel.log.drop s.channel.log.length

/-- The delivery that a task hands to a handler with its next step. -/
def taskHands? (s : Session) : Task → Option (HandlerId × Delivery)
  | .start (.deliver h d) => some (h, d)
  | .replay _ _ _ (.queued r d) => (s.channel.handler? r).map fun h => (h, d)
  | _ => none

/-- The task that takes a step at an event, if it has something to do. -/
def acting? (s : Session) : Event → Option (TaskId × Task)
  | .step k => ((s.task? k).filter (s.ready k)).map fun t => (k, t)
  | _ => none

def handed? (s : Session) (e : Event) : Option (HandlerId × Delivery) :=
  (s.acting? e).bind fun a => s.taskHands? a.2

end Session
end Intake
