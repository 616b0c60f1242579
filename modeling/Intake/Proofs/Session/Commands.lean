import Intake.Proofs.Session.Run

/-!
# Commands of a run

An event sends at most one command, and `command?` says which; `answer` is what the channel
answers to it. `Channel.Takes` lists all that a channel may do with a command that it takes. Sending
a command leaves the consumers, the calls that have returned and the clock alone.
-/
namespace Intake

/-! ### What a channel does with a command -/

namespace Channel

/-- What becomes of a channel that takes a command, and what it goes on to do. -/
inductive Takes (ch : Channel) : Command → Channel → Followup → Prop where
  | ack (tag multiple) : Takes ch (.ack tag multiple) (ch.record (.ack tag multiple)) .nothing
  | nack (tag requeue) : Takes ch (.nack tag requeue) (ch.record (.nack tag requeue)) .nothing
  | confirms {tag r} : ch.registration? tag = some r → ch.confirmsCancels = true →
    Takes ch (.cancel tag) ((ch.record (.cancel tag)).unregister tag) (.confirm r tag)
  | notes {tag} : ch.registration? tag = none ∨ ch.confirmsCancels = false →
    Takes ch (.cancel tag) (ch.record (.cancel tag)) .nothing
  | registers {queue tag h} : ch.registration? tag = none →
    Takes ch (.consume queue tag h) ((ch.record (.consume queue tag h)).register tag h)
      (.replay queue tag (ch.messages queue))

theorem takes_of_send {ch ch' : Channel} {c : Command} {f : Followup}
    (sent : ch.send c = .ok (ch', f)) : ch.isOpen = true ∧ ch.Takes c ch' f := by
  unfold send at sent
  split at sent
  · next opened =>
    refine ⟨opened, ?_⟩
    split at sent
    · cases sent
      exact .ack ..
    · cases sent
      exact .nack ..
    · split at sent
      · next found =>
        split at sent
        · next confirms =>
          cases sent
          exact .confirms found confirms
        · next silent =>
          cases sent
          exact .notes (.inr (Bool.eq_false_iff.mpr silent))
      · next unknown =>
        cases sent
        exact .notes (.inl unknown)
    · split at sent
      · cases sent
      · next free =>
        cases sent
        exact .registers free
  · cases sent

theorem Takes.free {ch ch' : Channel} {queue : QueueName} {tag : ConsumerTag} {h : HandlerId}
    {f : Followup} (takes : ch.Takes (.consume queue tag h) ch' f) : ch.registration? tag = none := by
  cases takes with
  | registers free => exact free

theorem send_log {ch ch' : Channel} {c : Command} {f : Followup} (sent : ch.send c = .ok (ch', f)) :
    ch'.log = ch.log ++ [c] := by
  cases (takes_of_send sent).2 <;> rfl

end Channel

namespace Session

/-! ### What sending a command leaves alone -/

@[simp] theorem follow_consumers (s : Session) (f : Followup) :
    (s.follow f).consumers = s.consumers := by
  cases f <;> rfl

@[simp] theorem follow_finished (s : Session) (f : Followup) :
    (s.follow f).finished = s.finished := by
  cases f <;> rfl

@[simp] theorem follow_clock (s : Session) (f : Followup) : (s.follow f).clock = s.clock := by
  cases f <;> rfl

@[simp] theorem follow_channel (s : Session) (f : Followup) : (s.follow f).channel = s.channel := by
  cases f <;> rfl

/-- A command changes nothing but the failures to come, the channel and the tasks. -/
theorem send_frame (s : Session) (c : Command) :
    (s.send c).1.consumers = s.consumers ∧ (s.send c).1.finished = s.finished ∧
      (s.send c).1.clock = s.clock := by
  unfold send
  split
  · exact ⟨rfl, rfl, rfl⟩
  · split
    · exact ⟨rfl, rfl, rfl⟩
    · simp only [follow_consumers, follow_finished, follow_clock, and_self]

@[simp] theorem sendIfAny_consumers (s : Session) (c : Option Command) :
    (s.sendIfAny c).1.consumers = s.consumers := by
  cases c with
  | none => rfl
  | some c => exact (s.send_frame c).1

@[simp] theorem sendIfAny_finished (s : Session) (c : Option Command) :
    (s.sendIfAny c).1.finished = s.finished := by
  cases c with
  | none => rfl
  | some c => exact (s.send_frame c).2.1

@[simp] theorem sendIfAny_clock (s : Session) (c : Option Command) :
    (s.sendIfAny c).1.clock = s.clock := by
  cases c with
  | none => rfl
  | some c => exact (s.send_frame c).2.2

/-! ### The command of an event -/

/-- The command that a delivery makes a handler send. -/
def handlerCommand? (s : Session) (h : HandlerId) (d : Delivery) : Option Command :=
  match s.consumers[h]? with
  | some (.receiver r) => r.settlement? d
  | some (.browser b) => b.command? d
  | _ => none

/-- No handler asks to be registered. -/
theorem kind_of_handlerCommand? {s : Session} {h : HandlerId} {d : Delivery} {c : Command}
    (sends : s.handlerCommand? h d = some c) : c.kind ≠ .consume := by
  unfold handlerCommand? at sends
  split at sends
  · unfold Receiver.settlement? at sends
    split at sends <;> cases sends <;> exact nofun
  · unfold Browser.command? Browser.cancellation? at sends
    split at sends
    · split at sends <;> cases sends
      exact nofun
    · cases sends
  · cases sends

/-- The command that a task sends with its next step. -/
def taskCommand? (s : Session) : Task → Option Command
  | .start (.deliver h d) => s.handlerCommand? h d
  | .start (.cancel h) => (s.receiver? h).bind (·.cancellation?)
  | .start (.scan queue _ request) =>
    if request.expected = 0 then none else some (.consume queue s.freshTag s.consumers.length)
  | .replay _ _ _ (.queued r d) => (s.channel.handler? r).bind fun h => s.handlerCommand? h d
  | .scanning h _ =>
    (s.browser? h).bind fun b => if b.outcome = .timedOut then b.cancellation? else none
  | _ => none

/-- The command that an event sends; no event sends more than one. -/
def command? (s : Session) : Event → Option Command
  | .command c => some c
  | .cancelBrowser h => (s.browser? h).bind (·.cancellation?)
  | .step k => (s.acting? (.step k)).bind fun a => s.taskCommand? a.2
  | _ => none

/-- What the channel answers to the command of an event; without a command nothing fails. -/
def answer (s : Session) (e : Event) : Except TransportError Unit := (s.sendIfAny (s.command? e)).2

end Session
end Intake
