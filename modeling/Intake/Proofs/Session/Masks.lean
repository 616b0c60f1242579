import Intake.Proofs.Session.Observations

/-!
# Sessions with some counts hidden

A mask hides of a session how many deliveries one consumer was handed, how many of them did not
convert, and what calls have returned so far. Nothing in a session depends on any of these:
a masked session takes the same commands and answers the same calls as the session itself, and an
event leads it to the same session behind the mask (`apply_masked`).
-/
namespace Intake

/-- The counters, without those of deliveries and of failed conversions if these are hidden. -/
def Counters.masked (hidden : Bool) (c : Counters) : Counters :=
  if hidden then { c with delivered := 0, conversionFailures := 0 } else c

@[simp] theorem Counters.masked_masked (hidden : Bool) (c : Counters) :
    (c.masked hidden).masked hidden = c.masked hidden := by
  cases hidden <;> rfl

/-! ### Receiving consumers -/

namespace Receiver

def masked (hidden : Bool) (r : Receiver) : Receiver :=
  { r with counters := r.counters.masked hidden }

@[simp] theorem masked_masked (hidden : Bool) (r : Receiver) :
    (r.masked hidden).masked hidden = r.masked hidden := by
  simp only [masked, Counters.masked_masked]

theorem count_masked (hidden : Bool) (v : Verdict) (c : Counters) :
    (count v (c.masked hidden)).masked hidden = (count v c).masked hidden := by
  cases hidden <;> cases v <;> rfl

theorem keep_masked (hidden : Bool) (r : Receiver) (d : Delivery) :
    ((r.masked hidden).keep d).masked hidden = (r.keep d).masked hidden := by
  have same : (r.masked hidden).verdict d = r.verdict d := rfl
  unfold keep
  rw [same]
  cases r.verdict d <;> simp only [masked, count_masked]

theorem deliver_masked (hidden : Bool) (r : Receiver) (d : Delivery)
    (answer : Except TransportError Unit) :
    ((r.masked hidden).deliver d answer).1.masked hidden = (r.deliver d answer).1.masked hidden ∧
      ((r.masked hidden).deliver d answer).2 = (r.deliver d answer).2 := by
  have same : (r.masked hidden).verdict d = r.verdict d := rfl
  have kept := r.keep_masked hidden d
  unfold deliver
  rw [same]
  cases r.verdict d with
  | unconvertible e => exact ⟨kept, rfl⟩
  | _ =>
    cases answer with
    | ok u => exact ⟨kept, rfl⟩
    | error e => exact ⟨congrArg markCancelled kept, rfl⟩

theorem take_masked (hidden : Bool) (r : Receiver) (now : Nat) :
    (r.masked hidden).take now = ((r.take now).1.masked hidden, (r.take now).2) := by
  have takers : (r.masked hidden).takers = r.takers := rfl
  have buffer : (r.masked hidden).buffer = r.buffer := rfl
  have state : (r.masked hidden).state = r.state := rfl
  unfold take
  rw [takers, buffer, state]
  cases r.takers with
  | nil => rfl
  | cons t others =>
    cases r.buffer with
    | cons m rest => cases hidden <;> rfl
    | nil =>
      dsimp only
      cases (if r.state.isCancelled then none else patienceAt now t.patience) <;> rfl

theorem awaitEnd_masked (hidden : Bool) (r : Receiver) (call : TaskId) (now : Nat) :
    (r.masked hidden).awaitEnd call now =
      ((r.awaitEnd call now).1.masked hidden, (r.awaitEnd call now).2) := by
  have state : (r.masked hidden).state = r.state := rfl
  have config : (r.masked hidden).config = r.config := rfl
  unfold awaitEnd
  rw [state, config]
  split
  · rfl
  · split <;> rfl

theorem cancel_masked (hidden : Bool) (r : Receiver) (call : TaskId) (now : Nat)
    (answer : Except TransportError Unit) :
    (r.masked hidden).cancel call now answer =
      ((r.cancel call now answer).1.masked hidden, (r.cancel call now answer).2) := by
  have state : (r.masked hidden).state = r.state := rfl
  have issued : (r.masked hidden).cancelIssued = r.cancelIssued := rfl
  unfold cancel
  rw [state, issued]
  split
  · split
    · rfl
    · exact r.awaitEnd_masked hidden call now
  · cases answer with
    | ok u =>
      exact awaitEnd_masked hidden
        { r with cancelIssued := true, state := r.state.requestCancel } call now
    | error e => rfl

theorem resume_masked (hidden : Bool) (r : Receiver) (call : TaskId) :
    (r.masked hidden).resume call = ((r.resume call).1.masked hidden, (r.resume call).2) := by
  have state : (r.masked hidden).state = r.state := rfl
  unfold resume
  rw [state]
  split <;> rfl

theorem react_masked (hidden : Bool) (r : Receiver) (x : Happening) :
    ((r.masked hidden).react x).masked hidden = (r.react x).masked hidden := by
  cases x with
  | delivery d now answer => exact (r.deliver_masked hidden d answer).1
  | take now => simp only [react, take_masked, masked_masked]
  | cancel call now answer => simp only [react, cancel_masked, masked_masked]
  | resume call => simp only [react, resume_masked, masked_masked]
  | _ =>
    simp only [react, masked, markCancelled, receive, drop, Counters.masked_masked]

end Receiver

/-! ### Browsing consumers -/

namespace Browser

def masked (hidden : Bool) (b : Browser) : Browser :=
  { b with counters := b.counters.masked hidden }

@[simp] theorem masked_masked (hidden : Bool) (b : Browser) :
    (b.masked hidden).masked hidden = b.masked hidden := by
  simp only [masked, Counters.masked_masked]

theorem count_masked (hidden : Bool) (v : BrowseVerdict) (c : Counters) :
    (count v (c.masked hidden)).masked hidden = (count v c).masked hidden := by
  cases hidden <;> cases v <;> rfl

theorem keep_masked (hidden : Bool) (b : Browser) (d : Delivery) :
    ((b.masked hidden).keep d).masked hidden = (b.keep d).masked hidden := by
  have same : (b.masked hidden).verdict d = b.verdict d := rfl
  unfold keep
  rw [same]
  cases b.verdict d <;> (simp only [masked, count_masked]; try rfl)

theorem cancel_masked (hidden : Bool) (b : Browser) (answer : Except TransportError Unit) :
    (b.masked hidden).cancel answer = ((b.cancel answer).1.masked hidden, (b.cancel answer).2) := by
  have issued : (b.masked hidden).cancelIssued = b.cancelIssued := rfl
  unfold cancel
  rw [issued]
  split
  · rfl
  · cases answer <;> rfl

theorem cancel_congr {hidden : Bool} {b b' : Browser} (same : b.masked hidden = b'.masked hidden)
    (answer : Except TransportError Unit) :
    (b.cancel answer).1.masked hidden = (b'.cancel answer).1.masked hidden ∧
      (b.cancel answer).2 = (b'.cancel answer).2 := by
  have left := b.cancel_masked hidden answer
  rw [same, cancel_masked] at left
  exact ⟨(congrArg Prod.fst left).symm, (congrArg Prod.snd left).symm⟩

theorem deliver_masked (hidden : Bool) (b : Browser) (d : Delivery)
    (answer : Except TransportError Unit) :
    ((b.masked hidden).deliver d answer).1.masked hidden = (b.deliver d answer).1.masked hidden ∧
      ((b.masked hidden).deliver d answer).2 = (b.deliver d answer).2 := by
  have same : (b.masked hidden).verdict d = b.verdict d := rfl
  have completes : (b.masked hidden).completes d = b.completes d := rfl
  have kept := b.keep_masked hidden d
  constructor
  · rw [deliver_eq, deliver_eq, completes]
    split
    · exact (cancel_congr kept answer).1
    · exact kept
  · unfold deliver
    rw [same, completes]
    cases b.verdict d with
    | unconvertible e => rfl
    | _ =>
      dsimp only
      split
      · exact (cancel_congr kept answer).2
      · rfl

theorem react_masked (hidden : Bool) (b : Browser) (x : Happening) :
    ((b.masked hidden).react x).masked hidden = (b.react x).masked hidden := by
  cases x with
  | delivery d now answer => exact (b.deliver_masked hidden d answer).1
  | endBrowsing answer => simp only [react, cancel_masked, masked_masked]
  | endScan answer =>
    have outcome : (b.masked hidden).outcome = b.outcome := rfl
    unfold react
    simp only [outcome]
    split
    · rw [cancel_masked]
      exact congrArg (fun b : Browser => b.takeMessages.2) (masked_masked hidden _)
    · exact congrArg (fun b : Browser => b.takeMessages.2) (masked_masked hidden _)
  | _ => simp only [react, masked, markCancelled, takeMessages, Counters.masked_masked]

end Browser

/-! ### Any consumer -/

namespace Consumer

def masked (hidden : Bool) : Consumer → Consumer
  | .receiver r => .receiver (r.masked hidden)
  | .browser b => .browser (b.masked hidden)
  | .recorder r => .recorder r

@[simp] theorem masked_masked (hidden : Bool) (c : Consumer) :
    (c.masked hidden).masked hidden = c.masked hidden := by
  cases c <;> simp only [masked, Receiver.masked_masked, Browser.masked_masked]

theorem react_masked (hidden : Bool) (c : Consumer) (x : Happening) :
    ((c.masked hidden).react x).masked hidden = (c.react x).masked hidden := by
  cases c with
  | receiver r => exact congrArg receiver (r.react_masked hidden x)
  | browser b => exact congrArg browser (b.react_masked hidden x)
  | recorder r => rfl

end Consumer

namespace Session

/-- The session without the counts of deliveries and of failed conversions of a consumer and without
the answers of the calls that have returned. -/
def masked (h : HandlerId) (s : Session) : Session :=
  { s with
    consumers := s.consumers.mapIdx fun i c => c.masked (i = h)
    finished := [] }

variable (h : HandlerId)

theorem getElem?_masked (s : Session) (i : HandlerId) :
    (s.masked h).consumers[i]? = s.consumers[i]?.map (Consumer.masked (i = h)) :=
  List.getElem?_mapIdx

/-- Sessions whose consumers are the same behind the mask, and all else too, are so. -/
theorem masked_eq {s s' : Session} (clock : s.clock = s'.clock) (channel : s.channel = s'.channel)
    (faults : s.faults = s'.faults) (tasks : s.tasks = s'.tasks) (next : s.nextTask = s'.nextTask)
    (consumers : ∀ i, s.consumers[i]?.map (Consumer.masked (i = h)) =
      s'.consumers[i]?.map (Consumer.masked (i = h))) : s.masked h = s'.masked h := by
  have same : (s.masked h).consumers = (s'.masked h).consumers := by
    apply List.ext_getElem?
    intro i
    rw [getElem?_masked, getElem?_masked, consumers]
  have split (t : Session) : t.masked h =
      { clock := t.clock, channel := t.channel, faults := t.faults
        consumers := (t.masked h).consumers, tasks := t.tasks, nextTask := t.nextTask } := rfl
  rw [split s, split s', clock, channel, faults, same, tasks, next]

@[simp] theorem masked_masked (s : Session) : (s.masked h).masked h = s.masked h := by
  refine masked_eq h rfl rfl rfl rfl rfl fun i => ?_
  simp only [getElem?_masked, Option.map_map, Function.comp_def, Consumer.masked_masked]

/-- What treats a session as it treats the masked one treats sessions alike that are the same behind
the mask. -/
theorem masked_congr (f : Session → Session)
    (blind : ∀ s, (f (s.masked h)).masked h = (f s).masked h) {s s' : Session}
    (same : s.masked h = s'.masked h) : (f s).masked h = (f s').masked h := by
  rw [← blind s, same, blind]

theorem receiver?_masked (s : Session) (i : HandlerId) :
    (s.masked h).receiver? i = (s.receiver? i).map (Receiver.masked (i = h)) := by
  unfold receiver?
  rw [getElem?_masked]
  rcases s.consumers[i]? with _ | (r | b | r) <;> rfl

theorem browser?_masked (s : Session) (i : HandlerId) :
    (s.masked h).browser? i = (s.browser? i).map (Browser.masked (i = h)) := by
  unfold browser?
  rw [getElem?_masked]
  rcases s.consumers[i]? with _ | (r | b | r) <;> rfl

/-! ### What a task does -/

theorem isReleased_masked (s : Session) (i : HandlerId) :
    (s.masked h).isReleased i = s.isReleased i := by
  unfold isReleased
  rw [browser?_masked]
  cases s.browser? i <;> rfl

theorem ready_masked (s : Session) (k : TaskId) (t : Task) :
    (s.masked h).ready k t = s.ready k t := by
  cases t with
  | replay queue tag pending stage => cases stage <;> rfl
  | taking i =>
    simp only [ready, receiver?_masked]
    cases s.receiver? i <;> rfl
  | cancelling i =>
    simp only [ready, receiver?_masked]
    cases s.receiver? i <;> rfl
  | watching i deadline => exact congrArg (· || _) (s.isReleased_masked h i)
  | scanning i deadline => exact congrArg (· || _) (s.isReleased_masked h i)
  | _ => rfl

theorem acting?_masked (s : Session) (e : Event) : (s.masked h).acting? e = s.acting? e := by
  cases e with
  | step k =>
    have same : (s.masked h).ready k = s.ready k := funext (s.ready_masked h k)
    simp only [acting?, same]
    rfl
  | _ => rfl

theorem handlerCommand?_masked (s : Session) (i : HandlerId) (d : Delivery) :
    (s.masked h).handlerCommand? i d = s.handlerCommand? i d := by
  unfold handlerCommand?
  rw [getElem?_masked]
  rcases s.consumers[i]? with _ | (r | b | r) <;> rfl

theorem length_masked (s : Session) : (s.masked h).consumers.length = s.consumers.length :=
  List.length_mapIdx

theorem taskCommand?_masked (s : Session) (t : Task) :
    (s.masked h).taskCommand? t = s.taskCommand? t := by
  unfold taskCommand?
  split
  · exact s.handlerCommand?_masked h _ _
  · rw [receiver?_masked]
    cases s.receiver? _ <;> rfl
  · simp only [freshTag, length_masked]
  · simp only [handlerCommand?_masked]
    rfl
  · rw [browser?_masked]
    cases s.browser? _ <;> rfl
  · rfl

theorem send_masked (s : Session) (c : Command) :
    (s.masked h).send c = ((s.send c).1.masked h, (s.send c).2) := by
  have faults : (s.masked h).faults = s.faults := rfl
  have channel : (s.masked h).channel = s.channel := rfl
  unfold send
  rw [faults, channel]
  split
  · rfl
  · split
    · rfl
    · next f _ => cases f <;> rfl

theorem sendIfAny_masked (s : Session) (c : Option Command) :
    (s.masked h).sendIfAny c = ((s.sendIfAny c).1.masked h, (s.sendIfAny c).2) := by
  cases c with
  | none => rfl
  | some c => exact s.send_masked h c

theorem taskHappening?_masked (s : Session) (k : TaskId) (answer : Except TransportError Unit)
    (t : Task) : (s.masked h).taskHappening? k answer t = s.taskHappening? k answer t := by
  cases t with
  | start call => cases call <;> rfl
  | replay queue tag pending stage => cases stage <;> rfl
  | confirm r tag queued => cases queued <;> rfl
  | _ => rfl

/-- A masked session is answered the same by a handler. -/
theorem handOver_masked (s : Session) (i : HandlerId) (d : Delivery) :
    ((s.masked h).handOver i d).2 = (s.handOver i d).2 := by
  unfold handOver
  rw [getElem?_masked]
  rcases s.consumers[i]? with _ | (r | b | r)
  · rfl
  · simp only [Option.map_some, Consumer.masked, sendIfAny_masked]
    exact congrArg Handling.done (r.deliver_masked (i = h) d _).2
  · simp only [Option.map_some, Consumer.masked, sendIfAny_masked]
    exact congrArg Handling.done (b.deliver_masked (i = h) d _).2
  · have clock : (s.masked h).clock = s.clock := rfl
    simp only [Option.map_some, Consumer.masked, clock]
    split <;> rfl

theorem endHandling_masked (s : Session) (i : HandlerId) (d : Delivery) :
    ((s.masked h).endHandling i d).2 = (s.endHandling i d).2 := by
  unfold endHandling
  rw [getElem?_masked]
  rcases s.consumers[i]? with _ | (r | b | r) <;> rfl

theorem fate_masked (s : Session) (k : TaskId) (answer : Except TransportError Unit) (t : Task) :
    (s.masked h).fate k answer t = s.fate k answer t := by
  have clock : (s.masked h).clock = s.clock := rfl
  have channel : (s.masked h).channel = s.channel := rfl
  cases t with
  | start call =>
    cases call with
    | deliver i d => simp only [fate, handOver_masked]
    | receive i timeout =>
      simp only [fate, receiver?_masked]
      cases s.receiver? i <;> rfl
    | cancel i =>
      simp only [fate, receiver?_masked]
      cases s.receiver? i with
      | none => rfl
      | some r => simp only [Option.map_some, Receiver.cancel_masked, clock]
    | scan queue converter request => simp only [fate, length_masked, clock]
    | _ => rfl
  | replay queue tag pending stage =>
    cases stage with
    | next => cases pending <;> rfl
    | queued r d => simp only [fate, handOver_masked, channel]
    | handling r d deadline => simp only [fate, channel]
  | confirm r tag queued => cases queued <;> rfl
  | taking i =>
    simp only [fate, receiver?_masked]
    cases s.receiver? i with
    | none => rfl
    | some r => simp only [Option.map_some, Receiver.take_masked, clock]
  | cancelling i =>
    simp only [fate, receiver?_masked]
    cases s.receiver? i with
    | none => rfl
    | some r => simp only [Option.map_some, Receiver.resume_masked]
  | watching i deadline =>
    simp only [fate, browser?_masked]
    cases s.browser? i <;> rfl
  | scanning i deadline =>
    simp only [fate, browser?_masked]
    cases s.browser? i <;> rfl
  | handling i d deadline => simp only [fate, endHandling_masked]
  | _ => rfl

theorem movement_masked (s : Session) (t : Task) : (s.masked h).movement t = s.movement t := by
  have channel : (s.masked h).channel = s.channel := rfl
  cases t with
  | start call => cases call <;> rfl
  | replay queue tag pending stage =>
    cases stage with
    | next => cases pending <;> rfl
    | queued r d => simp only [movement, handOver_masked, channel]
    | handling r d deadline => simp only [movement, channel]
  | confirm r tag queued => cases queued <;> rfl
  | _ => rfl

/-! ### What an event does -/

theorem alter_masked (i : HandlerId) (x : Happening) (s : Session) :
    ((s.masked h).alter i x).masked h = (s.alter i x).masked h := by
  refine masked_eq h rfl rfl rfl rfl rfl fun j => ?_
  rw [alter_consumers, alter_consumers, getElem?_masked]
  simp only [Option.map_map, Function.comp_def, Consumer.react_masked]

theorem alterIfAny_masked (x : Option (HandlerId × Happening)) (s : Session) :
    ((s.masked h).alterIfAny x).masked h = (s.alterIfAny x).masked h := by
  cases x with
  | none => exact s.masked_masked h
  | some x => exact alter_masked h x.1 x.2 s

theorem addConsumer_masked (c : Consumer) (s : Session) :
    ((s.masked h).addConsumer c).2.masked h = (s.addConsumer c).2.masked h := by
  refine masked_eq h rfl rfl rfl rfl rfl fun j => ?_
  simp only [addConsumer, List.getElem?_append, length_masked, getElem?_masked]
  split
  · simp only [Option.map_map, Function.comp_def, Consumer.masked_masked]
  · rfl

theorem enrol_masked (t : Task) (s : Session) :
    ((s.masked h).enrol t).masked h = (s.enrol t).masked h := by
  unfold enrol
  split
  · split
    · exact s.masked_masked h
    · simp only [freshTag, length_masked]
      exact addConsumer_masked h _ s
  · exact s.masked_masked h

theorem move_masked (k : TaskId) (m : Movement) (s : Session) :
    ((s.masked h).move k m).masked h = (s.move k m).masked h := by
  have twice := masked_masked h (s.move k m)
  cases m <;> exact twice

theorem meet_masked (k : TaskId) (f : Fate) (s : Session) :
    ((s.masked h).meet k f).masked h = (s.meet k f).masked h := by
  have twice := masked_masked h (s.meet k f)
  cases f <;> exact twice

theorem sendIfAny_congr_masked (c : Option Command) (s : Session) :
    ((s.masked h).sendIfAny c).1.masked h = (s.sendIfAny c).1.masked h := by
  rw [sendIfAny_masked, masked_masked]

theorem outline_masked (s : Session) (k : TaskId) (t : Task) :
    ((s.masked h).outline k t).masked h = (s.outline k t).masked h := by
  unfold outline
  simp only [taskCommand?_masked, taskHappening?_masked, movement_masked, fate_masked, enrol_answer,
    sendIfAny_masked]
  -- What a task does is the same on both sides, and it is done in the same order.
  refine masked_congr h (fun s => s.meet k _) (meet_masked h k _) ?_
  refine masked_congr h (fun s => s.move k _) (move_masked h k _) ?_
  refine masked_congr h (fun s => s.alterIfAny _) (alterIfAny_masked h _) ?_
  exact masked_congr h (fun s => (s.sendIfAny _).1) (sendIfAny_congr_masked h _) (enrol_masked h t s)

theorem drop_masked (s : Session) (k : TaskId) :
    ((s.masked h).drop k).masked h = (s.drop k).masked h := by
  refine masked_eq h rfl rfl rfl rfl rfl fun i => ?_
  rw [drop_consumers, drop_consumers, getElem?_masked]
  simp only [Option.map_map, Function.comp_def, Consumer.react_masked]

/-- **Masks**: an event leads a session and the masked session to the same session behind the mask. -/
theorem apply_masked (s : Session) (e : Event) :
    ((s.masked h).apply e).masked h = (s.apply e).masked h := by
  have twice := masked_masked h (s.apply e)
  cases e with
  | step k =>
    rw [apply_step, apply_step, acting?_masked]
    cases s.acting? (.step k) with
    | none => exact s.masked_masked h
    | some a => exact s.outline_masked h a.1 a.2
  | drop k =>
    simp only [apply, giveUp]
    rw [show (s.masked h).task? k = s.task? k from rfl]
    split
    · exact s.drop_masked h k
    · exact s.masked_masked h
  | cancelOk i tag =>
    simp only [apply, updateConsumer_eq_alter (Consumer.cancelOk_eq_react tag _)]
    exact alter_masked h i _ s
  | cancelledByBroker i tag =>
    simp only [apply, updateConsumer_eq_alter (Consumer.cancelledByBroker_eq_react tag _)]
    exact alter_masked h i _ s
  | cancelBrowser i =>
    have asks : ((s.masked h).browser? i).bind (·.cancellation?) =
        (s.browser? i).bind (·.cancellation?) := by
      rw [browser?_masked]
      cases s.browser? i <;> rfl
    simp only [apply, cancelBrowser_eq, asks, sendIfAny_masked]
    exact alter_masked h i _ _
  | takeCollected i =>
    simp only [apply, takeCollected_eq]
    exact alter_masked h i _ s
  | addReceiver queue tag converter selector config =>
    simp only [apply, addReceiver]
    split
    · exact addConsumer_masked h _ s
    · exact s.masked_masked h
  | addBrowser tag converter expected selector => exact addConsumer_masked h _ s
  | addRecorder tag effort fails => exact addConsumer_masked h _ s
  | command c =>
    simp only [apply, send_masked, masked_masked]
  | publish | allocate | close | silence | fault | call | collect | pass =>
    exact twice

/-! ### What there is to see of an event -/

theorem command?_masked (s : Session) (e : Event) : (s.masked h).command? e = s.command? e := by
  cases e with
  | step k => simp only [command?, acting?_masked, taskCommand?_masked]
  | cancelBrowser i =>
    simp only [command?, browser?_masked]
    cases s.browser? i <;> rfl
  | _ => rfl

theorem answer_masked (s : Session) (e : Event) : (s.masked h).answer e = s.answer e := by
  simp only [answer, command?_masked, sendIfAny_masked]

theorem recorded_masked (s : Session) (e : Event) : (s.masked h).recorded e = s.recorded e := by
  simp only [recorded_eq, answer_masked, command?_masked]

theorem returned_masked (s : Session) (e : Event) : (s.masked h).returned e = s.returned e := by
  simp only [returned_eq, acting?_masked, answer_masked, fate_masked]
  rfl

end Session
end Intake
