import Intake.Proofs.Consumer.Life
import Intake.Proofs.Session.Commands

/-!
# Steps of tasks in outline

A step of a task sends at most one command, changes at most one consumer by it, moves the task in
at most one way in the lines of the channel, and leaves the task with one fate. `proceed_eq` is
this for all tasks; whatever a step keeps or changes is read off the outline.
-/
namespace Intake.Session

/-! ### Changing one consumer -/

def alter (s : Session) (h : HandlerId) (x : Happening) : Session :=
  { s with consumers := s.consumers.modify h (·.react x) }

theorem setConsumer_eq_alter {s : Session} {h : HandlerId} {c : Consumer} (x : Happening)
    (there : s.consumers[h]? = some c) : s.setConsumer h (c.react x) = s.alter h x := by
  have same : s.consumers.set h (c.react x) = s.consumers.modify h (·.react x) := by
    apply List.ext_getElem?
    intro i
    -- The two differ only where there is no entry, and there is one.
    rw [List.getElem?_modify, List.getElem?_set]
    by_cases eq : h = i
    · subst eq
      rw [if_pos rfl, there, if_pos (List.getElem?_eq_some_iff.mp there).1]
      simp
    · rw [if_neg eq]
      simp [eq]
  rw [setConsumer, alter, same]

theorem alter_eq_self {s : Session} {h : HandlerId} {x : Happening}
    (unmoved : ∀ c, s.consumers[h]? = some c → c.react x = c) : s.alter h x = s := by
  have same : s.consumers.modify h (·.react x) = s.consumers := by
    apply List.ext_getElem?
    intro i
    rw [List.getElem?_modify]
    by_cases eq : h = i
    · subst eq
      cases there : s.consumers[h]? with
      | none => rfl
      | some c => simp [unmoved c there]
    · simp [eq]
  rw [alter, same]

theorem receiver?_eq_some {s : Session} {h : HandlerId} {r : Receiver} :
    s.receiver? h = some r ↔ s.consumers[h]? = some (.receiver r) := by
  unfold receiver?
  split <;> simp_all

theorem browser?_eq_some {s : Session} {h : HandlerId} {b : Browser} :
    s.browser? h = some b ↔ s.consumers[h]? = some (.browser b) := by
  unfold browser?
  split <;> simp_all

theorem browser?_of_receiver {s : Session} {h : HandlerId} {r : Receiver}
    (there : s.receiver? h = some r) : s.browser? h = none := by
  cases found : s.browser? h with
  | none => rfl
  | some b =>
    have browser := browser?_eq_some.mp found
    rw [receiver?_eq_some.mp there] at browser
    cases browser

theorem setReceiver_eq_alter {s t : Session} {h : HandlerId} {r : Receiver} (x : Happening)
    (there : s.receiver? h = some r) (same : t.consumers = s.consumers) :
    t.setReceiver h (r.react x) = t.alter h x :=
  setConsumer_eq_alter (c := .receiver r) x (by rw [same]; exact receiver?_eq_some.mp there)

theorem setBrowser_eq_alter {s t : Session} {h : HandlerId} {b : Browser} (x : Happening)
    (there : s.browser? h = some b) (same : t.consumers = s.consumers) :
    t.setBrowser h (b.react x) = t.alter h x :=
  setConsumer_eq_alter (c := .browser b) x (by rw [same]; exact browser?_eq_some.mp there)

theorem browser?_setBrowser {s : Session} {h : HandlerId} {b : Browser}
    (there : h < s.consumers.length) : (s.setBrowser h b).browser? h = some b := by
  apply browser?_eq_some.mpr
  rw [setBrowser, setConsumer, List.getElem?_set_self there]

theorem setBrowser_setBrowser (s : Session) (h : HandlerId) (b b' : Browser) :
    (s.setBrowser h b).setBrowser h b' = s.setBrowser h b' := by
  simp only [setBrowser, setConsumer, List.set_set]

/-! ### Handing over a delivery -/

/-- Handing over a delivery sends the command of the handler and lets the handler react; nothing
else in the session changes. -/
theorem handOver_eq (s : Session) (h : HandlerId) (d : Delivery) :
    (s.handOver h d).1 = (s.sendIfAny (s.handlerCommand? h d)).1.alter h
      (.delivery d s.clock (s.sendIfAny (s.handlerCommand? h d)).2) := by
  unfold handOver handlerCommand?
  cases there : s.consumers[h]? with
  | none => exact (alter_eq_self (by simp [sendIfAny, there])).symm
  | some c =>
    cases c with
    | receiver r =>
      exact setReceiver_eq_alter (.delivery d s.clock _) (receiver?_eq_some.mpr there) (by simp)
    | browser b =>
      exact setBrowser_eq_alter (.delivery d s.clock _) (browser?_eq_some.mpr there) (by simp)
    | recorder r =>
      -- A recorder sends nothing, and it notes the end of its work at once if the work takes no time.
      have reacts := setConsumer_eq_alter (.delivery d s.clock (.ok ())) there
      simp only [Consumer.react, Recorder.react] at reacts
      simp only [sendIfAny, ← reacts]
      by_cases idle : r.effort d = 0
      · have idle' : (r.note (.began d s.clock)).effort d = 0 := idle
        simp only [idle, idle', if_true]
      · have idle' : (r.note (.began d s.clock)).effort d ≠ 0 := idle
        simp only [idle, idle', if_false]

/-- A handler that is done with a delivery reacts, and nothing else changes. -/
theorem endHandling_eq (s : Session) (h : HandlerId) (d : Delivery) :
    (s.endHandling h d).1 = s.alter h (.handled d s.clock) := by
  unfold endHandling
  split
  · next r there => exact setConsumer_eq_alter (.handled d s.clock) there
  · next no =>
    refine (alter_eq_self ?_).symm
    intro c there
    cases c with
    | receiver r => rfl
    | browser b => rfl
    | recorder r => exact absurd there (no r)

theorem cancelBrowser_eq (s : Session) (h : HandlerId) :
    (s.cancelBrowser h).1 = (s.sendIfAny ((s.browser? h).bind (·.cancellation?))).1.alter h
      (.endBrowsing (s.sendIfAny ((s.browser? h).bind (·.cancellation?))).2) := by
  unfold cancelBrowser
  split
  · next no =>
    simp only [no, Option.bind_none, sendIfAny]
    refine (alter_eq_self ?_).symm
    intro c there
    cases c with
    | receiver r => rfl
    | browser b => rw [browser?_eq_some.mpr there] at no; cases no
    | recorder r => rfl
  · next b there =>
    simp only [there, Option.bind_some]
    exact setBrowser_eq_alter (.endBrowsing _) there (by simp)

/-- To tell a consumer something is to let it react to that. -/
theorem updateConsumer_eq_alter {tell : Consumer → Consumer} {x : Happening}
    (told : ∀ c, tell c = c.react x) (s : Session) (h : HandlerId) :
    s.updateConsumer h tell = s.alter h x := by
  rw [updateConsumer, alter, funext told]

/-! ### The parts of a step -/

/-- What the next step of a task does to a consumer, and to which. -/
def taskHappening? (s : Session) (k : TaskId) (answer : Except TransportError Unit) :
    Task → Option (HandlerId × Happening)
  | .start (.deliver h d) => some (h, .delivery d s.clock answer)
  | .start (.receive h timeout) => some (h, .receive k timeout)
  | .start (.cancel h) => some (h, .cancel k s.clock answer)
  | .replay _ _ _ (.queued r d) =>
    (s.channel.handler? r).map fun h => (h, .delivery d s.clock answer)
  | .replay _ _ _ (.handling r d _) =>
    (s.channel.handler? r).map fun h => (h, .handled d s.clock)
  | .confirm r tag true => (s.channel.handler? r).map fun h => (h, .cancelOk tag s.clock)
  | .dismiss r tag => (s.channel.handler? r).map fun h => (h, .cancelledByBroker tag s.clock)
  | .taking h => some (h, .take s.clock)
  | .cancelling h => some (h, .resume k)
  | .scanning h _ => some (h, .endScan answer)
  | .handling h d _ => some (h, .handled d s.clock)
  | _ => none

def alterIfAny (s : Session) : Option (HandlerId × Happening) → Session
  | some (h, x) => s.alter h x
  | none => s

/-- What becomes of a task with a step. -/
inductive Fate where
  | stays
  | becomes (t : Task)
  | returns (answer : Answer)
  | ends

def meet (s : Session) (k : TaskId) : Fate → Session
  | .stays => s
  | .becomes t => s.setTask k t
  | .returns a => s.finish k a
  | .ends => s.retire k

/-- How a task moves in the lines of a channel. -/
inductive Movement where
  | stays
  | queues (r : RegistrationId)
  -- frees a tag and gets in the line of its registration
  | dismisses (r : RegistrationId) (tag : ConsumerTag)
  -- takes a delivery tag and gets in line
  | draws (r : RegistrationId)
  | leaves

def move (s : Session) (k : TaskId) : Movement → Session
  | .stays => s
  | .queues r => { s with channel := s.channel.enqueue r k }
  | .dismisses r tag => { s with channel := (s.channel.unregister tag).enqueue r k }
  | .draws r => { s with channel := s.channel.allocate.2.enqueue r k }
  | .leaves => s.leaveLine k

/-- The delivery that a replay makes of a message. -/
def drawn (s : Session) (queue : QueueName) (m : Stored) : Delivery :=
  { envelope := ⟨s.channel.allocate.1, false, "", queue.text⟩, properties := m.properties
    body := m.body }

/-- What becomes of a task with its next step. -/
def fate (s : Session) (k : TaskId) (answer : Except TransportError Unit) : Task → Fate
  | .start (.deliver h d) =>
    match (s.handOver h d).2 with
    | .done result => .returns (.ofResult result)
    | .busy deadline => .becomes (.handling h d deadline)
  | .start (.brokerCancel tag) =>
    match s.channel.registration? tag with
    | some r => .becomes (.dismiss r tag)
    | none => .returns (.flag false)
  | .start (.receive h _) =>
    match s.receiver? h with
    | some _ => .becomes (.taking h)
    | none => .returns (.message none)
  | .start (.cancel h) =>
    match s.receiver? h with
    | some r =>
      match (r.cancel k s.clock answer).2 with
      | none => .becomes (.cancelling h)
      | some (.ok outcome) => .returns (.cancelled outcome)
      | some (.error e) => .returns (.failed e)
    | none => .returns .done
  | .start (.watch h timeout) => .becomes (.watching h (s.clock + timeout))
  | .start (.scan _ _ request) =>
    if request.expected = 0 then .returns (.scanned .exhausted [])
    else
      match answer with
      | .ok () => .becomes (.scanning s.consumers.length (s.clock + request.timeout))
      | .error e => .returns (.failed (.transport e))
  | .start (.sleep d) => .becomes (.sleeping (s.clock + d))
  | .replay _ _ [] .next => .ends
  | .replay queue tag (m :: pending) .next =>
    match s.channel.registration? tag with
    | some r => .becomes (.replay queue tag pending (.queued r (s.drawn queue m)))
    | none => .ends
  | .replay queue tag pending (.queued r d) =>
    match s.channel.handler? r with
    | some h =>
      match (s.handOver h d).2 with
      | .done _ => .becomes (.replay queue tag pending .next)
      | .busy deadline => .becomes (.replay queue tag pending (.handling r d deadline))
    | none => .ends
  | .replay queue tag pending (.handling r _ _) =>
    match s.channel.handler? r with
    | some _ => .becomes (.replay queue tag pending .next)
    | none => .ends
  | .confirm r tag false => .becomes (.confirm r tag true)
  | .confirm _ _ true => .ends
  | .dismiss _ _ => .returns (.flag true)
  | .taking h =>
    match s.receiver? h with
    | some r => (r.take s.clock).2.elim .stays fun m => .returns (.message m)
    | none => .stays
  | .cancelling h =>
    match s.receiver? h with
    | some r => .returns (.cancelled (r.resume k).2)
    | none => .stays
  | .watching h _ =>
    match s.browser? h with
    | some b => .returns (.watched b.outcome)
    | none => .returns (.watched .timedOut)
  | .scanning h _ =>
    match s.browser? h with
    | some b => .returns (.scanned b.outcome b.collected)
    | none => .returns (.scanned .timedOut [])
  | .handling h d _ => .returns (.ofResult (s.endHandling h d).2)
  | .sleeping _ => .returns .done

/-- How a task moves in the lines with its next step. -/
def movement (s : Session) : Task → Movement
  | .start (.brokerCancel tag) =>
    match s.channel.registration? tag with
    | some r => .dismisses r tag
    | none => .stays
  | .replay _ tag (_ :: _) .next =>
    match s.channel.registration? tag with
    | some r => .draws r
    | none => .stays
  | .replay _ _ _ (.queued r d) =>
    match s.channel.handler? r with
    | some h =>
      match (s.handOver h d).2 with
      | .done _ => .leaves
      | .busy _ => .stays
    | none => .stays
  | .replay _ _ _ (.handling r _ _) => if (s.channel.handler? r).isSome then .leaves else .stays
  | .confirm r _ false => .queues r
  | .confirm _ _ true => .leaves
  | .dismiss _ _ => .leaves
  | _ => .stays

/-- Adds the browsing consumer that a scan makes for itself. -/
def enrol (s : Session) : Task → Session
  | .start (.scan _ converter request) =>
    if request.expected = 0 then s
    else (s.addConsumer
      (.browser (.create s.freshTag converter request.expected.toNat request.selector))).2
  | _ => s

/-- The session after a task has done, in this order, all that a step of it does: it sends the
command of the task, changes at most one consumer by it, moves the task in the lines, and lets it
meet its fate. -/
def outline (s : Session) (k : TaskId) (t : Task) : Session :=
  let sent := (s.enrol t).sendIfAny (s.taskCommand? t)
  ((sent.1.alterIfAny (s.taskHappening? k sent.2 t)).move k (s.movement t)).meet k
    (s.fate k sent.2 t)

/-! ### Every step has this outline -/

theorem alter_of_no_receiver {s : Session} {h : HandlerId} {x : Happening}
    (no : s.receiver? h = none) (browsers : ∀ b : Browser, b.react x = b)
    (recorders : ∀ r : Recorder, r.react x = r) : s.alter h x = s := by
  apply alter_eq_self
  intro c there
  cases c with
  | receiver r => rw [receiver?_eq_some.mpr there] at no; cases no
  | browser b => rw [Consumer.react, browsers]
  | recorder r => rw [Consumer.react, recorders]

private theorem begin_deliver (s : Session) (k : TaskId) (h : HandlerId) (d : Delivery) :
    s.begin k (.deliver h d) = s.outline k (.start (.deliver h d)) := by
  have handed := s.handOver_eq h d
  unfold begin outline enrol taskCommand? taskHappening? movement fate
  simp only [move, alterIfAny, ← handed]
  cases eq : s.handOver h d with
  | mk t handling => cases handling <;> rfl

private theorem begin_receive (s : Session) (k : TaskId) (h : HandlerId)
    (timeout : ReceiveTimeout) :
    s.begin k (.receive h timeout) = s.outline k (.start (.receive h timeout)) := by
  unfold begin outline enrol taskCommand? taskHappening? movement fate
  simp only [move, alterIfAny, sendIfAny]
  cases there : s.receiver? h with
  | none => rw [alter_of_no_receiver there (fun _ => rfl) (fun _ => rfl)]; rfl
  | some r => rw [← setReceiver_eq_alter (.receive k timeout) there rfl]; rfl

private theorem begin_cancel (s : Session) (k : TaskId) (h : HandlerId) :
    s.begin k (.cancel h) = s.outline k (.start (.cancel h)) := by
  unfold begin outline enrol taskCommand? taskHappening? movement fate
  simp only [move, alterIfAny]
  cases there : s.receiver? h with
  | none =>
    simp only [Option.bind_none, sendIfAny]
    rw [alter_of_no_receiver there (fun _ => rfl) (fun _ => rfl)]
    rfl
  | some r =>
    have altered := setReceiver_eq_alter (t := (s.sendIfAny r.cancellation?).1)
      (.cancel k s.clock (s.sendIfAny r.cancellation?).2) there (by simp)
    simp only [Option.bind_some, ← altered, Receiver.react, sendIfAny_clock]
    cases r.cancel k s.clock (s.sendIfAny r.cancellation?).2 with
    | mk r' outcome =>
      cases outcome with
      | none => rfl
      | some result => cases result <;> rfl

private theorem begin_scan (s : Session) (k : TaskId) (queue : QueueName) (converter : Converter)
    (request : ScanRequest) :
    s.begin k (.scan queue converter request) =
      s.outline k (.start (.scan queue converter request)) := by
  unfold begin outline enrol taskCommand? taskHappening? movement fate
  simp only [move, alterIfAny]
  by_cases none_wanted : request.expected = 0
  · simp only [none_wanted, if_true, sendIfAny]
    rfl
  · simp only [none_wanted, if_false, sendIfAny]
    -- The deadline is told from the clock after the command, which is the one before it.
    generalize enrolled : (s.addConsumer _).2 = t
    have clock : t.clock = s.clock := by rw [← enrolled]; rfl
    have kept := (t.send_frame (.consume queue s.freshTag s.consumers.length)).2.2
    rw [show (s.addConsumer _).1 = s.consumers.length from rfl]
    cases sent : t.send (.consume queue s.freshTag s.consumers.length) with
    | mk u result =>
      rw [sent] at kept
      cases result with
      | ok _ => simp only [meet, ← clock, ← kept]
      | error e => rfl

private theorem replay_eq (s : Session) (k : TaskId) (queue : QueueName) (tag : ConsumerTag)
    (pending : List Stored) (stage : ReplayStage) :
    s.proceed k (.replay queue tag pending stage) =
      s.outline k (.replay queue tag pending stage) := by
  cases stage with
  | next =>
    cases pending with
    | nil => rfl
    | cons m pending =>
      unfold proceed replayNext outline enrol taskCommand? taskHappening? movement fate
      simp only
      cases s.channel.registration? tag <;> rfl
  | queued r d =>
    unfold proceed replayHandOver outline enrol taskCommand? taskHappening? movement fate
    simp only
    cases s.channel.handler? r with
    | none => rfl
    | some h =>
      have handed := s.handOver_eq h d
      simp only [Option.bind_some, Option.map_some, alterIfAny, ← handed]
      cases eq : s.handOver h d with
      | mk t handling => cases handling <;> rfl
  | handling r d deadline =>
    unfold proceed replayHandled outline enrol taskCommand? taskHappening? movement fate
    simp only
    cases s.channel.handler? r with
    | none => rfl
    | some h =>
      simp only [Option.map_some, alterIfAny, sendIfAny, endHandling_eq]
      rfl

private theorem notify_eq {tell : Consumer → Consumer} {x : Happening}
    (told : ∀ c, tell c = c.react x) (s : Session) (k : TaskId) (r : RegistrationId) :
    s.notify k r tell =
      (s.alterIfAny ((s.channel.handler? r).map fun h => (h, x))).leaveLine k := by
  unfold notify
  cases s.channel.handler? r with
  | none => rfl
  | some h => simp only [Option.map_some, alterIfAny, updateConsumer_eq_alter told]

private theorem taking_eq (s : Session) (k : TaskId) (h : HandlerId) :
    s.proceed k (.taking h) = s.outline k (.taking h) := by
  unfold proceed takeMessage outline enrol taskCommand? taskHappening? movement fate
  simp only [alterIfAny, sendIfAny, move]
  cases there : s.receiver? h with
  | none => rw [alter_of_no_receiver there (fun _ => rfl) (fun _ => rfl)]; rfl
  | some r =>
    simp only [← setReceiver_eq_alter (.take s.clock) there rfl, Receiver.react]
    cases r.take s.clock with
    | mk r' message => cases message <;> rfl

private theorem cancelling_eq (s : Session) (k : TaskId) (h : HandlerId) :
    s.proceed k (.cancelling h) = s.outline k (.cancelling h) := by
  unfold proceed endCancel outline enrol taskCommand? taskHappening? movement fate
  simp only [alterIfAny, sendIfAny, move]
  cases there : s.receiver? h with
  | none => rw [alter_of_no_receiver there (fun _ => rfl) (fun _ => rfl)]; rfl
  | some r =>
    simp only [← setReceiver_eq_alter (.resume k) there rfl, Receiver.react]
    rfl

private theorem scanning_eq (s : Session) (k : TaskId) (h : HandlerId) (deadline : Nat) :
    s.proceed k (.scanning h deadline) = s.outline k (.scanning h deadline) := by
  unfold proceed endScan outline enrol taskCommand? taskHappening? movement fate
  simp only [alterIfAny, move]
  cases there : s.browser? h with
  | none =>
    simp only [Option.bind_none, sendIfAny]
    rw [alter_eq_self]
    · rfl
    · intro c at_h
      cases c with
      | browser b => rw [browser?_eq_some.mpr at_h] at there; cases there
      | _ => rfl
  | some b =>
    have known : h < s.consumers.length :=
      (List.getElem?_eq_some_iff.mp (browser?_eq_some.mp there)).1
    -- Only a scan that has run out of time has to ask for the end of its consumer.
    by_cases late : b.outcome = .timedOut
    · have altered := setBrowser_eq_alter (t := (s.sendIfAny b.cancellation?).1)
        (.endScan (s.sendIfAny b.cancellation?).2) there (by simp)
      have kept : (b.cancel (s.sendIfAny b.cancellation?).2).1.collected = b.collected := by
        unfold Browser.cancel
        split
        · rfl
        · split <;> rfl
      simp only [Option.bind_some, late, if_true, ← altered, cancelBrowser, there]
      rw [browser?_setBrowser (by simpa using known)]
      simp only [Browser.react, late, if_true, Browser.takeMessages, kept, setBrowser_setBrowser,
        meet]
    · have altered := setBrowser_eq_alter (.endScan (.ok ())) there rfl
      simp only [Option.bind_some, late, if_false, sendIfAny, ← altered, there, Browser.react,
        Browser.takeMessages, meet]

/-- Everything that a step of a task does. -/
theorem proceed_eq (s : Session) (k : TaskId) (t : Task) : s.proceed k t = s.outline k t := by
  cases t with
  | start call =>
    cases call with
    | deliver h d => exact s.begin_deliver k h d
    | brokerCancel tag =>
      unfold proceed begin outline enrol taskCommand? taskHappening? movement fate
      simp only
      cases s.channel.registration? tag <;> rfl
    | receive h timeout => exact s.begin_receive k h timeout
    | cancel h => exact s.begin_cancel k h
    | watch h timeout => rfl
    | scan queue converter request => exact s.begin_scan k queue converter request
    | sleep d => rfl
  | replay queue tag pending stage => exact s.replay_eq k queue tag pending stage
  | confirm r tag queued =>
    cases queued with
    | false => rfl
    | true => simp only [proceed, notify_eq (Consumer.cancelOk_eq_react tag s.clock)]; rfl
  | dismiss r tag =>
    simp only [proceed, notify_eq (Consumer.cancelledByBroker_eq_react tag s.clock)]
    rfl
  | taking h => exact s.taking_eq k h
  | cancelling h => exact s.cancelling_eq k h
  | watching h deadline =>
    unfold proceed endWatch outline enrol taskCommand? taskHappening? movement fate
    simp only
    cases s.browser? h <;> rfl
  | scanning h deadline => exact s.scanning_eq k h deadline
  | handling h d deadline =>
    have done := s.endHandling_eq h d
    unfold proceed outline enrol taskCommand? taskHappening? movement fate
    simp only [alterIfAny, sendIfAny, ← done]
    rfl
  | sleeping deadline => rfl

end Intake.Session
