import Intake.Proofs.Consumer.Ending
import Intake.Proofs.Session.Masks

/-!
# Deliveries that do not convert

A delivery that comes to a consumer in time but does not convert leaves no trace. `runWithout` is a
run from which all such deliveries of one consumer are left out, each at the moment at which it would
be handed over; `unconvertible_invisible` compares it with the run itself. Behind a mask that hides
the counts of deliveries and of failed conversions the two are the same at every point.
-/
namespace Intake

namespace Receiver

/-- Why no message can be made of a delivery that comes before the end of the consumer. -/
def failure? (r : Receiver) (d : Delivery) : Option ConversionError :=
  if r.state = .cancelled then none
  else
    match r.converter d with
    | .error e => some e
    | .ok _ => none

theorem verdict_of_failure {r : Receiver} {d : Delivery} {error : ConversionError}
    (fails : r.failure? d = some error) : r.verdict d = .unconvertible error := by
  unfold failure? at fails
  split at fails
  · cases fails
  · next going =>
    have active : r.state.isCancelled = false :=
      Bool.eq_false_iff.mpr fun ended => going (isCancelled_iff.mp ended)
    unfold verdict
    rw [active]
    cases converted : r.converter d with
    | error e =>
      rw [converted] at fails
      cases fails
      rfl
    | ok m =>
      rw [converted] at fails
      cases fails

/-- A delivery that does not convert is not settled, and all that it changes are two counters. -/
theorem deliver_of_failure {r : Receiver} {d : Delivery} {error : ConversionError}
    (fails : r.failure? d = some error) (answer : Except TransportError Unit) :
    (r.deliver d answer).1.masked true = r.masked true ∧
      (r.deliver d answer).2 = .error (.conversion error) ∧ r.settlement? d = none := by
  have verdict := verdict_of_failure fails
  unfold deliver keep settlement?
  rw [verdict]
  exact ⟨rfl, rfl, rfl⟩

end Receiver

namespace Browser

/-- Why no message can be made of a delivery that comes while messages are still wanted. -/
def failure? (b : Browser) (d : Delivery) : Option ConversionError :=
  if b.state = .cancelled ∨ b.remaining = 0 then none
  else
    match b.converter d with
    | .error e => some e
    | .ok _ => none

theorem verdict_of_failure {b : Browser} {d : Delivery} {error : ConversionError}
    (fails : b.failure? d = some error) : b.verdict d = .unconvertible error := by
  unfold failure? at fails
  split at fails
  · cases fails
  · next wanting =>
    obtain ⟨going, wanted⟩ := not_or.mp wanting
    have active : b.state.isCancelled = false :=
      Bool.eq_false_iff.mpr fun ended => going (Receiver.isCancelled_iff.mp ended)
    unfold verdict
    rw [active, if_neg Bool.false_ne_true, if_neg wanted]
    cases converted : b.converter d with
    | error e =>
      rw [converted] at fails
      cases fails
      rfl
    | ok m =>
      rw [converted] at fails
      cases fails

/-- A delivery that does not convert does not count among those wanted, and all that it changes are
two counters. -/
theorem deliver_of_failure {b : Browser} {d : Delivery} {error : ConversionError}
    (fails : b.failure? d = some error) (answer : Except TransportError Unit) :
    (b.deliver d answer).1.masked true = b.masked true ∧
      (b.deliver d answer).2 = .error (.conversion error) ∧ b.command? d = none := by
  have verdict := verdict_of_failure fails
  unfold deliver keep command? completes
  rw [verdict]
  exact ⟨rfl, rfl, rfl⟩

end Browser

def Consumer.failure? : Consumer → Delivery → Option ConversionError
  | .receiver r, d => r.failure? d
  | .browser b, d => b.failure? d
  | .recorder _, _ => none

namespace Consumer

theorem failure?_masked (hidden : Bool) (c : Consumer) (d : Delivery) :
    (c.masked hidden).failure? d = c.failure? d := by
  cases c <;> rfl

theorem state?_masked (hidden : Bool) (c : Consumer) : (c.masked hidden).state? = c.state? := by
  cases c <;> rfl

theorem react_of_failure {c : Consumer} {d : Delivery} {error : ConversionError}
    (fails : c.failure? d = some error) (now : Nat) (answer : Except TransportError Unit) :
    (c.react (.delivery d now answer)).masked true = c.masked true := by
  cases c with
  | receiver r => exact congrArg receiver (Receiver.deliver_of_failure fails answer).1
  | browser b => exact congrArg browser (Browser.deliver_of_failure fails answer).1
  | recorder r => cases fails

end Consumer

namespace Session

/-! ### One delivery -/

/-- Why no message can be made of the delivery that a consumer is handed at an event, while it still
takes deliveries. -/
def failure? (h : HandlerId) (s : Session) (e : Event) : Option ConversionError :=
  (s.handed? e).bind fun p => if p.1 = h then s.consumers[h]?.bind (·.failure? p.2) else none

theorem failure?_eq_some {h : HandlerId} {s : Session} {e : Event} {error : ConversionError} :
    failure? h s e = some error ↔ ∃ k t d c, s.acting? e = some (k, t) ∧
      s.taskHands? t = some (h, d) ∧ s.consumers[h]? = some c ∧ c.failure? d = some error := by
  unfold failure? handed?
  constructor
  · intro fails
    obtain ⟨⟨h', d⟩, hands, fails⟩ := Option.bind_eq_some_iff.mp fails
    obtain ⟨⟨k, t⟩, acts, hands⟩ := Option.bind_eq_some_iff.mp hands
    split at fails
    · next own =>
      cases own
      obtain ⟨c, there, fails⟩ := Option.bind_eq_some_iff.mp fails
      exact ⟨k, t, d, c, acts, hands, there, fails⟩
    · cases fails
  · rintro ⟨k, t, d, c, acts, hands, there, fails⟩
    simp [acts, hands, there, fails]

theorem handlerCommand?_of_failure {h : HandlerId} {s : Session} {d : Delivery} {c : Consumer}
    {error : ConversionError} (there : s.consumers[h]? = some c) (fails : c.failure? d = some error) :
    s.handlerCommand? h d = none := by
  unfold handlerCommand?
  rw [there]
  cases c with
  | receiver r => exact (Receiver.deliver_of_failure fails (.ok ())).2.2
  | browser b => exact (Browser.deliver_of_failure fails (.ok ())).2.2
  | recorder r => rfl

/-- The handler answers with the failure, and behind the mask nothing happens. -/
theorem handOver_of_failure {h : HandlerId} {s : Session} {d : Delivery} {c : Consumer}
    {error : ConversionError} (there : s.consumers[h]? = some c) (fails : c.failure? d = some error) :
    (s.handOver h d).1.masked h = s.masked h ∧
      (s.handOver h d).2 = .done (.error (.conversion error)) := by
  constructor
  · rw [handOver_eq, handlerCommand?_of_failure there fails]
    refine masked_eq h rfl rfl rfl rfl rfl fun i => ?_
    rw [alter_consumers, concerning]
    split
    · next own =>
      cases own
      have hidden : decide (h = h) = true := decide_eq_true rfl
      rw [sendIfAny_consumers, there, hidden]
      exact congrArg some (c.react_of_failure fails s.clock (.ok ()))
    · simp
  · unfold handOver
    rw [there]
    cases c with
    | receiver r => exact congrArg Handling.done (Receiver.deliver_of_failure fails _).2.1
    | browser b => exact congrArg Handling.done (Browser.deliver_of_failure fails _).2.1
    | recorder r => cases fails

/-- The session when a task does not hand over the delivery that it is about to: a call is not made,
and a replay goes on to its next message. -/
def passOver (s : Session) (k : TaskId) : Task → Session
  | .replay queue tag pending (.queued _ _) =>
    (s.leaveLine k).setTask k (.replay queue tag pending .next)
  | _ => s.retire k

theorem outline_of_failure {h : HandlerId} {s : Session} {k : TaskId} {t : Task} {d : Delivery}
    {c : Consumer} {error : ConversionError} (hands : s.taskHands? t = some (h, d))
    (there : s.consumers[h]? = some c) (fails : c.failure? d = some error) :
    (s.outline k t).masked h = (s.passOver k t).masked h := by
  obtain ⟨same, answers⟩ := handOver_of_failure there fails
  rw [← proceed_eq]
  cases handed : s.handOver h d with
  | mk s' handling =>
  rw [handed] at same answers
  cases answers
  unfold taskHands? at hands
  split at hands
  · cases hands
    simp only [proceed, begin, handed]
    exact masked_congr h (fun s => s.finish k _) (meet_masked h k (.returns _)) same
  · next r d' =>
    obtain ⟨h', handles, own⟩ := Option.map_eq_some_iff.mp hands
    cases own
    simp only [proceed, replayHandOver, handles, handed]
    refine masked_congr h (fun s => s.setTask k _) (meet_masked h k (.becomes _)) ?_
    exact masked_congr h (fun s => s.leaveLine k) (move_masked h k .leaves) same
  · cases hands

theorem apply_of_failure {h : HandlerId} {s : Session} {e : Event} {k : TaskId} {t : Task}
    {error : ConversionError} (acts : s.acting? e = some (k, t))
    (fails : failure? h s e = some error) : (s.apply e).masked h = (s.passOver k t).masked h := by
  obtain ⟨k', t', d, c, acts', hands, there, fault⟩ := failure?_eq_some.mp fails
  cases acts.symm.trans acts'
  obtain ⟨rfl, -⟩ := acting?_eq_some.mp acts
  rw [apply_step, acts]
  exact outline_of_failure hands there fault

/-! ### All deliveries of a run -/

/-- An event, where a delivery that the consumer would be handed by it and that does not convert is
left out. -/
def applyWithout (h : HandlerId) (s : Session) (e : Event) : Session :=
  match s.acting? e, failure? h s e with
  | some (k, t), some _ => s.passOver k t
  | _, _ => s.apply e

/-- A run without the deliveries to a consumer that come in time and do not convert. -/
def runWithout (h : HandlerId) (s : Session) (es : List Event) : Session :=
  es.foldl (applyWithout h) s

theorem applyWithout_masked (h : HandlerId) (s : Session) (e : Event) :
    (s.applyWithout h e).masked h = (s.apply e).masked h := by
  unfold applyWithout
  split
  · next k t error acts fails => exact (apply_of_failure acts fails).symm
  · rfl

/-- Sessions that are the same behind the mask stay so when one leaves the deliveries out. -/
theorem runWithout_masked (h : HandlerId) {s s' : Session} (same : s.masked h = s'.masked h)
    (es : List Event) : (s.runWithout h es).masked h = (s'.run es).masked h := by
  induction es generalizing s s' with
  | nil => exact same
  | cons e es ih =>
    apply ih
    rw [applyWithout_masked]
    exact masked_congr h (fun s => s.apply e) (fun s => s.apply_masked h e) same

theorem failure?_masked (h : HandlerId) (s : Session) (e : Event) :
    failure? h (s.masked h) e = failure? h s e := by
  have hands : (s.masked h).handed? e = s.handed? e := by
    unfold handed?
    rw [acting?_masked]
    rfl
  unfold failure?
  rw [hands, getElem?_masked]
  cases s.consumers[h]? with
  | none => rfl
  | some c => simp only [Option.map_some, Option.bind_some, Consumer.failure?_masked]

/-- A delivery that a consumer is handed at an event does not convert: the call that hands it over
fails with that, no command is sent, and the consumer stays where it is in its life. -/
structure Refuses (h : HandlerId) (s : Session) (e : Event) (error : ConversionError) : Prop where
  answers : ∃ k t d, s.acting? e = some (k, t) ∧ s.taskHands? t = some (h, d) ∧
    (s.handOver h d).2 = .done (.error (.conversion error)) ∧
    s.returned e = if isCall t then [⟨k, .failed (.conversion error), s.clock⟩] else []
  silent : s.command? e = none
  unrecorded : s.recorded e = []
  stays : (s.apply e).state? h = s.state? h

theorem state?_masked (h : HandlerId) (s : Session) (i : HandlerId) :
    (s.masked h).state? i = s.state? i := by
  unfold state?
  rw [getElem?_masked]
  cases s.consumers[i]? with
  | none => rfl
  | some c => exact c.state?_masked (i = h)

theorem passOver_state? (s : Session) (k : TaskId) (t : Task) (i : HandlerId) :
    (s.passOver k t).state? i = s.state? i := by
  unfold passOver
  split <;> rfl

theorem refuses_of_failure {h : HandlerId} {s : Session} {e : Event} {error : ConversionError}
    (fails : failure? h s e = some error) : Refuses h s e error := by
  obtain ⟨k, t, d, c, acts, hands, there, fault⟩ := failure?_eq_some.mp fails
  have answers := (handOver_of_failure there fault).2
  have silent : s.command? e = none := by
    rw [command?_of_handed (Option.bind_eq_some_iff.mpr ⟨(k, t), acts, hands⟩)]
    exact handlerCommand?_of_failure there fault
  constructor
  · refine ⟨k, t, d, acts, hands, answers, ?_⟩
    rw [returned_of_acting acts]
    unfold taskHands? at hands
    split at hands
    · cases hands
      simp only [fate, answers]
      rfl
    · next r d' =>
      obtain ⟨h', handles, own⟩ := Option.map_eq_some_iff.mp hands
      cases own
      simp only [fate, handles, answers]
      rfl
    · cases hands
  · exact silent
  · rw [recorded_eq, answer, silent]
    rfl
  · rw [← state?_masked h, apply_of_failure acts fails, state?_masked, passOver_state?]

/-- **Deliveries that do not convert are invisible**: take any run, and the run without the deliveries
to a consumer that come in time and do not convert. Wherever the two get, the sessions are the same
but for two counters of the consumer. An event that hands over no such delivery sends, records and
returns the same in both; one that does only makes its call fail. -/
theorem unconvertible_invisible (h : HandlerId) (s : Session) (es : List Event) (e : Event) :
    (s.runWithout h es).masked h = (s.run es).masked h ∧
      failure? h (s.runWithout h es) e = failure? h (s.run es) e ∧
      match failure? h (s.run es) e with
      | none =>
        (s.runWithout h es).command? e = (s.run es).command? e ∧
          (s.runWithout h es).answer e = (s.run es).answer e ∧
          (s.runWithout h es).recorded e = (s.run es).recorded e ∧
          (s.runWithout h es).returned e = (s.run es).returned e
      | some error => Refuses h (s.run es) e error := by
  have same := runWithout_masked h (s := s) rfl es
  refine ⟨same, ?_, ?_⟩
  · rw [← failure?_masked, same, failure?_masked]
  · split
    · rw [← command?_masked h, ← answer_masked h, ← recorded_masked h, ← returned_masked h, same]
      exact ⟨command?_masked h _ e, answer_masked h _ e, recorded_masked h _ e, returned_masked h _ e⟩
    · next error fails => exact refuses_of_failure fails

/-- A delivery that converts and then one that is too large, to a consumer that takes empty bodies
only. -/
def oneTooLarge : List Event :=
  [.addReceiver ⟨"orders"⟩ ⟨"clerk"⟩ (standardConverter 0) none {},
    .call (.deliver 0 (.bare ⟨1⟩)), .step 0,
    .call (.deliver 0 { Delivery.bare ⟨2⟩ with body := ⟨#[0]⟩ })]

theorem unconvertible_invisible_oneTooLarge :
    ((initial true).runWithout 0 (oneTooLarge ++ [.step 1])).masked 0 =
        ((initial true).run (oneTooLarge ++ [.step 1])).masked 0 ∧
      Refuses 0 ((initial true).run oneTooLarge) (.step 1) (.tooLarge 1 0) := by
  have fails : failure? 0 ((initial true).run oneTooLarge) (.step 1) = some (.tooLarge 1 0) := rfl
  obtain ⟨-, -, at_once⟩ := unconvertible_invisible 0 (initial true) oneTooLarge (.step 1)
  obtain ⟨same, -⟩ := unconvertible_invisible 0 (initial true) (oneTooLarge ++ [.step 1]) (.step 1)
  rw [fails] at at_once
  exact ⟨same, at_once⟩

end Session
end Intake
