import Intake.Proofs.Session.Observations
import Mathlib.Tactic.Tauto

/-!
# Confirmations of cancels

A receiving consumer ends when it is told so, when one of its commands fails, and when a call to
cancel runs out of time. A call to cancel takes any of these for the confirmation. The main statement
is `confirmed_iff`: it says when a call reports a confirmation, and with that when such a report is
true.
-/
namespace Intake

namespace Receiver

/-! ### Why a consumer ends -/

/-- The tag by which the consumer is told that it was cancelled. -/
def told (_ : Receiver) : Happening → List ConsumerTag
  | .cancelOk tag _ => [tag]
  | .cancelledByBroker tag _ => [tag]
  | _ => []

/-- The failure of the command that the consumer sends. -/
def failed (r : Receiver) : Happening → List TransportError
  | .delivery d _ (.error error) => if (r.settlement? d).isSome then [error] else []
  | .cancel _ _ (.error error) => if r.cancellation?.isSome then [error] else []
  | _ => []

/-- What a call to cancel reports. -/
def reported (r : Receiver) : Happening → List CancelOutcome
  | .cancel call now answer =>
    match (r.cancel call now answer).2 with
    | some (.ok outcome) => [outcome]
    | _ => []
  | .resume call => [(r.resume call).2]
  | _ => []

/-- Whether a call to cancel looks for the end of the consumer: the first call does once its command
is taken, and every call does that has waited. -/
def looks (r : Receiver) : Happening → Prop
  | .cancel _ _ answer => r.cancelIssued = false ∧ answer = .ok ()
  | .resume _ => True
  | _ => False

theorem keep_state (r : Receiver) (d : Delivery) : (r.keep d).state = r.state := by
  unfold keep
  simp only
  split <;> rfl

theorem deliver_ok_state (r : Receiver) (d : Delivery) (u : Unit) :
    (r.deliver d (.ok u)).1.state = r.state := by
  rw [← r.keep_state d]
  unfold deliver
  split <;> rfl

theorem deliver_state (r : Receiver) (d : Delivery) (now : Nat)
    (answer : Except TransportError Unit) :
    (r.deliver d answer).1.state = .cancelled ↔
      r.state = .cancelled ∨ r.failed (.delivery d now answer) ≠ [] := by
  cases answer with
  | ok u => simp [deliver_ok_state, failed]
  | error error =>
    -- An error counts only if there was a command to fail: what does not convert is settled by none.
    unfold deliver failed settlement?
    cases decided : r.verdict d <;> simp [decided, keep_state, afterCommand, markCancelled]

theorem awaitEnd_state (r : Receiver) (call : TaskId) (now : Nat) :
    (r.awaitEnd call now).1.state = .cancelled ↔
      r.state = .cancelled ∨ (r.awaitEnd call now).2 = some (.ok .timedOut) := by
  unfold awaitEnd
  by_cases ended : r.state = .cancelled
  · rw [if_pos (isCancelled_iff.mpr ended)]
    simp [ended]
  · rw [if_neg fun c => ended (isCancelled_iff.mp c)]
    split
    · simp [markCancelled]
    · simp [ended]

theorem cancel_state (r : Receiver) (call : TaskId) (now : Nat)
    (answer : Except TransportError Unit) :
    (r.cancel call now answer).1.state = .cancelled ↔
      r.state = .cancelled ∨ r.failed (.cancel call now answer) ≠ [] ∨
        .timedOut ∈ r.reported (.cancel call now answer) := by
  have timedOut_iff (result : Option (Except ConsumerError CancelOutcome)) :
      (.timedOut ∈ match result with
        | some (.ok outcome) => [outcome]
        | _ => []) ↔ result = some (.ok .timedOut) := by
    rcases result with _ | _ | outcome
    · simp
    · simp
    · cases outcome <;> simp
  rw [reported, timedOut_iff]
  unfold cancel failed cancellation?
  cases issued : r.cancelIssued with
  | true =>
    rw [if_pos rfl]
    by_cases ended : r.state = .cancelled
    · rw [if_pos (isCancelled_iff.mpr ended)]
      simp [ended]
    · rw [if_neg fun c => ended (isCancelled_iff.mp c), awaitEnd_state]
      cases answer <;> simp
  | false =>
    cases answer with
    | error error => simp [markCancelled]
    | ok u => simp [awaitEnd_state, requestCancel_eq_cancelled]

/-- A consumer has ended after something has happened to it if it had ended before, or if it was told
so, a command of it failed, or a call to cancel ran out of time. -/
theorem react_state (r : Receiver) (x : Happening) :
    (r.react x).state = .cancelled ↔
      r.state = .cancelled ∨ r.told x ≠ [] ∨ r.failed x ≠ [] ∨ .timedOut ∈ r.reported x := by
  cases x with
  | delivery d now answer =>
    rw [react, deliver_state r d now answer]
    simp [told, reported]
  | cancelOk tag now => simp [react, markCancelled, told]
  | cancelledByBroker tag now => simp [react, markCancelled, told]
  | take now =>
    have unchanged : (r.take now).1.state = r.state := by
      unfold take
      split
      · rfl
      · split
        · rfl
        · split <;> rfl
    simp [react, unchanged, told, failed, reported]
  | cancel call now answer =>
    rw [react, cancel_state]
    simp [told]
  | resume call =>
    simp only [react, resume, told, failed, reported]
    by_cases ended : r.state = .cancelled
    · rw [if_pos (isCancelled_iff.mpr ended)]
      simp [ended]
    · rw [if_neg fun c => ended (isCancelled_iff.mp c)]
      simp [markCancelled]
  | _ => simp [react, receive, drop, told, failed, reported]

theorem live_state (r : Receiver) (life : List Happening) :
    (r.live life).state = .cancelled ↔
      r.state = .cancelled ∨ history told r life ≠ [] ∨ history failed r life ≠ [] ∨
        .timedOut ∈ history reported r life := by
  induction life generalizing r with
  | nil => simp [history]
  | cons x life ih =>
    rw [live_cons, ih, react_state]
    simp only [history, ne_eq, List.append_eq_nil_iff, List.mem_append]
    tauto

/-- A call to cancel reports a confirmation if it looks for the end of the consumer and finds it. -/
theorem confirmed_mem_reported (r : Receiver) (x : Happening) :
    .confirmed ∈ r.reported x ↔ r.looks x ∧ r.state = .cancelled := by
  cases x with
  | cancel call now answer =>
    unfold reported looks cancel
    by_cases ended : r.state = .cancelled
    · cases issued : r.cancelIssued with
      | true => simp [isCancelled_iff, ended]
      | false =>
        cases answer with
        | error error => simp
        | ok u => simp [awaitEnd, isCancelled_iff, requestCancel_eq_cancelled, ended]
    · cases issued : r.cancelIssued with
      | true =>
        by_cases hurried : r.config.cancelTimeout = 0 <;>
          simp [awaitEnd, isCancelled_iff, ended, hurried]
      | false =>
        cases answer with
        | error error => simp
        | ok u =>
          by_cases hurried : r.config.cancelTimeout = 0 <;>
            simp [awaitEnd, isCancelled_iff, requestCancel_eq_cancelled, ended, hurried]
  | resume call =>
    by_cases ended : r.state = .cancelled <;> simp [reported, looks, resume, isCancelled_iff, ended]
  | _ => simp [reported, looks]

end Receiver

namespace Session

/-! ### Runs -/

/-- The tag by which a receiving consumer is told at an event that it was cancelled. -/
def told (h : HandlerId) (s : Session) (e : Event) : List ConsumerTag :=
  if (s.receiver? h).isSome then
    match s.happening h e with
    | .cancelOk tag _ => [tag]
    | .cancelledByBroker tag _ => [tag]
    | _ => []
  else []

/-- The failure of a command that a receiving consumer sends at an event. -/
def failed (h : HandlerId) (s : Session) (e : Event) : List TransportError :=
  if (s.receiver? h).isSome ∧ (attempted h s e).isSome then
    match s.answer e with
    | .ok () => []
    | .error error => [error]
  else []

/-- The consumer that a call to cancel is about. -/
def cancels? : Task → Option HandlerId
  | .start (.cancel h) => some h
  | .cancelling h => some h
  | _ => none

/-- What a call to cancel a consumer reports at an event. -/
def reported (h : HandlerId) (s : Session) (e : Event) : List CancelOutcome :=
  if (s.acting? e).bind (fun a => cancels? a.2) = some h then
    (s.returned e).filterMap fun f => match f.answer with
      | .cancelled outcome => some outcome
      | _ => none
  else []

/-- Whether a call to cancel looks for the end of a consumer: one that has waited takes a step, or
the first one begins and its command is taken. -/
def looks (h : HandlerId) (s : Session) (e : Event) : Prop :=
  (∃ k, s.acting? e = some (k, .cancelling h)) ∨
    (∃ k, s.acting? e = some (k, .start (.cancel h))) ∧
      (s.receiver? h).any (!·.cancelIssued) ∧ s.answer e = .ok ()

theorem agrees_told (h : HandlerId) : Agrees h (told h) Receiver.told := by
  intro s e
  unfold told
  cases s.receiver? h with
  | none => rfl
  | some r => rfl

theorem answer_of_no_command {s : Session} {e : Event} (idle : s.command? e = none) :
    s.answer e = .ok () := by
  rw [answer, idle]
  rfl

theorem agrees_failed (h : HandlerId) : Agrees h (failed h) Receiver.failed := by
  intro s e
  unfold failed
  cases there : s.receiver? h with
  | none => rfl
  | some r =>
    cases sends : attempted h s e with
    | none =>
      -- An error of the channel needs a command, and the consumer would have sent it.
      have fine : s.happening h e ≠ .nothing → s.answer e = .ok () := by
        intro concerned
        apply answer_of_no_command
        cases idle : s.command? e with
        | none => rfl
        | some c =>
          rw [attempted_eq_some.mpr ⟨concerned, idle⟩] at sends
          cases sends
      simp only [Option.isSome_none, Bool.false_eq_true, and_false, if_false]
      unfold Receiver.failed
      split
      · next occurs =>
        have answered := (happening_eq_delivery.mp occurs).2.2
        rw [fine (by rw [occurs]; exact nofun)] at answered
        cases answered
      · next occurs =>
        have answered := (happening_eq_cancel.mp occurs).2.2
        rw [fine (by rw [occurs]; exact nofun)] at answered
        cases answered
      · rfl
    | some c =>
      simp only [Option.isSome_some, and_self, if_true]
      rcases attempted_cases there sends with ⟨d, handed, settles⟩ | ⟨k, occurs, cancels⟩
      · rw [happening_eq_delivery.mpr ⟨handed, rfl, rfl⟩]
        cases s.answer e with
        | ok u => rfl
        | error error => simp [Receiver.failed, settles]
      · rw [occurs]
        cases s.answer e with
        | ok u => rfl
        | error error => simp [Receiver.failed, cancels]

theorem cancels?_eq_some {t : Task} {h : HandlerId} :
    cancels? t = some h ↔ t = .start (.cancel h) ∨ t = .cancelling h := by
  unfold cancels?
  split <;> simp_all

theorem agrees_reported (h : HandlerId) : Agrees h (reported h) Receiver.reported := by
  intro s e
  unfold reported
  by_cases own : (s.acting? e).bind (fun a => cancels? a.2) = some h
  · rw [if_pos own, returned_eq]
    obtain ⟨⟨k, t⟩, acts, cancels⟩ := Option.bind_eq_some_iff.mp own
    rw [acts]
    rcases cancels?_eq_some.mp cancels with rfl | rfl
    · simp only [fate]
      cases s.receiver? h with
      | none => rfl
      | some r =>
        simp only [happening_eq_cancel.mpr ⟨acts, rfl, rfl⟩, Receiver.reported]
        rcases (r.cancel k s.clock (s.answer e)).2 with _ | _ | outcome <;> rfl
    · simp only [fate]
      cases s.receiver? h with
      | none => rfl
      | some r =>
        simp only [happening_eq_resume.mpr acts, Receiver.reported]
        rfl
  · rw [if_neg own]
    cases s.receiver? h with
    | none => rfl
    | some r =>
      simp only [Receiver.reported]
      split
      · next occurs =>
        have acts := (happening_eq_cancel.mp occurs).1
        rw [acts] at own
        exact absurd rfl own
      · next occurs =>
        have acts := happening_eq_resume.mp occurs
        rw [acts] at own
        exact absurd rfl own
      · rfl

theorem looks_iff {s : Session} {h : HandlerId} {e : Event} {r : Receiver}
    (there : s.receiver? h = some r) : looks h s e ↔ r.looks (s.happening h e) := by
  unfold looks Receiver.looks
  rw [there]
  constructor
  · rintro (⟨k, acts⟩ | ⟨⟨k, acts⟩, first, taken⟩)
    · rw [happening_eq_resume.mpr acts]
      trivial
    · rw [happening_eq_cancel.mpr ⟨acts, rfl, rfl⟩]
      simpa using And.intro first taken
  · intro looks
    split at looks
    · next k now answer occurs =>
      obtain ⟨acts, -, rfl⟩ := happening_eq_cancel.mp occurs
      refine .inr ⟨⟨k, acts⟩, ?_, looks.2⟩
      simpa using looks.1
    · next k occurs => exact .inl ⟨k, happening_eq_resume.mp occurs⟩
    · exact looks.elim

/-- **Confirmations**: wherever a run gets, a call to cancel reports a confirmation exactly if it
looks for the end of the consumer after the consumer was told of it, after a command of the consumer
failed, or after a call to cancel ran out of time. Hence the report is true, in that the consumer
was told, unless only one of the other two has happened. -/
theorem confirmed_iff (confirms : Bool) (es : List Event) (h : HandlerId) (e : Event) {r : Receiver}
    (there : ((initial confirms).run es).receiver? h = some r) :
    (.confirmed ∈ reported h ((initial confirms).run es) e ↔
      looks h ((initial confirms).run es) e ∧
        (trace (told h) (initial confirms) es ≠ [] ∨ trace (failed h) (initial confirms) es ≠ [] ∨
          .timedOut ∈ trace (reported h) (initial confirms) es)) ∧
    ((.confirmed ∈ reported h ((initial confirms).run es) e →
        trace (told h) (initial confirms) es ≠ []) ↔
      (looks h ((initial confirms).run es) e →
        trace (failed h) (initial confirms) es ≠ [] ∨
          .timedOut ∈ trace (reported h) (initial confirms) es →
        trace (told h) (initial confirms) es ≠ [])) := by
  have reports : .confirmed ∈ reported h ((initial confirms).run es) e ↔
      looks h ((initial confirms).run es) e ∧
        (trace (told h) (initial confirms) es ≠ [] ∨ trace (failed h) (initial confirms) es ≠ [] ∨
          .timedOut ∈ trace (reported h) (initial confirms) es) := by
    rw [agrees_reported h ((initial confirms).run es) e, looks_iff there, there,
      Receiver.confirmed_mem_reported]
    -- A new consumer is active, so it can only have ended for one of the reasons of `live_state`.
    obtain ⟨r₀, new, rfl, seen⟩ := life_of_receiver es (initial_receiver? confirms h) there
    have active : r₀.state ≠ .cancelled := by
      rw [new.eq.2.2.1]
      exact nofun
    rw [r₀.live_state, seen _ _ _ (agrees_told h), seen _ _ _ (agrees_failed h),
      seen _ _ _ (agrees_reported h)]
    simp only [active, false_or]
  refine ⟨reports, ?_⟩
  rw [reports]
  tauto

/-- A call to cancel waits for a confirmation when the acknowledgement of a delivery fails. -/
def failureWhileCancelling : List Event :=
  [.addReceiver ⟨"orders"⟩ ⟨"clerk"⟩ (standardConverter 100) none {},
    .call (.cancel 0), .step 0, .fault .ack .channelClosed, .call (.deliver 0 (.bare ⟨1⟩)), .step 1]

theorem confirmed_iff_failureWhileCancelling :
    ∃ r, ((initial false).run failureWhileCancelling).receiver? 0 = some r ∧
      (.confirmed ∈ reported 0 ((initial false).run failureWhileCancelling) (.step 0) ↔
        looks 0 ((initial false).run failureWhileCancelling) (.step 0) ∧
          (trace (told 0) (initial false) failureWhileCancelling ≠ [] ∨
            trace (failed 0) (initial false) failureWhileCancelling ≠ [] ∨
              .timedOut ∈ trace (reported 0) (initial false) failureWhileCancelling)) :=
  ⟨_, rfl, (confirmed_iff false failureWhileCancelling 0 (.step 0) rfl).1⟩

/-- Nobody has told the consumer anything, and still the call reports a confirmation. -/
theorem confirmed_untold :
    reported 0 ((initial false).run failureWhileCancelling) (.step 0) = [.confirmed] ∧
      trace (told 0) (initial false) failureWhileCancelling = [] := ⟨rfl, rfl⟩

end Session
end Intake
