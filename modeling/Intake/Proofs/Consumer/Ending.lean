import Intake.Proofs.Browser.Completion
import Intake.Proofs.Receiver.Confirmation
import Intake.Proofs.Receiver.Settlement

/-!
# The end of a consumer

A consumer goes through its life in one direction. Once it has ended, a receiving consumer only
gives away what is in its buffer and rejects what still comes, and a browsing consumer only gives
away what it has collected. The main statement is `ended_for_good`.
-/
namespace Intake

/-! ### Moves of a consumer -/

namespace ConsumerState

/-- How a consumer moves through its life: it is asked to stop once at most, and it ends once. -/
inductive Moves : ConsumerState → ConsumerState → Prop where
  | stays (s) : Moves s s
  | asked : Moves .active .cancelRequested
  | ended_at_once : Moves .active .cancelled
  | ended_as_asked : Moves .cancelRequested .cancelled

theorem Moves.trans {s t u : ConsumerState} (first : s.Moves t) (second : t.Moves u) :
    s.Moves u := by
  cases first with
  | stays => exact second
  | asked =>
    cases second with
    | stays => exact .asked
    | ended_as_asked => exact .ended_at_once
  | ended_at_once =>
    cases second
    exact .ended_at_once
  | ended_as_asked =>
    cases second
    exact .ended_as_asked

theorem moves_cancelled (s : ConsumerState) : s.Moves .cancelled := by
  cases s with
  | active => exact .ended_at_once
  | cancelRequested => exact .ended_as_asked
  | cancelled => exact .stays _

theorem moves_requestCancel (s : ConsumerState) : s.Moves s.requestCancel := by
  cases s with
  | active => exact .asked
  | cancelRequested => exact .stays _
  | cancelled => exact .stays _

end ConsumerState

open ConsumerState

namespace Receiver

theorem moves_deliver (r : Receiver) (d : Delivery) (answer : Except TransportError Unit) :
    r.state.Moves (r.deliver d answer).1.state := by
  rw [← r.keep_state d]
  unfold deliver
  split
  · exact .stays _
  · cases answer with
    | ok u => exact .stays _
    | error e => exact moves_cancelled _

theorem take_state (r : Receiver) (now : Nat) : (r.take now).1.state = r.state := by
  unfold take
  split
  · rfl
  · split
    · rfl
    · split <;> rfl

theorem moves_awaitEnd (r : Receiver) (call : TaskId) (now : Nat) :
    r.state.Moves (r.awaitEnd call now).1.state := by
  unfold awaitEnd
  split
  · exact .stays _
  · split
    · exact moves_cancelled _
    · exact .stays _

theorem moves_cancel (r : Receiver) (call : TaskId) (now : Nat)
    (answer : Except TransportError Unit) :
    r.state.Moves (r.cancel call now answer).1.state := by
  unfold cancel
  split
  · split
    · exact .stays _
    · exact r.moves_awaitEnd call now
  · cases answer with
    | error e => exact moves_cancelled _
    | ok u =>
      refine (moves_requestCancel r.state).trans ?_
      exact moves_awaitEnd { r with cancelIssued := true, state := r.state.requestCancel } call now

theorem moves_react (r : Receiver) (x : Happening) : r.state.Moves (r.react x).state := by
  cases x with
  | delivery d now answer => exact r.moves_deliver d answer
  | cancelOk | cancelledByBroker => exact moves_cancelled _
  | take now =>
    rw [react, take_state]
    exact .stays _
  | cancel call now answer => exact r.moves_cancel call now answer
  | resume call =>
    rw [react, resume]
    split
    · exact .stays _
    · exact moves_cancelled _
  | _ => exact .stays _

/-! ### A receiving consumer that has ended -/

theorem arriving_of_ended {r : Receiver} (ended : r.state = .cancelled) (x : Happening) :
    r.arriving x = [] := by
  cases x with
  | delivery d now answer =>
    change r.welcomed d = []
    unfold welcomed
    split
    · exact if_neg fun welcome => welcome.1 ended
    · rfl
  | _ => rfl

theorem react_ended {r : Receiver} (ended : r.state = .cancelled) (x : Happening) :
    (r.react x).state = .cancelled := (r.react_state x).mpr (.inl ended)

theorem history_arriving_of_ended {r : Receiver} (ended : r.state = .cancelled)
    (life : List Happening) : history arriving r life = [] := by
  induction life generalizing r with
  | nil => rfl
  | cons x life ih => rw [history, arriving_of_ended ended, ih (react_ended ended x)]; rfl

theorem config_react (r : Receiver) (x : Happening) : (r.react x).config = r.config :=
  congrArg (·.2.2.2.2) (r.react_settings x)

theorem settlement?_of_ended {r : Receiver} (ended : r.state = .cancelled) (d : Delivery) :
    r.settlement? d = some (.nack d.tag r.config.requeueAfterCancel) := by
  unfold settlement? verdict
  rw [if_pos (isCancelled_iff.mpr ended)]

end Receiver

namespace Browser

theorem moves_cancel (b : Browser) (answer : Except TransportError Unit) :
    b.state.Moves (b.cancel answer).1.state := by
  unfold cancel
  split
  · exact .stays _
  · cases answer with
    | ok u => exact moves_requestCancel _
    | error e => exact moves_cancelled _

theorem moves_react (b : Browser) (x : Happening) : b.state.Moves (b.react x).state := by
  cases x with
  | delivery d now answer =>
    rw [react, deliver_eq, ← b.keep_state d]
    split
    · exact moves_cancel _ answer
    · exact .stays _
  | cancelOk | cancelledByBroker => exact moves_cancelled _
  | endBrowsing answer => exact b.moves_cancel answer
  | endScan answer =>
    rw [react]
    split
    · exact b.moves_cancel answer
    · exact .stays _
  | _ => exact .stays _

/-! ### A browsing consumer that has ended -/

theorem verdict_of_ended {b : Browser} (ended : b.state = .cancelled) (d : Delivery) :
    b.verdict d = .rejected := by
  rw [verdict, ended]
  rfl

theorem command?_of_ended {b : Browser} (ended : b.state = .cancelled) (d : Delivery) :
    b.command? d = none := by
  rw [command?, completes, verdict_of_ended ended]
  rfl

/-- Nothing that happens to a consumer that has ended changes its budget, and messages go only to
those who take them. -/
theorem react_of_ended {b : Browser} (ended : b.state = .cancelled) (x : Happening) :
    (b.react x).remaining = b.remaining ∧ b.taking x ++ (b.react x).collected = b.collected := by
  by_cases idle : b.offers x = []
  · obtain ⟨remaining, -, collected⟩ := b.react_frame x idle
    exact ⟨remaining, collected⟩
  · cases x with
    | delivery d now answer =>
      rw [react, deliver_eq, completes, keep, verdict_of_ended ended]
      exact ⟨rfl, rfl⟩
    | _ => exact absurd rfl idle

theorem live_of_ended {b : Browser} (ended : b.state = .cancelled) (life : List Happening) :
    (b.live life).state = .cancelled ∧ (b.live life).remaining = b.remaining ∧
      historyOf react taking b life ++ (b.live life).collected = b.collected := by
  induction life generalizing b with
  | nil => exact ⟨ended, rfl, rfl⟩
  | cons x life ih =>
    obtain ⟨remaining, collected⟩ := react_of_ended ended x
    obtain ⟨stays, same, rest⟩ := ih (react_state_of_cancelled ended x)
    refine ⟨stays, same.trans remaining, ?_⟩
    rw [historyOf, live_cons, List.append_assoc, rest, collected]

end Browser

/-- Where a consumer is in its life; a recorder has none. -/
def Consumer.state? : Consumer → Option ConsumerState
  | .receiver r => some r.state
  | .browser b => some b.state
  | .recorder _ => none

theorem Consumer.moves_react {c : Consumer} {state : ConsumerState} (lives : c.state? = some state)
    (x : Happening) : ∃ state', (c.react x).state? = some state' ∧ state.Moves state' := by
  cases c with
  | receiver r =>
    cases lives
    exact ⟨_, rfl, r.moves_react x⟩
  | browser b =>
    cases lives
    exact ⟨_, rfl, b.moves_react x⟩
  | recorder r => cases lives

namespace Session

/-- Where a consumer of a session is in its life. -/
def state? (s : Session) (h : HandlerId) : Option ConsumerState :=
  s.consumers[h]?.bind Consumer.state?

/-- An event leaves a consumer where it is in its life or moves it on. -/
theorem moves_apply {s : Session} {h : HandlerId} {state : ConsumerState}
    (there : s.state? h = some state) (e : Event) :
    ∃ state', (s.apply e).state? h = some state' ∧ state.Moves state' := by
  obtain ⟨c, found, lives⟩ := Option.bind_eq_some_iff.mp there
  obtain ⟨state', moved, moves⟩ := Consumer.moves_react lives (s.happening h e)
  refine ⟨state', ?_, moves⟩
  rw [state?, consumers_apply s e (List.getElem?_eq_some_iff.mp found).1, found]
  exact moved

theorem moves_run {s : Session} {h : HandlerId} {state : ConsumerState}
    (there : s.state? h = some state) (es : List Event) :
    ∃ state', (s.run es).state? h = some state' ∧ state.Moves state' := by
  induction es generalizing s state with
  | nil => exact ⟨state, there, .stays state⟩
  | cons e es ih =>
    obtain ⟨state', after, first⟩ := moves_apply there e
    obtain ⟨state'', later, second⟩ := ih after
    exact ⟨state'', later, first.trans second⟩

/-! ### After the end -/

/-- What there is to see of a receiving consumer `r` that has ended, as it has become `r'` by a run:
what calls to receive have returned is gone from the front of its buffer, nothing has gone in, and
every delivery was rejected with the setting for that, so that what the channel has taken are
rejections. -/
structure Drains (h : HandlerId) (s : Session) (es : List Event) (r r' : Receiver) : Prop where
  ended : r'.state = .cancelled
  buffer : trace (received h) s es ++ r'.buffer = r.buffer
  none_kept : trace (kept h) s es = []
  rejects : ∀ e d, (s.run es).handed? e = some (h, d) →
    (s.run es).command? e = some (.nack d.tag r.config.requeueAfterCancel)
  settled : (trace (settled h) s es).Sublist
    ((trace (arrived h) s es).map fun d => .nack d.tag r.config.requeueAfterCancel)
  none_acknowledged : ∀ tag multiple, .ack tag multiple ∉ trace (Session.settled h) s es

/-- What there is to see of a browsing consumer `b` that has ended, as it has become `b'` by a run:
its budget is as it was, its messages have gone only to those who took them, and no delivery makes
it send a command. -/
structure Rests (h : HandlerId) (s : Session) (es : List Event) (b b' : Browser) : Prop where
  ended : b'.state = .cancelled
  budget : b'.remaining = b.remaining
  collected : trace (handedOut h) s es ++ b'.collected = b.collected
  silent : ∀ e d, (s.run es).handed? e = some (h, d) → (s.run es).command? e = none

/-- A delivery makes a receiving consumer that has ended reject it. -/
theorem command?_of_ended {s : Session} {h : HandlerId} {e : Event} {r : Receiver} {d : Delivery}
    (there : s.receiver? h = some r) (ended : r.state = .cancelled)
    (handed : s.handed? e = some (h, d)) :
    s.command? e = some (.nack d.tag r.config.requeueAfterCancel) := by
  rw [command?_of_arrival (arrival?_eq_some.mpr ⟨there, handed⟩),
    Receiver.settlement?_of_ended ended]

/-- What the channel takes of the settlements of a consumer that has ended is the rejection of the
delivery that arrives. -/
theorem settled_of_ended {s : Session} {h : HandlerId} {r : Receiver}
    (there : s.receiver? h = some r) (ended : r.state = .cancelled) (e : Event) :
    (settled h s e).Sublist
      ((arrived h s e).map fun d => .nack d.tag r.config.requeueAfterCancel) := by
  unfold settled arrived
  split
  · next concerned =>
    cases arrives : arrival? h s e with
    | some p =>
      obtain ⟨r', d⟩ := p
      have sends := command?_of_ended there ended (arrival?_eq_some.mp arrives).2
      rw [recorded_eq, sends]
      refine List.filter_sublist.trans ?_
      cases s.answer e with
      | ok u => exact List.Sublist.refl _
      | error error => exact List.nil_sublist _
    | none =>
      -- Without a delivery all that the consumer sends is its cancel.
      have other : ∀ d, s.handed? e ≠ some (h, d) := by
        intro d handed
        rw [arrival?_eq_some.mpr ⟨there, handed⟩] at arrives
        cases arrives
      have nothing : (s.recorded e).filter (·.settles?.isSome) = [] := by
        rw [List.filter_eq_nil_iff]
        intro c taken
        rw [recorded_eq] at taken
        split at taken
        · have sends : s.command? e = some c := Option.mem_toList.mp taken
          have tries := attempted_eq_some.mpr ⟨concerns_iff.mp concerned.2, sends⟩
          rw [cancel_of_attempted there other tries]
          exact nofun
        · cases taken
      rw [nothing]
      exact List.nil_sublist _
  · exact List.nil_sublist _

theorem trace_settled_of_ended {s : Session} {h : HandlerId} {r : Receiver}
    (there : s.receiver? h = some r) (ended : r.state = .cancelled) (es : List Event) :
    (trace (settled h) s es).Sublist
      ((trace (arrived h) s es).map fun d => .nack d.tag r.config.requeueAfterCancel) := by
  induction es generalizing s r with
  | nil => exact List.Sublist.refl _
  | cons e es ih =>
    have later := ih (receiver?_apply e there) (Receiver.react_ended ended _)
    rw [Receiver.config_react] at later
    rw [trace, trace, List.map_append]
    exact (settled_of_ended there ended e).append later

/-- What agreeing observations see of a run is seen of the life of a consumer that is there. -/
theorem trace_of_receiver {α : Type} {see : Session → Event → List α}
    {look : Receiver → Happening → List α} {s : Session} {h : HandlerId} {r : Receiver}
    (there : s.receiver? h = some r) (agree : Agrees h see look) (es : List Event) :
    trace see s es = Receiver.history look r (life h s es) := by
  rw [Receiver.history_eq]
  refine (found_run (·.receiver? h) (fun _ e _ => receiver?_apply (h := h) e) es there).2 α see
    look ?_
  intro s e
  simp only [agree s e]
  cases s.receiver? h <;> rfl

theorem drains_of_ended {s : Session} {h : HandlerId} {r : Receiver}
    (there : s.receiver? h = some r) (ended : r.state = .cancelled) (es : List Event) :
    ∃ r', (s.run es).receiver? h = some r' ∧ Drains h s es r r' := by
  have found := receiver?_run es there
  have stays : (r.live (life h s es)).state = .cancelled := (r.live_state _).mpr (.inl ended)
  have none_kept : trace (kept h) s es = [] := by
    rw [trace_of_receiver there (agrees_kept h), Receiver.history_arriving_of_ended ended]
  have taken := trace_settled_of_ended there ended es
  refine ⟨_, found, stays, ?_, none_kept, ?_, taken, ?_⟩
  · -- What comes out is what was in the buffer, since nothing goes in.
    rw [trace_of_receiver there (agrees_received h), r.history_leaving_append_buffer,
      Receiver.history_arriving_of_ended ended, List.append_nil]
  · intro e d handed
    have same : (r.live (life h s es)).config = r.config :=
      congrArg (·.2.2.2.2) (r.live_settings _)
    rw [command?_of_ended found stays handed, same]
  · intro tag multiple acks
    have rejected := taken.subset acks
    simp at rejected

theorem rests_of_ended {s : Session} {h : HandlerId} {b : Browser}
    (there : s.browser? h = some b) (ended : b.state = .cancelled) (es : List Event) :
    ∃ b', (s.run es).browser? h = some b' ∧ Rests h s es b b' := by
  obtain ⟨found, seen⟩ :=
    found_run (·.browser? h) (fun _ e _ => browser?_apply (h := h) e) es there
  obtain ⟨stays, budget, collected⟩ := Browser.live_of_ended ended (lifeOf h (·.browser? h) s es)
  refine ⟨_, found, stays, budget, ?_, ?_⟩
  · rw [seen _ _ _ (agrees_handedOut h)]
    exact collected
  · intro e d handed
    rw [command?_of_handed handed, handlerCommand?, browser?_eq_some.mp found]
    exact Browser.command?_of_ended stays d

/-- **Ended for good**: whatever happens in a session, a consumer moves through its life in one
direction; and once it has ended it stays so, a receiving consumer gives away what is in its buffer
and rejects what comes, and a browsing consumer gives away what it has collected. -/
theorem ended_for_good (s : Session) (h : HandlerId) :
    (∀ e state, s.state? h = some state →
      ∃ state', (s.apply e).state? h = some state' ∧ state.Moves state') ∧
    (∀ es state, s.state? h = some state →
      ∃ state', (s.run es).state? h = some state' ∧ state.Moves state') ∧
    (∀ es r, s.receiver? h = some r → r.state = .cancelled →
      ∃ r', (s.run es).receiver? h = some r' ∧ Drains h s es r r') ∧
    (∀ es b, s.browser? h = some b → b.state = .cancelled →
      ∃ b', (s.run es).browser? h = some b' ∧ Rests h s es b b') := by
  refine ⟨?_, ?_, ?_, ?_⟩
  · exact fun e state there => moves_apply there e
  · exact fun es state there => moves_run there es
  · exact fun es r there ended => drains_of_ended there ended es
  · exact fun es b there ended => rests_of_ended there ended es

/-- A message is in the buffer of a receiving consumer and one is collected by a browsing consumer
as both end. -/
def bothEnded : List Event :=
  [.addReceiver ⟨"orders"⟩ ⟨"clerk"⟩ (standardConverter 100) none { requeueAfterCancel := false },
    .addBrowser ⟨"reader"⟩ (standardConverter 100) 3 none,
    .call (.deliver 0 (.bare ⟨1⟩)), .step 0, .call (.deliver 1 (.bare ⟨2⟩)), .step 1,
    .cancelOk 0 ⟨"clerk"⟩, .cancelledByBroker 1 ⟨"reader"⟩]

/-- Both get another delivery, and both give away what they have. -/
def bothEmptied : List Event :=
  [.call (.deliver 0 (.bare ⟨3⟩)), .step 2, .call (.deliver 1 (.bare ⟨4⟩)), .step 3,
    .call (.receive 0 .noWait), .step 4, .step 4, .takeCollected 1]

theorem ended_for_good_bothEmptied :
    (∃ r r', ((initial true).run bothEnded).receiver? 0 = some r ∧ r.state = .cancelled ∧
      (((initial true).run bothEnded).run bothEmptied).receiver? 0 = some r' ∧
      Drains 0 ((initial true).run bothEnded) bothEmptied r r') ∧
    (∃ b b', ((initial true).run bothEnded).browser? 1 = some b ∧ b.state = .cancelled ∧
      (((initial true).run bothEnded).run bothEmptied).browser? 1 = some b' ∧
      Rests 1 ((initial true).run bothEnded) bothEmptied b b') ∧
    trace (settled 0) ((initial true).run bothEnded) bothEmptied = [.nack ⟨3⟩ false] ∧
    (trace (received 0) ((initial true).run bothEnded) bothEmptied).map (·.deliveryTag) = [⟨1⟩] ∧
    (trace (handedOut 1) ((initial true).run bothEnded) bothEmptied).map (·.deliveryTag) =
      [⟨2⟩] := by
  have receiving := (ended_for_good ((initial true).run bothEnded) 0).2.2.1 bothEmptied _ rfl rfl
  have browsing := (ended_for_good ((initial true).run bothEnded) 1).2.2.2 bothEmptied _ rfl rfl
  obtain ⟨r', found, drains⟩ := receiving
  obtain ⟨b', found', rests⟩ := browsing
  exact ⟨⟨_, r', rfl, rfl, found, drains⟩, ⟨_, b', rfl, rfl, found', rests⟩, rfl, rfl, rfl⟩

end Session
end Intake
