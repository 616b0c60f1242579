import Intake.Proofs.Receiver.Buffer
import Intake.Proofs.Receiver.Confirmation

/-!
# Messages and their acknowledgements

A receiving consumer keeps a message first and acknowledges its delivery then. When the channel does
not take the acknowledgement the consumer ends, but the message stays in the buffer. Hence every
message that it keeps is acknowledged but perhaps the very last (`OnlyLastOpen`), and a message is
returned without its acknowledgement exactly if it is that one (`received_unacknowledged_iff`).
-/
namespace Intake

/-- A message that a consumer has kept. -/
structure Deposit where
  delivery : Delivery
  message : Message
  -- whether the channel took the acknowledgement of the delivery
  acknowledged : Bool

/-- All messages kept are acknowledged; or all but the last, and the consumer has ended by that. -/
def OnlyLastOpen (deposits : List Deposit) (state : ConsumerState) : Prop :=
  (∀ p ∈ deposits, p.acknowledged = true) ∨
    state = .cancelled ∧ ∃ front last, deposits = front ++ [last] ∧
      (∀ p ∈ front, p.acknowledged = true) ∧ last.acknowledged = false

namespace Receiver

/-- The message that a delivery adds to the buffer, with what becomes of its acknowledgement. -/
def depositing (r : Receiver) (d : Delivery) (answer : Except TransportError Unit) : List Deposit :=
  (r.welcomed d).map fun m => ⟨d, m, answer.isOk⟩

theorem depositing_map (r : Receiver) (d : Delivery) (answer : Except TransportError Unit) :
    (r.depositing d answer).map Deposit.message = r.welcomed d := by
  simp [depositing, Function.comp_def]

theorem history_depositing_map (r : Receiver) (life : List Happening) :
    (history (Session.atArrival depositing) r life).map Deposit.message =
      history arriving r life := by
  induction life generalizing r with
  | nil => rfl
  | cons x life ih =>
    rw [history, history, List.map_append, ih]
    congr 1
    cases x with
    | delivery d now answer => exact r.depositing_map d answer
    | _ => rfl

theorem settlement?_of_welcomed {r : Receiver} {d : Delivery} {m : Message}
    (welcome : r.welcomed d = [m]) : r.settlement? d = some (.ack d.tag false) := by
  rw [settlement?, welcomed_eq_singleton.mp welcome]

/-- A consumer whose acknowledgement fails ends, so that it keeps nothing more. -/
theorem onlyLastOpen_react {r : Receiver} {deposits : List Deposit}
    (open_last : OnlyLastOpen deposits r.state) (x : Happening) :
    OnlyLastOpen (deposits ++ Session.atArrival depositing r x) (r.react x).state := by
  have unchanged : OnlyLastOpen deposits (r.react x).state := by
    rcases open_last with all | ⟨ended, some_open⟩
    · exact .inl all
    · exact .inr ⟨(r.react_state x).mpr (.inl ended), some_open⟩
  cases x with
  | delivery d now answer =>
    change OnlyLastOpen (deposits ++ r.depositing d answer) _
    rcases r.welcomed_cases d with ⟨m, welcome⟩ | unwelcome
    · have going := (verdict_eq_accepted.mp (welcomed_eq_singleton.mp welcome)).1
      have all : ∀ p ∈ deposits, p.acknowledged = true := by
        rcases open_last with all | ⟨ended, -⟩
        · exact all
        · exact absurd ended going
      rw [depositing, welcome, List.map_singleton]
      cases answer with
      | ok u =>
        left
        intro p member
        rcases List.mem_append.mp member with old | new
        · exact all p old
        · rw [List.mem_singleton.mp new]
          rfl
      | error error =>
        have failed : r.failed (.delivery d now (.error error)) ≠ [] := by
          simp [failed, settlement?_of_welcomed welcome]
        exact .inr ⟨(r.react_state _).mpr (.inr (.inr (.inl failed))), deposits, _, rfl, all, rfl⟩
    · rw [depositing, unwelcome, List.map_nil, List.append_nil]
      exact unchanged
  | _ => simpa only [Session.atArrival, List.append_nil] using unchanged

theorem onlyLastOpen_live {r : Receiver} {deposits : List Deposit}
    (open_last : OnlyLastOpen deposits r.state) (life : List Happening) :
    OnlyLastOpen (deposits ++ history (Session.atArrival depositing) r life)
      (r.live life).state := by
  induction life generalizing r deposits with
  | nil =>
    rw [history, List.append_nil]
    exact open_last
  | cons x life ih =>
    have later := ih (onlyLastOpen_react open_last x)
    rw [List.append_assoc] at later
    exact later

end Receiver

namespace Session

/-- The message that a receiving consumer keeps at an event, with whether the channel records the
acknowledgement of its delivery. -/
def deposits (h : HandlerId) (s : Session) (e : Event) : List Deposit :=
  (arrival? h s e).elim [] fun p => (p.1.welcomed p.2).map fun m =>
    ⟨p.2, m, .ack p.2.tag false ∈ s.recorded e⟩

theorem agrees_deposits (h : HandlerId) :
    Agrees h (deposits h) (atArrival Receiver.depositing) := by
  have same : deposits h = fun s e =>
      (arrival? h s e).elim [] fun p => p.1.depositing p.2 (s.answer e) := by
    funext s e
    unfold deposits
    cases arrives : arrival? h s e with
    | none => rfl
    | some p =>
      obtain ⟨r, d⟩ := p
      rw [Option.elim_some, Option.elim_some, Receiver.depositing]
      rcases r.welcomed_cases d with ⟨m, welcome⟩ | unwelcome
      · -- A delivery that is kept is acknowledged at the same event.
        rw [welcome, recorded_eq, command?_of_arrival arrives,
          Receiver.settlement?_of_welcomed welcome]
        cases s.answer e <;> simp [Except.isOk, Except.toBool]
      · rw [unwelcome]
        rfl
  rw [same]
  exact agrees_atArrival h Receiver.depositing

/-- What is kept of the acknowledgements of a run is in the log. -/
theorem mem_log_of_acknowledged {s : Session} {es : List Event} {h : HandlerId} {p : Deposit}
    (member : p ∈ trace (deposits h) s es) (acknowledged : p.acknowledged = true) :
    .ack p.delivery.tag false ∈ (s.run es).channel.log := by
  rw [log_run]
  apply List.mem_append_right
  obtain ⟨before, e, after, split, seen⟩ := (mem_trace _ _ _ _).mp member
  refine (mem_trace _ _ _ _).mpr ⟨before, e, after, split, ?_⟩
  unfold deposits at seen
  cases arrives : arrival? h (s.run before) e with
  | none =>
    rw [arrives] at seen
    cases seen
  | some a =>
    rw [arrives] at seen
    obtain ⟨m, -, rfl⟩ := List.mem_map.mp seen
    exact of_decide_eq_true acknowledged

/-- The messages of the deposits of a run are those returned and then those in the buffer. -/
theorem deposits_map (confirms : Bool) (es : List Event) (h : HandlerId) {r : Receiver}
    (there : ((initial confirms).run es).receiver? h = some r) :
    (trace (deposits h) (initial confirms) es).map Deposit.message =
      trace (received h) (initial confirms) es ++ r.buffer ∧
    OnlyLastOpen (trace (deposits h) (initial confirms) es) r.state := by
  obtain ⟨r₀, new, rfl, seen⟩ := life_of_receiver es (initial_receiver? confirms h) there
  obtain ⟨-, empty, -⟩ := new.eq
  have balance := r₀.history_leaving_append_buffer (life h (initial confirms) es)
  rw [empty, List.nil_append] at balance
  rw [seen _ _ _ (agrees_deposits h), seen _ _ _ (agrees_received h)]
  refine ⟨(r₀.history_depositing_map _).trans balance.symm, ?_⟩
  exact r₀.onlyLastOpen_live (.inl fun p member => absurd member List.not_mem_nil) _

/-- A message that is returned is the first of the buffer. -/
theorem buffer_of_received {s : Session} {h : HandlerId} {e : Event} {r : Receiver} {m : Message}
    (there : s.receiver? h = some r) (returned : m ∈ received h s e) :
    ∃ rest, r.buffer = m :: rest := by
  rw [agrees_received h s e, there] at returned
  change m ∈ r.leaving (s.happening h e) at returned
  unfold Receiver.leaving at returned
  split at returned
  · next now _ =>
    have balance := r.take_buffer now
    cases out : (r.take now).2.bind id with
    | none =>
      rw [out] at returned
      cases returned
    | some m' =>
      rw [out] at returned balance
      rw [Option.toList, List.mem_singleton] at returned
      exact ⟨_, returned ▸ balance.symm⟩
  · cases returned

/-- **Returned without an acknowledgement**: a message that a call to receive returns is that of the
first delivery kept whose message was not returned before. Either the log holds the acknowledgement of
that delivery, or the channel did not take it; and it did not exactly if the acknowledgement of a
delivery has failed and the message is the last one in the buffer. -/
theorem received_unacknowledged_iff (confirms : Bool) (es : List Event) (h : HandlerId) (e : Event)
    {r : Receiver} {m : Message} (there : ((initial confirms).run es).receiver? h = some r)
    (returned : m ∈ received h ((initial confirms).run es) e) :
    ∃ p, (trace (deposits h) (initial confirms) es)[
        (trace (received h) (initial confirms) es).length]? = some p ∧ p.message = m ∧
      (p.acknowledged = true →
        .ack p.delivery.tag false ∈ ((initial confirms).run es).channel.log) ∧
      (p.acknowledged = false ↔ r.buffer = [m] ∧
        ∃ q ∈ trace (deposits h) (initial confirms) es, q.acknowledged = false) := by
  obtain ⟨messages, open_last⟩ := deposits_map confirms es h there
  obtain ⟨rest, buffer⟩ := buffer_of_received there returned
  generalize trace (received h) (initial confirms) es = before at messages ⊢
  have logged {p : Deposit} (member : p ∈ trace (deposits h) (initial confirms) es) :=
    mem_log_of_acknowledged member
  generalize trace (deposits h) (initial confirms) es = deposits at messages open_last logged ⊢
  rw [buffer] at messages ⊢
  -- The deposits are those returned before, the one of the message and those behind it.
  obtain ⟨gone, left, rfl, same, messages⟩ := List.map_eq_append_iff.mp messages
  obtain ⟨p, behind, rfl, own, others⟩ := List.map_eq_cons_iff.mp messages
  have place : before.length = gone.length := by rw [← same, List.length_map]
  have member : p ∈ gone ++ p :: behind := List.mem_append_right _ List.mem_cons_self
  refine ⟨p, by simp [place], own, logged member, ?_⟩
  rcases open_last with all | ⟨-, front, last, split, settled, failed⟩
  · have none_open : ¬ ∃ q ∈ gone ++ p :: behind, q.acknowledged = false := by
      rintro ⟨q, kept, failed⟩
      rw [all q kept] at failed
      cases failed
    rw [all p member]
    exact ⟨nofun, fun some_open => absurd some_open.2 none_open⟩
  · have some_open : ∃ q ∈ gone ++ p :: behind, q.acknowledged = false :=
      ⟨last, split ▸ List.mem_append_right _ (List.mem_singleton.mpr rfl), failed⟩
    rw [and_iff_left some_open]
    cases behind with
    | nil =>
      have it : p = last := (List.append_inj' split rfl).2 |> List.cons.inj |>.1
      cases others
      simp [it, failed]
    | cons q behind =>
      -- With another deposit behind it, it is not the last one.
      have settled_p : p.acknowledged = true := by
        have front_eq := congrArg List.dropLast split
        rw [List.dropLast_concat, List.dropLast_append_of_ne_nil (List.cons_ne_nil _ _),
          List.dropLast_cons_cons] at front_eq
        exact settled p (front_eq ▸ List.mem_append_right _ List.mem_cons_self)
      obtain ⟨m', rest', rfl⟩ : ∃ m' rest', rest = m' :: rest' := ⟨_, _, others.symm⟩
      simp [settled_p]

/-- Of two deliveries the second is not acknowledged, since the channel fails to; one of their
messages is taken in between, and the other is asked for in the end. -/
def secondUnacknowledged : List Event :=
  [.addReceiver ⟨"orders"⟩ ⟨"clerk"⟩ (standardConverter 100) none {},
    .call (.deliver 0 (.bare ⟨1⟩)), .step 0, .call (.receive 0 .noWait), .step 1, .step 1,
    .fault .ack .channelClosed, .call (.deliver 0 (.bare ⟨2⟩)), .step 2,
    .call (.receive 0 .noWait), .step 3]

theorem received_unacknowledged_iff_second :
    ∃ r m, ((initial false).run secondUnacknowledged).receiver? 0 = some r ∧
      m ∈ received 0 ((initial false).run secondUnacknowledged) (.step 3) ∧
      ∃ p, (trace (deposits 0) (initial false) secondUnacknowledged)[1]? = some p ∧
        p.message = m ∧ p.delivery.tag = ⟨2⟩ ∧ (p.acknowledged = false ↔ r.buffer = [m] ∧
          ∃ q ∈ trace (deposits 0) (initial false) secondUnacknowledged, q.acknowledged = false) := by
  obtain ⟨p, place, message, -, exactly⟩ :=
    received_unacknowledged_iff false secondUnacknowledged 0 (.step 3) rfl List.mem_cons_self
  exact ⟨_, _, rfl, List.mem_cons_self, p, place, message,
    congrArg (fun q => q.delivery.tag) (Option.some.inj place).symm, exactly⟩

/-- A message is returned though its delivery, the only one with its tag, has no acknowledgement
in the log and the consumer has ended by that. -/
theorem received_without_acknowledgement :
    (received 0 ((initial false).run secondUnacknowledged) (.step 3)).map (·.deliveryTag) = [⟨2⟩] ∧
      ((initial false).run secondUnacknowledged).channel.log = [.ack ⟨1⟩ false] ∧
      (((initial false).run secondUnacknowledged).receiver? 0).map (·.state) = some .cancelled :=
  ⟨rfl, rfl, rfl⟩

end Session
end Intake
