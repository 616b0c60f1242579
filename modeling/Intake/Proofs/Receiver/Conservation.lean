import Intake.Proofs.Receiver.Settlement

/-!
# The counters of a receiving consumer

Every delivery that reaches a consumer is counted twice, once as delivered and once by what is done
with it, and every message that a call to receive takes is counted once. What is counted as accepted
has gone into the buffer, so the counters balance with it. The main statement is
`counters_conserved`.
-/
namespace Intake

namespace Receiver

/-! ### What is counted -/

/-- The delivery that comes to a consumer. -/
def reaching : Receiver → Happening → List Delivery := Session.atArrival fun _ d _ => [d]

theorem keep_counters (r : Receiver) (d : Delivery) :
    (r.keep d).counters = count (r.verdict d) r.counters := by
  unfold keep
  cases r.verdict d <;> rfl

/-- A delivery is counted in the same way whether or not the channel takes the command that settles
it. -/
theorem deliver_counters (r : Receiver) (d : Delivery) (answer : Except TransportError Unit) :
    (r.deliver d answer).1.counters = count (r.verdict d) r.counters := by
  rw [← keep_counters]
  unfold deliver
  split
  · rfl
  · cases answer <;> rfl

/-- The counters after some messages have been taken. -/
def withReceived (c : Counters) (messages : Nat) : Counters :=
  { c with received := c.received + UInt64.ofNat messages }

@[simp] theorem withReceived_zero (c : Counters) : withReceived c 0 = c := by
  simp [withReceived]

theorem take_counters (r : Receiver) (now : Nat) :
    (r.take now).1.counters = withReceived r.counters (r.leaving (.take now)).length := by
  simp only [leaving]
  unfold take
  split
  · exact (withReceived_zero _).symm
  · split
    · rfl
    · cases (if r.state.isCancelled then none else patienceAt now _) <;>
        exact (withReceived_zero _).symm

theorem awaitEnd_counters (r : Receiver) (call : TaskId) (now : Nat) :
    (r.awaitEnd call now).1.counters = r.counters := by
  unfold awaitEnd
  split
  · rfl
  · split <;> rfl

theorem cancel_counters (r : Receiver) (call : TaskId) (now : Nat)
    (answer : Except TransportError Unit) : (r.cancel call now answer).1.counters = r.counters := by
  unfold cancel
  split
  · split
    · rfl
    · exact r.awaitEnd_counters call now
  · cases answer with
    | error e => rfl
    | ok u => exact awaitEnd_counters _ call now

theorem resume_counters (r : Receiver) (call : TaskId) :
    (r.resume call).1.counters = r.counters := by
  unfold resume
  simp only
  split <;> rfl

/-- Apart from deliveries only a message that is taken is counted. -/
theorem react_counters {r : Receiver} {x : Happening}
    (idle : ∀ d now answer, x ≠ .delivery d now answer) :
    (r.react x).counters = withReceived r.counters (r.leaving x).length := by
  cases x with
  | delivery d now answer => exact absurd rfl (idle d now answer)
  | take now => exact r.take_counters now
  | cancel call now answer =>
    exact (r.cancel_counters call now answer).trans (withReceived_zero _).symm
  | resume call => exact (r.resume_counters call).trans (withReceived_zero _).symm
  | _ => exact (withReceived_zero _).symm

/-! ### What the counters tell -/

/-- Each delivery is counted by one of the counters of what is done with it. -/
def IsSorted (c : Counters) : Prop :=
  c.delivered =
    c.accepted + c.filtered + c.overflowed + c.rejectedAfterCancel + c.conversionFailures

theorem isSorted_count {c : Counters} (sorted : IsSorted c) (v : Verdict) :
    IsSorted (count v c) := by
  unfold IsSorted at sorted ⊢
  cases v <;> simp only [count, sorted] <;> ac_rfl

theorem count_delivered (v : Verdict) (c : Counters) :
    (count v c).delivered = c.delivered + 1 := by
  cases v <;> rfl

theorem count_received (v : Verdict) (c : Counters) : (count v c).received = c.received := by
  cases v <;> rfl

/-- A delivery is counted as accepted if it is kept. -/
theorem count_accepted (r : Receiver) (d : Delivery) (c : Counters) :
    (count (r.verdict d) c).accepted = c.accepted + UInt64.ofNat (r.welcomed d).length := by
  cases verdict : r.verdict d with
  | accepted m =>
    rw [welcomed_eq_singleton.mpr verdict]
    rfl
  | _ =>
    rcases r.welcomed_cases d with ⟨m, welcome⟩ | unwelcome
    · rw [welcomed_eq_singleton.mp welcome] at verdict
      cases verdict
    · rw [unwelcome]
      exact (UInt64.add_zero _).symm

/-- What the counters of a consumer tell after some deliveries have reached it, some have been kept
and some messages have been taken. -/
structure Counted (r : Receiver) (delivered kept taken : Nat) : Prop where
  sorted : IsSorted r.counters
  delivered : r.counters.delivered = UInt64.ofNat delivered
  accepted : r.counters.accepted = UInt64.ofNat kept
  received : r.counters.received = UInt64.ofNat taken

variable {r : Receiver} {delivered kept taken : Nat}

theorem Counted.deliver (counted : r.Counted delivered kept taken) (d : Delivery)
    (answer : Except TransportError Unit) :
    (r.deliver d answer).1.Counted (delivered + 1) (kept + (r.welcomed d).length) taken := by
  have counters := r.deliver_counters d answer
  constructor
  · rw [counters]
    exact isSorted_count counted.sorted _
  · rw [counters, count_delivered, counted.delivered, UInt64.ofNat_add]
    rfl
  · rw [counters, count_accepted, counted.accepted, UInt64.ofNat_add]
  · rw [counters, count_received, counted.received]

theorem Counted.react (counted : r.Counted delivered kept taken) (x : Happening) :
    (r.react x).Counted (delivered + (r.reaching x).length) (kept + (r.arriving x).length)
      (taken + (r.leaving x).length) := by
  by_cases arrives : ∃ d now answer, x = .delivery d now answer
  · obtain ⟨d, now, answer, rfl⟩ := arrives
    exact counted.deliver d answer
  · have idle : ∀ d now answer, x ≠ .delivery d now answer :=
      fun d now answer is => arrives ⟨d, now, answer, is⟩
    have nothing : r.reaching x = [] ∧ r.arriving x = [] := by
      cases x with
      | delivery d now answer => exact absurd rfl (idle d now answer)
      | _ => exact ⟨rfl, rfl⟩
    rw [nothing.1, nothing.2]
    refine ⟨?_, ?_, ?_, ?_⟩ <;> rw [react_counters idle]
    · exact counted.sorted
    · exact counted.delivered
    · exact counted.accepted
    · rw [withReceived, counted.received, UInt64.ofNat_add]

theorem Counted.live (counted : r.Counted delivered kept taken) (life : List Happening) :
    (r.live life).Counted (delivered + (history reaching r life).length)
      (kept + (history arriving r life).length) (taken + (history leaving r life).length) := by
  induction life generalizing r delivered kept taken with
  | nil => exact counted
  | cons x life ih =>
    have later := ih (counted.react x)
    simp only [Nat.add_assoc, ← List.length_append] at later
    exact later

theorem IsNew.counted (new : r.IsNew) : r.Counted 0 0 0 := by
  have blank := new.eq.2.2.2.2.1
  constructor <;> (rw [blank]; rfl)

/-- No buffer is so large that the number of its messages wraps around. -/
theorem buffered_toNat (fits : r.buffer.length ≤ r.capacity) :
    r.metrics.buffered.toNat = r.buffer.length :=
  UInt64.toNat_ofNat_of_lt' (Nat.lt_of_le_of_lt fits r.config.batchingSize.toNat_lt)

end Receiver

namespace Session

/-! ### Runs -/

theorem agrees_arrived (h : HandlerId) : Agrees h (arrived h) Receiver.reaching :=
  agrees_atArrival h fun _ d _ => [d]

/-- What the counters of a receiving consumer tell after a run, in the arithmetic of words: each
delivery has been counted by one more counter, those counted as accepted have been received or are
in the buffer, and the buffer is within its capacity. -/
structure Conserved (h : HandlerId) (s : Session) (es : List Event) (r : Receiver) : Prop where
  sorted : r.counters.delivered = r.counters.accepted + r.counters.filtered +
    r.counters.overflowed + r.counters.rejectedAfterCancel + r.counters.conversionFailures
  balance : r.counters.accepted = r.counters.received + r.metrics.buffered
  delivered : r.counters.delivered = UInt64.ofNat (trace (arrived h) s es).length
  accepted : r.counters.accepted = UInt64.ofNat (trace (kept h) s es).length
  received : r.counters.received = UInt64.ofNat (trace (received h) s es).length
  buffered : r.metrics.buffered.toNat = r.buffer.length
  fits : r.metrics.buffered.toNat ≤ r.capacity
  capacity : r.capacity = r.config.batchingSize.toNat

/-- What an event does to the counters of a receiving consumer: a delivery is counted by what is
done with it, whatever the channel answers, and everything else changes no counter but the one of
the messages received. -/
structure Counts (h : HandlerId) (s : Session) (e : Event) (r r' : Receiver) : Prop where
  arrives : ∀ d, s.handed? e = some (h, d) → r'.counters = Receiver.count (r.verdict d) r.counters
  rests : (∀ d, s.handed? e ≠ some (h, d)) →
    r'.counters = { r.counters with
      received := r.counters.received + UInt64.ofNat (received h s e).length }

theorem counts_apply {h : HandlerId} {s : Session} {r : Receiver} (there : s.receiver? h = some r)
    (e : Event) : Counts h s e r (r.react (s.happening h e)) where
  arrives := by
    intro d handed
    rw [happening_eq_delivery.mpr ⟨handed, rfl, rfl⟩]
    exact r.deliver_counters d (s.answer e)
  rests := by
    intro idle
    rw [agrees_received h s e, there]
    apply Receiver.react_counters
    intro d now answer occurs
    exact idle d (happening_eq_delivery.mp occurs).1

/-- **Conservation of the counters**: after every run, whatever commands have failed in it, the
counters of a receiving consumer balance with each other and with its buffer, and they tell how many
deliveries have reached it and how many of them have been kept and received. Apart from deliveries
nothing changes a counter but a message that is received, and that one changes no other counter than
its own. -/
theorem counters_conserved (confirms : Bool) (es : List Event) (h : HandlerId) {r : Receiver}
    (there : ((initial confirms).run es).receiver? h = some r) :
    Conserved h (initial confirms) es r ∧
      ∀ e, ∃ r', (((initial confirms).run es).apply e).receiver? h = some r' ∧
        Counts h ((initial confirms).run es) e r r' := by
  refine ⟨?_, fun e => ⟨_, receiver?_apply e there, counts_apply there e⟩⟩
  have fits := buffer_length_le there
  have whole := Receiver.buffered_toNat fits
  obtain ⟨r₀, new, rfl, seen⟩ := life_of_receiver es (initial_receiver? confirms h) there
  have counted := new.counted.live (life h (initial confirms) es)
  simp only [Nat.zero_add] at counted
  rw [← seen _ _ _ (agrees_arrived h), ← seen _ _ _ (agrees_kept h),
    ← seen _ _ _ (agrees_received h)] at counted
  -- What has been kept has come out of the buffer or is still in it.
  have came_out := congrArg List.length
    (r₀.history_leaving_append_buffer (life h (initial confirms) es))
  rw [new.eq.2.1, List.nil_append, List.length_append, ← seen _ _ _ (agrees_kept h),
    ← seen _ _ _ (agrees_received h)] at came_out
  exact {
    sorted := counted.sorted
    balance := by
      rw [counted.accepted, counted.received, ← came_out, UInt64.ofNat_add]
      rfl
    delivered := counted.delivered
    accepted := counted.accepted
    received := counted.received
    buffered := whole
    fits := by rw [whole]; exact fits
    capacity := rfl }

/-- Into a buffer of one place go a delivery without a kind, which is unwanted, one with a kind, one
that finds no room, and, when the first message is taken, one whose acknowledgement fails; the last
one comes too late. -/
def fiveCounted : List Event :=
  let order (tag : DeliveryTag) : Delivery :=
    { Delivery.bare tag with properties := { kind := some "order" } }
  [.addReceiver ⟨"orders"⟩ ⟨"clerk"⟩ (standardConverter 100)
      (some fun hs => (hs.find? "JMSType").isSome) { batchingSize := 1 },
    .call (.deliver 0 (.bare ⟨1⟩)), .step 0, .call (.deliver 0 (order ⟨2⟩)), .step 1,
    .call (.deliver 0 (order ⟨3⟩)), .step 2, .call (.receive 0 .noWait), .step 3, .step 3,
    .fault .ack (.connectionFailed "down"), .call (.deliver 0 (order ⟨4⟩)), .step 4,
    .call (.deliver 0 (order ⟨5⟩)), .step 5]

theorem counters_conserved_fiveCounted :
    ∃ r, ((initial true).run fiveCounted).receiver? 0 = some r ∧ r.metrics.buffered = 1 ∧
      r.counters = { delivered := 5, accepted := 2, filtered := 1, overflowed := 1
                     rejectedAfterCancel := 1, received := 1 } ∧
      Conserved 0 (initial true) fiveCounted r :=
  ⟨_, rfl, rfl, rfl, (counters_conserved true fiveCounted 0 rfl).1⟩

end Session
end Intake
