import Intake.Proofs.Receiver.Buffer
import Mathlib.Data.List.Nodup

/-!
# Settlements of a receiving consumer

A plan says, by what there is to see of a consumer, whether the consumer keeps a delivery and with
which command it settles it. The main statement is `settlement_exact`: every delivery goes as
planned, nothing else makes the consumer settle anything, and the settlements that the channel
takes in a run are those of the plans, in the order of the deliveries.
-/
namespace Intake

/-- The delivery that a command settles. -/
def Command.settles? : Command → Option DeliveryTag
  | .ack tag _ => some tag
  | .nack tag _ => some tag
  | _ => none

namespace Receiver

/-! ### Plans -/

/-- The messages that are kept of a delivery, and then the command that settles it: what comes after
the end is rejected unseen, what does not convert is left alone, what is unwanted is acknowledged
even if there is no room, and what is wanted is kept if there is room. -/
def plan (r : Receiver) (d : Delivery) : List Message × Option Command :=
  if r.state = .cancelled then ([], some (.nack d.tag r.config.requeueAfterCancel))
  else
    match r.converter d with
    | .error _ => ([], none)
    | .ok m =>
      if selects r.selector m = false then ([], some (.ack d.tag false))
      else if r.buffer.length = r.config.batchingSize.toNat then
        ([], some (.nack d.tag r.config.requeueOnOverflow))
      else ([m], some (.ack d.tag false))

/-- A delivery whose conversion does not fail; after the end none is tried. -/
def unfailed (r : Receiver) (d : Delivery) : List Delivery :=
  if r.state = .cancelled then [d]
  else
    match r.converter d with
    | .error _ => []
    | .ok _ => [d]

theorem settlement?_eq {r : Receiver} {d : Delivery} (fits : r.buffer.length ≤ r.capacity) :
    r.settlement? d = (r.plan d).2 := by
  unfold settlement? verdict plan
  by_cases ended : r.state = .cancelled
  · rw [if_pos (isCancelled_iff.mpr ended), if_pos ended]
  · have going : ¬ r.state.isCancelled = true := fun c => ended (isCancelled_iff.mp c)
    rw [if_neg going, if_neg ended]
    cases r.converter d with
    | error e => rfl
    | ok m =>
      cases wanted : selects r.selector m with
      | false => simp [wanted]
      | true =>
        by_cases full : r.buffer.length = r.config.batchingSize.toNat
        · have full' : r.isFull = true := isFull_iff.mpr (Nat.le_of_eq full.symm)
          simp [wanted, full, full']
        · have room : ¬ r.isFull = true := by
            intro full'
            exact full (Nat.le_antisymm fits (isFull_iff.mp full'))
          simp [wanted, full, room]

theorem welcomed_eq {r : Receiver} {d : Delivery} (fits : r.buffer.length ≤ r.capacity) :
    r.welcomed d = (r.plan d).1 := by
  unfold welcomed plan
  by_cases ended : r.state = .cancelled
  · rw [if_pos ended]
    cases r.converter d with
    | error e => rfl
    | ok m => simp [ended]
  · rw [if_neg ended]
    cases r.converter d with
    | error e => rfl
    | ok m =>
      cases wanted : selects r.selector m with
      | false => simp [wanted]
      | true =>
        by_cases full : r.buffer.length = r.config.batchingSize.toNat
        · simp [wanted, full, capacity]
        · have room : r.buffer.length < r.capacity := Nat.lt_of_le_of_ne fits full
          simp [wanted, full, room, ended]

theorem settles?_of_plan {r : Receiver} {d : Delivery} {c : Command}
    (planned : (r.plan d).2 = some c) : c.settles? = some d.tag := by
  unfold plan at planned
  split at planned
  · cases planned; rfl
  · split at planned
    · cases planned
    · split at planned
      · cases planned; rfl
      · split at planned <;> (cases planned; rfl)

theorem plan_toList_map (r : Receiver) (d : Delivery) :
    (r.plan d).2.toList.map Command.settles? = (r.unfailed d).map (some ·.tag) := by
  unfold plan unfailed
  split
  · rfl
  · split
    · rfl
    · split
      · rfl
      · split <;> rfl

theorem live_length_le {r : Receiver} (fits : r.buffer.length ≤ r.capacity)
    (life : List Happening) : (r.live life).buffer.length ≤ (r.live life).capacity := by
  refine keeps_live (P := fun r => r.buffer.length ≤ r.capacity) (fun r x fits => ?_) fits life
  have same : (r.react x).capacity = r.capacity :=
    congrArg (fun c => c.2.2.2.2.batchingSize.toNat) (r.react_settings x)
  rw [same]
  exact react_length_le fits x

end Receiver

namespace Session

/-- In a run no buffer holds more than its capacity. -/
theorem buffer_length_le {confirms : Bool} {es : List Event} {h : HandlerId} {r : Receiver}
    (there : ((initial confirms).run es).receiver? h = some r) :
    r.buffer.length ≤ r.capacity := by
  obtain ⟨r₀, new, rfl, -⟩ := life_of_receiver es (initial_receiver? confirms h) there
  apply Receiver.live_length_le
  rw [new.eq.2.1]
  exact Nat.zero_le _

/-! ### Commands of a consumer -/

/-- The command that a consumer planned to send at an event. -/
def planned (h : HandlerId) (s : Session) (e : Event) : List Command :=
  (arrival? h s e).elim [] fun p => (p.1.plan p.2).2.toList

/-- The settlement of a receiving consumer that the channel takes at an event. -/
def settled (h : HandlerId) (s : Session) (e : Event) : List Command :=
  if (s.receiver? h).isSome ∧ concerns (s.happening h e) then
    (s.recorded e).filter (·.settles?.isSome)
  else []

/-- The settlement of a receiving consumer that the channel refuses at an event. -/
def refused (h : HandlerId) (s : Session) (e : Event) : List TransportError :=
  (arrival? h s e).elim [] fun _ => match s.answer e with
    | .ok () => []
    | .error error => [error]

def arrived (h : HandlerId) (s : Session) (e : Event) : List Delivery :=
  (arrival? h s e).elim [] fun p => [p.2]

/-- The delivery that reaches a receiving consumer at an event, unless its conversion fails. -/
def unfailed (h : HandlerId) (s : Session) (e : Event) : List Delivery :=
  (arrival? h s e).elim [] fun p => p.1.unfailed p.2

/-- Apart from the settlements, all that a receiving consumer sends is its cancel. -/
theorem cancel_of_attempted {s : Session} {h : HandlerId} {e : Event} {r : Receiver} {c : Command}
    (there : s.receiver? h = some r) (other : ∀ d, s.handed? e ≠ some (h, d))
    (sends : attempted h s e = some c) : c = .cancel r.tag := by
  rcases attempted_cases there sends with ⟨d, handed, -⟩ | ⟨k, -, cancels⟩
  · exact absurd handed (other d)
  · unfold Receiver.cancellation? at cancels
    split at cancels
    · cases cancels
    · exact (Option.some.inj cancels).symm

theorem command?_eq_plan {s : Session} {h : HandlerId} {e : Event} {r : Receiver} {d : Delivery}
    (fits : r.buffer.length ≤ r.capacity) (arrives : arrival? h s e = some (r, d)) :
    s.command? e = (r.plan d).2 := by
  rw [command?_of_arrival arrives, Receiver.settlement?_eq fits]

theorem answer_of_unrefused {s : Session} {h : HandlerId} {e : Event} {p : Receiver × Delivery}
    (arrives : arrival? h s e = some p) (accepted : refused h s e = []) : s.answer e = .ok () := by
  rw [refused, arrives, Option.elim_some] at accepted
  cases answer : s.answer e with
  | ok u => rfl
  | error error =>
    rw [answer] at accepted
    cases accepted

/-- What the channel takes of the settlements of a consumer is what the plans say, as long as it
refuses none. -/
theorem settled_eq_planned {s : Session} {h : HandlerId} {e : Event}
    (fits : ∀ r, s.receiver? h = some r → r.buffer.length ≤ r.capacity)
    (accepted : refused h s e = []) : settled h s e = planned h s e := by
  unfold settled planned
  cases arrives : arrival? h s e with
  | some p =>
    obtain ⟨r, d⟩ := p
    obtain ⟨there, handed⟩ := arrival?_eq_some.mp arrives
    have occurs := happening_eq_delivery.mpr ⟨handed, rfl, rfl⟩
    rw [there, occurs, if_pos ⟨rfl, rfl⟩, recorded_eq, answer_of_unrefused arrives accepted,
      Option.elim_some,
      command?_eq_plan (fits r there) arrives]
    cases due : (r.plan d).2 with
    | none => rfl
    | some c =>
      have settles := Receiver.settles?_of_plan due
      simp [settles]
  | none =>
    rw [Option.elim_none]
    split
    · next concerned =>
      obtain ⟨r, there⟩ := Option.isSome_iff_exists.mp concerned.1
      have other : ∀ d, s.handed? e ≠ some (h, d) := by
        intro d handed
        rw [arrival?_eq_some.mpr ⟨there, handed⟩] at arrives
        cases arrives
      rw [List.filter_eq_nil_iff]
      intro c taken
      rw [recorded_eq] at taken
      split at taken
      · have sends : s.command? e = some c := Option.mem_toList.mp taken
        have tries := attempted_eq_some.mpr ⟨concerns_iff.mp concerned.2, sends⟩
        rw [cancel_of_attempted there other tries]
        exact nofun
      · cases taken
    · rfl

theorem unfailed_sublist (h : HandlerId) (s : Session) (e : Event) :
    (unfailed h s e).Sublist (arrived h s e) := by
  unfold unfailed arrived
  cases arrival? h s e with
  | none => exact List.Sublist.refl _
  | some p =>
    rw [Option.elim_some, Option.elim_some, Receiver.unfailed]
    split
    · exact List.Sublist.refl _
    · split
      · exact List.nil_sublist _
      · exact List.Sublist.refl _

/-- The plans of a run settle, in order, the deliveries whose conversion does not fail. -/
theorem planned_settles (h : HandlerId) (s : Session) (es : List Event) :
    (trace (planned h) s es).map Command.settles? =
      (trace (unfailed h) s es).map (some ·.tag) := by
  rw [trace_map, trace_map]
  apply trace_congr_run
  intro before e after _
  unfold planned unfailed
  cases arrival? h (s.run before) e with
  | none => rfl
  | some p => exact p.1.plan_toList_map p.2

/-- Of commands that settle different deliveries, no two settle the same one in different ways. -/
theorem not_nack_of_ack {commands : List Command} (distinct : (commands.map (·.settles?)).Nodup)
    {tag : DeliveryTag} {multiple : Bool} (requeue : Bool) (acks : .ack tag multiple ∈ commands) :
    .nack tag requeue ∉ commands := by
  intro nacks
  cases List.inj_on_of_nodup_map distinct acks nacks rfl

/-- **Exactly one settlement**: whatever has happened so far, a delivery goes as planned, whether or
not the channel takes the command; and apart from that the consumer sends nothing but its cancel.
In a run in which the channel takes the settlements, they are those of the plans, in the order of
the deliveries and one for each delivery that does not fail to convert; and if the deliveries have
different tags, none is both acknowledged and rejected. -/
theorem settlement_exact (confirms : Bool) (es : List Event) (h : HandlerId) :
    (∀ e r, ((initial confirms).run es).receiver? h = some r →
      (∀ d, ((initial confirms).run es).handed? e = some (h, d) →
        attempted h ((initial confirms).run es) e = (r.plan d).2 ∧
        ∃ r', (((initial confirms).run es).apply e).receiver? h = some r' ∧
          r'.buffer = r.buffer ++ (r.plan d).1) ∧
      ((∀ d, ((initial confirms).run es).handed? e ≠ some (h, d)) →
        ∀ c, attempted h ((initial confirms).run es) e = some c → c = .cancel r.tag)) ∧
    (trace (refused h) (initial confirms) es = [] →
      trace (settled h) (initial confirms) es = trace (planned h) (initial confirms) es ∧
      (trace (settled h) (initial confirms) es).map Command.settles? =
        (trace (unfailed h) (initial confirms) es).map (some ·.tag) ∧
      (((trace (arrived h) (initial confirms) es).map Delivery.tag).Nodup →
        ∀ tag multiple requeue, .ack tag multiple ∈ trace (settled h) (initial confirms) es →
          .nack tag requeue ∉ trace (settled h) (initial confirms) es)) := by
  constructor
  · intro e r there
    -- One event: the verdict on a delivery and the plan differ only for a buffer that is too full.
    have fits := buffer_length_le there
    constructor
    · intro d handed
      have occurs := happening_eq_delivery.mpr ⟨handed, rfl, rfl⟩
      have sends := command?_eq_plan fits (arrival?_eq_some.mpr ⟨there, handed⟩)
      refine ⟨?_, _, receiver?_apply e there, ?_⟩
      · rw [attempted, occurs, sends]
        rfl
      · rw [occurs, Receiver.react, Receiver.deliver_buffer, Receiver.welcomed_eq fits]
    · intro other c sends
      exact cancel_of_attempted there other sends
  · intro accepted
    -- A whole run: event by event, what the channel takes is what was planned.
    have as_planned :
        trace (settled h) (initial confirms) es = trace (planned h) (initial confirms) es := by
      apply trace_congr_run
      intro before e after split
      apply settled_eq_planned
      · exact fun r there => buffer_length_le there
      · rw [List.eq_nil_iff_forall_not_mem] at accepted ⊢
        intro error seen
        exact accepted error ((mem_trace _ _ _ _).mpr ⟨before, e, after, split, seen⟩)
    rw [as_planned]
    refine ⟨rfl, planned_settles h _ es, ?_⟩
    intro distinct tag multiple requeue
    apply not_nack_of_ack
    -- The tags that are settled are some of those that have arrived.
    have different := ((trace_sublist (unfailed_sublist h) _ es).map Delivery.tag).nodup distinct
    have as_options := different.map fun _ _ same => Option.some.inj same
    rw [List.map_map] at as_options
    rw [planned_settles]
    exact as_options

/-- One delivery is kept, one finds no room, and one comes after the end. -/
def keptRefusedLate : List Event :=
  [.addReceiver ⟨"orders"⟩ ⟨"clerk"⟩ (standardConverter 100) none
      { batchingSize := 1, requeueAfterCancel := false },
    .call (.deliver 0 (.bare ⟨1⟩)), .step 0, .call (.deliver 0 (.bare ⟨2⟩)), .step 1,
    .cancelOk 0 ⟨"clerk"⟩, .call (.deliver 0 (.bare ⟨3⟩)), .step 2]

theorem settlement_exact_keptRefusedLate :
    trace (refused 0) (initial true) keptRefusedLate = [] ∧
      trace (settled 0) (initial true) keptRefusedLate =
        [.ack ⟨1⟩ false, .nack ⟨2⟩ true, .nack ⟨3⟩ false] :=
  ⟨rfl, ((settlement_exact true keptRefusedLate 0).2 rfl).1⟩

end Session
end Intake
