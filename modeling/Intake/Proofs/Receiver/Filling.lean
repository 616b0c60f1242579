import Intake.Proofs.Receiver.Settlement

/-!
# How deliveries fill a buffer

While a consumer goes on and nobody takes a message from it, its buffer fills with the first messages
that it wants. Up to some point of the deliveries there is room for all of these, and after it there is
none (`Filled`), which tells what is kept and how each delivery is settled (`Filled.outcome`).
-/
namespace Intake

namespace Command

/-- The delivery that a command acknowledges. -/
def acked? : Command → Option DeliveryTag
  | .ack tag _ => some tag
  | _ => none

/-- The delivery that a command rejects, and whether it asks for a requeue. -/
def nacked? : Command → Option (DeliveryTag × Bool)
  | .nack tag requeue => some (tag, requeue)
  | _ => none

end Command

namespace Receiver

/-- Whether a message can be made of a delivery. -/
def converts (r : Receiver) (d : Delivery) : Bool := (r.converter d).isOk

/-- Whether a message can be made of a delivery that the selector wants. -/
def wants (r : Receiver) (d : Delivery) : Bool := (r.wanted? d).isSome

/-- The command with which a consumer that goes on settles a delivery, if it has room for its message
or not. -/
def settling (r : Receiver) (room : Bool) (d : Delivery) : Option Command :=
  if r.converts d then
    if r.wants d && !room then some (.nack d.tag r.config.requeueOnOverflow)
    else some (.ack d.tag false)
  else none

/-- The buffer and the settlements of a consumer that has had some deliveries: there has been room for
the messages that it wants up to some point, and no more after it. -/
def Filled (r : Receiver) (deliveries : List Delivery) (buffer : List Message)
    (settled : List Command) : Prop :=
  ∃ first rest, deliveries = first ++ rest ∧ buffer = first.filterMap r.wanted? ∧
    settled = first.filterMap (r.settling true) ++ rest.filterMap (r.settling false) ∧
    buffer.length ≤ r.capacity ∧ (rest = [] ∨ buffer.length = r.capacity)

/-! ### One more delivery -/

theorem filterMap_concat {α β : Type} (f : α → Option β) (l : List α) (a : α) :
    (l ++ [a]).filterMap f = l.filterMap f ++ (f a).toList := by
  rw [List.filterMap_append]
  cases known : f a <;> simp [known]

theorem converts_of_wants {r : Receiver} {d : Delivery} (wants : r.wants d = true) :
    r.converts d = true := by
  unfold Receiver.wants wanted? at wants
  unfold converts
  cases converted : r.converter d with
  | ok m => rfl
  | error e =>
    rw [converted] at wants
    cases wants

/-- The plan of a consumer that goes on depends on nothing but whether there is room. -/
theorem plan_of_going {r : Receiver} (going : r.state ≠ .cancelled) (d : Delivery) :
    r.plan d = if r.buffer.length = r.capacity then ([], r.settling false d)
      else ((r.wanted? d).toList, r.settling true d) := by
  unfold plan settling converts wants wanted? capacity
  rw [if_neg going]
  cases r.converter d with
  | error e => simp [Except.isOk, Except.toBool]
  | ok m =>
    cases selected : selects r.selector m with
    | false => simp [Except.isOk, Except.toBool, selected]
    | true =>
      by_cases full : r.buffer.length = r.config.batchingSize.toNat
      · simp [Except.isOk, Except.toBool, selected, full]
      · simp [Except.isOk, Except.toBool, selected, full]

theorem filled_nil (r : Receiver) : r.Filled [] [] [] :=
  ⟨[], [], rfl, rfl, rfl, Nat.zero_le _, .inl rfl⟩

/-- How a buffer fills depends only on what the consumer was made with. -/
theorem filled_congr {r r' : Receiver} (same : r.settings = r'.settings) : r.Filled = r'.Filled := by
  have wanted := wanted?_congr same
  have converter := converter_congr same
  have config : r.config = r'.config := congrArg (·.2.2.2.2) same
  have settling : r.settling = r'.settling := by
    funext room d
    rw [Receiver.settling, Receiver.settling, converts, converts, wants, wants, converter, wanted,
      config]
  have capacity : r.capacity = r'.capacity := congrArg (·.batchingSize.toNat) config
  funext deliveries buffer settled
  rw [Filled, Filled, wanted, settling, capacity]

theorem Filled.append {r : Receiver} {deliveries : List Delivery} {settled : List Command}
    (filled : r.Filled deliveries r.buffer settled) (going : r.state ≠ .cancelled) (d : Delivery) :
    r.Filled (deliveries ++ [d]) (r.buffer ++ (r.plan d).1) (settled ++ (r.plan d).2.toList) := by
  obtain ⟨first, rest, rfl, buffer, rfl, fits, full⟩ := filled
  rw [plan_of_going going]
  -- Without room the point stays where it is, and with room it is still at the end.
  by_cases no_room : r.buffer.length = r.capacity
  · rw [if_pos no_room, List.append_nil]
    refine ⟨first, rest ++ [d], List.append_assoc .., buffer, ?_, fits, .inr no_room⟩
    rw [filterMap_concat, List.append_assoc]
  · obtain rfl := full.resolve_right no_room
    rw [if_neg no_room]
    refine ⟨first ++ [d], [], by simp, ?_, ?_, ?_, .inl rfl⟩
    · rw [filterMap_concat, ← buffer]
    · rw [filterMap_concat, List.filterMap_nil, List.append_nil, List.append_nil]
    · have one : (r.wanted? d).toList.length ≤ 1 := by cases r.wanted? d <;> simp
      rw [List.length_append]
      exact Nat.le_trans (Nat.add_le_add_left one _) (Nat.lt_of_le_of_ne fits no_room)

/-! ### What is kept and how deliveries are settled -/

/-- What becomes of deliveries that come to a consumer: it keeps the first messages that it wants, as
many as there is room for; it acknowledges those deliveries, up to some point, and all along the ones
that convert and are unwanted; it rejects those that it wants but has no room for; and it settles
the deliveries that convert, each once and in order, and no others. -/
structure Outcome (r : Receiver) (deliveries : List Delivery) (buffer : List Message)
    (settled : List Command) : Prop where
  kept : buffer = (deliveries.filterMap r.wanted?).take r.capacity
  acked : ∃ first rest, deliveries = first ++ rest ∧ first.filterMap r.wanted? = buffer ∧
    settled.filterMap Command.acked? =
      (first.filter r.converts ++ rest.filter fun d => r.converts d && !r.wants d).map Delivery.tag
  nacked : settled.filterMap Command.nacked? =
    ((deliveries.filter r.wants).drop r.capacity).map fun d => (d.tag, r.config.requeueOnOverflow)
  settles : settled.map Command.settles? = (deliveries.filter r.converts).map (some ·.tag)

theorem map_filter_eq_filterMap {α β : Type} (p : α → Bool) (f : α → β) (l : List α) :
    (l.filter p).map f = l.filterMap fun a => if p a then some (f a) else none := by
  rw [← List.filterMap_eq_map', List.filterMap_filter]

theorem settling_acked? (r : Receiver) (room : Bool) (d : Delivery) :
    (r.settling room d).bind Command.acked? =
      if r.converts d && (!r.wants d || room) then some d.tag else none := by
  unfold settling
  cases r.converts d <;> cases r.wants d <;> cases room <;> rfl

theorem settling_nacked? (r : Receiver) (room : Bool) (d : Delivery) :
    (r.settling room d).bind Command.nacked? =
      if r.wants d && !room then some (d.tag, r.config.requeueOnOverflow) else none := by
  unfold settling
  cases converted : r.converts d with
  | true => cases r.wants d <;> cases room <;> rfl
  | false =>
    have unwanted : r.wants d = false := by
      rw [← Bool.not_eq_true]
      intro wants
      rw [converts_of_wants wants] at converted
      cases converted
    simp [unwanted]

theorem settling_settles? (r : Receiver) (room : Bool) (d : Delivery) :
    (r.settling room d).map Command.settles? = if r.converts d then some (some d.tag) else none := by
  unfold settling
  cases r.converts d <;> cases r.wants d <;> cases room <;> rfl

theorem length_filter_wants (r : Receiver) (deliveries : List Delivery) :
    (deliveries.filter r.wants).length = (deliveries.filterMap r.wanted?).length := by
  rw [List.length_filterMap_eq_countP, List.countP_eq_length_filter]
  rfl

theorem Filled.outcome {r : Receiver} {deliveries : List Delivery} {buffer : List Message}
    {settled : List Command} (filled : r.Filled deliveries buffer settled) :
    r.Outcome deliveries buffer settled := by
  obtain ⟨first, rest, rfl, rfl, rfl, fits, full⟩ := filled
  -- Past the point from which on there is no room lie all wanted deliveries beyond the capacity.
  have beyond : ((first ++ rest).filter r.wants).drop r.capacity = rest.filter r.wants := by
    rw [List.filter_append]
    rcases full with rfl | full
    · rw [List.filter_nil, List.append_nil]
      exact List.drop_of_length_le (r.length_filter_wants first ▸ fits)
    · exact List.drop_left' (r.length_filter_wants first ▸ full)
  constructor
  · rw [List.filterMap_append]
    rcases full with rfl | full
    · rw [List.filterMap_nil, List.append_nil, List.take_of_length_le fits]
    · rw [List.take_left' full]
  · refine ⟨first, rest, rfl, rfl, ?_⟩
    simp only [List.filterMap_append, List.filterMap_filterMap, settling_acked?, List.map_append,
      map_filter_eq_filterMap, Bool.or_true, Bool.or_false, Bool.and_true]
  · rw [beyond]
    simp only [List.filterMap_append, List.filterMap_filterMap, settling_nacked?,
      map_filter_eq_filterMap, Bool.not_true, Bool.not_false, Bool.and_false, Bool.and_true]
    simp
  · simp only [List.map_append, List.map_filterMap, settling_settles?, List.filter_append,
      map_filter_eq_filterMap]

end Receiver
end Intake
