import Intake.Proofs.Browser.Latch
import Intake.Proofs.Channel.Callbacks

/-!
# The consumer of a scan

A scan makes a browsing consumer for itself and lets nobody else have it. So long as no event of a
run touches that consumer, all that happens to it comes from its own registration or from the scan
(`Secluded`), and the deliveries that reach it are those that serve its registration
(`handed?_iff_served`).
-/
namespace Intake

/-- The consumer of a scan that waits for it. -/
def Task.scans? : Task → Option HandlerId
  | .scanning h _ => some h
  | _ => none

namespace Session

/-- Whether an event has to do with a consumer that somebody names. -/
def Event.touches (h : HandlerId) : Event → Bool
  | .command (.consume _ _ h') => h' == h
  | .call (.deliver h' _) => h' == h
  | .cancelOk h' _ => h' == h
  | .cancelledByBroker h' _ => h' == h
  | .cancelBrowser h' => h' == h
  | .takeCollected h' => h' == h
  | _ => false

/-- No event has to do with a consumer. -/
def Apart (h : HandlerId) (es : List Event) : Prop := ∀ e ∈ es, e.touches h = false

instance (h : HandlerId) (es : List Event) : Decidable (Apart h es) :=
  inferInstanceAs (Decidable (∀ e ∈ es, e.touches h = false))

theorem apart_append {h : HandlerId} {es fs : List Event} :
    Apart h (es ++ fs) ↔ Apart h es ∧ Apart h fs := List.forall_mem_append

theorem apart_concat {h : HandlerId} {es : List Event} {e : Event} :
    Apart h (es ++ [e]) ↔ Apart h es ∧ e.touches h = false := by
  rw [apart_append]
  exact and_congr_right' List.forall_mem_singleton

/-- Nobody has a consumer but one registration and one scan. -/
structure Secluded (h : HandlerId) (g : RegistrationId) (k : TaskId) (s : Session) : Prop where
  no_call : ∀ j d, s.task? j ≠ some (.start (.deliver h d))
  only_registration : ∀ r, s.channel.handler? r = some h → r = g
  only_scan : ∀ j t, s.task? j = some t → t.scans? = some h → j = k

/-! ### Scans that begin -/

/-- What a step leaves of a task is no call that has yet to begin, and it is a scan that waits only if
the scan begins now. -/
theorem waits_of_fate {s : Session} {k : TaskId} {t u : Task} {answer : Except TransportError Unit}
    (left : (s.fate k answer t).task? t = some u) :
    u.isStart = false ∧ ∀ h, u.scans? = some h →
      ∃ queue converter request, t = .start (.scan queue converter request) ∧
        request.expected ≠ 0 ∧ h = s.consumers.length := by
  obtain ⟨begun, waits⟩ := left_of_fate left
  refine ⟨begun, fun h scans => ?_⟩
  cases u with
  | scanning h' deadline =>
    cases scans
    rcases waits h deadline rfl with ⟨-, -, other, -⟩ |
      ⟨queue, converter, request, begins, some_wanted, made, -⟩
    · cases other
    · exact ⟨queue, converter, request, begins, some_wanted, made⟩
  | _ => cases scans

/-- A scan that begins makes its consumer. -/
theorem browser?_of_scan {s : Session} {e : Event} {k : TaskId} {queue : QueueName}
    {converter : Converter} {request : ScanRequest}
    (acts : s.acting? e = some (k, .start (.scan queue converter request)))
    (some_wanted : request.expected ≠ 0) :
    (s.apply e).browser? s.consumers.length =
      some (.create s.freshTag converter request.expected.toNat request.selector) := by
  obtain ⟨rfl, -⟩ := acting?_eq_some.mp acts
  apply browser?_eq_some.mpr
  simp only [apply_step, acts, outline, meet_consumers, move_consumers, taskHappening?, alterIfAny,
    sendIfAny_consumers, enrol, if_neg some_wanted]
  rw [addConsumer, List.getElem?_append_right (Nat.le_refl _), Nat.sub_self]
  rfl

theorem length_lt_of_scan {s : Session} {e : Event} {k : TaskId} {queue : QueueName}
    {converter : Converter} {request : ScanRequest}
    (acts : s.acting? e = some (k, .start (.scan queue converter request)))
    (some_wanted : request.expected ≠ 0) :
    s.consumers.length < (s.apply e).consumers.length :=
  (List.getElem?_eq_some_iff.mp (browser?_eq_some.mp (browser?_of_scan acts some_wanted))).1

/-! ### Seclusion is kept -/

section Keeping

variable {h : HandlerId} {g : RegistrationId} {k : TaskId} {s : Session}

/-- An event that does not touch the consumer keeps it secluded, unless it makes a registration or a
scan that is not its own. -/
theorem Secluded.apply (orderly : s.Orderly) (secluded : Secluded h g k s) {e : Event}
    (apart : e.touches h = false)
    (registers : ∀ queue tag, s.taken? e = some (.consume queue tag h) →
      s.channel.registrations.length = g)
    (scans : ∀ j queue converter request,
      s.acting? e = some (j, .start (.scan queue converter request)) → request.expected ≠ 0 →
      h = s.consumers.length → j = k) :
    Secluded h g k (s.apply e) where
  no_call := by
    intro j d there
    rw [task?_apply orderly.numbered, Option.or_eq_some_iff] at there
    rcases there with old | ⟨-, new⟩
    · rcases survivor?_cases old with ⟨t, -, left⟩ | was
      · have begun := (waits_of_fate left).1
        cases begun
      · exact secluded.no_call j d was
    · split at new
      · rcases born?_cases new with ⟨c, rfl, same⟩ | ⟨_, _, _, -, no⟩ | ⟨_, _, -, -, no⟩
        · cases same
          simp [Event.touches] at apart
        · cases no
        · cases no
      · cases new
  only_registration := by
    intro r handler
    rcases handler?_apply_cases handler with before | ⟨⟨queue, tag, taken⟩, new⟩
    · exact secluded.only_registration r before
    · exact new.trans (registers queue tag taken)
  only_scan := by
    intro j u there waits
    rw [task?_apply orderly.numbered, Option.or_eq_some_iff] at there
    rcases there with old | ⟨-, new⟩
    · rcases survivor?_cases old with ⟨t, acts, left⟩ | was
      · obtain ⟨queue, converter, request, rfl, some_wanted, known⟩ :=
          (waits_of_fate left).2 h waits
        exact scans j queue converter request acts some_wanted known
      · exact secluded.only_scan j u was waits
    · split at new
      · rcases born?_cases new with ⟨c, -, rfl⟩ | ⟨_, _, _, -, rfl⟩ | ⟨_, _, -, -, rfl⟩ <;> cases waits
      · cases new

/-- A registration of a consumer that nobody names is made by the scan whose consumer it is. -/
theorem scan_of_consume {e : Event} (apart : e.touches h = false) {queue : QueueName}
    {tag : ConsumerTag} (taken : s.taken? e = some (.consume queue tag h)) :
    ∃ j converter request, s.acting? e = some (j, .start (.scan queue converter request)) ∧
      request.expected ≠ 0 ∧ h = s.consumers.length := by
  rcases consume_cases (taken?_eq_some.mp taken).1 with rfl |
    ⟨j, converter, request, acts, some_wanted, -, known⟩
  · simp [Event.touches] at apart
  · exact ⟨j, converter, request, acts, some_wanted, known⟩

/-- A consumer stays secluded that is there already or is yet to be made. -/
theorem Secluded.apply_of_not_made (orderly : s.Orderly) (secluded : Secluded h g k s) {e : Event}
    (apart : e.touches h = false)
    (not_made : h = s.consumers.length → (s.apply e).consumers.length ≤ h) :
    Secluded h g k (s.apply e) := by
  have no_scan (j : TaskId) (queue : QueueName) (converter : Converter) (request : ScanRequest)
      (acts : s.acting? e = some (j, .start (.scan queue converter request)))
      (some_wanted : request.expected ≠ 0) (known : h = s.consumers.length) : False := by
    have longer := length_lt_of_scan acts some_wanted
    rw [← known] at longer
    exact Nat.not_lt_of_le (not_made known) longer
  refine secluded.apply orderly apart ?_ ?_
  · intro queue tag taken
    obtain ⟨j, converter, request, acts, some_wanted, known⟩ := scan_of_consume apart taken
    exact (no_scan j queue converter request acts some_wanted known).elim
  · intro j queue converter request acts some_wanted known
    exact (no_scan j queue converter request acts some_wanted known).elim

end Keeping

/-- Before a consumer is made it is secluded, if nobody names it. -/
theorem secluded_before (confirms : Bool) (es : List Event) {h : HandlerId}
    (unknown : ((initial confirms).run es).consumers.length ≤ h)
    (apart : Apart h es) (g : RegistrationId) (k : TaskId) :
    Secluded h g k ((initial confirms).run es) := by
  induction es using List.reverseRecOn with
  | nil =>
    exact {
      no_call := fun j d there => by cases there
      only_registration := fun r handler => by cases handler
      only_scan := fun j t there => by cases there }
  | append_singleton es e ih =>
    obtain ⟨earlier, now⟩ := apart_concat.mp apart
    rw [run_concat] at unknown ⊢
    have before := ih (Nat.le_trans (length_consumers_le_apply _ e) unknown) earlier
    exact before.apply_of_not_made (orderly_run confirms es) now (fun _ => unknown)

/-- The deliveries that reach a consumer are those that serve its registration, if it has no other one
and nobody hands it a delivery without the channel. -/
theorem handed?_iff_served {h : HandlerId} {g : RegistrationId} {s : Session} (orderly : s.Orderly)
    (no_call : ∀ j d, s.task? j ≠ some (.start (.deliver h d)))
    (only_registration : ∀ r, s.channel.handler? r = some h → r = g)
    (handler : s.channel.handler? g = some h) {e : Event} {d : Delivery} :
    s.handed? e = some (h, d) ↔ ∃ j, served g s e = [(j, d)] := by
  constructor
  · intro handed
    obtain ⟨⟨j, t⟩, acts, hands⟩ := Option.bind_eq_some_iff.mp handed
    change s.taskHands? t = some (h, d) at hands
    unfold taskHands? at hands
    split at hands
    · cases hands
      exact absurd (acting?_eq_some.mp acts).2.1 (no_call j d)
    · next r d' =>
      obtain ⟨h', known, same⟩ := Option.map_eq_some_iff.mp hands
      cases same
      cases only_registration r known
      refine ⟨j, ?_⟩
      rw [served, acts]
      exact if_pos rfl
    · cases hands
  · rintro ⟨j, serves⟩
    obtain ⟨h', handler', handed⟩ := handed?_of_served (d := d) (k := j) orderly
      (by rw [serves]; exact List.mem_singleton.mpr rfl)
    rw [handler] at handler'
    cases handler'
    exact handed

end Session
end Intake
