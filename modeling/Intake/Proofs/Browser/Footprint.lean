import Intake.Proofs.Browser.Requests
import Intake.Proofs.Browser.Scan
import Intake.Proofs.Channel.Contents
import Intake.Proofs.Consumer.Ending

/-!
# The footprint of a scan

The footprint of a scan consists of the commands that its call and its consumer send and the channel
takes. Only the scan itself asks its consumer to end (`Secluded.unasked`), and after its beginning the
footprint is what the consumer sends (`footprint_eq_granted`). A scan that is refused leaves none
(`Forsaken.silent_run`).
-/
namespace Intake

/-- Whether a consumer is asked to end, or to end if its time is over. -/
def Happening.asks : Happening → Bool
  | .endBrowsing _ => true
  | .endScan _ => true
  | _ => false

namespace Browser

/-- As long as it is not asked to end, a consumer asks for its end exactly when nothing is missing. -/
theorem react_spent {b : Browser} (spent : b.cancelIssued = true ↔ b.remaining = 0) {x : Happening}
    (unasked : x.asks = false) :
    (b.react x).cancelIssued = true ↔ (b.react x).remaining = 0 := by
  cases x with
  | delivery d now answer =>
    by_cases completes : b.completes d = true
    · have last := remaining_of_completes completes answer
      have issued : (b.deliver d answer).1.cancelIssued = true := by
        rw [deliver_eq, if_pos completes, cancel_issued]
      exact iff_of_true issued last
    · rw [react, deliver_eq, if_neg completes, keep_issued, spent]
      unfold Browser.completes at completes
      unfold keep
      cases verdict : b.verdict d with
      | collected m =>
        -- A message that is collected was missing, and it is not the last.
        have some_missing := (verdict_eq_collected.mp verdict).2
        rw [verdict] at completes
        simp only [decide_eq_true_eq] at completes
        simp only
        omega
      | _ => rfl
  | endBrowsing | endScan => cases unasked
  | _ => exact spent

/-- A consumer that has ended does not ask for its end. -/
theorem react_issued_of_ended {b : Browser} (ended : b.state = .cancelled) {x : Happening}
    (unasked : x.asks = false) : (b.react x).cancelIssued = b.cancelIssued := by
  rcases b.request?_cases x with ⟨-, same⟩ | ⟨sends, -, -⟩
  · exact same
  · cases x with
    | delivery d now answer =>
      rw [request?, command?_of_ended ended] at sends
      cases sends
    | endBrowsing | endScan => cases unasked
    | _ => cases sends

/-- Only a delivery makes a consumer send something that is not asked to end. -/
theorem request?_of_unasked {b : Browser} {x : Happening} (unasked : x.asks = false)
    (unserved : ∀ d now answer, x ≠ .delivery d now answer) : b.request? x = none := by
  cases x with
  | delivery d now answer => exact absurd rfl (unserved d now answer)
  | endBrowsing | endScan => cases unasked
  | _ => rfl

end Browser

namespace Session

/-- What is seen once in a run is seen at one event, and nothing is seen before it or after it. -/
theorem once_of_trace {α : Type} {see : Session → Event → List α} {s : Session} {es : List Event}
    {a : α} (once : trace see s es = [a]) :
    ∃ before e after, es = before ++ e :: after ∧ see (s.run before) e = [a] ∧
      trace see s before = [] ∧ trace see ((s.run before).apply e) after = [] := by
  induction es generalizing s with
  | nil => cases once
  | cons e es ih =>
    rw [trace] at once
    rcases List.append_eq_singleton_iff.mp once with ⟨nothing, later⟩ | ⟨now, nothing⟩
    · obtain ⟨before, d, after, rfl, seen, none_before, none_after⟩ := ih later
      refine ⟨e :: before, d, after, rfl, seen, ?_, none_after⟩
      rw [trace, nothing, none_before]
      rfl
    · exact ⟨[], e, es, rfl, now, rfl, nothing⟩

/-! ### Who asks for the end of the consumer of a scan -/

theorem scans?_of_asks {s : Session} {k : TaskId} {t : Task} {h : HandlerId} {x : Happening}
    {answer : Except TransportError Unit} (does : s.taskHappening? k answer t = some (h, x))
    (asks : x.asks = true) : t.scans? = some h := by
  cases affects_of_does does with
  | scanned => rfl
  | _ => cases asks

/-- Only its scan asks a secluded consumer to end. -/
theorem Secluded.unasked {h : HandlerId} {g : RegistrationId} {k : TaskId} {s : Session}
    (secluded : Secluded h g k s) {e : Event} (apart : e.touches h = false)
    (others : ∀ u, s.acting? e ≠ some (k, u)) : (s.happening h e).asks = false := by
  rw [← Bool.not_eq_true]
  intro asks
  have concerned : s.happening h e ≠ .nothing := by
    intro nothing
    rw [nothing] at asks
    cases asks
  rcases Session.happening_cases rfl concerned with ⟨j, t, acts, does⟩ | ⟨_, -, occurs⟩ |
    ⟨_, -, occurs⟩ | ⟨rfl, -⟩ | ⟨-, occurs⟩ | ⟨_, -, occurs⟩
  · have itself := secluded.only_scan j t (acting?_eq_some.mp acts).2.1 (scans?_of_asks does asks)
    exact others t (itself ▸ acts)
  · rw [occurs] at asks
    cases asks
  · rw [occurs] at asks
    cases asks
  · simp [Event.touches] at apart
  · rw [occurs] at asks
    cases asks
  · rw [occurs] at asks
    cases asks

/-! ### Footprints -/

/-- The commands that the channel takes of a scan: those at a step of its call, and those at what
happens to its consumer. -/
def footprint (k : TaskId) (h : HandlerId) (s : Session) (e : Event) : List Command :=
  if (s.acting? e).any (·.1 = k) ∨ concerns (s.happening h e) = true then s.recorded e else []

/-- The commands of a browsing consumer that the channel takes. -/
def granted (h : HandlerId) (s : Session) (e : Event) : List Command :=
  match s.answer e with
  | .ok () => requested h s e
  | .error _ => []

theorem granted_sublist (h : HandlerId) (s : Session) (e : Event) :
    (granted h s e).Sublist (requested h s e) := by
  unfold granted
  split
  · exact List.Sublist.refl _
  · exact List.nil_sublist _

theorem trace_granted_of_unrequested {h : HandlerId} {s : Session} {es : List Event}
    (nothing : trace (requested h) s es = []) : trace (granted h) s es = [] :=
  List.sublist_nil.mp (nothing ▸ trace_sublist (granted_sublist h) s es)

/-- A consumer sends what it asks for if the channel is open, as no failure of a command is due. -/
theorem granted_of_cancel {s : Session} (none_due : s.faults = []) {h : HandlerId} {e : Event}
    {tag : ConsumerTag} (sends : requested h s e = [.cancel tag]) :
    s.command? e = some (.cancel tag) ∧
      granted h s e = if s.channel.isOpen = true then [.cancel tag] else [] := by
  have command : s.command? e = some (.cancel tag) := by
    unfold requested at sends
    split at sends
    · have attempts : attempted h s e = some (.cancel tag) := by
        cases attempts : attempted h s e with
        | none =>
          rw [attempts] at sends
          cases sends
        | some c =>
          rw [attempts] at sends
          cases sends
          rfl
      exact (attempted_eq_some.mp attempts).2
    · cases sends
  refine ⟨command, ?_⟩
  rw [granted]
  by_cases opened : s.channel.isOpen = true
  · rw [if_pos opened, (answer_of_cancel none_due command).mpr opened, sends]
  · rw [if_neg opened]
    split
    · next fine => exact absurd ((answer_of_cancel none_due command).mp fine) opened
    · rfl

/-- Apart from its beginning, a scan leaves in the channel what its consumer sends. -/
theorem footprint_eq_granted {s : Session} {k : TaskId} {h : HandlerId} {b : Browser}
    (there : s.browser? h = some b) {e : Event}
    (own : ∀ u, s.acting? e = some (k, u) → concerns (s.happening h e) = true) :
    footprint k h s e = granted h s e := by
  have same : ((s.acting? e).any (·.1 = k) ∨ concerns (s.happening h e) = true) ↔
      concerns (s.happening h e) = true := by
    refine ⟨fun either => either.elim (fun own_step => ?_) id, .inr⟩
    cases acts : s.acting? e with
    | none =>
      rw [acts] at own_step
      cases own_step
    | some a =>
      rw [acts] at own_step
      exact own a.2 (of_decide_eq_true own_step ▸ acts)
  simp only [footprint, same, granted, requested, there, Option.isSome_some, if_true, attempted,
    recorded_eq]
  split <;> cases s.answer e <;> rfl

/-! ### Scans that are refused -/

theorem not_acting_of_gone {s : Session} {k : TaskId} (gone : s.task? k = none) (e : Event)
    (t : Task) : s.acting? e ≠ some (k, t) := by
  intro acts
  have there := (acting?_eq_some.mp acts).2.1
  rw [gone] at there
  cases there

/-- The consumer of a scan that was refused: it has no registration, its scan has returned, and nobody
names it. -/
structure Forsaken (h : HandlerId) (k : TaskId) (s : Session) : Prop where
  orderly : s.Orderly
  -- whatever registration it might have
  secluded : ∀ g, Secluded h g k s
  browser : ∃ b, s.browser? h = some b
  old : k < s.nextTask
  gone : s.task? k = none

theorem Forsaken.apply {h : HandlerId} {k : TaskId} {s : Session} (forsaken : Forsaken h k s)
    {e : Event} (apart : e.touches h = false) : Forsaken h k (s.apply e) where
  orderly := forsaken.orderly.apply e
  secluded := by
    obtain ⟨b, there⟩ := forsaken.browser
    have known := (List.getElem?_eq_some_iff.mp (browser?_eq_some.mp there)).1
    exact fun g => (forsaken.secluded g).apply_of_not_made forsaken.orderly apart
      fun same => absurd same (Nat.ne_of_lt known)
  browser := by
    obtain ⟨b, there⟩ := forsaken.browser
    exact ⟨_, browser?_apply e there⟩
  old := by
    rw [nextTask_apply]
    exact Nat.lt_add_right _ forsaken.old
  gone := task?_of_gone forsaken.orderly.numbered e forsaken.old forsaken.gone

/-- No delivery reaches a consumer that has no registration. -/
theorem Forsaken.unserved {h : HandlerId} {k : TaskId} {s : Session} (forsaken : Forsaken h k s)
    (e : Event) (d : Delivery) : s.handed? e ≠ some (h, d) := by
  intro handed
  obtain ⟨⟨j, t⟩, acts, hands⟩ := Option.bind_eq_some_iff.mp handed
  change s.taskHands? t = some (h, d) at hands
  unfold taskHands? at hands
  split at hands
  · cases hands
    exact (forsaken.secluded 0).no_call j d (acting?_eq_some.mp acts).2.1
  · next r d' =>
    obtain ⟨h', handler, same⟩ := Option.map_eq_some_iff.mp hands
    cases same
    have other := (forsaken.secluded (r + 1)).only_registration r handler
    exact absurd other (Nat.ne_of_lt r.lt_succ_self)
  · cases hands

theorem Forsaken.silent {h : HandlerId} {k : TaskId} {s : Session} (forsaken : Forsaken h k s)
    {e : Event} (apart : e.touches h = false) : footprint k h s e = [] := by
  have others := not_acting_of_gone forsaken.gone e
  obtain ⟨b, there⟩ := forsaken.browser
  have nothing : requested h s e = [] := by
    rw [requested_of_browser there, Browser.requests,
      Browser.request?_of_unasked ((forsaken.secluded 0).unasked apart others)]
    · rfl
    · intro d now answer occurs
      exact forsaken.unserved e d (happening_eq_delivery.mp occurs).1
  rw [footprint_eq_granted there fun u acts => absurd acts (others u)]
  exact List.sublist_nil.mp (nothing ▸ granted_sublist h s e)

theorem Forsaken.silent_run {h : HandlerId} {k : TaskId} {s : Session} (forsaken : Forsaken h k s)
    (es : List Event) (apart : Apart h es) : trace (footprint k h) s es = [] := by
  induction es generalizing s with
  | nil => rfl
  | cons e es ih =>
    obtain ⟨now, later⟩ := List.forall_mem_cons.mp apart
    rw [trace, forsaken.silent now, ih (forsaken.apply now) later]
    rfl

/-- A scan whose command to consume fails returns, and its consumer is left to itself. -/
theorem forsaken_of_refused (confirms : Bool) (es : List Event) {e : Event} {k : TaskId}
    {queue : QueueName} {converter : Converter} {request : ScanRequest}
    (acts : ((initial confirms).run es).acting? e =
      some (k, .start (.scan queue converter request)))
    (some_wanted : request.expected ≠ 0) {error : TransportError}
    (failed : ((initial confirms).run es).answer e = .error error)
    (apart : Apart ((initial confirms).run es).consumers.length es) :
    Forsaken ((initial confirms).run es).consumers.length k
      (((initial confirms).run es).apply e) where
  orderly := (orderly_run confirms es).apply e
  secluded := by
    intro g
    have step : e.touches ((initial confirms).run es).consumers.length = false := by
      rw [(acting?_eq_some.mp acts).1]
      rfl
    refine (secluded_before confirms es (Nat.le_refl _) apart g k).apply (orderly_run confirms es)
      step ?_ ?_
    · intro queue tag taken
      rw [(taken?_eq_some.mp taken).2] at failed
      cases failed
    · intro j q c r acts' _ _
      rw [acts] at acts'
      cases acts'
      rfl
  browser := ⟨_, browser?_of_scan acts some_wanted⟩
  old := by
    rw [nextTask_apply]
    exact Nat.lt_add_right _
      ((orderly_run confirms es).numbered k _ (acting?_eq_some.mp acts).2.1)
  gone := by
    rw [task?_of_acting (orderly_run confirms es).numbered acts, failed]
    simp only [fate, if_neg some_wanted]
    rfl

end Session
end Intake
