import Intake.Proofs.Browser.Pursuit
import Intake.Proofs.Channel.Callbacks
import Intake.Proofs.Channel.Contents
import Intake.Proofs.Receiver.Filling
import Intake.Proofs.Receiver.Line

/-!
# What a subscription brings

As long as nobody else has to do with a receiving consumer, only its registration does anything to it
(`Reserved`): it hands it deliveries, and no notice of a cancel while the tag stands. Hence a new
consumer that subscribes fills its buffer with what it wants of its queue, if no replay of its tag has
messages left. The main statement is `subscription_fills`.
-/
namespace Intake

/-- The receiving consumer that a call is made to. -/
def Call.consumer? : Call → Option HandlerId
  | .deliver h _ => some h
  | .receive h _ => some h
  | .cancel h => some h
  | _ => none

/-- The receiving consumer to which the call of a task is made. -/
def Task.calls? : Task → Option HandlerId
  | .start call => call.consumer?
  | .taking h => some h
  | .cancelling h => some h
  | _ => none

/-- Whether something that happens to a receiving consumer matters neither to its buffer nor to its
state. -/
def Happening.isIdle : Happening → Bool
  | .nothing => true
  | .handled .. => true
  | .endBrowsing _ => true
  | .endScan _ => true
  | .takeCollected => true
  | .drop _ => true
  | _ => false

theorem Receiver.react_idle (r : Receiver) {x : Happening} (idle : x.isIdle = true) :
    (r.react x).buffer = r.buffer ∧ (r.react x).state = r.state := by
  cases x <;> first | exact ⟨rfl, rfl⟩ | cases idle

/-- A new consumer is as it was after something that does not matter to it. -/
theorem Receiver.IsNew.react_idle {r : Receiver} (new : r.IsNew) {x : Happening}
    (idle : x.isIdle = true) : r.react x = r := by
  obtain ⟨-, -, -, -, -, takers, cancels⟩ := new.eq
  cases x with
  | drop call =>
    obtain ⟨queue, tag, converter, selector, config, buffer, state, issued, counters, ts, cs⟩ := r
    cases takers
    cases cancels
    rfl
  | _ => first | rfl | cases idle

namespace Session

/-! ### Consumers that nobody else has to do with -/

/-- Whether an event has to do with a receiving consumer that somebody names. -/
def Event.disturbs (h : HandlerId) : Event → Bool
  | .call c => c.consumer? == some h
  | e => e.touches h

/-- No event has to do with a receiving consumer. -/
def Undisturbed (h : HandlerId) (es : List Event) : Prop := ∀ e ∈ es, e.disturbs h = false

instance (h : HandlerId) (es : List Event) : Decidable (Undisturbed h es) :=
  inferInstanceAs (Decidable (∀ e ∈ es, e.disturbs h = false))

theorem undisturbed_concat {h : HandlerId} {es : List Event} {e : Event} :
    Undisturbed h (es ++ [e]) ↔ Undisturbed h es ∧ e.disturbs h = false := by
  rw [Undisturbed, List.forall_mem_append]
  exact and_congr_right' List.forall_mem_singleton

/-- Nobody has to do with a receiving consumer but one registration. -/
structure Reserved (h : HandlerId) (g : RegistrationId) (s : Session) : Prop where
  no_call : ∀ k t, s.task? k = some t → t.calls? ≠ some h
  only_registration : ∀ r, s.channel.handler? r = some h → r = g

theorem touches_of_disturbs {h : HandlerId} {e : Event} (undisturbed : e.disturbs h = false) :
    e.touches h = false := by
  cases e with
  | call c =>
    cases c with
    | deliver h' d => simpa [Event.disturbs, Event.touches, Call.consumer?] using undisturbed
    | _ => rfl
  | _ => exact undisturbed

/-- What a step leaves of a task is the call of a receiving consumer only if the task was one. -/
theorem calls?_of_fate {s : Session} {k : TaskId} {t u : Task} {answer : Except TransportError Unit}
    {h : HandlerId} (left : (s.fate k answer t).task? t = some u) (calls : u.calls? = some h) :
    t.calls? = some h := by
  cases turns_of_fate left with
  | plain plain _ =>
    cases follows_of_fate left plain with
    | receives | cancels | taking | cancelling => exact calls
    | _ => cases calls
  | _ => cases calls

section Reserved

variable {h : HandlerId} {g : RegistrationId} {s : Session} {e : Event} {r : Receiver}

/-- A consumer stays reserved unless it is called or it gets another registration. -/
theorem Reserved.apply (orderly : s.Orderly) (reserved : Reserved h g s)
    (no_call : ∀ c, e = .call c → c.consumer? ≠ some h)
    (registers : ∀ queue tag, s.taken? e = some (.consume queue tag h) →
      s.channel.registrations.length = g) : Reserved h g (s.apply e) where
  no_call := by
    intro k t there calls
    rw [task?_apply orderly.numbered, Option.or_eq_some_iff] at there
    rcases there with old | ⟨-, new⟩
    · rcases survivor?_cases old with ⟨u, acts, left⟩ | was
      · exact reserved.no_call k u (acting?_eq_some.mp acts).2.1 (calls?_of_fate left calls)
      · exact reserved.no_call k t was calls
    · split at new
      · rcases born?_cases new with ⟨c, is, rfl⟩ | ⟨_, _, _, -, rfl⟩ | ⟨_, _, -, -, rfl⟩
        · exact no_call c is calls
        · cases calls
        · cases calls
      · cases new
  only_registration := by
    intro r handler
    rcases handler?_apply_cases handler with before | ⟨⟨queue, tag, taken⟩, new⟩
    · exact reserved.only_registration r before
    · exact new.trans (registers queue tag taken)

/-- No event that leaves a receiving consumer alone gives it a registration: only a scan could, and it
does so for its own consumer. -/
theorem not_consume_of_undisturbed (undisturbed : e.disturbs h = false)
    (no_browser : (s.apply e).browser? h = none) (queue : QueueName) (tag : ConsumerTag) :
    s.taken? e ≠ some (.consume queue tag h) := by
  intro taken
  obtain ⟨k, converter, request, acts, some_wanted, rfl⟩ :=
    scan_of_consume (touches_of_disturbs undisturbed) taken
  rw [browser?_of_scan acts some_wanted] at no_browser
  cases no_browser

theorem not_call_of_undisturbed (undisturbed : e.disturbs h = false) (c : Call) (is : e = .call c) :
    c.consumer? ≠ some h := by
  subst is
  intro consumer
  simp [Event.disturbs, consumer] at undisturbed

theorem Reserved.apply_of_undisturbed (orderly : s.Orderly) (reserved : Reserved h g s)
    (undisturbed : e.disturbs h = false) (no_browser : (s.apply e).browser? h = none) :
    Reserved h g (s.apply e) :=
  reserved.apply orderly (not_call_of_undisturbed undisturbed) fun queue tag taken =>
    absurd taken (not_consume_of_undisturbed undisturbed no_browser queue tag)

/-- What happens to a reserved consumer is what its registration calls it for, and apart from that
nothing that matters to it. -/
theorem Reserved.happening_cases (reserved : Reserved h g s) (undisturbed : e.disturbs h = false) :
    (∃ c, s.channel.handler? g = some h ∧ callback? g s e = some c ∧
        s.happening h e = c.happening s.clock (s.answer e)) ∨
      (s.happening h e).isIdle = true := by
  generalize occurs : s.happening h e = x
  by_cases nothing : x = .nothing
  · rw [nothing]
    exact .inr rfl
  have untouched := touches_of_disturbs undisturbed
  rcases Session.happening_cases occurs nothing with ⟨k, t, acts, does⟩ | ⟨_, rfl, -⟩ |
    ⟨_, rfl, -⟩ | ⟨rfl, -⟩ | ⟨rfl, -⟩ | ⟨_, -, rfl⟩
  · have uncalled := reserved.no_call k t (acting?_eq_some.mp acts).2.1
    -- A callback reaches the consumer only from the registration that it is reserved for.
    have told {r : RegistrationId} {c : Callback} (makes : t.callback? r = some c)
        (handler : s.channel.handler? r = some h) :
        ∃ c', s.channel.handler? g = some h ∧ callback? g s e = some c' ∧
          c.happening s.clock (s.answer e) = c'.happening s.clock (s.answer e) := by
      obtain rfl := reserved.only_registration r handler
      exact ⟨c, handler, callback?_eq_some.mpr ⟨k, t, acts, makes⟩, rfl⟩
    cases affects_of_does does with
    | delivers | receives | cancels | takes | resumes => exact absurd rfl uncalled
    | hands handler => exact .inl (told (c := .delivery _) (if_pos rfl) handler)
    | confirms handler => exact .inl (told (c := .cancelOk _) (if_pos rfl) handler)
    | dismisses handler => exact .inl (told (c := .cancelled _) (if_pos rfl) handler)
    | handled | scanned | ends => exact .inr rfl
  · simp [Event.touches] at untouched
  · simp [Event.touches] at untouched
  · simp [Event.touches] at untouched
  · simp [Event.touches] at untouched
  · exact .inr rfl

end Reserved

section Unused

variable {confirms : Bool} {es : List Event} {h : HandlerId}

/-- A consumer that nobody has had to do with is reserved for whatever registration it gets. -/
theorem reserved_run (undisturbed : Undisturbed h es)
    (no_browser : ((initial confirms).run es).browser? h = none) (g : RegistrationId) :
    Reserved h g ((initial confirms).run es) := by
  induction es using List.reverseRecOn with
  | nil =>
    exact {
      no_call := fun k t there => by cases there
      only_registration := fun r handler => by cases handler }
  | append_singleton es e ih =>
    obtain ⟨earlier, now⟩ := undisturbed_concat.mp undisturbed
    rw [run_concat] at no_browser ⊢
    have before : ((initial confirms).run es).browser? h = none := by
      cases found : ((initial confirms).run es).browser? h with
      | none => rfl
      | some b =>
        rw [browser?_apply e found] at no_browser
        cases no_browser
    exact (ih earlier before).apply_of_undisturbed (orderly_run confirms es) now no_browser

/-- A receiving consumer that nobody has had to do with is as new. -/
theorem isNew_of_undisturbed (undisturbed : Undisturbed h es) {r : Receiver}
    (there : ((initial confirms).run es).receiver? h = some r) : r.IsNew := by
  induction es using List.reverseRecOn generalizing r with
  | nil => cases there
  | append_singleton es e ih =>
    obtain ⟨earlier, now⟩ := undisturbed_concat.mp undisturbed
    rw [run_concat] at there
    rcases receiver?_apply_cases there with new | ⟨r₀, before, rfl⟩
    · exact new
    have new := ih earlier before
    have reserved := reserved_run earlier (browser?_of_receiver before)
    -- It has no registration yet: any that it had would be the same as any other.
    rcases (reserved 0).happening_cases now with ⟨c, handler, -⟩ | idle
    · cases (reserved 1).only_registration 0 handler
    · rw [new.react_idle idle]
      exact new

end Unused

/-! ### The consumer of one registration -/

/-- A receiving consumer is there for one registration, which serves it. -/
structure Subscribed (h : HandlerId) (g : RegistrationId) (s : Session) : Prop where
  there : (s.receiver? h).isSome
  reserved : Reserved h g s
  handler : s.channel.handler? g = some h

section Subscribed

variable {h : HandlerId} {g : RegistrationId} {s : Session} {e : Event}

theorem Subscribed.made (subscribed : Subscribed h g s) : g < s.channel.registrations.length :=
  Channel.handler?_isSome.mp (Option.isSome_iff_exists.mpr ⟨h, subscribed.handler⟩)

theorem Subscribed.apply (orderly : s.Orderly) (subscribed : Subscribed h g s)
    (undisturbed : e.disturbs h = false) : Subscribed h g (s.apply e) := by
  obtain ⟨r, there⟩ := Option.isSome_iff_exists.mp subscribed.there
  have later := receiver?_apply e there
  refine ⟨Option.isSome_iff_exists.mpr ⟨_, later⟩, ?_, ?_⟩
  · exact subscribed.reserved.apply_of_undisturbed orderly undisturbed (browser?_of_receiver later)
  · rw [s.handler?_apply e subscribed.made, subscribed.handler]

theorem Subscribed.run (orderly : s.Orderly) (subscribed : Subscribed h g s) {es : List Event}
    (undisturbed : Undisturbed h es) : Subscribed h g (s.run es) := by
  induction es using List.reverseRecOn with
  | nil => exact subscribed
  | append_singleton es e ih =>
    obtain ⟨earlier, now⟩ := undisturbed_concat.mp undisturbed
    rw [run_concat]
    exact (ih earlier).apply (orderly.run es) now

/-- What reaches the consumer is what serves its registration. -/
theorem Subscribed.arrived_eq (orderly : s.Orderly) (subscribed : Subscribed h g s) (e : Event) :
    arrived h s e = (served g s e).map (·.2) := by
  obtain ⟨r, there⟩ := Option.isSome_iff_exists.mp subscribed.there
  have same {d : Delivery} := handed?_iff_served (e := e) (d := d) orderly
    (fun j d starts => subscribed.reserved.no_call j _ starts rfl)
    subscribed.reserved.only_registration subscribed.handler
  unfold arrived
  rcases served_cases g s e with ⟨k, q, t, pending, d, -, serves⟩ | ⟨nothing, -⟩
  · rw [arrival?_eq_some.mpr ⟨there, same.mpr ⟨k, serves⟩⟩, serves]
    rfl
  · rw [nothing]
    cases arrives : arrival? h s e with
    | none => rfl
    | some p =>
      obtain ⟨k, serves⟩ := same.mp (arrival?_eq_some.mp arrives).2
      rw [nothing] at serves
      cases serves

theorem Subscribed.trace_arrived (orderly : s.Orderly) (subscribed : Subscribed h g s)
    {es : List Event} (undisturbed : Undisturbed h es) :
    trace (arrived h) s es = (trace (served g) s es).map (·.2) := by
  rw [trace_map]
  apply trace_congr_run
  rintro before e after rfl
  have earlier : Undisturbed h before := fun e' member =>
    undisturbed e' (List.mem_append_left _ member)
  exact (subscribed.run orderly earlier).arrived_eq (orderly.run before) e

/-- As long as the tag stands for its registration, a consumer is handed deliveries and nothing else
that matters to it happens. -/
theorem Subscribed.arrives_or_idle (subscribed : Subscribed h g s) (undisturbed : e.disturbs h = false)
    {given : List Callback} (closing : Closing g s given) {tag : ConsumerTag}
    (stands : s.channel.registration? tag = some g) :
    (∃ d, s.happening h e = .delivery d s.clock (s.answer e)) ∨ (s.happening h e).isIdle = true := by
  rcases subscribed.reserved.happening_cases undisturbed with ⟨c, -, calls, occurs⟩ | idle
  · cases c with
    | delivery d => exact .inl ⟨d, occurs⟩
    | cancelOk | cancelled =>
      have none_given := closing.notices_of_tagged stands e
      simp [notices, callbacks, calls, Callback.isNotice] at none_given
  · exact .inr idle

end Subscribed

/-! ### Filling the buffer -/

/-- A consumer that goes on is active, and its buffer is filled by the deliveries so far. -/
def Filling (h : HandlerId) (r : Receiver) (s : Session) (deliveries : List Delivery)
    (settled : List Command) : Prop :=
  ∃ r', s.receiver? h = some r' ∧ r'.settings = r.settings ∧ r'.state = .active ∧
    r.Filled deliveries r'.buffer settled

section Filling

variable {h : HandlerId} {r : Receiver} {s : Session} {e : Event} {deliveries : List Delivery}
  {commands : List Command}

theorem Filling.apply (filling : Filling h r s deliveries commands)
    (fits : ∀ r, s.receiver? h = some r → r.buffer.length ≤ r.capacity)
    (occurs : (∃ d, s.happening h e = .delivery d s.clock (s.answer e)) ∨
      (s.happening h e).isIdle = true)
    (accepted : refused h s e = []) :
    Filling h r (s.apply e) (deliveries ++ arrived h s e) (commands ++ settled h s e) := by
  obtain ⟨r', there, same, active, filled⟩ := filling
  have later := receiver?_apply e there
  have unchanged := (r'.react_settings (s.happening h e)).trans same
  have going : r'.state ≠ .cancelled := by simp [active]
  rw [settled_eq_planned fits accepted, arrived, planned]
  rcases occurs with ⟨d, occurs⟩ | idle
  · have arrives := arrival?_eq_some.mpr ⟨there, (happening_eq_delivery.mp occurs).1⟩
    rw [occurs, answer_of_unrefused arrives accepted] at later unchanged
    refine ⟨_, later, unchanged, ?_, ?_⟩
    · exact (r'.deliver_ok_state d ()).trans active
    · rw [arrives, Option.elim_some, Option.elim_some, Receiver.react, Receiver.deliver_buffer,
        Receiver.welcomed_eq (fits r' there)]
      rw [← Receiver.filled_congr same] at filled ⊢
      exact filled.append going d
  · -- Nothing arrives, so that nothing is kept or settled.
    have nobody : arrival? h s e = none := by
      cases arrives : arrival? h s e with
      | none => rfl
      | some p =>
        have delivered := happening_eq_delivery.mpr ⟨(arrival?_eq_some.mp arrives).2, rfl, rfl⟩
        rw [delivered] at idle
        cases idle
    obtain ⟨buffer, state⟩ := r'.react_idle idle
    rw [nobody, Option.elim_none, Option.elim_none, List.append_nil, List.append_nil]
    exact ⟨_, later, unchanged, state.trans active, buffer.symm ▸ filled⟩

/-- As long as its tag stands and its commands are taken, what comes to a subscribed consumer fills its
buffer. -/
theorem filling_run (confirms : Bool) (es : List Event) {g : RegistrationId} {tag : ConsumerTag}
    (there : ((initial confirms).run es).receiver? h = some r) (new : r.IsNew)
    (subscribed : Subscribed h g ((initial confirms).run es)) {fs : List Event}
    (undisturbed : Undisturbed h fs) (accepted : trace (refused h) ((initial confirms).run es) fs = [])
    (stands : (((initial confirms).run es).run fs).channel.registration? tag = some g) :
    Filling h r (((initial confirms).run es).run fs)
      (trace (arrived h) ((initial confirms).run es) fs)
      (trace (settled h) ((initial confirms).run es) fs) := by
  induction fs using List.reverseRecOn with
  | nil =>
    obtain ⟨-, empty, active, -⟩ := new.eq
    exact ⟨r, there, rfl, active, empty ▸ r.filled_nil⟩
  | append_singleton fs e ih =>
    obtain ⟨earlier, now⟩ := undisturbed_concat.mp undisturbed
    rw [trace_concat, List.append_eq_nil_iff] at accepted
    rw [run_concat] at stands ⊢
    rw [trace_concat, trace_concat]
    have subscribed := subscribed.run (orderly_run confirms es) earlier
    -- A registration that has lost its tag does not get it back.
    have stood : (((initial confirms).run es).run fs).channel.registration? tag = some g :=
      Classical.byContradiction fun lost => registration?_ne_of_ne subscribed.made lost stands
    refine (ih earlier accepted.1 stood).apply ?_ ?_ accepted.2
    · intro r' there'
      rw [← run_append] at there'
      exact buffer_length_le there'
    · have closing := closing_run confirms (es ++ fs) g
      rw [run_append] at closing
      exact subscribed.arrives_or_idle now closing stood

end Filling

/-! ### What is recorded -/

/-- The settlements that the channel takes at an event and that are not those of a receiving
consumer. -/
def elsewhere (h : HandlerId) (s : Session) (e : Event) : List Command :=
  if (s.receiver? h).isSome ∧ concerns (s.happening h e) then []
  else (s.recorded e).filter (·.settles?.isSome)

/-- Where nobody else settles anything, all settlements recorded are those of the consumer. -/
theorem recorded_of_nowhere_else {h : HandlerId} {s : Session} {es : List Event}
    (nowhere_else : trace (elsewhere h) s es = []) :
    (trace recorded s es).filter (·.settles?.isSome) = trace (settled h) s es := by
  induction es generalizing s with
  | nil => rfl
  | cons e es ih =>
    rw [trace, List.append_eq_nil_iff] at nowhere_else
    obtain ⟨now, later⟩ := nowhere_else
    have here : (s.recorded e).filter (·.settles?.isSome) = settled h s e := by
      unfold elsewhere at now
      unfold settled
      split at now
      · next own => rw [if_pos own]
      · next foreign => rw [if_neg foreign, now]
    rw [trace, trace, List.filter_append, here, ih later]

/-- What is read off the settlements of a log is the same after a run but for the settlements of the
consumer, where nobody else settles anything. -/
theorem log_filterMap_run {α : Type} {h : HandlerId} {s : Session} {es : List Event}
    {read : Command → Option α} (of_settlement : ∀ c, c.settles? = none → read c = none)
    (nowhere_else : trace (elsewhere h) s es = []) :
    (s.run es).channel.log.filterMap read =
      s.channel.log.filterMap read ++ (trace (settled h) s es).filterMap read := by
  rw [log_run, List.filterMap_append, ← recorded_of_nowhere_else nowhere_else, List.filterMap_filter]
  congr 2
  funext c
  cases settles : c.settles? with
  | none => rw [of_settlement c settles]; rfl
  | some tag => rfl

/-! ### Subscriptions -/

/-- The event of a consumer that subscribes to its queue. -/
def subscribing (h : HandlerId) (r : Receiver) : Event := .command (.consume r.queue r.tag h)

/-- What a subscription of a consumer has brought after a run: deliveries made of the messages that the
queue had, in order, and no others; with what becomes of these the consumer is active; and the queue is
as it was but for what was published. Where nobody else settles anything, the acknowledgements and
rejections recorded are those of the consumer. -/
structure Replayed (h : HandlerId) (r : Receiver) (snapshot : List Stored) (s : Session)
    (es : List Event) : Prop where
  whole : (trace (arrived h) s es).map Delivery.stored = snapshot
  drawn : ∀ d ∈ trace (arrived h) s es, d = d.stored.delivery r.queue d.tag
  consumer : ∃ r', (s.run es).receiver? h = some r' ∧ r'.state = .active ∧
    r.Outcome (trace (arrived h) s es) r'.buffer (trace (settled h) s es)
  queue : (s.run es).channel.messages r.queue = snapshot ++ trace (published r.queue) s es
  recorded : trace (elsewhere h) s es = [] →
    (s.run es).channel.acked =
        s.channel.acked ++ (trace (settled h) s es).filterMap Command.acked? ∧
      (s.run es).channel.nacked =
        s.channel.nacked ++ (trace (settled h) s es).filterMap Command.nacked?

theorem subscribed_of_taken (confirms : Bool) {es : List Event} {h : HandlerId} {r : Receiver}
    (there : ((initial confirms).run es).receiver? h = some r) (unused : Undisturbed h es)
    (taken : ((initial confirms).run es).taken? (subscribing h r) = some (.consume r.queue r.tag h)) :
    (((initial confirms).run es).apply (subscribing h r)).receiver? h = some r ∧
      Subscribed h ((initial confirms).run es).channel.registrations.length
        (((initial confirms).run es).apply (subscribing h r)) := by
  have still : (((initial confirms).run es).apply (subscribing h r)).receiver? h = some r :=
    receiver?_apply _ there
  have no_call (c : Call) : subscribing h r ≠ .call c := nofun
  have reserved := reserved_run unused (browser?_of_receiver there)
    ((initial confirms).run es).channel.registrations.length
  refine ⟨still, Option.isSome_iff_exists.mpr ⟨r, still⟩, ?_, handler?_of_consume taken⟩
  exact reserved.apply (orderly_run confirms es) (fun c is => absurd is (no_call c))
    fun _ _ _ => rfl

/-- **Subscribing**: a new consumer subscribes, with a tag of which no replay has messages left. When
its replay is over, the tag still stands, nobody else has had to do with the consumer, and none of its
commands has failed, then it has been handed the messages of its queue, and it has kept the first that
it wants, as many as there is room for, and has settled those that convert as they came. -/
theorem subscription_fills (confirms : Bool) (es : List Event) (h : HandlerId) {r : Receiver}
    (there : ((initial confirms).run es).receiver? h = some r) (unused : Undisturbed h es)
    (taken : ((initial confirms).run es).taken? (subscribing h r) = some (.consume r.queue r.tag h))
    (none_left : ¬ ((initial confirms).run es).Leftover r.tag) (fs : List Event)
    (undisturbed : Undisturbed h fs)
    (accepted : trace (refused h) (((initial confirms).run es).apply (subscribing h r)) fs = [])
    (stands : ((((initial confirms).run es).apply (subscribing h r)).run fs).channel.registration?
      r.tag = some ((initial confirms).run es).channel.registrations.length)
    (finished : ((((initial confirms).run es).apply (subscribing h r)).run fs).task?
      ((initial confirms).run es).nextTask = none) :
    Replayed h r (((initial confirms).run es).channel.messages r.queue)
      (((initial confirms).run es).apply (subscribing h r)) fs := by
  have orderly := orderly_run confirms es
  have sees := sees_of_no_leftover orderly taken none_left fs
  obtain ⟨still, subscribed⟩ := subscribed_of_taken confirms there unused taken
  have arrivals := subscribed.trace_arrived (orderly.apply _) undisturbed
  refine ⟨?_, ?_, ?_, ?_, fun nowhere_else => ⟨?_, ?_⟩⟩
  · rw [arrivals, List.map_map]
    exact sees.whole fs [] (List.append_nil fs).symm finished stands
  · rw [arrivals]
    intro d member
    obtain ⟨p, seen, rfl⟩ := List.mem_map.mp member
    obtain ⟨before, e, after, -, serves⟩ := (mem_trace ..).mp seen
    have drawn := drawn_run confirms (es ++ subscribing h r :: before)
    rw [run_append, run_cons] at drawn
    exact drawn.eq_of_served serves (sees.routed p seen)
  · rw [← run_concat] at still subscribed accepted stands ⊢
    obtain ⟨r', there', -, active, filled⟩ := filling_run confirms _ still
      (isNew_of_undisturbed unused there) subscribed undisturbed accepted stands
    exact ⟨r', there', active, filled.outcome⟩
  · rw [messages_run, messages_apply]
    exact congrArg (· ++ _) (List.append_nil _)
  · exact log_filterMap_run (fun c no => by cases c <;> first | rfl | cases no) nowhere_else
  · exact log_filterMap_run (fun c no => by cases c <;> first | rfl | cases no) nowhere_else

/-- A queue with a message that is wanted, one that is not, one that does not convert and one more that
is wanted, and a consumer with room for one. -/
def fourQueued : List Event :=
  let order : Properties := { kind := some "order" }
  [.publish ⟨"orders"⟩ ⟨order, ByteArray.empty⟩, .publish ⟨"orders"⟩ ⟨{}, ByteArray.empty⟩,
    .publish ⟨"orders"⟩ ⟨order, ⟨#[0]⟩⟩, .publish ⟨"orders"⟩ ⟨order, ByteArray.empty⟩,
    .addReceiver ⟨"orders"⟩ ⟨"clerk"⟩ (standardConverter 0)
      (some fun hs => (hs.find? "JMSType").isSome) { batchingSize := 1 }]

theorem subscription_fills_fourQueued :
    ∃ r, ((initial true).run fourQueued).receiver? 0 = some r ∧
      Replayed 0 r (((initial true).run fourQueued).channel.messages ⟨"orders"⟩)
        (((initial true).run fourQueued).apply (subscribing 0 r)) (List.replicate 9 (.step 0)) ∧
      trace (settled 0) (((initial true).run fourQueued).apply (subscribing 0 r))
        (List.replicate 9 (.step 0)) = [.ack ⟨1⟩ false, .ack ⟨2⟩ false, .nack ⟨4⟩ true] := by
  refine ⟨_, rfl, ?_, rfl⟩
  refine subscription_fills true fourQueued 0 rfl (by decide) rfl ?_ (List.replicate 9 (.step 0))
    (by decide) rfl rfl rfl
  rintro ⟨k, queue, pending, stage, there, -⟩
  cases there

/-- A tag is freed while a replay of the first queue is under way, and then there is a consumer that may
subscribe to the second queue with it. -/
def tagLeftOver : List Event :=
  [.publish ⟨"first"⟩ ⟨{}, ⟨#[1]⟩⟩, .publish ⟨"first"⟩ ⟨{}, ⟨#[2]⟩⟩, .publish ⟨"second"⟩ ⟨{}, ⟨#[3]⟩⟩,
    .addRecorder ⟨"a"⟩ (fun _ => 0) (fun _ => false),
    .addReceiver ⟨"second"⟩ ⟨"tag"⟩ (standardConverter 100) none { batchingSize := 1 },
    .command (.consume ⟨"first"⟩ ⟨"tag"⟩ 0), .step 0, .command (.cancel ⟨"tag"⟩)]

/-- The replay of the first queue goes on, and then that of the consumer runs to its end. -/
def bothReplays : List Event := [.step 0, .step 0, .step 0, .step 2, .step 2, .step 2]

/-- A consumer keeps a message that is not in its queue and rejects the one that is, though nobody has
had to do with it, none of its commands has failed, its tag stands and its replay has just ended. -/
theorem filled_by_other_replay :
    ∃ r, ((initial true).run tagLeftOver).receiver? 1 = some r ∧ Undisturbed 1 tagLeftOver ∧
      ((initial true).run tagLeftOver).taken? (subscribing 1 r) = some (.consume r.queue r.tag 1) ∧
      Undisturbed 1 bothReplays ∧
      trace (refused 1) (((initial true).run tagLeftOver).apply (subscribing 1 r)) bothReplays = [] ∧
      ((((initial true).run tagLeftOver).apply (subscribing 1 r)).run bothReplays).channel.registration?
        r.tag = some ((initial true).run tagLeftOver).channel.registrations.length ∧
      ((((initial true).run tagLeftOver).apply (subscribing 1 r)).run bothReplays).task?
        ((initial true).run tagLeftOver).nextTask = none ∧
      (((((initial true).run tagLeftOver).apply (subscribing 1 r)).run bothReplays).receiver? 1).map
        (fun r => r.buffer.map (·.routingKey)) = some ["first"] ∧
      trace (settled 1) (((initial true).run tagLeftOver).apply (subscribing 1 r)) bothReplays =
        [.ack ⟨2⟩ false, .nack ⟨3⟩ true] ∧
      ¬ Replayed 1 r (((initial true).run tagLeftOver).channel.messages r.queue)
        (((initial true).run tagLeftOver).apply (subscribing 1 r)) bothReplays := by
  refine ⟨_, rfl, by decide, rfl, by decide, rfl, rfl, rfl, rfl, rfl, fun replayed => ?_⟩
  -- Two deliveries have come, and the queue has one message.
  have one := congrArg List.length replayed.whole
  cases one

end Session
end Intake
