import Intake.Proofs.Session.Lives

/-!
# What there is to see of an event

The commands that the channel takes at an event are the command that the event sends, if the
channel takes it (`recorded_eq`). The calls that return at an event are the task that acts, if
that is its fate (`returned_step`). A delivery is handed to a consumer if that is what happens to
it (`handed?_eq_some`).
-/
namespace Intake.Session

/-! ### Commands -/

/-- The log grows by a command that the channel takes, and does not change otherwise. -/
theorem sendIfAny_log (s : Session) (c : Option Command) :
    (s.sendIfAny c).1.channel.log = s.channel.log ++
      match (s.sendIfAny c).2 with
      | .ok () => c.toList
      | .error _ => [] := by
  cases c with
  | none => simp [sendIfAny]
  | some c =>
    simp only [sendIfAny, send]
    split
    · simp
    · split
      · simp
      · next sent => simp [Channel.send_log sent]

@[simp] theorem meet_channel (s : Session) (k : TaskId) (f : Fate) :
    (s.meet k f).channel = s.channel := by
  cases f <;> rfl

@[simp] theorem move_log (s : Session) (k : TaskId) (m : Movement) :
    (s.move k m).channel.log = s.channel.log := by
  cases m <;> rfl

@[simp] theorem alterIfAny_channel (s : Session) (x : Option (HandlerId × Happening)) :
    (s.alterIfAny x).channel = s.channel := by
  cases x <;> rfl

@[simp] theorem enrol_channel (s : Session) (t : Task) : (s.enrol t).channel = s.channel := by
  unfold enrol
  split
  · split <;> rfl
  · rfl

theorem acting?_eq_some {s : Session} {e : Event} {k : TaskId} {t : Task} :
    s.acting? e = some (k, t) ↔ e = .step k ∧ s.task? k = some t ∧ s.ready k t = true := by
  cases e with
  | step j =>
    simp only [acting?, Option.map_eq_some_iff, Option.filter_eq_some_iff, Prod.mk.injEq,
      Event.step.injEq]
    constructor
    · rintro ⟨u, ⟨there, able⟩, rfl, rfl⟩
      exact ⟨rfl, there, able⟩
    · rintro ⟨rfl, there, able⟩
      exact ⟨t, ⟨there, able⟩, rfl, rfl⟩
  | _ => simp [acting?]

theorem apply_log (s : Session) (e : Event) :
    (s.apply e).channel.log = (s.sendIfAny (s.command? e)).1.channel.log := by
  cases e with
  | step k =>
    rw [apply_step, command?]
    cases acts : s.acting? (.step k) with
    | none => rfl
    | some a =>
      simp only [outline, meet_channel, move_log, alterIfAny_channel, Option.bind_some,
        sendIfAny_log, enrol_answer, enrol_channel]
  | drop k =>
    simp only [apply, giveUp]
    split <;> rfl
  | cancelBrowser h =>
    rw [apply, cancelBrowser_eq]
    rfl
  | takeCollected h =>
    rw [apply, takeCollected_eq]
    rfl
  | addReceiver queue tag converter selector config =>
    simp only [apply, addReceiver]
    split <;> rfl
  | _ => rfl

/-- **Commands of an event**: the channel takes the command of the event if it answers so, and no
other. -/
theorem recorded_eq (s : Session) (e : Event) :
    s.recorded e =
      match s.answer e with
      | .ok () => (s.command? e).toList
      | .error _ => [] := by
  rw [recorded, apply_log, sendIfAny_log, List.drop_left, answer]

/-- The log only grows, by what the channel takes. -/
theorem log_eq_append_recorded (s : Session) (e : Event) :
    (s.apply e).channel.log = s.channel.log ++ s.recorded e := by
  rw [recorded, apply_log, sendIfAny_log, List.drop_left]

theorem log_run (s : Session) (es : List Event) :
    (s.run es).channel.log = s.channel.log ++ trace recorded s es := by
  induction es generalizing s with
  | nil => exact (List.append_nil _).symm
  | cons e es ih => rw [run_cons, ih, log_eq_append_recorded, trace, List.append_assoc]

/-! ### Calls that return -/

theorem move_frame (s : Session) (k : TaskId) (m : Movement) :
    (s.move k m).finished = s.finished ∧ (s.move k m).clock = s.clock := by
  cases m <;> exact ⟨rfl, rfl⟩

theorem alterIfAny_frame (s : Session) (x : Option (HandlerId × Happening)) :
    (s.alterIfAny x).finished = s.finished ∧ (s.alterIfAny x).clock = s.clock := by
  cases x <;> exact ⟨rfl, rfl⟩

theorem enrol_frame (s : Session) (t : Task) :
    (s.enrol t).finished = s.finished ∧ (s.enrol t).clock = s.clock := by
  unfold enrol
  split
  · split <;> exact ⟨rfl, rfl⟩
  · exact ⟨rfl, rfl⟩

def Fate.answer? : Fate → Option Answer
  | .returns a => some a
  | _ => none

theorem meet_finished (s : Session) (k : TaskId) (f : Fate) :
    (s.meet k f).finished = s.finished ++ (f.answer?.map fun a => ⟨k, a, s.clock⟩).toList := by
  cases f with
  | returns a => rfl
  | _ => exact (List.append_nil _).symm

theorem outline_finished (s : Session) (k : TaskId) (t : Task) :
    (s.outline k t).finished = s.finished ++
      ((s.fate k (s.sendIfAny (s.taskCommand? t)).2 t).answer?.map
        fun a => ⟨k, a, s.clock⟩).toList := by
  simp only [outline, meet_finished, move_frame, alterIfAny_frame, sendIfAny_finished,
    sendIfAny_clock, enrol_frame, enrol_answer]

theorem command?_of_acting {s : Session} {e : Event} {k : TaskId} {t : Task}
    (acts : s.acting? e = some (k, t)) : s.command? e = s.taskCommand? t := by
  obtain ⟨rfl, _⟩ := acting?_eq_some.mp acts
  rw [command?, acts]
  rfl

theorem answer_of_acting {s : Session} {e : Event} {k : TaskId} {t : Task}
    (acts : s.acting? e = some (k, t)) : s.answer e = (s.sendIfAny (s.taskCommand? t)).2 := by
  rw [answer, command?_of_acting acts]

/-- **Returns of an event**: a call returns if a task acts and that is its fate. -/
theorem returned_eq (s : Session) (e : Event) :
    s.returned e =
      match s.acting? e with
      | some (k, t) => ((s.fate k (s.answer e) t).answer?.map fun a => ⟨k, a, s.clock⟩).toList
      | none => [] := by
  cases acts : s.acting? e with
  | some a =>
    obtain ⟨k, t⟩ := a
    rw [answer_of_acting acts]
    obtain ⟨rfl, _⟩ := acting?_eq_some.mp acts
    simp only [returned, apply_step, acts, outline_finished, List.drop_left]
  | none =>
    -- Without a step the list of returned calls gets no longer, so nothing comes behind its old end.
    have kept : (s.apply e).finished.length ≤ s.finished.length := by
      cases e with
      | step k =>
        simp only [apply_step, acts, Nat.le_refl]
      | drop k =>
        simp only [apply, giveUp]
        split <;> exact Nat.le_refl _
      | cancelBrowser h =>
        simp only [apply, cancelBrowser_eq, alter, sendIfAny_finished, Nat.le_refl]
      | takeCollected h =>
        simp only [apply, takeCollected_eq, alter, Nat.le_refl]
      | addReceiver queue tag converter selector config =>
        simp only [apply, addReceiver]
        split <;> exact Nat.le_refl _
      | command c =>
        simp only [apply, (s.send_frame c).2.1, Nat.le_refl]
      | collect k => exact List.length_filter_le _ _
      | _ => exact Nat.le_refl _
    simp only [returned, List.drop_eq_nil_iff.mpr kept]

theorem returned_of_acting {s : Session} {e : Event} {k : TaskId} {t : Task}
    (acts : s.acting? e = some (k, t)) : s.returned e =
      ((s.fate k (s.answer e) t).answer?.map fun a => ⟨k, a, s.clock⟩).toList := by
  rw [returned_eq, acts]

theorem returned_of_idle {s : Session} {e : Event} (idle : s.acting? e = none) :
    s.returned e = [] := by
  rw [returned_eq, idle]

/-- A call returns at an event by a step of its own. -/
theorem acting?_of_returned {s : Session} {e : Event} {f : Finished} (returned : f ∈ s.returned e) :
    ∃ t, s.acting? e = some (f.task, t) := by
  cases acts : s.acting? e with
  | none =>
    rw [returned_of_idle acts] at returned
    cases returned
  | some a =>
    obtain ⟨k, t⟩ := a
    rw [returned_of_acting acts] at returned
    obtain ⟨answer, -, rfl⟩ := Option.map_eq_some_iff.mp (Option.mem_toList.mp returned)
    exact ⟨t, rfl⟩

/-- Nothing moves the clock but time that passes. -/
theorem clock_apply (s : Session) (e : Event) :
    (s.apply e).clock =
      match e with
      | .pass d => s.clock + d
      | _ => s.clock := by
  have meets (t : Session) (k : TaskId) (f : Fate) : (t.meet k f).clock = t.clock := by
    cases f <;> rfl
  cases e with
  | step k =>
    rw [apply_step]
    cases s.acting? (.step k) with
    | none => rfl
    | some a =>
      simp only [outline, meets, move_frame, alterIfAny_frame, sendIfAny_clock, enrol_frame]
  | command c => exact (s.send_frame c).2.2
  | drop k =>
    simp only [apply, giveUp]
    split <;> rfl
  | cancelBrowser h =>
    simp only [apply, cancelBrowser_eq, alter, sendIfAny_clock]
  | takeCollected h =>
    rw [apply, takeCollected_eq]
    rfl
  | addReceiver queue tag converter selector config =>
    simp only [apply, addReceiver]
    split <;> rfl
  | _ => rfl

/-! ### What happens to a consumer, and by what -/

theorem concerning_eq {h : HandlerId} {x : Option (HandlerId × Happening)} {y : Happening}
    (concerns : concerning h x = y) (real : y ≠ .nothing) : x = some (h, y) := by
  cases x with
  | none => exact absurd concerns.symm real
  | some x =>
    obtain ⟨h', x⟩ := x
    by_cases same : h' = h
    · rw [concerning, if_pos same] at concerns
      rw [same, concerns]
    · rw [concerning, if_neg same] at concerns
      exact absurd concerns.symm real

/-- Something happens to a consumer by a task that acts, or from outside. -/
theorem happening_cases {s : Session} {h : HandlerId} {e : Event} {x : Happening}
    (occurs : s.happening h e = x) (real : x ≠ .nothing) :
    (∃ k t, s.acting? e = some (k, t) ∧ s.taskHappening? k (s.answer e) t = some (h, x)) ∨
    (∃ tag, e = .cancelOk h tag ∧ x = .cancelOk tag s.clock) ∨
    (∃ tag, e = .cancelledByBroker h tag ∧ x = .cancelledByBroker tag s.clock) ∨
    (e = .cancelBrowser h ∧ x = .endBrowsing (s.answer e)) ∨
    (e = .takeCollected h ∧ x = .takeCollected) ∨
    (∃ k, e = .drop k ∧ x = .drop k) := by
  cases e with
  | step k =>
    left
    have found : s.happening? (.step k) = some (h, x) := concerning_eq occurs real
    simp only [happening?, Option.bind_eq_some_iff] at found
    obtain ⟨⟨j, t⟩, acts, does⟩ := found
    have own : j = k := Event.step.inj (acting?_eq_some.mp acts).1.symm
    exact ⟨j, t, acts, own ▸ does⟩
  | drop k =>
    simp only [happening] at occurs
    split at occurs
    · exact .inr (.inr (.inr (.inr (.inr ⟨k, rfl, occurs.symm⟩))))
    · exact absurd occurs.symm real
  | cancelOk h' tag =>
    have found : s.happening? (.cancelOk h' tag) = some (h, x) := concerning_eq occurs real
    cases found
    exact .inr (.inl ⟨tag, rfl, rfl⟩)
  | cancelledByBroker h' tag =>
    have found : s.happening? (.cancelledByBroker h' tag) = some (h, x) :=
      concerning_eq occurs real
    cases found
    exact .inr (.inr (.inl ⟨tag, rfl, rfl⟩))
  | cancelBrowser h' =>
    have found : s.happening? (.cancelBrowser h') = some (h, x) := concerning_eq occurs real
    cases found
    exact .inr (.inr (.inr (.inl ⟨rfl, rfl⟩)))
  | takeCollected h' =>
    have found : s.happening? (.takeCollected h') = some (h, x) := concerning_eq occurs real
    cases found
    exact .inr (.inr (.inr (.inr (.inl ⟨rfl, rfl⟩))))
  | _ => exact absurd occurs.symm real

theorem happening_of_acting {s : Session} {e : Event} {k : TaskId} {t : Task} (h : HandlerId)
    (acts : s.acting? e = some (k, t)) :
    s.happening h e = concerning h (s.taskHappening? k (s.answer e) t) := by
  obtain ⟨rfl, _⟩ := acting?_eq_some.mp acts
  change concerning h (s.happening? (.step k)) = _
  rw [happening?, acts]
  rfl

/-- What a task does to a consumer with its next step, one case for each task that reaches one. -/
inductive Affects (s : Session) (k : TaskId) (answer : Except TransportError Unit) :
    Task → HandlerId → Happening → Prop where
  | delivers {h d} : Affects s k answer (.start (.deliver h d)) h (.delivery d s.clock answer)
  | receives {h timeout} : Affects s k answer (.start (.receive h timeout)) h (.receive k timeout)
  | cancels {h} : Affects s k answer (.start (.cancel h)) h (.cancel k s.clock answer)
  | hands {queue tag pending r d h} : s.channel.handler? r = some h →
    Affects s k answer (.replay queue tag pending (.queued r d)) h (.delivery d s.clock answer)
  | handled {queue tag pending r d deadline h} : s.channel.handler? r = some h →
    Affects s k answer (.replay queue tag pending (.handling r d deadline)) h (.handled d s.clock)
  | confirms {r tag h} : s.channel.handler? r = some h →
    Affects s k answer (.confirm r tag true) h (.cancelOk tag s.clock)
  | dismisses {r tag h} : s.channel.handler? r = some h →
    Affects s k answer (.dismiss r tag) h (.cancelledByBroker tag s.clock)
  | takes {h} : Affects s k answer (.taking h) h (.take s.clock)
  | resumes {h} : Affects s k answer (.cancelling h) h (.resume k)
  | scanned {h deadline} : Affects s k answer (.scanning h deadline) h (.endScan answer)
  | ends {h d deadline} : Affects s k answer (.handling h d deadline) h (.handled d s.clock)

theorem affects_of_does {s : Session} {k : TaskId} {t : Task} {h : HandlerId} {x : Happening}
    {answer : Except TransportError Unit} (does : s.taskHappening? k answer t = some (h, x)) :
    s.Affects k answer t h x := by
  have told {r : RegistrationId} {y : Happening}
      (tells : (s.channel.handler? r).map (fun h => (h, y)) = some (h, x)) :
      s.channel.handler? r = some h ∧ y = x := by
    obtain ⟨h', handler, same⟩ := Option.map_eq_some_iff.mp tells
    cases same
    exact ⟨handler, rfl⟩
  cases t with
  | start call =>
    cases call with
    | deliver => cases does; exact .delivers
    | receive => cases does; exact .receives
    | cancel => cases does; exact .cancels
    | _ => cases does
  | replay queue tag pending stage =>
    cases stage with
    | next => cases pending <;> cases does
    | queued =>
      obtain ⟨handler, rfl⟩ := told does
      exact .hands handler
    | handling =>
      obtain ⟨handler, rfl⟩ := told does
      exact .handled handler
  | confirm r tag queued =>
    cases queued with
    | false => cases does
    | true =>
      obtain ⟨handler, rfl⟩ := told does
      exact .confirms handler
  | dismiss =>
    obtain ⟨handler, rfl⟩ := told does
    exact .dismisses handler
  | taking => cases does; exact .takes
  | cancelling => cases does; exact .resumes
  | scanning => cases does; exact .scanned
  | handling => cases does; exact .ends
  | watching | sleeping => cases does

private theorem taskHappening?_eq_delivery {s : Session} {k : TaskId} {t : Task} {h : HandlerId}
    {d : Delivery} {now : Nat} {answer answer' : Except TransportError Unit} :
    s.taskHappening? k answer t = some (h, .delivery d now answer') ↔
      s.taskHands? t = some (h, d) ∧ now = s.clock ∧ answer' = answer := by
  constructor
  · intro does
    cases affects_of_does does with
    | delivers => exact ⟨rfl, rfl, rfl⟩
    | hands handler => exact ⟨by rw [taskHands?, handler]; rfl, rfl, rfl⟩
  · rintro ⟨hands, rfl, rfl⟩
    unfold taskHands? at hands
    split at hands
    · cases hands
      rfl
    · simp only [Option.map_eq_some_iff, Prod.mk.injEq] at hands
      obtain ⟨h', known, rfl, rfl⟩ := hands
      simp only [taskHappening?, known, Option.map_some]
    · cases hands

/-- A delivery is handed to a consumer if that is what happens to it. -/
theorem happening_eq_delivery {s : Session} {h : HandlerId} {e : Event} {d : Delivery} {now : Nat}
    {answer : Except TransportError Unit} :
    s.happening h e = .delivery d now answer ↔
      s.handed? e = some (h, d) ∧ now = s.clock ∧ answer = s.answer e := by
  constructor
  · intro occurs
    rcases happening_cases occurs nofun with ⟨k, t, acts, does⟩ | ⟨_, _, no⟩ | ⟨_, _, no⟩ | ⟨_, no⟩ |
      ⟨_, no⟩ | ⟨_, _, no⟩
    · rw [handed?, acts, Option.bind_some]
      exact taskHappening?_eq_delivery.mp does
    all_goals cases no
  · rintro ⟨handed, now_eq, answer_eq⟩
    simp only [handed?, Option.bind_eq_some_iff] at handed
    obtain ⟨⟨k, t⟩, acts, hands⟩ := handed
    rw [happening_of_acting h acts,
      taskHappening?_eq_delivery.mpr ⟨hands, now_eq, answer_eq⟩, concerning, if_pos rfl]

private theorem acting_of_happening {s : Session} {h : HandlerId} {e : Event} {x : Happening}
    (occurs : s.happening h e = x)
    (own : match x with
      | .receive .. => True
      | .take _ => True
      | .cancel .. => True
      | .resume _ => True
      | _ => False) :
    ∃ k t, s.acting? e = some (k, t) ∧ s.taskHappening? k (s.answer e) t = some (h, x) := by
  have real : x ≠ .nothing := by
    rintro rfl
    exact own
  rcases happening_cases occurs real with acts | ⟨_, _, rfl⟩ | ⟨_, _, rfl⟩ | ⟨_, rfl⟩ | ⟨_, rfl⟩ |
    ⟨_, _, rfl⟩
  · exact acts
  all_goals exact own.elim

/-- A call to receive gets in line by its first step. -/
theorem happening_eq_receive {s : Session} {h : HandlerId} {e : Event} {k : TaskId}
    {timeout : ReceiveTimeout} :
    s.happening h e = .receive k timeout ↔ s.acting? e = some (k, .start (.receive h timeout)) := by
  constructor
  · intro occurs
    obtain ⟨k', t, acts, does⟩ := acting_of_happening occurs trivial
    cases affects_of_does does with
    | receives => exact acts
  · intro acts
    exact (happening_of_acting h acts).trans (if_pos rfl)

theorem happening_eq_take {s : Session} {h : HandlerId} {e : Event} {now : Nat} :
    s.happening h e = .take now ↔ (∃ k, s.acting? e = some (k, .taking h)) ∧ now = s.clock := by
  constructor
  · intro occurs
    obtain ⟨k, t, acts, does⟩ := acting_of_happening occurs trivial
    cases affects_of_does does with
    | takes => exact ⟨⟨k, acts⟩, rfl⟩
  · rintro ⟨⟨k, acts⟩, rfl⟩
    exact (happening_of_acting h acts).trans (if_pos rfl)

theorem happening_eq_cancel {s : Session} {h : HandlerId} {e : Event} {k : TaskId} {now : Nat}
    {answer : Except TransportError Unit} :
    s.happening h e = .cancel k now answer ↔
      s.acting? e = some (k, .start (.cancel h)) ∧ now = s.clock ∧ answer = s.answer e := by
  constructor
  · intro occurs
    obtain ⟨k', t, acts, does⟩ := acting_of_happening occurs trivial
    cases affects_of_does does with
    | cancels => exact ⟨acts, rfl, rfl⟩
  · rintro ⟨acts, rfl, rfl⟩
    exact (happening_of_acting h acts).trans (if_pos rfl)

theorem happening_eq_resume {s : Session} {h : HandlerId} {e : Event} {k : TaskId} :
    s.happening h e = .resume k ↔ s.acting? e = some (k, .cancelling h) := by
  constructor
  · intro occurs
    obtain ⟨k', t, acts, does⟩ := acting_of_happening occurs trivial
    cases affects_of_does does with
    | resumes => exact acts
  · intro acts
    exact (happening_of_acting h acts).trans (if_pos rfl)

theorem happening_eq_drop {s : Session} {h : HandlerId} {e : Event} {k : TaskId} :
    s.happening h e = .drop k ↔ e = .drop k ∧ (s.task? k).any isCall = true := by
  constructor
  · intro occurs
    rcases happening_cases occurs nofun with ⟨k', t, acts, does⟩ | ⟨_, _, no⟩ | ⟨_, _, no⟩ | ⟨_, no⟩ |
      ⟨_, no⟩ | ⟨k', rfl, same⟩
    · -- No step of a task gives up a call.
      cases affects_of_does does
    · cases no
    · cases no
    · cases no
    · cases no
    · cases same
      refine ⟨rfl, ?_⟩
      simp only [happening] at occurs
      split at occurs
      · next call => exact call
      · cases occurs
  · rintro ⟨rfl, call⟩
    simp only [happening, if_pos call]

/-! ### Deliveries to receiving consumers -/

/-- The delivery that reaches a receiving consumer at an event, and the consumer as it finds it. -/
def arrival? (h : HandlerId) (s : Session) (e : Event) : Option (Receiver × Delivery) :=
  (s.receiver? h).bind fun r =>
    (s.handed? e).bind fun p => if p.1 = h then some (r, p.2) else none

theorem arrival?_eq_some {s : Session} {h : HandlerId} {e : Event} {r : Receiver} {d : Delivery} :
    arrival? h s e = some (r, d) ↔ s.receiver? h = some r ∧ s.handed? e = some (h, d) := by
  simp only [arrival?, Option.bind_eq_some_iff]
  constructor
  · rintro ⟨r', there, ⟨h', d'⟩, handed, at_h⟩
    by_cases same : h' = h
    · rw [if_pos same] at at_h
      cases at_h
      exact ⟨there, same ▸ handed⟩
    · rw [if_neg same] at at_h
      cases at_h
  · rintro ⟨there, handed⟩
    exact ⟨r, there, (h, d), handed, if_pos rfl⟩

/-- What is seen of a receiving consumer when a delivery reaches it, and nothing otherwise. -/
def atArrival {α : Type} (see : Receiver → Delivery → Except TransportError Unit → List α) :
    Receiver → Happening → List α
  | r, .delivery d _ answer => see r d answer
  | _, _ => []

/-- What is seen of a session at arrivals is seen of the consumer. -/
theorem agrees_atArrival {α : Type} (h : HandlerId)
    (see : Receiver → Delivery → Except TransportError Unit → List α) :
    Agrees h (fun s e => (arrival? h s e).elim [] fun p => see p.1 p.2 (s.answer e))
      (atArrival see) := by
  intro s e
  cases there : s.receiver? h with
  | none => simp only [arrival?, there, Option.bind_none, Option.elim_none]
  | some r =>
    simp only
    cases arrives : arrival? h s e with
    | some p =>
      obtain ⟨found, handed⟩ := arrival?_eq_some.mp arrives
      rw [there] at found
      cases found
      rw [happening_eq_delivery.mpr ⟨handed, rfl, rfl⟩]
      rfl
    | none =>
      simp only [Option.elim_none]
      unfold atArrival
      split
      · next occurs =>
        have handed := (happening_eq_delivery.mp occurs).1
        rw [arrival?_eq_some.mpr ⟨there, handed⟩] at arrives
        cases arrives
      · rfl

/-- What is sent when a delivery is handed to a consumer is what the delivery makes it send. -/
theorem command?_of_handed {s : Session} {h : HandlerId} {e : Event} {d : Delivery}
    (handed : s.handed? e = some (h, d)) : s.command? e = s.handlerCommand? h d := by
  obtain ⟨⟨k, t⟩, acts, hands⟩ := Option.bind_eq_some_iff.mp handed
  rw [command?_of_acting acts]
  change s.taskHands? t = some (h, d) at hands
  unfold taskHands? at hands
  split at hands
  · cases hands
    rfl
  · simp only [Option.map_eq_some_iff, Prod.mk.injEq] at hands
    obtain ⟨h', known, rfl, rfl⟩ := hands
    simp only [taskCommand?, known, Option.bind_some]
  · cases hands

theorem command?_of_arrival {s : Session} {h : HandlerId} {e : Event} {r : Receiver}
    {d : Delivery} (arrives : arrival? h s e = some (r, d)) :
    s.command? e = r.settlement? d := by
  obtain ⟨there, handed⟩ := arrival?_eq_some.mp arrives
  rw [command?_of_handed handed, handlerCommand?, receiver?_eq_some.mp there]

/-! ### Commands of receiving consumers -/

def concerns : Happening → Bool
  | .nothing => false
  | _ => true

theorem concerns_iff {x : Happening} : concerns x = true ↔ x ≠ .nothing := by
  cases x <;> simp [concerns]

/-- The command that a consumer tries to send at an event. -/
def attempted (h : HandlerId) (s : Session) (e : Event) : Option Command :=
  if concerns (s.happening h e) then s.command? e else none

theorem attempted_eq_some {s : Session} {h : HandlerId} {e : Event} {c : Command} :
    attempted h s e = some c ↔ s.happening h e ≠ .nothing ∧ s.command? e = some c := by
  unfold attempted
  rw [← concerns_iff]
  split <;> simp_all

/-- Apart from the settlements, all that a task sends for a receiving consumer is its cancel. -/
private theorem taskCommand?_cases {s : Session} {h : HandlerId} {k : TaskId} {t : Task}
    {x : Happening} {r : Receiver} {c : Command} {answer : Except TransportError Unit}
    (there : s.receiver? h = some r) (no_browser : s.browser? h = none)
    (does : s.taskHappening? k answer t = some (h, x)) (other : ∀ d, s.taskHands? t ≠ some (h, d))
    (sends : s.taskCommand? t = some c) :
    x = .cancel k s.clock answer ∧ r.cancellation? = some c := by
  cases affects_of_does does with
  | delivers => exact absurd rfl (other _)
  | hands handler => exact absurd (by rw [taskHands?, handler]; rfl) (other _)
  | cancels =>
    rw [taskCommand?, there, Option.bind_some] at sends
    exact ⟨rfl, sends⟩
  | scanned =>
    rw [taskCommand?, no_browser] at sends
    cases sends
  | _ => cases sends

/-- What a receiving consumer sends is the settlement of a delivery, or its cancel at the beginning
of a call to cancel. -/
theorem attempted_cases {s : Session} {h : HandlerId} {e : Event} {r : Receiver} {c : Command}
    (there : s.receiver? h = some r) (sends : attempted h s e = some c) :
    (∃ d, s.handed? e = some (h, d) ∧ r.settlement? d = some c) ∨
      (∃ k, s.happening h e = .cancel k s.clock (s.answer e) ∧ r.cancellation? = some c) := by
  have no_browser := browser?_of_receiver there
  obtain ⟨concerned, sends⟩ := attempted_eq_some.mp sends
  by_cases other : ∀ d, s.handed? e ≠ some (h, d)
  · right
    rcases happening_cases rfl concerned with ⟨k, t, acts, does⟩ | ⟨_, rfl, _⟩ | ⟨_, rfl, _⟩ |
      ⟨rfl, _⟩ | ⟨rfl, _⟩ | ⟨_, rfl, _⟩
    · refine ⟨k, ?_⟩
      obtain ⟨rfl, -⟩ := acting?_eq_some.mp acts
      rw [command?, acts] at sends
      rw [handed?, acts] at other
      exact taskCommand?_cases there no_browser does other sends
    · cases sends
    · cases sends
    · rw [command?, no_browser] at sends
      cases sends
    · cases sends
    · cases sends
  · left
    obtain ⟨d, handed⟩ := Classical.not_forall_not.mp other
    refine ⟨d, handed, ?_⟩
    rw [← command?_of_arrival (arrival?_eq_some.mpr ⟨there, handed⟩), sends]

end Intake.Session
