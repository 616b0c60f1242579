import Intake.Proofs.Channel.Notices

/-!
# Callbacks of a registration

The tasks of the channel call the handler of a registration one at a time, because only the first in
the line of the registration may call and a delivery in progress keeps its place there. The main
statement is `callbacks_serialized`.
-/
namespace Intake.Session

/-! ### One at a time -/

/-- Whether a task has a delivery in progress with the handler of a registration. -/
def Busy (g : RegistrationId) (s : Session) (k : TaskId) : Prop :=
  ∃ queue tag pending d deadline,
    s.task? k = some (.replay queue tag pending (.handling g d deadline))

/-- The task that has a delivery in progress is the first in line. -/
def BusyFirst (s : Session) : Prop := ∀ g k, Busy g s k → (s.channel.line g).head? = some k

theorem BusyFirst.apply {s : Session} (orderly : s.Orderly) (busy_first : s.BusyFirst)
    (e : Event) : (s.apply e).BusyFirst := by
  rintro g k ⟨queue, tag, pending, d, deadline, there⟩
  by_cases acts : ∃ u, s.acting? e = some (k, u)
  · -- A replay that begins to wait for its handler was the first, and it stays where it is.
    obtain ⟨u, acts⟩ := acts
    have after := task?_of_acting orderly.numbered acts
    rw [there] at after
    cases turns_of_fate after.symm with
    | plain _ plain => cases plain
    | handles _ =>
      have first : (s.channel.line g).head? = some k :=
        first_of_callback? (c := .delivery d) acts (by simp [Task.callback?])
      have stays : s.movement (.replay queue tag pending (.queued g d)) = .stays := by
        simp only [fate] at after
        cases handler : s.channel.handler? g with
        | none =>
          rw [handler] at after
          cases after
        | some h =>
          simp only [handler] at after
          cases result : (s.handOver h d).2 with
          | done _ =>
            rw [result] at after
            cases after
          | busy _ => simp [movement, handler, result]
      rw [line_of_acting orderly acts, stays]
      exact first
  · have before : s.task? k = some (.replay queue tag pending (.handling g d deadline)) := by
      rcases replay_origin orderly.numbered there with old | ⟨u, acted, -⟩ | ⟨-, no, -⟩
      · exact old
      · exact absurd ⟨u, acted⟩ acts
      · cases no
    apply first_of_stays orderly (busy_first g k ⟨queue, tag, pending, d, deadline, before⟩)
    rw [(orderly.apply e).standing, there]
    rfl

theorem busyFirst_run (confirms : Bool) (es : List Event) :
    ((initial confirms).run es).BusyFirst := by
  induction es using List.reverseRecOn with
  | nil =>
    rintro g k ⟨queue, tag, pending, d, deadline, there⟩
    cases there
  | append_singleton es e ih =>
    rw [run_concat]
    exact ih.apply (orderly_run confirms es) e

/-- No callback begins while a delivery is in progress. -/
theorem not_busy_of_callback? {s : Session} (busy_first : s.BusyFirst) {e : Event}
    {g : RegistrationId} {c : Callback} (calls : callback? g s e = some c) (j : TaskId) :
    ¬ Busy g s j := by
  rintro ⟨queue, tag, pending, d, deadline, there⟩
  obtain ⟨k, t, acts, makes⟩ := callback?_eq_some.mp calls
  have first := busy_first g j ⟨queue, tag, pending, d, deadline, there⟩
  rw [first_of_callback? acts makes] at first
  cases first
  rw [(acting?_eq_some.mp acts).2.1] at there
  cases there
  cases makes

/-! ### What a handler is told -/

/-- The channel tells a handler of a delivery or of a cancel: it is what happens to the handler, and
not by the call of somebody who hands over a delivery without the channel. -/
def ChannelTells (h : HandlerId) (c : Callback) (s : Session) (e : Event) : Prop :=
  ∃ k t, s.acting? e = some (k, t) ∧ (∀ d, t ≠ .start (.deliver h d)) ∧
    s.happening h e = c.happening s.clock (s.answer e)

/-- A callback is what happens to the handler of the registration. -/
theorem happening_of_callback? {s : Session} {e : Event} {k : TaskId} {t : Task}
    {g : RegistrationId} {h : HandlerId} {c : Callback} (acts : s.acting? e = some (k, t))
    (makes : t.callback? g = some c) (handler : s.channel.handler? g = some h) :
    s.happening h e = c.happening s.clock (s.answer e) := by
  rw [happening_of_acting h acts]
  unfold Task.callback? at makes
  split at makes
  all_goals
    first
    | cases makes
    | split at makes
      · next same =>
        subst same
        cases makes
        simp [taskHappening?, handler, concerning, Callback.happening]
      · cases makes

/-- What the channel tells a handler are the callbacks of its registrations. -/
theorem tells_iff {s : Session} {e : Event} {h : HandlerId} {c : Callback} :
    ChannelTells h c s e ↔ ∃ g, s.channel.handler? g = some h ∧ callback? g s e = some c := by
  constructor
  · rintro ⟨k, t, acts, by_channel, occurs⟩
    rw [happening_of_acting h acts] at occurs
    have does := concerning_eq occurs (by cases c <;> exact nofun)
    have calls {g : RegistrationId} {y : Callback} (makes : t.callback? g = some y)
        (handler : s.channel.handler? g = some h)
        (told : c.happening s.clock (s.answer e) = y.happening s.clock (s.answer e)) :
        ∃ g, s.channel.handler? g = some h ∧ callback? g s e = some c := by
      cases Callback.happening_inj told
      exact ⟨g, handler, callback?_eq_some.mpr ⟨k, t, acts, makes⟩⟩
    generalize told : c.happening s.clock (s.answer e) = x at does
    cases affects_of_does does with
    | delivers => exact absurd rfl (by_channel _)
    | hands handler => exact calls (y := .delivery _) (if_pos rfl) handler told
    | confirms handler => exact calls (y := .cancelOk _) (if_pos rfl) handler told
    | dismisses handler => exact calls (y := .cancelled _) (if_pos rfl) handler told
    | _ => cases c <;> cases told
  · rintro ⟨g, handler, calls⟩
    obtain ⟨k, t, acts, makes⟩ := callback?_eq_some.mp calls
    refine ⟨k, t, acts, ?_, happening_of_callback? acts makes handler⟩
    rintro d rfl
    cases makes

/-- What holds of the callbacks of a registration when a run has come to an end: one of them at most
is in progress, and no other begins meanwhile; if the next one tells of a cancel there has been one
of its kind; one of them at most has told of a cancel, and none comes after that one. -/
structure Serialized (g : RegistrationId) (s : Session) (es : List Event) : Prop where
  one_busy : ∀ j k, Busy g (s.run es) j → Busy g (s.run es) k → j = k
  not_busy : ∀ e c, callback? g (s.run es) e = some c → ∀ k, ¬ Busy g (s.run es) k
  confirmed : ∀ e tag, callback? g (s.run es) e = some (.cancelOk tag) →
    Occurred (Cancels g tag) s es
  cancelled : ∀ e tag, callback? g (s.run es) e = some (.cancelled tag) →
    Occurred (BrokerCancels g tag) s es
  one_notice : (trace (notices g) s es).length ≤ 1
  nothing_after : trace (notices g) s es ≠ [] → ∀ e, callback? g (s.run es) e = none

theorem serialized_run (confirms : Bool) (es : List Event) (g : RegistrationId) :
    Serialized g (initial confirms) es := by
  have busy_first := busyFirst_run confirms es
  have closing := closing_run confirms es g
  have cause {e : Event} {c : Callback} (calls : callback? g ((initial confirms).run es) e = some c)
      (notice : c.isNotice = true) :
      ∃ t : Task, t.callback? g = some c ∧
        ((∃ tag queued, t = .confirm g tag queued ∧ Occurred (Cancels g tag) (initial confirms) es) ∨
          ∃ tag, t = .dismiss g tag ∧ Occurred (BrokerCancels g tag) (initial confirms) es) := by
    obtain ⟨k, t, acts, makes⟩ := callback?_eq_some.mp calls
    exact ⟨t, makes, notifies_cause confirms es (acting?_eq_some.mp acts).2.1
      (Task.notifies_of_isNotice makes notice)⟩
  exact {
    one_busy := by
      intro j k busy busy'
      have first := busy_first g j busy
      rw [busy_first g k busy'] at first
      exact (Option.some.inj first).symm
    not_busy := fun e c calls k => not_busy_of_callback? busy_first calls k
    confirmed := by
      intro e tag calls
      obtain ⟨t, makes, ⟨tag', queued, rfl, occurred⟩ | ⟨tag', rfl, -⟩⟩ := cause calls rfl
      · cases queued with
        | false => cases makes
        | true =>
          rw [Task.callback?, if_pos rfl] at makes
          cases makes
          exact occurred
      · rw [Task.callback?, if_pos rfl] at makes
        cases makes
    cancelled := by
      intro e tag calls
      obtain ⟨t, makes, ⟨tag', queued, rfl, -⟩ | ⟨tag', rfl, occurred⟩⟩ := cause calls rfl
      · cases queued with
        | false => cases makes
        | true =>
          rw [Task.callback?, if_pos rfl] at makes
          cases makes
      · rw [Task.callback?, if_pos rfl] at makes
        cases makes
        exact occurred
    one_notice := closing.once
    nothing_after := by
      intro given e
      cases calls : callback? g ((initial confirms).run es) e with
      | none => rfl
      | some c =>
        obtain ⟨k, t, acts, makes⟩ := callback?_eq_some.mp calls
        exact absurd (Task.about?_of_callback? makes).1
          (closing.quiet given k t (acting?_eq_some.mp acts).2.1) }

/-- **Serialized callbacks**: what the channel tells handlers in a run are the callbacks of their
registrations, and those of a registration come one at a time, with none after the one that tells of
a cancel. -/
theorem callbacks_serialized (confirms : Bool) (es : List Event) :
    (∀ e h c, ChannelTells h c ((initial confirms).run es) e ↔
      ∃ g, ((initial confirms).run es).channel.handler? g = some h ∧
        callback? g ((initial confirms).run es) e = some c) ∧
    ∀ g, Serialized g (initial confirms) es :=
  ⟨fun _ _ _ => tells_iff, serialized_run confirms es⟩

/-- A handler is busy with the first of two messages when its tag is cancelled. -/
def cancelledWhileBusy : List Event :=
  [.publish ⟨"orders"⟩ ⟨{}, ⟨#[1]⟩⟩, .publish ⟨"orders"⟩ ⟨{}, ⟨#[2]⟩⟩,
    .addRecorder ⟨"clerk"⟩ (fun _ => 10) (fun _ => false),
    .command (.consume ⟨"orders"⟩ ⟨"clerk"⟩ 0), .step 0, .step 0,
    .command (.cancel ⟨"clerk"⟩), .step 1]

/-- The notice comes when the handler is done, and the second message does not come. -/
theorem callbacks_serialized_cancelledWhileBusy :
    Busy 0 ((initial true).run cancelledWhileBusy) 0 ∧
      callback? 0 ((initial true).run cancelledWhileBusy) (.step 1) = none ∧
      trace (notices 0) (initial true) (cancelledWhileBusy ++ [.pass 10, .step 0, .step 1]) =
        [.cancelOk ⟨"clerk"⟩] ∧
      ∀ e, callback? 0 ((initial true).run (cancelledWhileBusy ++ [.pass 10, .step 0, .step 1])) e =
        none := by
  have given : trace (notices 0) (initial true)
      (cancelledWhileBusy ++ [.pass 10, .step 0, .step 1]) = [.cancelOk ⟨"clerk"⟩] := rfl
  refine ⟨⟨_, _, _, _, _, rfl⟩, rfl, given, ?_⟩
  have serialized :=
    (callbacks_serialized true (cancelledWhileBusy ++ [.pass 10, .step 0, .step 1])).2 0
  exact serialized.nothing_after (by rw [given]; exact nofun)

end Intake.Session
