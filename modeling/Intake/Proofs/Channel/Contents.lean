import Intake.Proofs.Session.Registrations

/-!
# What commands leave alone

A channel that takes a command or lets a task move in its lines keeps its messages; only publishing
adds to a queue (`messages_run`). A channel that is closed stays closed and all its tags are free
(`Shut`). Where no failure was asked for, a cancel fails on a closed channel only
(`answer_of_cancel`).
-/
namespace Intake

namespace Channel

theorem messages_publish (ch : Channel) (queue queue' : QueueName) (m : Stored) :
    (ch.publish queue m).messages queue' =
      ch.messages queue' ++ if queue = queue' then [m] else [] := by
  unfold messages publish
  by_cases own : queue = queue'
  · subst own
    simp [messages]
  · have other : (queue' == queue) = false := by simpa using Ne.symm own
    simp only [List.lookup_cons, other, Session.lookup_filter_ne, if_neg (Ne.symm own), if_neg own,
      List.append_nil]

/-- A channel without its registrations, tags and log: what a command does not change. -/
def fixed (ch : Channel) : Bool × Bool × List (QueueName × List Stored) :=
  (ch.isOpen, ch.confirmsCancels, ch.queues)

theorem send_fixed {ch ch' : Channel} {c : Command} {f : Followup}
    (sent : ch.send c = .ok (ch', f)) : ch'.fixed = ch.fixed := by
  cases (takes_of_send sent).2 <;> rfl

theorem moved_fixed (ch : Channel) (k : TaskId) (m : Session.Movement) :
    (ch.moved k m).fixed = ch.fixed := by
  cases m <;> rfl

end Channel

namespace Session

theorem sent_fixed (s : Session) (e : Event) :
    (s.sendIfAny (s.command? e)).1.channel.fixed = s.channel.fixed := by
  rcases s.sent_cases e with ⟨c, f, -, sent⟩ | ⟨-, same⟩
  · exact Channel.send_fixed sent
  · rw [same]

/-! ### Queues -/

/-- What an event adds to a queue. -/
def published (queue : QueueName) (_ : Session) : Event → List Stored
  | .publish queue' m => if queue' = queue then [m] else []
  | _ => []

/-- Whether an event publishes, closes or ends the confirming of cancels. -/
def Event.alters : Event → Bool
  | .publish .. => true
  | .close => true
  | .silence => true
  | _ => false

/-- Nothing else changes a channel apart from its registrations, its tags and its log. -/
theorem fixed_apply (s : Session) {e : Event} (unaltered : e.alters = false) :
    (s.apply e).channel.fixed = s.channel.fixed := by
  rw [apply_channel, ← s.sent_fixed e]
  cases e with
  | publish | close | silence => cases unaltered
  | step k =>
    rw [rearranged]
    split
    · exact Channel.moved_fixed ..
    · rfl
  | drop k =>
    rw [rearranged]
    split <;> rfl
  | _ => rfl

theorem messages_apply (s : Session) (e : Event) (queue : QueueName) :
    (s.apply e).channel.messages queue = s.channel.messages queue ++ published queue s e := by
  have kept (unaltered : e.alters = false) :
      (s.apply e).channel.messages queue = s.channel.messages queue ++ [] := by
    have same : (s.apply e).channel.queues = s.channel.queues :=
      congrArg (·.2.2) (s.fixed_apply unaltered)
    rw [Channel.messages, same, List.append_nil, Channel.messages]
  cases e with
  | publish queue' m => exact s.channel.messages_publish queue' queue m
  | close | silence => exact (List.append_nil _).symm
  | _ => exact kept rfl

/-- **Queues**: a run adds to a queue what it publishes there, and does nothing else to it. -/
theorem messages_run (s : Session) (es : List Event) (queue : QueueName) :
    (s.run es).channel.messages queue =
      s.channel.messages queue ++ trace (published queue) s es := by
  induction es generalizing s with
  | nil => exact (List.append_nil _).symm
  | cons e es ih => rw [run_cons, ih, messages_apply, trace, List.append_assoc]

/-! ### Closing -/

theorem confirms_apply (s : Session) {e : Event} (no_silence : e ≠ .silence) :
    (s.apply e).channel.confirmsCancels = s.channel.confirmsCancels := by
  have kept (unaltered : e.alters = false) :
      (s.apply e).channel.confirmsCancels = s.channel.confirmsCancels :=
    congrArg (·.2.1) (s.fixed_apply unaltered)
  cases e with
  | publish | close => rfl
  | silence => exact absurd rfl no_silence
  | _ => exact kept rfl

/-- A channel that confirms cancels has confirmed them before. -/
theorem confirms_of_run {s : Session} {es : List Event}
    (confirms : (s.run es).channel.confirmsCancels = true) :
    s.channel.confirmsCancels = true := by
  induction es generalizing s with
  | nil => exact confirms
  | cons e es ih =>
    by_cases silenced : e = .silence
    · -- After it the channel confirms nothing.
      subst silenced
      cases ih confirms
    · rw [← s.confirms_apply silenced]
      exact ih confirms

theorem isOpen_apply (s : Session) {e : Event} (no_close : e ≠ .close) :
    (s.apply e).channel.isOpen = s.channel.isOpen := by
  have kept (unaltered : e.alters = false) :
      (s.apply e).channel.isOpen = s.channel.isOpen := congrArg (·.1) (s.fixed_apply unaltered)
  cases e with
  | publish | silence => rfl
  | close => exact absurd rfl no_close
  | _ => exact kept rfl

/-- All tags are free once the channel is closed. -/
def Shut (s : Session) : Prop :=
  s.channel.isOpen = false → ∀ tag, s.channel.registration? tag = none

theorem Shut.apply {s : Session} (shut : s.Shut) (e : Event) : (s.apply e).Shut := by
  intro closed tag
  by_cases closes : e = .close
  · exact registration?_of_frees (.inl closes)
  · rw [isOpen_apply _ closes] at closed
    cases found : (s.apply e).channel.registration? tag with
    | none => rfl
    | some r =>
      -- A closed channel takes no command to consume, so that the tag would have been there.
      rcases registration?_apply_cases found with before | ⟨⟨queue, h, taken⟩, -⟩
      · rw [shut closed] at before
        cases before
      · rw [(free_of_consume taken).1] at closed
        cases closed

theorem Shut.run {s : Session} (shut : s.Shut) (es : List Event) : (s.run es).Shut := by
  induction es generalizing s with
  | nil => exact shut
  | cons e es ih => exact ih (shut.apply e)

theorem shut_initial (confirms : Bool) : (initial confirms).Shut := fun _ _ => rfl

/-! ### Failures -/

/-- No failure of a command is asked for. -/
def Faultless (es : List Event) : Prop := ∀ kind error, .fault kind error ∉ es

theorem faultless_append {es fs : List Event} :
    Faultless (es ++ fs) ↔ Faultless es ∧ Faultless fs := by
  simp only [Faultless, List.mem_append, not_or, forall_and]

theorem faultless_cons {e : Event} {es : List Event} :
    Faultless (e :: es) ↔ (∀ kind error, e ≠ .fault kind error) ∧ Faultless es := by
  simp only [Faultless, List.mem_cons, not_or, forall_and, ne_eq, eq_comm]

theorem sendIfAny_faults {s : Session} (none_due : s.faults = []) (c : Option Command) :
    (s.sendIfAny c).1.faults = [] := by
  cases c with
  | none => exact none_due
  | some c =>
    unfold sendIfAny send
    rw [none_due]
    simp only [takeFault?]
    split
    · exact none_due
    · next f _ => cases f <;> rfl

theorem outline_faults {s : Session} (none_due : s.faults = []) (k : TaskId) (t : Task) :
    (s.outline k t).faults = [] := by
  have enrolled : (s.enrol t).faults = [] := by
    unfold enrol
    split
    · split <;> exact none_due
    · exact none_due
  have sent := sendIfAny_faults enrolled (s.taskCommand? t)
  have moved (u : Session) (x : Option (HandlerId × Happening)) (m : Movement) (f : Fate) :
      (((u.alterIfAny x).move k m).meet k f).faults = u.faults := by
    cases x <;> cases m <;> cases f <;> rfl
  rw [outline, moved, sent]

theorem faults_apply {s : Session} (none_due : s.faults = []) {e : Event}
    (faultless : ∀ kind error, e ≠ .fault kind error) : (s.apply e).faults = [] := by
  cases e with
  | fault kind error => exact absurd rfl (faultless kind error)
  | step k =>
    rw [apply_step]
    cases s.acting? (.step k) with
    | none => exact none_due
    | some a => exact outline_faults none_due a.1 a.2
  | command c => exact sendIfAny_faults none_due (some c)
  | cancelBrowser h =>
    rw [apply, cancelBrowser_eq]
    exact sendIfAny_faults none_due _
  | drop k =>
    simp only [apply, giveUp]
    split <;> exact none_due
  | takeCollected h =>
    rw [apply, takeCollected_eq]
    exact none_due
  | addReceiver queue tag converter selector config =>
    simp only [apply, addReceiver]
    split <;> exact none_due
  | _ => exact none_due

theorem faults_run {s : Session} (none_due : s.faults = []) (es : List Event)
    (faultless : Faultless es) : (s.run es).faults = [] := by
  induction es generalizing s with
  | nil => exact none_due
  | cons e es ih =>
    obtain ⟨now, later⟩ := faultless_cons.mp faultless
    exact ih (faults_apply none_due now) later

/-- Where no failure is due, a cancel is refused by a closed channel only. -/
theorem answer_of_cancel {s : Session} (none_due : s.faults = []) {e : Event} {tag : ConsumerTag}
    (sends : s.command? e = some (.cancel tag)) : s.answer e = .ok () ↔ s.channel.isOpen = true := by
  unfold answer sendIfAny send
  rw [sends, none_due]
  simp only [takeFault?, Channel.send]
  cases s.channel.isOpen with
  | false => simp
  | true =>
    cases s.channel.registration? tag with
    | none => simp
    | some r => cases s.channel.confirmsCancels <;> simp

end Session
end Intake
