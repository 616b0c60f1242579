import Intake.Proofs.Channel.Contents
import Intake.Proofs.Channel.Tags

/-!
# Commands as a whole

A command is refused and nothing happens, or it is taken and the log has it. A tag that stands for a
registration is not given to another one before it is freed (`registration?_iff_live`), and a channel
that is closed stays as it is, except that deliveries prepared before may still be handed out. The
main statement is `commands_atomic`.
-/
namespace Intake

namespace Channel

/-- The commands that a channel refuses, and what it says then. -/
inductive Refuses (ch : Channel) : Command → TransportError → Prop where
  | closed (c) : ch.isOpen = false → Refuses ch c .channelClosed
  | in_use {queue tag h r} : ch.isOpen = true → ch.registration? tag = some r →
    Refuses ch (.consume queue tag h) (tagInUse tag)

theorem send_eq_error {ch : Channel} {c : Command} {error : TransportError} :
    ch.send c = .error error ↔ ch.Refuses c error := by
  constructor
  · intro refused
    unfold send at refused
    split at refused
    · next opened =>
      cases c with
      | ack | nack => cases refused
      | cancel tag =>
        simp only at refused
        split at refused
        · split at refused <;> cases refused
        · cases refused
      | consume queue tag h =>
        simp only at refused
        split at refused
        · next found =>
          cases refused
          exact .in_use opened found
        · cases refused
    · next shut =>
      cases refused
      exact .closed c (Bool.eq_false_iff.mpr shut)
  · rintro (⟨-, shut⟩ | ⟨opened, found⟩)
    · unfold send
      rw [shut]
      rfl
    · unfold send
      rw [opened]
      simp only [if_true, found]

/-- Each tag in use has one entry in the table of the tags. -/
def OneEach (ch : Channel) : Prop := (ch.registered.map Prod.fst).Nodup

theorem OneEach.unregister {ch : Channel} (one_each : ch.OneEach) (tag : ConsumerTag) :
    (ch.unregister tag).OneEach :=
  one_each.sublist (List.filter_sublist.map _)

theorem OneEach.register {ch : Channel} (one_each : ch.OneEach) {tag : ConsumerTag}
    (free : ch.registration? tag = none) (h : HandlerId) : (ch.register tag h).OneEach := by
  refine List.nodup_cons.mpr ⟨?_, one_each⟩
  intro member
  obtain ⟨p, entry, same⟩ := List.mem_map.mp member
  have other := List.lookup_eq_none_iff.mp free p entry
  simp [same] at other

theorem OneEach.send {ch ch' : Channel} (one_each : ch.OneEach) {c : Command} {f : Followup}
    (sent : ch.send c = .ok (ch', f)) : ch'.OneEach := by
  have recorded : (ch.record c).OneEach := one_each
  cases (takes_of_send sent).2 with
  | ack | nack | notes => exact recorded
  | @confirms tag => exact recorded.unregister tag
  | @registers queue tag h free => exact recorded.register free h

theorem OneEach.moved {ch : Channel} (one_each : ch.OneEach) (k : TaskId) (m : Session.Movement) :
    (ch.moved k m).OneEach := by
  cases m with
  | dismisses r tag => exact one_each.unregister tag
  | _ => exact one_each

end Channel

namespace Session

/-! ### Tags in use -/

theorem oneEach_apply {s : Session} (one_each : s.channel.OneEach) (e : Event) :
    (s.apply e).channel.OneEach := by
  have sent : (s.sendIfAny (s.command? e)).1.channel.OneEach := by
    rcases s.sent_cases e with ⟨c, f, -, sent⟩ | ⟨-, same⟩
    · exact one_each.send sent
    · rw [same]
      exact one_each
  rw [apply_channel]
  cases e with
  | close => exact List.nodup_nil
  | step k =>
    rw [rearranged]
    split
    · exact sent.moved ..
    · exact sent
  | drop k =>
    rw [rearranged]
    split <;> exact sent
  | _ => exact sent

theorem oneEach_run {s : Session} (one_each : s.channel.OneEach) (es : List Event) :
    (s.run es).channel.OneEach := by
  induction es generalizing s with
  | nil => exact one_each
  | cons e es ih => exact ih (oneEach_apply one_each e)

/-- A registration is live under a tag after a run: a command to consume has made it under the tag,
and the tag has not been freed since. -/
inductive Live (g : RegistrationId) (tag : ConsumerTag) (s : Session) : List Event → Prop where
  | made {es e queue h} : (s.run es).taken? e = some (.consume queue tag h) →
    g = (s.run es).channel.registrations.length → Live g tag s (es ++ [e])
  | stays {es e} : Live g tag s es → ¬ (s.run es).frees e tag → Live g tag s (es ++ [e])

theorem live_concat {g : RegistrationId} {tag : ConsumerTag} {s : Session} {es : List Event}
    {e : Event} (live : Live g tag s (es ++ [e])) :
    ((∃ queue h, (s.run es).taken? e = some (.consume queue tag h)) ∧
      g = (s.run es).channel.registrations.length) ∨
    (Live g tag s es ∧ ¬ (s.run es).frees e tag) := by
  generalize whole : es ++ [e] = es' at live
  cases live with
  | made taken new =>
    obtain ⟨rfl, last⟩ := List.append_inj' whole rfl
    cases last
    exact .inl ⟨⟨_, _, taken⟩, new⟩
  | stays live kept =>
    obtain ⟨rfl, last⟩ := List.append_inj' whole rfl
    cases last
    exact .inr ⟨live, kept⟩

/-- **Tags in use**: a tag stands for the registration that is live under it. -/
theorem registration?_iff_live (confirms : Bool) (es : List Event) (tag : ConsumerTag)
    (g : RegistrationId) :
    ((initial confirms).run es).channel.registration? tag = some g ↔
      Live g tag (initial confirms) es := by
  induction es using List.reverseRecOn generalizing g with
  | nil =>
    constructor
    · intro found
      cases found
    · intro live
      generalize whole : ([] : List Event) = es' at live
      cases live <;> simp at whole
  | append_singleton es e ih =>
    rw [run_concat]
    constructor
    · intro found
      rcases registration?_apply_cases found with old | ⟨⟨queue, h, taken⟩, new⟩
      · refine .stays ((ih g).mp old) ?_
        intro freed
        rw [registration?_of_frees freed] at found
        cases found
      · exact .made taken new
    · intro live
      rcases live_concat live with ⟨⟨queue, h, taken⟩, rfl⟩ | ⟨live, kept⟩
      · exact registration?_of_consume taken
      · -- A tag that is in use is not given out, so that it stands for what it has stood for.
        have found := (ih g).mpr live
        rw [registration?_of_keeps kept]
        split
        · next queue tag' h taken =>
          rw [if_neg, found]
          rintro rfl
          rw [(free_of_consume taken).2] at found
          cases found
        · exact found

/-! ### After closing -/

theorem closed_run {s : Session} (closed : s.channel.isOpen = false) (es : List Event) :
    (s.run es).channel.isOpen = false := by
  induction es generalizing s with
  | nil => exact closed
  | cons e es ih =>
    apply ih
    by_cases closes : e = .close
    · rw [closes]
      rfl
    · rw [isOpen_apply s closes, closed]

theorem recorded_of_closed {s : Session} (closed : s.channel.isOpen = false) (e : Event) :
    s.recorded e = [] := by
  rcases s.sent_cases e with ⟨c, f, -, sent⟩ | ⟨untaken, -⟩
  · rw [(Channel.takes_of_send sent).1] at closed
    cases closed
  · exact recorded_of_untaken untaken

theorem prepared_of_free {s : Session} (free : ∀ tag, s.channel.registration? tag = none)
    (e : Event) : prepared s e = [] := by
  unfold prepared
  cases s.acting? e with
  | none => rfl
  | some a =>
    rw [Option.bind_some]
    rcases s.draws?_cases a.2 with ⟨_, tag, _, _, _, -, found, -⟩ | ⟨none_drawn, -⟩
    · rw [free] at found
      cases found
    · rw [none_drawn]
      rfl

theorem registered_eq_nil {ch : Channel} (free : ∀ tag, ch.registration? tag = none) :
    ch.registered = [] := by
  cases entries : ch.registered with
  | nil => rfl
  | cons p rest =>
    have found : ch.registration? p.1 = some p.2 := by
      rw [Channel.registration?, entries]
      exact List.lookup_cons_self
    rw [free] at found
    cases found

/-- A closed channel takes no command, so its log stays as it is. -/
theorem log_of_closed {s : Session} (closed : s.channel.isOpen = false) (es : List Event) :
    (s.run es).channel.log = s.channel.log := by
  have nothing := trace_eq_nil fun before => recorded_of_closed (closed_run closed before)
  rw [log_run, nothing es, List.append_nil]

theorem trace_prepared_of_closed {s : Session} (shut : s.Shut) (closed : s.channel.isOpen = false)
    (es : List Event) : trace prepared s es = [] :=
  trace_eq_nil (fun before => prepared_of_free (shut.run before (closed_run closed before))) es

/-- What is left of a channel that is closed after a run, whatever comes then: it stays closed and
empty, it refuses every command, and replays prepare no more deliveries, so that what is handed out
has been prepared before and has got its tag then. -/
structure ClosedForGood (s : Session) (es fs : List Event) : Prop where
  shut : (((s.run es).apply .close).run fs).channel.isOpen = false
  log : (((s.run es).apply .close).run fs).channel.log = (s.run es).channel.log
  empty : (((s.run es).apply .close).run fs).channel.registered = []
  refuses : ∀ c, (((s.run es).apply .close).run fs).channel.send c = .error .channelClosed
  prepares_nothing : trace prepared ((s.run es).apply .close) fs = []
  prepared_before : ∀ p ∈ trace handsOut ((s.run es).apply .close) fs,
    p ∈ trace prepared s es ∧ p.2.tag ∈ trace issued s es

theorem closed_for_good (confirms : Bool) (es fs : List Event) :
    ClosedForGood (initial confirms) es fs := by
  have whole : ((initial confirms).run es).apply .close = (initial confirms).run (es ++ [.close]) :=
    (run_concat ..).symm
  have shut : (((initial confirms).run es).apply .close).Shut := by
    rw [whole]
    exact (shut_initial confirms).run _
  have prepares_nothing := trace_prepared_of_closed shut rfl fs
  exact {
    shut := closed_run rfl fs
    log := log_of_closed rfl fs
    empty := registered_eq_nil (shut.run fs (closed_run rfl fs))
    refuses := fun c => Channel.send_eq_error.mpr (.closed c (closed_run rfl fs))
    prepares_nothing := prepares_nothing
    prepared_before := by
      intro p member
      have handed : p ∈ trace handsOut (initial confirms) ((es ++ [.close]) ++ fs) := by
        rw [trace_append, ← whole]
        exact List.mem_append_right _ member
      have before := (handsOut_subperm confirms _).subset handed
      rw [trace_append, ← whole, prepares_nothing, List.append_nil, trace_concat] at before
      have before : p ∈ trace prepared (initial confirms) es :=
        (List.mem_append.mp before).resolve_right List.not_mem_nil
      exact ⟨before, (tags_prepared_sublist _ es).subset (List.mem_map_of_mem before)⟩ }

/-! ### All or nothing -/

/-- What comes of a command: if it fails nothing happens, except that a failure that was due is not
due any more; a command that reaches the channel fails only if the channel refuses it; and a command
that does not fail is recorded. -/
structure AllOrNothing (s : Session) (c : Command) : Prop where
  fails : ∀ error, (s.send c).2 = .error error → ∃ faults, (s.send c).1 = { s with faults := faults }
  refused : takeFault? c.kind s.faults = none → ∀ error, s.channel.Refuses c error →
    s.send c = (s, .error error)
  reason : takeFault? c.kind s.faults = none → ∀ error, (s.send c).2 = .error error →
    s.channel.Refuses c error
  recorded : (s.send c).2 = .ok () → (s.send c).1.channel.log = s.channel.log ++ [c]

theorem all_or_nothing (s : Session) (c : Command) : AllOrNothing s c where
  fails := by
    intro error failed
    unfold send at failed ⊢
    cases due : takeFault? c.kind s.faults with
    | some p => exact ⟨p.2, rfl⟩
    | none =>
      rw [due] at failed
      cases sent : s.channel.send c with
      | error e => exact ⟨s.faults, rfl⟩
      | ok p =>
        rw [sent] at failed
        cases failed
  refused := by
    intro reaches error refuses
    unfold send
    rw [reaches, Channel.send_eq_error.mpr refuses]
  reason := by
    intro reaches error failed
    unfold send at failed
    rw [reaches] at failed
    apply Channel.send_eq_error.mp
    cases sent : s.channel.send c with
    | error e =>
      rw [sent] at failed
      cases failed
      rfl
    | ok p =>
      rw [sent] at failed
      cases failed
  recorded := by
    intro fine
    have log := s.sendIfAny_log (some c)
    rw [sendIfAny, fine] at log
    exact log

/-- **Commands as a whole**: after every run each command is taken or refused as a whole; the log
has the commands that the channel has taken, in their order; a tag stands for the registration that
is live under it, which is one at most; and a channel that is closed now is closed for good. -/
theorem commands_atomic (confirms : Bool) (es : List Event) :
    (∀ c, AllOrNothing ((initial confirms).run es) c) ∧
    ((initial confirms).run es).channel.log =
      trace (fun s e => (s.taken? e).toList) (initial confirms) es ∧
    (((initial confirms).run es).channel.registered.map Prod.fst).Nodup ∧
    (∀ tag g, ((initial confirms).run es).channel.registration? tag = some g ↔
      Live g tag (initial confirms) es) ∧
    (∀ tag g g', Live g tag (initial confirms) es → Live g' tag (initial confirms) es → g = g') ∧
    ∀ fs, ClosedForGood (initial confirms) es fs := by
  have starts : (initial confirms).channel.OneEach := List.nodup_nil
  refine ⟨all_or_nothing _, ?_, oneEach_run starts es, registration?_iff_live confirms es, ?_,
    closed_for_good confirms es⟩
  · have records : recorded = fun s e => (s.taken? e).toList := by
      funext s e
      exact s.recorded_eq_taken e
    rw [log_run, records]
    rfl
  · intro tag g g' live live'
    rw [← registration?_iff_live] at live live'
    rw [live] at live'
    exact Option.some.inj live'

/-- A delivery waits for its handler, and its tag is asked for once more in vain. -/
def waitingWhenClosed : List Event :=
  [.publish ⟨"orders"⟩ ⟨{}, ⟨#[1]⟩⟩, .addRecorder ⟨"clerk"⟩ (fun _ => 10) (fun _ => false),
    .command (.consume ⟨"orders"⟩ ⟨"clerk"⟩ 0), .step 0, .command (.consume ⟨"orders"⟩ ⟨"clerk"⟩ 0)]

/-- The delivery is handed over when the channel is closed already. -/
theorem commands_atomic_waitingWhenClosed :
    ((initial true).run waitingWhenClosed).channel.log = [.consume ⟨"orders"⟩ ⟨"clerk"⟩ 0] ∧
      Live 0 ⟨"clerk"⟩ (initial true) waitingWhenClosed ∧
      ((initial true).run waitingWhenClosed).send (.consume ⟨"orders"⟩ ⟨"clerk"⟩ 0) =
        ((initial true).run waitingWhenClosed, .error (Channel.tagInUse ⟨"clerk"⟩)) ∧
      (trace handsOut (((initial true).run waitingWhenClosed).apply .close) [.step 0]).map
        (·.2.tag) = [⟨1⟩] ∧
      ClosedForGood (initial true) waitingWhenClosed [.step 0] := by
  obtain ⟨whole, -, -, live, -, closed⟩ := commands_atomic true waitingWhenClosed
  refine ⟨rfl, (live _ _).mp rfl, ?_, rfl, closed _⟩
  exact (whole _).refused rfl _ (.in_use rfl rfl)

end Session
end Intake
