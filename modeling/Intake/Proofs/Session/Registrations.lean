import Intake.Proofs.Session.Tasks

/-!
# What a run does to its registrations

A registration keeps its handler forever and its tag until the tag is freed. The tasks in its line
are those that wait for their turn with its handler or have it (`Orderly`).
-/
namespace Intake

/-! ### Channels -/

namespace Channel

theorem registration?_unregister (ch : Channel) (tag tag' : ConsumerTag) :
    (ch.unregister tag).registration? tag' = if tag' = tag then none else ch.registration? tag' :=
  Session.lookup_filter_ne ch.registered tag tag'

theorem registration?_register (ch : Channel) (tag tag' : ConsumerTag) (h : HandlerId) :
    (ch.register tag h).registration? tag' =
      if tag' = tag then some ch.registrations.length else ch.registration? tag' := by
  unfold registration? register
  rw [List.lookup_cons]
  by_cases same : tag' = tag
  · simp [same]
  · have other : (tag' == tag) = false := by simpa using same
    simp [same, other]

/-- A command that is taken gives a tag to a new registration, or it frees one. -/
theorem send_registration? {ch ch' : Channel} {c : Command} {f : Followup}
    (sent : ch.send c = .ok (ch', f)) (tag : ConsumerTag) :
    ch'.registration? tag =
      match c with
      | .consume _ tag' _ =>
        if tag = tag' then some ch.registrations.length else ch.registration? tag
      | .cancel tag' =>
        if ch.confirmsCancels ∧ tag = tag' then none else ch.registration? tag
      | _ => ch.registration? tag := by
  cases (takes_of_send sent).2 with
  | ack | nack => rfl
  | @confirms tag' r found confirms =>
    simp only [confirms, true_and]
    exact registration?_unregister _ tag' tag
  -- A tag that stands for nothing is as good as freed.
  | @notes tag' quiet =>
    simp only
    split
    · next freed =>
      rcases quiet with unknown | silent
      · rw [freed.2]
        exact unknown
      · rw [silent] at freed
        cases freed.1
    · rfl
  | registers free => exact registration?_register ..

theorem send_registrations {ch ch' : Channel} {c : Command} {f : Followup}
    (sent : ch.send c = .ok (ch', f)) :
    ch'.registrations =
      match c with
      | .consume _ _ h => ch.registrations ++ [{ handler := h }]
      | _ => ch.registrations := by
  cases (takes_of_send sent).2 <;> rfl

/-- The channel after a task has moved in its lines. -/
def moved (ch : Channel) (k : TaskId) : Session.Movement → Channel
  | .stays => ch
  | .queues r => ch.enqueue r k
  | .dismisses r tag => (ch.unregister tag).enqueue r k
  | .draws r => ch.allocate.2.enqueue r k
  | .leaves => ch.leave k

theorem send_line {ch ch' : Channel} {c : Command} {f : Followup}
    (sent : ch.send c = .ok (ch', f)) (r : RegistrationId) : ch'.line r = ch.line r := by
  unfold line
  rw [send_registrations sent]
  cases c with
  | consume queue tag h =>
    simp only
    by_cases known : r < ch.registrations.length
    · rw [List.getElem?_append_left known]
    · have unknown := Nat.le_of_not_lt known
      rw [List.getElem?_append_right unknown, List.getElem?_eq_none unknown,
        List.getElem?_singleton]
      split <;> rfl
  | _ => rfl

theorem send_handler? {ch ch' : Channel} {c : Command} {f : Followup}
    (sent : ch.send c = .ok (ch', f)) {r : RegistrationId} (known : r < ch.registrations.length) :
    ch'.handler? r = ch.handler? r := by
  unfold handler?
  rw [send_registrations sent]
  cases c with
  | consume queue tag h => rw [List.getElem?_append_left known]
  | _ => rfl

theorem line_enqueue {ch : Channel} {r : RegistrationId} (known : r < ch.registrations.length)
    (k : TaskId) (r' : RegistrationId) :
    (ch.enqueue r k).line r' = if r = r' then ch.line r' ++ [k] else ch.line r' := by
  unfold line enqueue
  rw [List.getElem?_modify]
  by_cases same : r = r'
  · subst same
    simp [List.getElem?_eq_getElem known]
  · simp [same]

theorem line_leave (ch : Channel) (k : TaskId) (r : RegistrationId) :
    (ch.leave k).line r = (ch.line r).filter (· ≠ k) := by
  unfold line leave
  rw [List.getElem?_map]
  cases ch.registrations[r]? with
  | none => rfl
  | some g => rfl

theorem handler?_isSome {ch : Channel} {r : RegistrationId} :
    (ch.handler? r).isSome ↔ r < ch.registrations.length := by
  simp [handler?]

theorem handler?_enqueue (ch : Channel) (r r' : RegistrationId) (k : TaskId) :
    (ch.enqueue r k).handler? r' = ch.handler? r' := by
  unfold handler? enqueue
  rw [List.getElem?_modify]
  by_cases same : r = r'
  · subst same
    cases ch.registrations[r]? <;> simp
  · simp [same]

theorem handler?_leave (ch : Channel) (k : TaskId) (r : RegistrationId) :
    (ch.leave k).handler? r = ch.handler? r := by
  unfold handler? leave
  rw [List.getElem?_map]
  cases ch.registrations[r]? <;> rfl

theorem handler?_moved (ch : Channel) (k : TaskId) (m : Session.Movement) (r : RegistrationId) :
    (ch.moved k m).handler? r = ch.handler? r := by
  cases m with
  | stays => rfl
  | queues r' => exact ch.handler?_enqueue r' r k
  | dismisses r' tag => exact handler?_enqueue _ r' r k
  | draws r' => exact handler?_enqueue _ r' r k
  | leaves => exact ch.handler?_leave k r

theorem length_moved (ch : Channel) (k : TaskId) (m : Session.Movement) :
    (ch.moved k m).registrations.length = ch.registrations.length := by
  cases m with
  | stays => rfl
  | queues r => exact List.length_modify ..
  | dismisses r tag => exact List.length_modify ..
  | draws r => exact List.length_modify ..
  | leaves => exact List.length_map ..

theorem registration?_moved (ch : Channel) (k : TaskId) (m : Session.Movement) (tag : ConsumerTag) :
    (ch.moved k m).registration? tag =
      match m with
      | .dismisses _ tag' => if tag = tag' then none else ch.registration? tag
      | _ => ch.registration? tag := by
  cases m with
  | dismisses r tag' => exact ch.registration?_unregister tag' tag
  | _ => rfl

/-- The line that a task gets in with a movement. -/
def target? : Session.Movement → Option RegistrationId
  | .queues r => some r
  | .dismisses r _ => some r
  | .draws r => some r
  | _ => none

def lineAfter (k : TaskId) (r : RegistrationId) (line : List TaskId) (m : Session.Movement) :
    List TaskId :=
  match target? m with
  | some r' => if r' = r then line ++ [k] else line
  | none =>
    match m with
    | .leaves => line.filter (· ≠ k)
    | _ => line

theorem line_moved {ch : Channel} {m : Session.Movement}
    (known : ∀ r, target? m = some r → r < ch.registrations.length) (k : TaskId)
    (r : RegistrationId) : (ch.moved k m).line r = lineAfter k r (ch.line r) m := by
  cases m with
  | stays => rfl
  | queues r' => exact line_enqueue (known r' rfl) k r
  | dismisses r' tag =>
    have known' : r' < (ch.unregister tag).registrations.length := known r' rfl
    exact line_enqueue known' k r
  | draws r' =>
    have known' : r' < ch.allocate.2.registrations.length := known r' rfl
    exact line_enqueue known' k r
  | leaves => exact ch.line_leave k r

end Channel

namespace Session

/-! ### Events -/

theorem move_channel (s : Session) (k : TaskId) (m : Movement) :
    (s.move k m).channel = s.channel.moved k m := by
  cases m <;> rfl

/-- What an event does to the channel besides sending its command. -/
def rearranged (s : Session) (e : Event) (ch : Channel) : Channel :=
  match e with
  | .publish queue message => ch.publish queue message
  | .allocate => ch.allocate.2
  | .close => ch.close
  | .silence => ch.silence
  | .step k =>
    match s.acting? (.step k) with
    | some (k, t) => ch.moved k (s.movement t)
    | none => ch
  | .drop k => if (s.task? k).any isCall then ch.leave k else ch
  | _ => ch

theorem apply_channel (s : Session) (e : Event) :
    (s.apply e).channel = s.rearranged e (s.sendIfAny (s.command? e)).1.channel := by
  cases e with
  | step k =>
    rw [apply_step, rearranged, command?]
    cases acts : s.acting? (.step k) with
    | none => rfl
    | some a =>
      obtain ⟨k', t⟩ := a
      simp only [outline, meet_channel, move_channel, alterIfAny_channel, Option.bind_some]
      congr 1
      exact (s.enrol_sends t _).2
  | drop k =>
    simp only [apply, giveUp, rearranged]
    split <;> rfl
  | cancelBrowser h =>
    rw [apply, cancelBrowser_eq]
    rfl
  | takeCollected h =>
    rw [apply, takeCollected_eq]
    rfl
  | addReceiver queue tag converter selector config =>
    simp only [apply, addReceiver]
    split <;> rfl
  | _ => rfl

/-- The command that the channel takes at an event. -/
def taken? (s : Session) (e : Event) : Option Command :=
  match s.answer e with
  | .ok () => s.command? e
  | .error _ => none

theorem recorded_eq_taken (s : Session) (e : Event) : s.recorded e = (s.taken? e).toList := by
  rw [recorded_eq, taken?]
  cases s.answer e <;> rfl

theorem recorded_of_taken {s : Session} {e : Event} {c : Command} (taken : s.taken? e = some c) :
    s.recorded e = [c] := by
  rw [recorded_eq_taken, taken, Option.toList_some]

theorem recorded_of_untaken {s : Session} {e : Event} (untaken : s.taken? e = none) :
    s.recorded e = [] := by
  rw [recorded_eq_taken, untaken, Option.toList_none]

theorem sendIfAny_channel_cases (s : Session) (c : Option Command) :
    (∃ c' f, c = some c' ∧ (s.sendIfAny c).2 = .ok () ∧
      s.channel.send c' = .ok ((s.sendIfAny c).1.channel, f)) ∨
    ((s.sendIfAny c).1.channel = s.channel ∧ (c = none ∨ (s.sendIfAny c).2 ≠ .ok ())) := by
  cases c with
  | none => exact .inr ⟨rfl, .inl rfl⟩
  | some c =>
    simp only [sendIfAny, send]
    split
    · exact .inr ⟨rfl, .inr (by simp)⟩
    · split
      · exact .inr ⟨rfl, .inr (by simp)⟩
      · next f sent => exact .inl ⟨c, f, rfl, rfl, by simpa using sent⟩

theorem sent_cases (s : Session) (e : Event) :
    (∃ c f, s.taken? e = some c ∧
      s.channel.send c = .ok ((s.sendIfAny (s.command? e)).1.channel, f)) ∨
    (s.taken? e = none ∧ (s.sendIfAny (s.command? e)).1.channel = s.channel) := by
  unfold taken? answer
  rcases s.sendIfAny_channel_cases (s.command? e) with ⟨c, f, command, fine, sent⟩ | ⟨same, nothing⟩
  · rw [fine]
    exact .inl ⟨c, f, command, sent⟩
  · right
    refine ⟨?_, same⟩
    rcases nothing with idle | failed
    · rw [idle]
      split <;> rfl
    · split
      · next fine => exact absurd fine failed
      · rfl

theorem sent_registration? (s : Session) (e : Event) (tag : ConsumerTag) :
    (s.sendIfAny (s.command? e)).1.channel.registration? tag =
      match s.taken? e with
      | some (.consume _ tag' _) =>
        if tag = tag' then some s.channel.registrations.length else s.channel.registration? tag
      | some (.cancel tag') =>
        if s.channel.confirmsCancels ∧ tag = tag' then none else s.channel.registration? tag
      | _ => s.channel.registration? tag := by
  rcases s.sent_cases e with ⟨c, f, taken, sent⟩ | ⟨idle, same⟩
  · rw [taken, Channel.send_registration? sent]
    cases c <;> rfl
  · rw [idle, same]

theorem sent_length (s : Session) (e : Event) :
    (s.sendIfAny (s.command? e)).1.channel.registrations.length =
      s.channel.registrations.length +
        match s.taken? e with
        | some (.consume ..) => 1
        | _ => 0 := by
  rcases s.sent_cases e with ⟨c, f, taken, sent⟩ | ⟨idle, same⟩
  · rw [taken, Channel.send_registrations sent]
    cases c with
    | consume queue tag h => exact List.length_append
    | _ => rfl
  · rw [idle, same]
    rfl

theorem sent_line (s : Session) (e : Event) (r : RegistrationId) :
    (s.sendIfAny (s.command? e)).1.channel.line r = s.channel.line r := by
  rcases s.sent_cases e with ⟨c, f, -, sent⟩ | ⟨-, same⟩
  · exact Channel.send_line sent r
  · rw [same]

theorem sent_handler? (s : Session) (e : Event) {r : RegistrationId}
    (known : r < s.channel.registrations.length) :
    (s.sendIfAny (s.command? e)).1.channel.handler? r = s.channel.handler? r := by
  rcases s.sent_cases e with ⟨c, f, -, sent⟩ | ⟨-, same⟩
  · exact Channel.send_handler? sent known
  · rw [same]

theorem rearranged_length (s : Session) (e : Event) (ch : Channel) :
    (s.rearranged e ch).registrations.length = ch.registrations.length := by
  cases e with
  | step k =>
    rw [rearranged]
    split
    · exact ch.length_moved ..
    · rfl
  | drop k =>
    rw [rearranged]
    split
    · exact List.length_map ..
    · rfl
  | _ => rfl

theorem rearranged_handler? (s : Session) (e : Event) (ch : Channel) (r : RegistrationId) :
    (s.rearranged e ch).handler? r = ch.handler? r := by
  cases e with
  | step k =>
    rw [rearranged]
    split
    · exact ch.handler?_moved ..
    · rfl
  | drop k =>
    rw [rearranged]
    split
    · exact ch.handler?_leave ..
    · rfl
  | _ => rfl

/-- There are as many registrations as commands to consume that the channel has taken. -/
theorem length_apply (s : Session) (e : Event) :
    (s.apply e).channel.registrations.length = s.channel.registrations.length +
      match s.taken? e with
      | some (.consume ..) => 1
      | _ => 0 := by
  rw [apply_channel, rearranged_length, sent_length]

/-- A registration keeps its handler. -/
theorem handler?_apply (s : Session) (e : Event) {r : RegistrationId}
    (known : r < s.channel.registrations.length) :
    (s.apply e).channel.handler? r = s.channel.handler? r := by
  rw [apply_channel, rearranged_handler?, s.sent_handler? e known]

/-! ### Tags -/

/-- Whether an event frees a tag. -/
def frees (s : Session) (e : Event) (tag : ConsumerTag) : Prop :=
  e = .close ∨ (s.taken? e = some (.cancel tag) ∧ s.channel.confirmsCancels) ∨
    ∃ k, s.acting? e = some (k, .start (.brokerCancel tag))

theorem taken?_eq_some {s : Session} {e : Event} {c : Command} :
    s.taken? e = some c ↔ s.command? e = some c ∧ s.answer e = .ok () := by
  unfold taken?
  split <;> simp_all

/-- A task that starts with an event is a call, or it follows a command that the channel takes. -/
theorem born?_cases {s : Session} {e : Event} {t : Task} (born : s.born? e = some t) :
    (∃ c, e = .call c ∧ t = .start c) ∨
    (∃ queue tag h, s.taken? e = some (.consume queue tag h) ∧
      t = .replay queue tag (s.channel.messages queue) .next) ∨
    (∃ tag r, s.taken? e = some (.cancel tag) ∧ s.channel.registration? tag = some r ∧
      t = .confirm r tag false) := by
  unfold born? at born
  split at born
  · cases born
    exact .inl ⟨_, rfl, rfl⟩
  · right
    unfold bornOf? at born
    split at born
    · next fine =>
      obtain ⟨c, sends, follows⟩ := Option.bind_eq_some_iff.mp born
      have taken := taken?_eq_some.mpr ⟨sends, fine⟩
      unfold follower? at follows
      split at follows
      · cases follows
        exact .inl ⟨_, _, _, taken, rfl⟩
      · split at follows
        · obtain ⟨r, found, rfl⟩ := Option.map_eq_some_iff.mp follows
          exact .inr ⟨_, r, taken, found, rfl⟩
        · cases follows
      · cases follows
    · cases born

theorem task_of_dismisses {s : Session} {t : Task} {r : RegistrationId} {tag : ConsumerTag}
    (moves : s.movement t = .dismisses r tag) :
    t = .start (.brokerCancel tag) ∧ s.channel.registration? tag = some r := by
  unfold movement at moves
  split at moves
  · split at moves
    · next found =>
      cases moves
      exact ⟨rfl, found⟩
    · cases moves
  · split at moves <;> cases moves
  · split at moves
    · split at moves <;> cases moves
    · cases moves
  · split at moves <;> cases moves
  · cases moves
  · cases moves
  · cases moves
  · cases moves

/-- What remains of the tags at an event, once the channel has dealt with the command. -/
theorem rearranged_registration? (s : Session) (e : Event) (ch : Channel) (tag : ConsumerTag) :
    (s.rearranged e ch).registration? tag = ch.registration? tag ∨
      (s.rearranged e ch).registration? tag = none ∧ s.frees e tag := by
  cases e with
  | close => exact .inr ⟨rfl, .inl rfl⟩
  | step k =>
    rw [rearranged]
    split
    · next k' t acts =>
      rw [ch.registration?_moved]
      split
      · next r tag' moves =>
        by_cases same : tag = tag'
        · refine .inr ⟨if_pos same, .inr (.inr ⟨k', ?_⟩)⟩
          rw [acts, (task_of_dismisses moves).1, same]
        · exact .inl (if_neg same)
      · exact .inl rfl
    · exact .inl rfl
  | drop k =>
    rw [rearranged]
    split <;> exact .inl rfl
  | _ => exact .inl rfl

theorem registration?_of_frees {s : Session} {e : Event} {tag : ConsumerTag}
    (freed : s.frees e tag) : (s.apply e).channel.registration? tag = none := by
  rcases freed with rfl | ⟨taken, confirms⟩ | ⟨k, acts⟩
  · rfl
  · have none_left : (s.sendIfAny (s.command? e)).1.channel.registration? tag = none := by
      rw [sent_registration?, taken]
      exact if_pos ⟨confirms, rfl⟩
    rw [apply_channel]
    -- Whatever else the event does, it does not bring the tag back.
    rcases s.rearranged_registration? e _ tag with same | ⟨nothing, -⟩
    · rw [same, none_left]
    · exact nothing
  · obtain ⟨rfl, -⟩ := acting?_eq_some.mp acts
    rw [apply_channel, command?, acts, rearranged, acts]
    simp only [Option.bind_some, taskCommand?, sendIfAny, movement]
    cases found : s.channel.registration? tag with
    | none => exact found
    | some r =>
      rw [Channel.registration?_moved]
      exact if_pos rfl

/-- A tag that an event does not free stands for what it stood for, or for a new registration. -/
theorem registration?_of_keeps {s : Session} {e : Event} {tag : ConsumerTag}
    (kept : ¬ s.frees e tag) :
    (s.apply e).channel.registration? tag =
      match s.taken? e with
      | some (.consume _ tag' _) =>
        if tag = tag' then some s.channel.registrations.length else s.channel.registration? tag
      | _ => s.channel.registration? tag := by
  rw [apply_channel]
  rcases s.rearranged_registration? e (s.sendIfAny (s.command? e)).1.channel tag with
    same | ⟨-, freed⟩
  · rw [same, sent_registration?]
    cases taken : s.taken? e with
    | none => rfl
    | some c =>
      cases c with
      | cancel tag' =>
        simp only
        refine if_neg fun cancels => kept (.inr (.inl ⟨?_, cancels.1⟩))
        rw [taken, cancels.2]
      | _ => rfl
  · exact absurd freed kept

/-- What happens to a consumer without a command leaves the tags alone. -/
theorem registration?_of_quiet {s : Session} {h : HandlerId} {e : Event}
    (concerned : s.happening h e ≠ .nothing) (quiet : s.command? e = none) (tag : ConsumerTag) :
    (s.apply e).channel.registration? tag = s.channel.registration? tag := by
  have none_taken : s.taken? e = none := by
    cases taken : s.taken? e with
    | none => rfl
    | some c =>
      rw [(taken?_eq_some.mp taken).1] at quiet
      cases quiet
  have kept : ¬ s.frees e tag := by
    rintro (rfl | ⟨taken, -⟩ | ⟨k, acts⟩)
    · exact concerned rfl
    · rw [none_taken] at taken
      cases taken
    · rw [happening_of_acting h acts] at concerned
      exact concerned rfl
  rw [registration?_of_keeps kept, none_taken]

/-- A tag stands after an event for what it stood for before, or for a new registration. -/
theorem registration?_apply_cases {s : Session} {e : Event} {tag : ConsumerTag} {r : RegistrationId}
    (found : (s.apply e).channel.registration? tag = some r) :
    s.channel.registration? tag = some r ∨
      (∃ queue h, s.taken? e = some (.consume queue tag h)) ∧
        r = s.channel.registrations.length := by
  by_cases freed : s.frees e tag
  · rw [registration?_of_frees freed] at found
    cases found
  · rw [registration?_of_keeps freed] at found
    split at found
    · next queue tag' h taken =>
      split at found
      · next same =>
        refine .inr ⟨⟨queue, h, ?_⟩, (Option.some.inj found).symm⟩
        rw [taken, same]
      · exact .inl found
    · exact .inl found

/-- The channel takes a command to consume only if it is open and the tag is free. -/
theorem free_of_consume {s : Session} {e : Event} {queue : QueueName} {tag : ConsumerTag}
    {h : HandlerId} (taken : s.taken? e = some (.consume queue tag h)) :
    s.channel.isOpen = true ∧ s.channel.registration? tag = none := by
  rcases s.sent_cases e with ⟨c, f, taken', sent⟩ | ⟨idle, -⟩
  · rw [taken] at taken'
    cases taken'
    obtain ⟨opened, takes⟩ := Channel.takes_of_send sent
    exact ⟨opened, takes.free⟩
  · rw [taken] at idle
    cases idle

/-- A command to consume that the channel takes gives its tag to a new registration. -/
theorem registration?_of_consume {s : Session} {e : Event} {queue : QueueName} {tag : ConsumerTag}
    {h : HandlerId} (taken : s.taken? e = some (.consume queue tag h)) :
    (s.apply e).channel.registration? tag = some s.channel.registrations.length := by
  have kept : ¬ s.frees e tag := by
    have sends := (taken?_eq_some.mp taken).1
    rintro (rfl | ⟨cancels, -⟩ | ⟨k, acts⟩)
    · cases sends
    · rw [taken] at cancels
      cases cancels
    · obtain ⟨rfl, -⟩ := acting?_eq_some.mp acts
      rw [command?, acts] at sends
      cases sends
  rw [registration?_of_keeps kept, taken]
  exact if_pos rfl

theorem handler?_of_consume {s : Session} {e : Event} {queue : QueueName} {tag : ConsumerTag}
    {h : HandlerId} (taken : s.taken? e = some (.consume queue tag h)) :
    (s.apply e).channel.handler? s.channel.registrations.length = some h := by
  rw [apply_channel, rearranged_handler?]
  rcases s.sent_cases e with ⟨c, f, taken', sent⟩ | ⟨idle, -⟩
  · rw [taken] at taken'
    cases taken'
    simp [Channel.handler?, Channel.send_registrations sent]
  · rw [taken] at idle
    cases idle

/-- A registration has had its handler before an event, or it is made for that handler. -/
theorem handler?_apply_cases {s : Session} {e : Event} {r : RegistrationId} {h : HandlerId}
    (handler : (s.apply e).channel.handler? r = some h) :
    s.channel.handler? r = some h ∨
      (∃ queue tag, s.taken? e = some (.consume queue tag h)) ∧
        r = s.channel.registrations.length := by
  by_cases known : r < s.channel.registrations.length
  · rw [s.handler?_apply e known] at handler
    exact .inl handler
  · have made := Channel.handler?_isSome.mp (Option.isSome_iff_exists.mpr ⟨h, handler⟩)
    rw [length_apply] at made
    split at made
    · next queue tag h' taken =>
      have last := Nat.le_antisymm (Nat.le_of_lt_succ made) (Nat.le_of_not_lt known)
      rw [last, handler?_of_consume taken] at handler
      cases handler
      exact .inr ⟨⟨queue, tag, taken⟩, last⟩
    · exact absurd made known

/-- Only an application and a scan as it begins ask for a registration. -/
theorem consume_cases {s : Session} {e : Event} {queue : QueueName} {tag : ConsumerTag}
    {h : HandlerId} (sends : s.command? e = some (.consume queue tag h)) :
    e = .command (.consume queue tag h) ∨
      ∃ k converter request, s.acting? e = some (k, .start (.scan queue converter request)) ∧
        request.expected ≠ 0 ∧ tag = s.freshTag ∧ h = s.consumers.length := by
  cases e with
  | command c =>
    cases sends
    exact .inl rfl
  | cancelBrowser h' =>
    obtain ⟨b, -, asks⟩ := Option.bind_eq_some_iff.mp sends
    unfold Browser.cancellation? at asks
    split at asks <;> cases asks
  | step k =>
    right
    obtain ⟨⟨j, t⟩, acts, asks⟩ := Option.bind_eq_some_iff.mp sends
    unfold taskCommand? at asks
    split at asks
    · exact absurd rfl (kind_of_handlerCommand? asks)
    · obtain ⟨r, -, asks⟩ := Option.bind_eq_some_iff.mp asks
      unfold Receiver.cancellation? at asks
      split at asks <;> cases asks
    · next starts =>
      split at asks
      · cases asks
      · next some_wanted =>
        cases starts
        cases asks
        exact ⟨j, _, _, acts, some_wanted, rfl, rfl⟩
    · obtain ⟨h', -, asks⟩ := Option.bind_eq_some_iff.mp asks
      exact absurd rfl (kind_of_handlerCommand? asks)
    · obtain ⟨b, -, asks⟩ := Option.bind_eq_some_iff.mp asks
      unfold Browser.cancellation? at asks
      split at asks
      · split at asks <;> cases asks
      · cases asks
    · cases asks
  | _ => cases sends

end Session
end Intake
