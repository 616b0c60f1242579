import Intake.Proofs.Channel.Snapshots

/-!
# What becomes of replays that are left over

A replay that has messages left when its tag is given to a new registration can go on to hand them
to the new one: nothing but the tasks before it in line is in its way, and these can all be got out
of the way. Hence a registration can rely on seeing its own snapshot exactly if no replay of its tag
is left over when it is made (`sees_snapshot_iff`).
-/
namespace Intake.Session

/-! ### Steps that leave the tags alone -/

/-- What there is to say of a session after a task has left the lines, if nothing else has happened
that matters to tags and tasks. -/
structure Left (j : TaskId) (s s' : Session) : Prop where
  lines : ∀ r, s'.channel.line r = (s.channel.line r).filter (· ≠ j)
  tags : ∀ tag, s'.channel.registration? tag = s.channel.registration? tag
  others : ∀ k, k ≠ j → s'.task? k = s.task? k

/-- A step of a task, with the channel taking at most a settlement, changes no tag and no other
task. -/
theorem step_frame {s : Session} (orderly : s.Orderly) {j : TaskId} {t : Task}
    (acts : s.acting? (.step j) = some (j, t)) (no_broker : ∀ tag, t ≠ .start (.brokerCancel tag))
    (quiet : ∀ c, s.taken? (.step j) = some c → c.kind = .ack ∨ c.kind = .nack) :
    (∀ tag, (s.apply (.step j)).channel.registration? tag = s.channel.registration? tag) ∧
      ∀ k, k ≠ j → (s.apply (.step j)).task? k = s.task? k := by
  constructor
  · intro tag
    have kept : ¬ s.frees (.step j) tag := by
      rintro (no | ⟨cancels, -⟩ | ⟨k, acts'⟩)
      · cases no
      · rcases quiet _ cancels with no | no <;> cases no
      · rw [acts] at acts'
        cases acts'
        exact no_broker tag rfl
    rw [registration?_of_keeps kept]
    cases taken : s.taken? (.step j) with
    | none => rfl
    | some c =>
      cases c with
      | consume queue tag' h => rcases quiet _ taken with no | no <;> cases no
      | _ => rfl
  · intro k other
    have stillborn : s.born? (.step j) = none := by
      cases born : s.born? (.step j) with
      | none => rfl
      | some u =>
        rcases born?_cases born with ⟨c, no, -⟩ | ⟨q, tag, h, taken, -⟩ | ⟨tag, r, taken, -, -⟩
        · cases no
        · rcases quiet _ taken with no | no <;> cases no
        · rcases quiet _ taken with no | no <;> cases no
    rw [task?_apply orderly.numbered, survivor?_of_acting acts, if_neg other, stillborn]
    simp

theorem left_of_step {s : Session} (orderly : s.Orderly) {j : TaskId} {t : Task}
    (acts : s.acting? (.step j) = some (j, t)) (no_broker : ∀ tag, t ≠ .start (.brokerCancel tag))
    (quiet : ∀ c, s.taken? (.step j) = some c → c.kind = .ack ∨ c.kind = .nack)
    (leaves : s.movement t = .leaves) : Left j s (s.apply (.step j)) where
  lines := by
    intro r
    rw [line_of_acting orderly acts, leaves]
    rfl
  tags := (step_frame orderly acts no_broker quiet).1
  others := (step_frame orderly acts no_broker quiet).2

theorem taken?_ne_of_no_command {s : Session} {e : Event} (idle : s.command? e = none)
    (c : Command) : s.taken? e ≠ some c := by
  intro taken
  rw [(taken?_eq_some.mp taken).1] at idle
  cases idle

/-! ### Getting a task out of the way -/

theorem left_of_handling {s : Session} (orderly : s.Orderly) {j : TaskId} {q : QueueName}
    {t : ConsumerTag} {pending : List Stored} {r : RegistrationId} {d : Delivery} {deadline : Nat}
    (there : s.task? j = some (.replay q t pending (.handling r d deadline))) :
    ∃ fs, Left j s (s.run fs) ∧ (s.run fs).task? j = some (.replay q t pending .next) := by
  obtain ⟨h, handler⟩ := Option.isSome_iff_exists.mp
    (Channel.handler?_isSome.mpr (orderly.about j _ r there rfl))
  -- The handler is done once its time has come, and then the replay leaves the line.
  refine ⟨[.pass (deadline - s.clock), .step j], ?_⟩
  let s' := s.apply (.pass (deadline - s.clock))
  have orderly' : s'.Orderly := orderly.apply _
  have acts : s'.acting? (.step j) = some (j, .replay q t pending (.handling r d deadline)) := by
    refine acting?_eq_some.mpr ⟨rfl, there, ?_⟩
    have late : deadline ≤ s.clock + (deadline - s.clock) := by omega
    exact decide_eq_true late
  have idle : s'.command? (.step j) = none := by
    rw [command?, acts]
    rfl
  have leaves : s'.movement (.replay q t pending (.handling r d deadline)) = .leaves := by
    have handler' : s'.channel.handler? r = some h := handler
    simp [movement, handler']
  have left := left_of_step orderly' acts (by simp)
    (fun c taken => absurd taken (taken?_ne_of_no_command idle c)) leaves
  refine ⟨⟨left.lines, left.tags, left.others⟩, ?_⟩
  have after := task?_of_acting orderly'.numbered acts
  have handler' : s'.channel.handler? r = some h := handler
  simp only [fate, handler'] at after
  exact after

theorem takeFault?_append (kind : CommandKind) (error : TransportError)
    (faults : List (CommandKind × TransportError)) :
    takeFault? kind (faults ++ [(kind, error)]) ≠ none := by
  induction faults with
  | nil => simp [takeFault?]
  | cons fault faults ih =>
    obtain ⟨kind', error'⟩ := fault
    rw [List.cons_append, takeFault?]
    split
    · exact nofun
    · rw [ne_eq, Option.map_eq_none_iff]
      exact ih

theorem not_taken_of_fault {s : Session} {e : Event} {c : Command}
    (due : takeFault? .cancel s.faults ≠ none) (taken : s.taken? e = some c) : c.kind ≠ .cancel := by
  intro kind
  obtain ⟨sends, fine⟩ := taken?_eq_some.mp taken
  rw [answer, sends, sendIfAny, send, kind] at fine
  split at fine
  · cases fine
  · next nothing => exact due nothing

theorem first_ready {s : Session} {r : RegistrationId} {j : TaskId} {rest : List TaskId}
    (first : s.channel.line r = j :: rest) : s.channel.isFirst r j = true := by
  rw [Channel.isFirst, first]
  simp

/-- The first replay in a line can hand over what it has in hand, and then it is out of the way. The
tag of a browsing consumer that is done with this delivery is kept by letting its cancel fail. -/
theorem left_of_queued {s : Session} (orderly : s.Orderly) {j : TaskId} {q : QueueName}
    {t : ConsumerTag} {pending : List Stored} {r : RegistrationId} {d : Delivery}
    {rest : List TaskId} (there : s.task? j = some (.replay q t pending (.queued r d)))
    (first : s.channel.line r = j :: rest) :
    ∃ fs, Left j s (s.run fs) ∧ (s.run fs).task? j = some (.replay q t pending .next) := by
  obtain ⟨h, handler⟩ := Option.isSome_iff_exists.mp
    (Channel.handler?_isSome.mpr (orderly.about j _ r there rfl))
  let s' := s.apply (.fault .cancel .channelClosed)
  have orderly' : s'.Orderly := orderly.apply _
  have handler' : s'.channel.handler? r = some h := handler
  have acts : s'.acting? (.step j) = some (j, .replay q t pending (.queued r d)) :=
    acting?_eq_some.mpr ⟨rfl, there, first_ready first⟩
  have sends : s'.command? (.step j) = s'.handlerCommand? h d := by
    rw [command?, acts, Option.bind_some, taskCommand?, handler', Option.bind_some]
  have quiet : ∀ c, s'.taken? (.step j) = some c → c.kind = .ack ∨ c.kind = .nack := by
    intro c taken
    have no_consume : c.kind ≠ .consume := by
      have sent := (taken?_eq_some.mp taken).1
      rw [sends] at sent
      exact kind_of_handlerCommand? sent
    have no_cancel : c.kind ≠ .cancel :=
      not_taken_of_fault (takeFault?_append .cancel .channelClosed s.faults) taken
    cases kind : c.kind with
    | ack => exact .inl rfl
    | nack => exact .inr rfl
    | consume => exact absurd kind no_consume
    | cancel => exact absurd kind no_cancel
  have after := task?_of_acting orderly'.numbered acts
  simp only [fate, handler'] at after
  cases result : (s'.handOver h d).2 with
  | done u =>
    have leaves : s'.movement (.replay q t pending (.queued r d)) = .leaves := by
      simp [movement, handler', result]
    have left := left_of_step orderly' acts (by simp) quiet leaves
    rw [result] at after
    exact ⟨[.fault .cancel .channelClosed, .step j], ⟨left.lines, left.tags, left.others⟩, after⟩
  | busy deadline =>
    -- The handler takes its time, and the replay keeps its place until it is done.
    have stays : s'.movement (.replay q t pending (.queued r d)) = .stays := by
      simp [movement, handler', result]
    rw [result] at after
    obtain ⟨fs, left, done⟩ := left_of_handling (orderly'.apply (.step j)) after
    obtain ⟨tags, others⟩ := step_frame orderly' acts (by simp) quiet
    refine ⟨.fault .cancel .channelClosed :: .step j :: fs, ⟨?_, ?_, ?_⟩, done⟩
    · intro r'
      refine (left.lines r').trans ?_
      rw [line_of_acting orderly' acts, stays]
      rfl
    · exact fun tag => (left.tags tag).trans (tags tag)
    · exact fun k other => (left.others k other).trans (others k other)

/-- The first in a line can be got out of the way. -/
theorem left_of_first {s : Session} (orderly : s.Orderly) {r : RegistrationId} {j : TaskId}
    {rest : List TaskId} (first : s.channel.line r = j :: rest) : ∃ fs, Left j s (s.run fs) := by
  have place : (s.task? j).bind Task.place? = some r := by
    rw [← orderly.standing, first]
    exact List.mem_cons_self
  obtain ⟨t, there, stands⟩ := Option.bind_eq_some_iff.mp place
  have told (acts : s.acting? (.step j) = some (j, t))
      (no_broker : ∀ tag, t ≠ .start (.brokerCancel tag))
      (idle : s.command? (.step j) = none) (leaves : s.movement t = .leaves) :
      ∃ fs, Left j s (s.run fs) :=
    ⟨[.step j], left_of_step orderly acts no_broker
      (fun c taken => absurd taken (taken?_ne_of_no_command idle c)) leaves⟩
  unfold Task.place? at stands
  split at stands
  · cases stands
    obtain ⟨fs, left, -⟩ := left_of_queued orderly there first
    exact ⟨fs, left⟩
  · cases stands
    obtain ⟨fs, left, -⟩ := left_of_handling orderly there
    exact ⟨fs, left⟩
  · cases stands
    have acts := acting?_eq_some.mpr ⟨rfl, there, (by simp [ready, first_ready first])⟩
    exact told acts (by simp) (by rw [command?, acts]; rfl) rfl
  · cases stands
    have acts := acting?_eq_some.mpr ⟨rfl, there, first_ready first⟩
    exact told acts (by simp) (by rw [command?, acts]; rfl) rfl
  · cases stands

/-! ### Getting at a replay -/

/-- A task that stands in line can be made the first of its line. -/
theorem first_of_standing {r : RegistrationId} {k : TaskId} (ahead : List TaskId) :
    ∀ {s : Session} {rest : List TaskId}, s.Orderly → s.channel.line r = ahead ++ k :: rest →
      k ∉ ahead → ∃ fs rest', (s.run fs).channel.line r = k :: rest' ∧
        (s.run fs).task? k = s.task? k ∧
        (∀ tag, (s.run fs).channel.registration? tag = s.channel.registration? tag) ∧
        ∀ g, s.channel.line g = [] → (s.run fs).channel.line g = [] := by
  induction hn : ahead.length using Nat.strongRecOn generalizing ahead with
  | _ n ih =>
    intro s rest orderly line behind
    cases ahead with
    | nil => exact ⟨[], rest, line, rfl, fun _ => rfl, fun _ empty => empty⟩
    | cons j ahead =>
      obtain ⟨fs, left⟩ := left_of_first orderly line
      have other : k ≠ j := fun same => behind (same ▸ List.mem_cons_self)
      have line' : (s.run fs).channel.line r =
          ahead.filter (· ≠ j) ++ k :: rest.filter (· ≠ j) := by
        rw [left.lines, line]
        simp [other]
      -- With the first one gone the others are still in order, and fewer of them are ahead.
      have shorter : (ahead.filter (· ≠ j)).length < n := by
        have := List.length_filter_le (· ≠ j) ahead
        rw [← hn, List.length_cons]
        omega
      have behind' : k ∉ ahead.filter (· ≠ j) := fun member =>
        behind (List.mem_cons_of_mem _ (List.mem_filter.mp member).1)
      obtain ⟨gs, rest', first, same, tags, empty⟩ :=
        ih _ shorter (ahead.filter (· ≠ j)) rfl (orderly.run fs) line' behind'
      refine ⟨fs ++ gs, rest', ?_, ?_, ?_, ?_⟩
      · rw [run_append, first]
      · rw [run_append, same, left.others k other]
      · intro tag
        rw [run_append, tags, left.tags]
      · intro g nobody
        rw [run_append]
        apply empty
        rw [left.lines, nobody]
        rfl

/-- A replay can be brought to where it looks for its next message, with the tags as they are and
with nobody in a line that is empty. -/
theorem next_of_replay {s : Session} (orderly : s.Orderly) {k : TaskId} {q : QueueName}
    {t : ConsumerTag} {pending : List Stored} {stage : ReplayStage}
    (there : s.task? k = some (.replay q t pending stage)) :
    ∃ fs, (s.run fs).task? k = some (.replay q t pending .next) ∧
      (∀ tag, (s.run fs).channel.registration? tag = s.channel.registration? tag) ∧
      ∀ g, s.channel.line g = [] → (s.run fs).channel.line g = [] := by
  have emptied {s' : Session} (left : Left k s s') (g : RegistrationId)
      (nobody : s.channel.line g = []) : s'.channel.line g = [] := by
    rw [left.lines, nobody]
    rfl
  cases stage with
  | next => exact ⟨[], there, fun _ => rfl, fun _ nobody => nobody⟩
  | handling r d deadline =>
    obtain ⟨fs, left, next⟩ := left_of_handling orderly there
    exact ⟨fs, next, left.tags, emptied left⟩
  | queued r d =>
    have stands : k ∈ s.channel.line r := (orderly.standing k r).mpr (by rw [there]; rfl)
    obtain ⟨ahead, rest, line, behind⟩ := List.eq_append_cons_of_mem stands
    obtain ⟨fs, rest', first, same, tags, empty⟩ := first_of_standing ahead orderly line behind
    rw [there] at same
    obtain ⟨gs, left, next⟩ := left_of_queued (orderly.run fs) same first
    refine ⟨fs ++ gs, ?_, ?_, ?_⟩
    · rw [run_append, next]
    · intro tag
      rw [run_append, left.tags, tags]
    · intro g nobody
      rw [run_append, left.lines, empty g nobody]
      rfl

/-! ### What a new registration can rely on -/

theorem line_of_new {s : Session} (orderly : s.Orderly) (e : Event) :
    (s.apply e).channel.line s.channel.registrations.length = [] := by
  rw [List.eq_nil_iff_forall_not_mem]
  intro k stands
  rw [(orderly.apply e).standing, place?_apply orderly.numbered] at stands
  obtain ⟨t, survives, place⟩ := Option.bind_eq_some_iff.mp stands
  have unknown (tag : ConsumerTag) :
      s.channel.registration? tag ≠ some s.channel.registrations.length :=
    fun found => Nat.lt_irrefl _ (orderly.known tag _ found)
  have before (u : Task) (there : s.task? k = some u) :
      u.about? ≠ some s.channel.registrations.length :=
    fun about => Nat.lt_irrefl _ (orderly.about k u _ there about)
  rcases survivor?_cases survives with ⟨u, acts, left⟩ | there
  · rcases (turns_of_fate left).about? (about?_of_place? place) with about | ⟨tag, found⟩
    · exact before u (acting?_eq_some.mp acts).2.1 about
    · exact unknown tag found
  · exact before t there (about?_of_place? place)

/-- A replay does not subscribe, so it is where it was after a subscription. -/
theorem replay_of_consume {s : Session} (orderly : s.Orderly) {e : Event} {queue q : QueueName}
    {tag t : ConsumerTag} {h : HandlerId} {k : TaskId} {pending : List Stored} {stage : ReplayStage}
    (taken : s.taken? e = some (.consume queue tag h))
    (there : s.task? k = some (.replay q t pending stage)) :
    (s.apply e).task? k = some (.replay q t pending stage) := by
  apply task?_of_waiting orderly.numbered there rfl
  intro u acts
  obtain ⟨rfl, itself, -⟩ := acting?_eq_some.mp acts
  rw [there] at itself
  cases itself
  have sends := (taken?_eq_some.mp taken).1
  rw [command?, acts, Option.bind_some] at sends
  cases stage with
  | next => cases sends
  | handling r d deadline => cases sends
  | queued r d =>
    obtain ⟨h', -, sends⟩ := Option.bind_eq_some_iff.mp sends
    exact kind_of_handlerCommand? sends rfl

/-- A replay that is left over can hand a message to the new registration. -/
theorem served_of_leftover {s : Session} (orderly : s.Orderly) {e : Event} {queue : QueueName}
    {tag : ConsumerTag} {h : HandlerId} (taken : s.taken? e = some (.consume queue tag h))
    (left_over : s.Leftover tag) :
    ∃ fs, ∃ p ∈ trace (served s.channel.registrations.length) (s.apply e) fs, p.1 ≠ s.nextTask := by
  obtain ⟨k, q, pending, stage, there, some_left⟩ := left_over
  have other : k ≠ s.nextTask := Nat.ne_of_lt (orderly.numbered k _ there)
  obtain ⟨fs, next, tags, empty⟩ :=
    next_of_replay (orderly.apply e) (replay_of_consume orderly taken there)
  cases pending with
  | nil => exact absurd rfl some_left
  | cons m pending =>
    let s₁ := (s.apply e).run fs
    have orderly₁ : s₁.Orderly := (orderly.apply e).run fs
    have stands : s₁.channel.registration? tag = some s.channel.registrations.length := by
      rw [tags, registration?_of_consume taken]
    have nobody : s₁.channel.line s.channel.registrations.length = [] :=
      empty _ (line_of_new orderly e)
    -- The replay gets in the line of the new registration, and it is the first there.
    have acts₁ : s₁.acting? (.step k) = some (k, .replay q tag (m :: pending) .next) :=
      acting?_eq_some.mpr ⟨rfl, next, rfl⟩
    let s₂ := s₁.apply (.step k)
    have queued : s₂.task? k =
        some (.replay q tag pending (.queued s.channel.registrations.length (s₁.drawn q m))) := by
      refine (task?_of_acting orderly₁.numbered acts₁).trans ?_
      simp only [fate, stands]
      rfl
    have line : s₂.channel.line s.channel.registrations.length = [k] := by
      refine (line_of_acting orderly₁ acts₁ _).trans ?_
      rw [nobody]
      simp [movement, stands, Channel.lineAfter, Channel.target?]
    have acts₂ : s₂.acting? (.step k) = some (k, .replay q tag pending
        (.queued s.channel.registrations.length (s₁.drawn q m))) :=
      acting?_eq_some.mpr ⟨rfl, queued, first_ready line⟩
    refine ⟨fs ++ [.step k, .step k], (k, s₁.drawn q m), ?_, other⟩
    refine (mem_trace _ _ _ _).mpr ⟨fs ++ [.step k], .step k, [], by simp, ?_⟩
    rw [run_concat]
    change _ ∈ served _ s₂ (.step k)
    unfold served
    rw [acts₂]
    simp

/-- **Snapshots**: wherever a run gets, a registration that is made then can rely on seeing what it is
promised, whatever happens, exactly if no replay of its tag has messages left. -/
theorem sees_snapshot_iff (confirms : Bool) (es : List Event) (e : Event) {queue : QueueName}
    {tag : ConsumerTag} {h : HandlerId}
    (taken : ((initial confirms).run es).taken? e = some (.consume queue tag h)) :
    (∀ fs, SeesSnapshot ((initial confirms).run es).channel.registrations.length
        ((initial confirms).run es).nextTask queue tag
        (((initial confirms).run es).channel.messages queue)
        (((initial confirms).run es).apply e) fs) ↔
      ¬ ((initial confirms).run es).Leftover tag := by
  have orderly := orderly_run confirms es
  constructor
  · intro sees left_over
    obtain ⟨fs, p, member, foreign⟩ := served_of_leftover orderly taken left_over
    exact foreign ((sees fs).own_replay p member)
  · exact fun none_left fs => sees_of_no_leftover orderly taken none_left fs

/-- Two messages in one queue, none in another, and a handler for each. -/
def twoQueues : List Event :=
  [.publish ⟨"first"⟩ ⟨{}, ⟨#[1]⟩⟩, .publish ⟨"first"⟩ ⟨{}, ⟨#[2]⟩⟩,
    .addRecorder ⟨"a"⟩ (fun _ => 0) (fun _ => false),
    .addRecorder ⟨"b"⟩ (fun _ => 0) (fun _ => false)]

theorem sees_snapshot_iff_twoQueues :
    ((initial true).run twoQueues).taken? (.command (.consume ⟨"first"⟩ ⟨"tag"⟩ 0)) =
        some (.consume ⟨"first"⟩ ⟨"tag"⟩ 0) ∧
      ∀ fs, SeesSnapshot 0 0 ⟨"first"⟩ ⟨"tag"⟩ [⟨{}, ⟨#[1]⟩⟩, ⟨{}, ⟨#[2]⟩⟩]
        (((initial true).run twoQueues).apply (.command (.consume ⟨"first"⟩ ⟨"tag"⟩ 0))) fs := by
  refine ⟨rfl, (sees_snapshot_iff true twoQueues (.command (.consume ⟨"first"⟩ ⟨"tag"⟩ 0)) rfl).mpr ?_⟩
  rintro ⟨k, q, pending, stage, there, -⟩
  cases there

/-- The tag of the first queue is freed while a replay of that queue is under way, and is given to
a registration for the second queue. -/
def tagGivenAgain : List Event :=
  twoQueues ++ [.command (.consume ⟨"first"⟩ ⟨"tag"⟩ 0), .step 0, .command (.cancel ⟨"tag"⟩),
    .command (.consume ⟨"second"⟩ ⟨"tag"⟩ 1)]

/-- The new registration is handed the second message of the other queue. -/
theorem served_by_other_replay :
    (trace (served 1) ((initial true).run tagGivenAgain) [.step 0, .step 0, .step 0]).map
        (fun p => (p.1, p.2.envelope.routingKey, p.2.stored)) = [(0, "first", ⟨{}, ⟨#[2]⟩⟩)] ∧
      ¬ SeesSnapshot 1 2 ⟨"second"⟩ ⟨"tag"⟩ [] ((initial true).run tagGivenAgain)
        [.step 0, .step 0, .step 0] := by
  have served_it : (trace (served 1) ((initial true).run tagGivenAgain)
      [.step 0, .step 0, .step 0]).map (fun p => (p.1, p.2.envelope.routingKey, p.2.stored)) =
        [(0, "first", ⟨{}, ⟨#[2]⟩⟩)] := rfl
  refine ⟨served_it, ?_⟩
  intro sees
  have nothing := sees.in_order.length_le
  have one := congrArg List.length served_it
  rw [List.length_map] at nothing one
  rw [one] at nothing
  exact absurd nothing (by decide)

end Intake.Session
