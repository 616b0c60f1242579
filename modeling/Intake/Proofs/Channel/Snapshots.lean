import Intake.Proofs.Session.Lines

/-!
# What a registration gets to see

The channel starts a replay of a queue for a registration, but a replay hands its messages to
whatever registration its tag stands for at the moment. As long as no replay of an earlier
registration is left with messages for the tag, the registration gets the messages that the queue
had when it was made, in order and no others (`sees_of_no_leftover`).
-/
namespace Intake

/-- A delivery as a queue held it. -/
def Delivery.stored (d : Delivery) : Stored := ⟨d.properties, d.body⟩

namespace Session

/-- The delivery that a replay hands to the handler of a registration at an event, and which replay
does. -/
def served (g : RegistrationId) (s : Session) (e : Event) : List (TaskId × Delivery) :=
  match s.acting? e with
  | some (k, .replay _ _ _ (.queued r d)) => if r = g then [(k, d)] else []
  | _ => []

/-- Whether a replay of a tag has messages left to hand over. -/
def Leftover (s : Session) (tag : ConsumerTag) : Prop :=
  ∃ k queue pending stage, s.task? k = some (.replay queue tag pending stage) ∧ pending ≠ []

/-- What a registration is promised to see of a run: its own replay hands it the messages of the
snapshot, in order, by the name of the queue, and no other replay hands it anything; and it has got
all of them if its replay ends while the tag still stands for it. -/
structure SeesSnapshot (g : RegistrationId) (own : TaskId) (queue : QueueName) (tag : ConsumerTag)
    (snapshot : List Stored) (s : Session) (es : List Event) : Prop where
  own_replay : ∀ p ∈ trace (served g) s es, p.1 = own
  routed : ∀ p ∈ trace (served g) s es, p.2.envelope.routingKey = queue.text
  in_order : ((trace (served g) s es).map fun p => p.2.stored) <+: snapshot
  whole : ∀ before after, es = before ++ after → (s.run before).task? own = none →
    (s.run before).channel.registration? tag = some g →
    ((trace (served g) s es).map fun p => p.2.stored) = snapshot

/-! ### The course of a replay -/

/-- The messages that a replay has taken from those to come but not handed over. -/
def inHand : ReplayStage → List Stored
  | .next => []
  | .queued _ d => [d.stored]
  | .handling .. => []

/-- How far the replay of a registration is after some messages have been handed over: it goes on,
or the tag has been freed and it hands the registration no more, or it has ended. -/
inductive Course (g : RegistrationId) (own : TaskId) (queue : QueueName) (tag : ConsumerTag)
    (snapshot : List Stored) (s : Session) (given : List Stored) : Prop where
  | goes_on {pending stage} :
    s.task? own = some (.replay queue tag pending stage) →
    (∀ r d, stage = .queued r d → r = g ∧ d.envelope.routingKey = queue.text) →
    given ++ inHand stage ++ pending = snapshot → Course g own queue tag snapshot s given
  | cut_off :
    s.channel.registration? tag ≠ some g →
    (∀ q t pending d, s.task? own ≠ some (.replay q t pending (.queued g d))) →
    given <+: snapshot → Course g own queue tag snapshot s given
  | ended : s.task? own = none → given = snapshot → Course g own queue tag snapshot s given

/-- The invariant of a registration that sees nothing but its snapshot. -/
structure Faithful (g : RegistrationId) (own : TaskId) (queue : QueueName) (tag : ConsumerTag)
    (snapshot : List Stored) (s : Session) (given : List Stored) : Prop where
  made : g < s.channel.registrations.length
  numbered : own < s.nextTask
  only_tag : ∀ t, s.channel.registration? t = some g → t = tag
  only_replay : ∀ k q t pending d, s.task? k = some (.replay q t pending (.queued g d)) → k = own
  others_spent : s.channel.registration? tag = some g →
    ∀ k q pending stage, s.task? k = some (.replay q tag pending stage) → k = own ∨ pending = []
  course : Course g own queue tag snapshot s given

/-- Where a replay comes from: it was there before, a step of it brought it here, or it starts with
a command to consume. -/
theorem replay_origin {s : Session} (numbered : s.Numbered) {e : Event} {k : TaskId}
    {q : QueueName} {t : ConsumerTag} {pending : List Stored} {stage : ReplayStage}
    (there : (s.apply e).task? k = some (.replay q t pending stage)) :
    s.task? k = some (.replay q t pending stage) ∨
    (∃ before, s.acting? e = some (k, before) ∧ s.Turns before (.replay q t pending stage)) ∨
    (k = s.nextTask ∧ stage = .next ∧ pending = s.channel.messages q ∧
      ∃ h, s.taken? e = some (.consume q t h)) := by
  rw [task?_apply numbered, Option.or_eq_some_iff] at there
  rcases there with old | ⟨-, new⟩
  · rcases survivor?_cases old with ⟨before, acts, left⟩ | was
    · exact .inr (.inl ⟨before, acts, turns_of_fate left⟩)
    · exact .inl was
  · split at new
    · next same =>
      rcases born?_cases new with ⟨c, -, no⟩ | ⟨queue, tag, h, taken, starts⟩ | ⟨tag, r, -, -, no⟩
      · cases no
      · cases starts
        exact .inr (.inr ⟨same, rfl, rfl, h, taken⟩)
      · cases no
    · cases new

theorem served_cases (g : RegistrationId) (s : Session) (e : Event) :
    (∃ k q t pending d, s.acting? e = some (k, .replay q t pending (.queued g d)) ∧
      served g s e = [(k, d)]) ∨
    (served g s e = [] ∧
      ∀ k q t pending d, s.acting? e ≠ some (k, .replay q t pending (.queued g d))) := by
  unfold served
  split
  · next k q t pending r d acts =>
    by_cases same : r = g
    · subst same
      exact .inl ⟨k, q, t, pending, d, acts, if_pos rfl⟩
    · refine .inr ⟨if_neg same, ?_⟩
      intro k' q' t' pending' d' acts'
      rw [acts] at acts'
      cases acts'
      exact same rfl
  · next other =>
    refine .inr ⟨rfl, ?_⟩
    intro k q t pending d acts
    exact other k q t pending g d acts

/-- What serves a registration is handed to its handler, which is always the same
(`handler?_apply`). -/
theorem handed?_of_served {g : RegistrationId} {s : Session} (orderly : s.Orderly) {e : Event}
    {k : TaskId} {d : Delivery} (serves : (k, d) ∈ served g s e) :
    ∃ h, s.channel.handler? g = some h ∧ s.handed? e = some (h, d) := by
  rcases served_cases g s e with ⟨k', q, t, pending, d', acts, it⟩ | ⟨nothing, -⟩
  · rw [it, List.mem_singleton] at serves
    cases serves
    obtain ⟨h, handler⟩ := Option.isSome_iff_exists.mp
      (Channel.handler?_isSome.mpr (orderly.about k _ g (acting?_eq_some.mp acts).2.1 rfl))
    refine ⟨h, handler, ?_⟩
    rw [handed?, acts, Option.bind_some, taskHands?, handler]
    rfl
  · rw [nothing] at serves
    cases serves

/-- A registration that has lost its tag does not get it back. -/
theorem registration?_ne_of_ne {s : Session} {e : Event} {tag : ConsumerTag} {g : RegistrationId}
    (made : g < s.channel.registrations.length) (lost : s.channel.registration? tag ≠ some g) :
    (s.apply e).channel.registration? tag ≠ some g := by
  intro found
  rcases registration?_apply_cases found with old | ⟨-, new⟩
  · exact lost old
  · exact Nat.ne_of_lt made new

section Keeping

variable {g : RegistrationId} {own : TaskId} {queue : QueueName} {tag : ConsumerTag}
  {snapshot given : List Stored} {s : Session}

/-- A replay gets in the line of the registration only if it is its own. -/
theorem Faithful.own_of_turns (faithful : Faithful g own queue tag snapshot s given) {k : TaskId}
    {before : Task} {q : QueueName} {t : ConsumerTag} {pending : List Stored} {d : Delivery}
    (there : s.task? k = some before)
    (turns : s.Turns before (.replay q t pending (.queued g d))) :
    s.channel.registration? tag = some g ∧ k = own := by
  cases turns with
  | plain _ plain => cases plain
  | draws found =>
    have named := faithful.only_tag t found
    subst named
    refine ⟨found, ?_⟩
    rcases faithful.others_spent found k q _ _ there with own | spent
    · exact own
    · cases spent

theorem Faithful.only_replay_apply (orderly : s.Orderly)
    (faithful : Faithful g own queue tag snapshot s given) (e : Event) (k : TaskId) (q : QueueName)
    (t : ConsumerTag) (pending : List Stored) (d : Delivery)
    (there : (s.apply e).task? k = some (.replay q t pending (.queued g d))) : k = own := by
  rcases replay_origin orderly.numbered there with old | ⟨before, acts, turns⟩ | ⟨-, stage, -⟩
  · exact faithful.only_replay k q t pending d old
  · exact (faithful.own_of_turns (acting?_eq_some.mp acts).2.1 turns).2
  · cases stage

theorem Faithful.others_spent_apply (orderly : s.Orderly)
    (faithful : Faithful g own queue tag snapshot s given) (e : Event)
    (stands : (s.apply e).channel.registration? tag = some g) (k : TaskId) (q : QueueName)
    (pending : List Stored) (stage : ReplayStage)
    (there : (s.apply e).task? k = some (.replay q tag pending stage)) : k = own ∨ pending = [] := by
  have stood : s.channel.registration? tag = some g :=
    Classical.byContradiction fun lost => registration?_ne_of_ne faithful.made lost stands
  have spent := faithful.others_spent stood k
  rcases replay_origin orderly.numbered there with old | ⟨before, acts, turns⟩ | ⟨-, -, -, h, taken⟩
  · exact spent q pending stage old
  · have was := (acting?_eq_some.mp acts).2.1
    cases turns with
    | plain _ plain => cases plain
    | draws _ =>
      rcases spent q _ _ was with own | none_left
      · exact .inl own
      · cases none_left
    | handles _ => exact spent q _ _ was
    | handed => exact spent q _ _ was
    | handled => exact spent q _ _ was
  · -- The channel does not start a replay for a tag that is in use.
    rw [(free_of_consume taken).2] at stood
    cases stood

theorem Faithful.served_cases (faithful : Faithful g own queue tag snapshot s given) (e : Event) :
    (∃ q t pending d, s.acting? e = some (own, .replay q t pending (.queued g d)) ∧
      served g s e = [(own, d)]) ∨
    (served g s e = [] ∧
      ∀ q t pending d, s.acting? e ≠ some (own, .replay q t pending (.queued g d))) := by
  rcases Session.served_cases g s e with ⟨k, q, t, pending, d, acts, serves⟩ | ⟨serves, idle⟩
  · cases faithful.only_replay k q t pending d (acting?_eq_some.mp acts).2.1
    exact .inl ⟨q, t, pending, d, acts, serves⟩
  · exact .inr ⟨serves, idle own⟩

private theorem Faithful.course_of_next (numbered : s.Numbered)
    (faithful : Faithful g own queue tag snapshot s given) {e : Event} {pending : List Stored}
    (acts : s.acting? e = some (own, .replay queue tag pending .next))
    (balance : given ++ pending = snapshot) : Course g own queue tag snapshot (s.apply e) given := by
  -- It gets in the line of the registration only if the tag still stands for it.
  have after := task?_of_acting numbered acts
  cases pending with
  | nil =>
    rw [List.append_nil] at balance
    exact .ended after balance
  | cons m pending =>
    simp only [fate] at after
    by_cases stands : s.channel.registration? tag = some g
    · rw [stands] at after
      refine .goes_on after ?_ ?_
      · intro r d same
        cases same
        exact ⟨rfl, rfl⟩
      · rw [← balance, inHand, List.append_assoc]
        rfl
    · refine .cut_off (registration?_ne_of_ne faithful.made stands) ?_ ⟨_, balance⟩
      intro q t pending' d queued
      rw [after] at queued
      cases found : s.channel.registration? tag with
      | none => rw [found] at queued; cases queued
      | some r =>
        rw [found] at queued
        cases queued
        exact stands found

private theorem Faithful.course_of_queued (numbered : s.Numbered)
    (faithful : Faithful g own queue tag snapshot s given) {e : Event} {pending : List Stored}
    {d : Delivery} (acts : s.acting? e = some (own, .replay queue tag pending (.queued g d)))
    (balance : given ++ [d.stored] ++ pending = snapshot) :
    Course g own queue tag snapshot (s.apply e) (given ++ [d.stored]) := by
  have after := task?_of_acting numbered acts
  obtain ⟨h, handler⟩ := Option.isSome_iff_exists.mp (Channel.handler?_isSome.mpr faithful.made)
  simp only [fate, handler] at after
  cases result : (s.handOver h d).2 with
  | done _ =>
    rw [result] at after
    refine .goes_on after (fun r d same => by cases same) ?_
    rw [inHand, List.append_nil, balance]
  | busy deadline =>
    rw [result] at after
    refine .goes_on after (fun r d same => by cases same) ?_
    rw [inHand, List.append_nil, balance]

private theorem course_of_handling (orderly : s.Orderly) {e : Event} {pending : List Stored}
    {r : RegistrationId} {d : Delivery} {deadline : Nat}
    (acts : s.acting? e = some (own, .replay queue tag pending (.handling r d deadline)))
    (balance : given ++ pending = snapshot) :
    Course g own queue tag snapshot (s.apply e) given := by
  have after := task?_of_acting orderly.numbered acts
  obtain ⟨h, handler⟩ := Option.isSome_iff_exists.mp
    (Channel.handler?_isSome.mpr (orderly.about own _ r (acting?_eq_some.mp acts).2.1 rfl))
  simp only [fate, handler] at after
  refine .goes_on after (fun r d same => by cases same) ?_
  rw [inHand, List.append_nil, balance]

/-- The replay goes on with its course, and what it serves at an event comes next. -/
theorem Faithful.course_apply (orderly : s.Orderly)
    (faithful : Faithful g own queue tag snapshot s given) (e : Event) :
    Course g own queue tag snapshot (s.apply e)
      (given ++ (served g s e).map fun p => p.2.stored) := by
  have serving := faithful.served_cases e
  cases faithful.course with
  | @goes_on pending stage there in_hand balance =>
    -- If the replay takes the step, its stage tells what becomes of it; else it stays where it is.
    by_cases acts : ∃ u, s.acting? e = some (own, u)
    · obtain ⟨u, acts⟩ := acts
      have itself := (acting?_eq_some.mp acts).2.1
      rw [there] at itself
      cases itself
      rcases serving with ⟨_, _, _, d, acts', serves⟩ | ⟨serves, elsewhere⟩
      · rw [acts] at acts'
        cases acts'
        rw [serves]
        exact faithful.course_of_queued orderly.numbered acts balance
      · rw [serves, List.map_nil, List.append_nil]
        cases stage with
        | next =>
          rw [inHand, List.append_nil] at balance
          exact faithful.course_of_next orderly.numbered acts balance
        | queued r d =>
          obtain ⟨rfl, -⟩ := in_hand r d rfl
          exact absurd acts (elsewhere _ _ _ _)
        | handling r d deadline =>
          rw [inHand, List.append_nil] at balance
          exact course_of_handling orderly acts balance
    · have waits : ∀ u, s.acting? e ≠ some (own, u) := fun u is => acts ⟨u, is⟩
      have after := task?_of_waiting orderly.numbered there rfl waits
      rcases serving with ⟨_, _, _, _, acts, -⟩ | ⟨serves, -⟩
      · exact absurd acts (waits _)
      · rw [serves, List.map_nil, List.append_nil]
        exact .goes_on after in_hand balance
  | cut_off lost elsewhere so_far =>
    rcases serving with ⟨q, t, pending, d, acts, -⟩ | ⟨serves, -⟩
    · exact absurd (acting?_eq_some.mp acts).2.1 (elsewhere q t pending d)
    · rw [serves, List.map_nil, List.append_nil]
      refine .cut_off (registration?_ne_of_ne faithful.made lost) ?_ so_far
      intro q t pending d queued
      rcases replay_origin orderly.numbered queued with old | ⟨before, acts, turns⟩ | ⟨-, no, -⟩
      · exact elsewhere q t pending d old
      · exact lost (faithful.own_of_turns (acting?_eq_some.mp acts).2.1 turns).1
      · cases no
  | ended gone all =>
    rcases serving with ⟨_, _, _, _, acts, -⟩ | ⟨serves, -⟩
    · rw [(acting?_eq_some.mp acts).2.1] at gone
      cases gone
    · rw [serves, List.map_nil, List.append_nil]
      exact .ended (task?_of_gone orderly.numbered e faithful.numbered gone) all

theorem Faithful.apply (orderly : s.Orderly) (faithful : Faithful g own queue tag snapshot s given)
    (e : Event) : Faithful g own queue tag snapshot (s.apply e)
      (given ++ (served g s e).map fun p => p.2.stored) where
  made := Nat.lt_of_lt_of_le faithful.made (s.length_le_apply e)
  numbered := by
    rw [nextTask_apply]
    exact Nat.lt_add_right _ faithful.numbered
  only_tag := by
    intro t found
    rcases registration?_apply_cases found with old | ⟨-, new⟩
    · exact faithful.only_tag t old
    · exact absurd new (Nat.ne_of_lt faithful.made)
  only_replay := faithful.only_replay_apply orderly e
  others_spent := faithful.others_spent_apply orderly e
  course := faithful.course_apply orderly e

theorem Faithful.served_own (faithful : Faithful g own queue tag snapshot s given) (e : Event) :
    ∀ p ∈ served g s e, p.1 = own ∧ p.2.envelope.routingKey = queue.text := by
  intro p member
  rcases faithful.served_cases e with ⟨q, t, pending, d, acts, serves⟩ | ⟨serves, -⟩
  · rw [serves, List.mem_singleton] at member
    subst member
    refine ⟨rfl, ?_⟩
    have there := (acting?_eq_some.mp acts).2.1
    cases faithful.course with
    | goes_on there' in_hand _ =>
      rw [there] at there'
      cases there'
      exact (in_hand g d rfl).2
    | cut_off _ elsewhere _ => exact absurd there (elsewhere q t pending d)
    | ended gone _ =>
      rw [there] at gone
      cases gone
  · rw [serves] at member
    cases member

theorem Faithful.run (orderly : s.Orderly) (faithful : Faithful g own queue tag snapshot s given)
    (es : List Event) :
    Faithful g own queue tag snapshot (s.run es)
      (given ++ (trace (served g) s es).map fun p => p.2.stored) ∧
    ∀ p ∈ trace (served g) s es, p.1 = own ∧ p.2.envelope.routingKey = queue.text := by
  induction es generalizing s given with
  | nil =>
    rw [trace, List.map_nil, List.append_nil]
    exact ⟨faithful, fun p member => absurd member List.not_mem_nil⟩
  | cons e es ih =>
    obtain ⟨later, served_later⟩ := ih (orderly.apply e) (faithful.apply orderly e)
    rw [trace, List.map_append, ← List.append_assoc]
    refine ⟨later, ?_⟩
    intro p member
    rcases List.mem_append.mp member with now | then_
    · exact faithful.served_own e p now
    · exact served_later p then_

/-- As much as a faithful registration has been given is a beginning of the snapshot, and all of it
if the replay is over while the tag stands for the registration. -/
theorem Faithful.given_prefix (faithful : Faithful g own queue tag snapshot s given) :
    given <+: snapshot ∧
      (s.task? own = none → s.channel.registration? tag = some g → given = snapshot) := by
  cases faithful.course with
  | goes_on there _ balance =>
    refine ⟨⟨_, by rw [← balance, List.append_assoc]⟩, ?_⟩
    intro gone
    rw [there] at gone
    cases gone
  | cut_off lost _ so_far => exact ⟨so_far, fun _ stands => absurd stands lost⟩
  | ended _ all => exact ⟨all ▸ List.prefix_rfl, fun _ _ => all⟩

end Keeping

theorem born?_of_consume {s : Session} {e : Event} {queue : QueueName} {tag : ConsumerTag}
    {h : HandlerId} (taken : s.taken? e = some (.consume queue tag h)) :
    s.born? e = some (.replay queue tag (s.channel.messages queue) .next) := by
  obtain ⟨sends, fine⟩ := taken?_eq_some.mp taken
  have of_command : s.bornOf? (s.command? e) =
      some (.replay queue tag (s.channel.messages queue) .next) := by
    unfold bornOf?
    rw [show (s.sendIfAny (s.command? e)).2 = .ok () from fine, sends]
    rfl
  cases e with
  | call c => cases sends
  | _ => exact of_command

/-- A command to consume that the channel takes starts a replay of the queue. -/
theorem task?_of_consume {s : Session} (numbered : s.Numbered) {e : Event} {queue : QueueName}
    {tag : ConsumerTag} {h : HandlerId} (taken : s.taken? e = some (.consume queue tag h)) :
    (s.apply e).task? s.nextTask = some (.replay queue tag (s.channel.messages queue) .next) := by
  have fresh : s.survivor? e s.nextTask = none := by
    cases survives : s.survivor? e s.nextTask with
    | none => rfl
    | some t =>
      obtain ⟨u, there⟩ := survivor?_isSome survives
      exact absurd (numbered _ u there) (Nat.lt_irrefl _)
  rw [task?_apply numbered, fresh, if_pos rfl, born?_of_consume taken]
  rfl

/-- A registration begins faithful unless a replay of its tag has messages left. -/
theorem faithful_of_consume {s : Session} (orderly : s.Orderly) {e : Event} {queue : QueueName}
    {tag : ConsumerTag} {h : HandlerId} (taken : s.taken? e = some (.consume queue tag h))
    (none_left : ¬ s.Leftover tag) :
    Faithful s.channel.registrations.length s.nextTask queue tag (s.channel.messages queue)
      (s.apply e) [] where
  made := by
    rw [length_apply, taken]
    exact Nat.lt_succ_self _
  numbered := by
    rw [nextTask_apply, born?_of_consume taken]
    exact Nat.lt_succ_self _
  only_tag := by
    intro t found
    rcases registration?_apply_cases found with old | ⟨⟨q, h', taken'⟩, -⟩
    · exact absurd (orderly.known t _ old) (Nat.lt_irrefl _)
    · rw [taken] at taken'
      cases taken'
      rfl
  only_replay := by
    intro k q t pending d there
    rcases replay_origin orderly.numbered there with old | ⟨before, -, turns⟩ | ⟨-, no, -⟩
    · exact absurd (orderly.about k _ _ old rfl) (Nat.lt_irrefl _)
    · cases turns with
      | plain _ plain => cases plain
      | draws found => exact absurd (orderly.known _ _ found) (Nat.lt_irrefl _)
    · cases no
  others_spent := by
    intro _ k q pending stage there
    have spent {pending : List Stored} {stage : ReplayStage}
        (was : s.task? k = some (.replay q tag pending stage)) : pending = [] :=
      Classical.byContradiction fun some_left => none_left ⟨k, q, pending, stage, was, some_left⟩
    rcases replay_origin orderly.numbered there with old | ⟨before, acts, turns⟩ | ⟨new, -⟩
    · exact .inr (spent old)
    · have was := (acting?_eq_some.mp acts).2.1
      cases turns with
      | plain _ plain => cases plain
      | draws _ => cases spent was
      | handles _ => exact .inr (spent was)
      | handed => exact .inr (spent was)
      | handled => exact .inr (spent was)
    · exact .inl new
  course := .goes_on (task?_of_consume orderly.numbered taken) (fun r d same => by cases same) rfl

/-- **Own snapshot**: a registration sees what it is promised, whatever happens, if no replay of its
tag has messages left when it is made. -/
theorem sees_of_no_leftover {s : Session} (orderly : s.Orderly) {e : Event} {queue : QueueName}
    {tag : ConsumerTag} {h : HandlerId} (taken : s.taken? e = some (.consume queue tag h))
    (none_left : ¬ s.Leftover tag) (fs : List Event) :
    SeesSnapshot s.channel.registrations.length s.nextTask queue tag (s.channel.messages queue)
      (s.apply e) fs := by
  have starts := faithful_of_consume orderly taken none_left
  obtain ⟨ends, serves⟩ := starts.run (orderly.apply e) fs
  rw [List.nil_append] at ends
  refine ⟨fun p member => (serves p member).1, fun p member => (serves p member).2,
    ends.given_prefix.1, ?_⟩
  rintro before after rfl gone stands
  obtain ⟨halfway, -⟩ := starts.run (orderly.apply e) before
  rw [List.nil_append] at halfway
  have all := halfway.given_prefix.2 gone stands
  -- What has been given by then is everything, and nothing that comes later can be more.
  have so_far := ends.given_prefix.1
  rw [trace_append, List.map_append, all] at so_far ⊢
  have lengths := so_far.length_le
  rw [List.length_append] at lengths
  have empty : ((trace (served s.channel.registrations.length) ((s.apply e).run before) after).map
      fun p => p.2.stored) = [] := List.eq_nil_of_length_eq_zero (by omega)
  rw [empty, List.append_nil]

end Session
end Intake
