import Intake.Proofs.Channel.Snapshots
import Mathlib.Data.List.Induction

/-!
# Notices of a cancel

The tasks of the channel call the handler of a registration when they are the first in its line. A
task that is to tell the handler of a cancel gets in line after the tag is freed, when no replay can
get in line any more, so it is the last there. Hence a registration is told of a cancel once at most,
and its line is empty for good after that (`closing_run`).
-/
namespace Intake

/-- A call that the channel makes to the handler of a registration. -/
inductive Callback where
  | delivery (d : Delivery)
  | cancelOk (tag : ConsumerTag)
  | cancelled (tag : ConsumerTag)

namespace Callback

/-- What a callback is to the handler. -/
def happening (now : Nat) (answer : Except TransportError Unit) : Callback → Happening
  | .delivery d => .delivery d now answer
  | .cancelOk tag => .cancelOk tag now
  | .cancelled tag => .cancelledByBroker tag now

theorem happening_inj {now : Nat} {answer : Except TransportError Unit} {c c' : Callback}
    (same : c.happening now answer = c'.happening now answer) : c = c' := by
  cases c <;> cases c' <;> simp_all [happening]

/-- Whether a callback tells of a cancel. -/
def isNotice : Callback → Bool
  | .delivery _ => false
  | _ => true

end Callback

namespace Task

/-- The callback that a task makes with its next step. -/
def callback? (g : RegistrationId) : Task → Option Callback
  | .replay _ _ _ (.queued r d) => if r = g then some (.delivery d) else none
  | .confirm r tag true => if r = g then some (.cancelOk tag) else none
  | .dismiss r tag => if r = g then some (.cancelled tag) else none
  | _ => none

/-- Whether a task is there to tell the handler of a registration of a cancel. -/
def Notifies (g : RegistrationId) : Task → Prop
  | .confirm r _ _ => r = g
  | .dismiss r _ => r = g
  | _ => False

theorem about?_of_callback? {t : Task} {g : RegistrationId} {c : Callback}
    (calls : t.callback? g = some c) : t.about? = some g ∧ t.place? = some g := by
  unfold callback? at calls
  split at calls
  all_goals
    first
    | cases calls
    | split at calls
      · next same => subst same; exact ⟨rfl, rfl⟩
      · cases calls

theorem about?_of_notifies {t : Task} {g : RegistrationId} (notifies : t.Notifies g) :
    t.about? = some g := by
  unfold Notifies at notifies
  split at notifies
  · exact congrArg some notifies
  · exact congrArg some notifies
  · exact notifies.elim

theorem notifies_of_isNotice {t : Task} {g : RegistrationId} {c : Callback}
    (calls : t.callback? g = some c) (notice : c.isNotice = true) : t.Notifies g := by
  unfold callback? at calls
  split at calls
  · split at calls <;> cases calls
    cases notice
  · split at calls <;> cases calls
    assumption
  · split at calls <;> cases calls
    assumption
  · cases calls

/-- A task that has to do with a registration stands in its line or is to tell of a cancel. -/
theorem place?_or_notifies {t : Task} {g : RegistrationId} (about : t.about? = some g) :
    t.place? = some g ∨ t.Notifies g := by
  unfold about? at about
  split at about
  · exact .inl about
  · exact .inl about
  · exact .inr (Option.some.inj about)
  · exact .inl about
  · cases about

end Task

namespace Session

/-- The callback to the handler of a registration that the channel begins at an event. -/
def callback? (g : RegistrationId) (s : Session) (e : Event) : Option Callback :=
  (s.acting? e).bind fun a => a.2.callback? g

def callbacks (g : RegistrationId) (s : Session) (e : Event) : List Callback :=
  (callback? g s e).toList

/-- The callback of an event, if it tells of a cancel. -/
def notices (g : RegistrationId) (s : Session) (e : Event) : List Callback :=
  (callbacks g s e).filter (·.isNotice)

theorem callback?_eq_some {g : RegistrationId} {s : Session} {e : Event} {c : Callback} :
    callback? g s e = some c ↔ ∃ k t, s.acting? e = some (k, t) ∧ t.callback? g = some c := by
  simp [callback?, Option.bind_eq_some_iff]

/-! ### Lines -/

theorem isFirst_iff {s : Session} {g : RegistrationId} {k : TaskId} :
    s.channel.isFirst g k = true ↔ (s.channel.line g).head? = some k := by
  simp [Channel.isFirst]

/-- Only the first in line makes a callback. -/
theorem first_of_callback? {s : Session} {e : Event} {k : TaskId} {t : Task} {g : RegistrationId}
    {c : Callback} (acts : s.acting? e = some (k, t)) (calls : t.callback? g = some c) :
    (s.channel.line g).head? = some k := by
  have able := (acting?_eq_some.mp acts).2.2
  rw [← isFirst_iff]
  unfold Task.callback? at calls
  split at calls
  · split at calls <;> cases calls
    next same => exact same ▸ able
  · split at calls <;> cases calls
    next same => simpa [ready, same] using able
  · split at calls <;> cases calls
    next same => exact same ▸ able
  · cases calls

/-- What becomes of a line at an event: a task gets in it at the end, or some leave it. -/
theorem line_apply_cases {s : Session} (orderly : s.Orderly) (e : Event) (g : RegistrationId) :
    (∃ j t, s.acting? e = some (j, t) ∧ Channel.target? (s.movement t) = some g ∧
      (s.apply e).channel.line g = s.channel.line g ++ [j]) ∨
    ∃ stays : TaskId → Bool, (s.apply e).channel.line g = (s.channel.line g).filter stays := by
  have unchanged (same : (s.apply e).channel.line g = s.channel.line g) :
      ∃ stays : TaskId → Bool, (s.apply e).channel.line g = (s.channel.line g).filter stays :=
    ⟨fun _ => true, by rw [same, List.filter_eq_self.mpr fun _ _ => rfl]⟩
  cases acts : s.acting? e with
  | some a =>
    obtain ⟨j, t⟩ := a
    have line := line_of_acting orderly acts g
    unfold Channel.lineAfter at line
    split at line
    · next r gets_in =>
      split at line
      · next same => exact .inl ⟨j, t, rfl, same ▸ gets_in, line⟩
      · exact .inr (unchanged line)
    · split at line
      · exact .inr ⟨_, line⟩
      · exact .inr (unchanged line)
  | none =>
    right
    by_cases dropped : ∃ j, e = .drop j
    · obtain ⟨j, rfl⟩ := dropped
      have line := s.line_of_drop j g
      split at line
      · exact ⟨_, line⟩
      · exact unchanged line
    · exact unchanged (line_of_idle acts (fun j is => dropped ⟨j, is⟩) g)

/-- The first in a line is the first as long as it is in it. -/
theorem first_of_stays {s : Session} (orderly : s.Orderly) {e : Event} {g : RegistrationId}
    {k : TaskId} (first : (s.channel.line g).head? = some k)
    (stays : k ∈ (s.apply e).channel.line g) : ((s.apply e).channel.line g).head? = some k := by
  obtain ⟨rest, line⟩ := List.head?_eq_some_iff.mp first
  rcases line_apply_cases orderly e g with ⟨j, t, -, -, line'⟩ | ⟨keeps, line'⟩
  · rw [line', line]
    rfl
  · rw [line'] at stays ⊢
    rw [line, List.filter_cons_of_pos (List.mem_filter.mp stays).2]
    rfl

/-! ### One notice, and nothing after it -/

/-- Only a channel that confirms cancels starts a task to confirm one. -/
theorem confirms_of_born {s : Session} {e : Event} {r : RegistrationId} {tag : ConsumerTag}
    {queued : Bool} (born : s.born? e = some (.confirm r tag queued)) :
    s.channel.confirmsCancels = true := by
  unfold born? at born
  split at born
  · cases born
  · unfold bornOf? at born
    split at born
    · obtain ⟨c, -, follows⟩ := Option.bind_eq_some_iff.mp born
      unfold follower? at follows
      split at follows
      · cases follows
      · split at follows
        · assumption
        · cases follows
      · cases follows
    · cases born

/-- A task that is to tell of a cancel has been there, or a tag has been freed for it: by a command
to cancel that the channel confirms, or by the broker. -/
theorem notifies_origin {s : Session} (numbered : s.Numbered) {e : Event} {k : TaskId} {t : Task}
    {g : RegistrationId} (there : (s.apply e).task? k = some t) (notifies : t.Notifies g) :
    (∃ u, s.task? k = some u ∧ u.Notifies g ∧
      ((∀ v, s.acting? e ≠ some (k, v)) ∧ t = u ∨
        ∃ tag, s.acting? e = some (k, .confirm g tag false) ∧ t = .confirm g tag true)) ∨
    (∃ tag, s.channel.registration? tag = some g ∧ t = .confirm g tag false ∧ k = s.nextTask ∧
      s.taken? e = some (.cancel tag) ∧ s.channel.confirmsCancels = true) ∨
    (∃ tag, s.channel.registration? tag = some g ∧ t = .dismiss g tag ∧
      s.acting? e = some (k, .start (.brokerCancel tag))) := by
  rw [task?_apply numbered, Option.or_eq_some_iff] at there
  rcases there with old | ⟨-, new⟩
  · by_cases acts : ∃ u, s.acting? e = some (k, u)
    · obtain ⟨u, acts⟩ := acts
      rw [survivor?_of_acting acts, if_pos rfl] at old
      have was := (acting?_eq_some.mp acts).2.1
      cases turns_of_fate old with
      | plain _ plain =>
        cases t with
        | replay | confirm | dismiss => cases plain
        | _ => exact notifies.elim
      | @dismisses tag r found =>
        cases (notifies : r = g)
        exact .inr (.inr ⟨tag, found, rfl, acts⟩)
      | @queues r tag =>
        cases (notifies : r = g)
        exact .inl ⟨_, was, rfl, .inr ⟨tag, acts, rfl⟩⟩
      | _ => exact notifies.elim
    · have waits : ∀ u, s.acting? e ≠ some (k, u) := fun u is => acts ⟨u, is⟩
      rcases survivor?_cases old with ⟨u, acts, -⟩ | was
      · exact absurd acts (waits u)
      · exact .inl ⟨t, was, notifies, .inl ⟨waits, rfl⟩⟩
  · split at new
    · next same =>
      rcases born?_cases new with ⟨c, -, rfl⟩ | ⟨queue, tag, h, -, rfl⟩ | ⟨tag, r, taken, found, rfl⟩
      · exact notifies.elim
      · exact notifies.elim
      · cases (notifies : r = g)
        exact .inr (.inl ⟨tag, found, rfl, same, taken, confirms_of_born new⟩)
    · cases new

theorem command?_of_brokerCancel {s : Session} {e : Event} {k : TaskId} {tag : ConsumerTag}
    (acts : s.acting? e = some (k, .start (.brokerCancel tag))) : s.command? e = none :=
  command?_of_acting acts

/-- What holds of a registration after some notices have been given: as long as it has a tag, none
has been given and no task is there to give one; one task at most is there, and it is the last in
line; and after a notice no task has to do with the registration any more. -/
structure Closing (g : RegistrationId) (s : Session) (given : List Callback) : Prop where
  made : given ≠ [] → g < s.channel.registrations.length
  tagged : ∀ tag, s.channel.registration? tag = some g →
    given = [] ∧ ∀ k t, s.task? k = some t → ¬ t.Notifies g
  one : ∀ j k t u, s.task? j = some t → s.task? k = some u → t.Notifies g → u.Notifies g → j = k
  last : ∀ k t, s.task? k = some t → t.Notifies g → k ∈ s.channel.line g →
    ∃ ahead, s.channel.line g = ahead ++ [k] ∧ k ∉ ahead
  quiet : given ≠ [] → ∀ k t, s.task? k = some t → t.about? ≠ some g
  once : given.length ≤ 1

section Keeping

variable {g : RegistrationId} {s : Session} {given : List Callback}

theorem notices_cases (g : RegistrationId) (s : Session) (e : Event) :
    notices g s e = [] ∨
      ∃ k t c, s.acting? e = some (k, t) ∧ t.callback? g = some c ∧ t.Notifies g ∧
        notices g s e = [c] := by
  unfold notices callbacks
  cases calls : callback? g s e with
  | none => exact .inl rfl
  | some c =>
    obtain ⟨k, t, acts, makes⟩ := callback?_eq_some.mp calls
    cases notice : c.isNotice with
    | false => exact .inl (by simp [notice])
    | true =>
      exact .inr ⟨k, t, c, acts, makes, Task.notifies_of_isNotice makes notice, by simp [notice]⟩

/-- A task that makes a notice is then gone. -/
theorem gone_of_notice (numbered : s.Numbered) {e : Event} {k : TaskId} {t : Task} {c : Callback}
    (acts : s.acting? e = some (k, t)) (calls : t.callback? g = some c) (notifies : t.Notifies g) :
    (s.apply e).task? k = none := by
  rw [task?_of_acting numbered acts]
  unfold Task.callback? at calls
  split at calls
  · exact notifies.elim
  · rfl
  · rfl
  · cases calls

/-- As long as a registration has its tag, nobody gives a notice to its handler. -/
theorem Closing.notices_of_tagged (closing : Closing g s given) {tag : ConsumerTag}
    (found : s.channel.registration? tag = some g) (e : Event) : notices g s e = [] := by
  rcases notices_cases g s e with nothing | ⟨k, t, c, acts, -, notifies, -⟩
  · exact nothing
  · exact absurd notifies ((closing.tagged tag found).2 k t (acting?_eq_some.mp acts).2.1)

/-- A task that is to tell of a cancel is an old one, or the tag has been freed just now. -/
theorem Closing.no_tag_of_notifies (orderly : s.Orderly) (closing : Closing g s given) {e : Event}
    {k : TaskId} {t : Task} (there : (s.apply e).task? k = some t) (notifies : t.Notifies g)
    (tag : ConsumerTag) : (s.apply e).channel.registration? tag ≠ some g := by
  intro found
  rcases registration?_apply_cases found with before | ⟨-, new⟩
  · -- The registration had this tag and no other, and the event frees it.
    obtain ⟨-, nobody⟩ := closing.tagged tag before
    have kept : ¬ s.frees e tag := by
      intro freed
      rw [registration?_of_frees freed] at found
      cases found
    rcases notifies_origin orderly.numbered there notifies with ⟨u, was, old, -⟩ |
      ⟨tag', found', -, -, taken, confirms⟩ | ⟨tag', found', -, acts⟩
    · exact nobody k u was old
    · cases orderly.own_tag tag tag' g before found'
      exact kept (.inr (.inl ⟨taken, confirms⟩))
    · cases orderly.own_tag tag tag' g before found'
      exact kept (.inr (.inr ⟨k, acts⟩))
  · -- A registration that is made only now has no tasks yet.
    have unmade : ¬ g < s.channel.registrations.length := by
      rw [new]
      exact Nat.lt_irrefl _
    rcases notifies_origin orderly.numbered there notifies with ⟨u, was, old, -⟩ |
      ⟨tag', found', -⟩ | ⟨tag', found', -⟩
    · exact unmade (orderly.about k u g was (Task.about?_of_notifies old))
    · exact unmade (orderly.known tag' g found')
    · exact unmade (orderly.known tag' g found')

theorem Closing.tagged_apply (orderly : s.Orderly) (closing : Closing g s given) (e : Event)
    (tag : ConsumerTag) (found : (s.apply e).channel.registration? tag = some g) :
    given ++ notices g s e = [] ∧ ∀ k t, (s.apply e).task? k = some t → ¬ t.Notifies g := by
  refine ⟨?_, fun k t there notifies => closing.no_tag_of_notifies orderly there notifies tag found⟩
  rcases registration?_apply_cases found with before | ⟨-, new⟩
  · rw [(closing.tagged tag before).1, closing.notices_of_tagged before]
    rfl
  · have unmade : ¬ g < s.channel.registrations.length := by
      rw [new]
      exact Nat.lt_irrefl _
    rw [List.append_eq_nil_iff]
    constructor
    · exact Classical.byContradiction fun some_given => unmade (closing.made some_given)
    · rcases notices_cases g s e with nothing | ⟨k, t, c, acts, calls, -⟩
      · exact nothing
      · exact absurd (orderly.about k t g (acting?_eq_some.mp acts).2.1
          (Task.about?_of_callback? calls).1) unmade

theorem Closing.one_apply (orderly : s.Orderly) (closing : Closing g s given) (e : Event)
    (j k : TaskId) (t u : Task) (there : (s.apply e).task? j = some t)
    (there' : (s.apply e).task? k = some u) (notifies : t.Notifies g) (notifies' : u.Notifies g) :
    j = k := by
  -- If one of the two is new the tag was there until now, so that the other is new as well; and an
  -- event frees a tag in one way only.
  rcases notifies_origin orderly.numbered there notifies with ⟨v, was, old, -⟩ |
    ⟨tag, found, -, rfl, taken, -⟩ | ⟨tag, found, -, acts⟩
  · rcases notifies_origin orderly.numbered there' notifies' with ⟨v', was', old', -⟩ |
      ⟨tag', found', -⟩ | ⟨tag', found', -⟩
    · exact closing.one j k v v' was was' old old'
    · exact absurd old ((closing.tagged tag' found').2 j v was)
    · exact absurd old ((closing.tagged tag' found').2 j v was)
  · rcases notifies_origin orderly.numbered there' notifies' with ⟨v', was', old', -⟩ |
      ⟨-, -, -, rfl, -⟩ | ⟨tag', -, -, acts'⟩
    · exact absurd old' ((closing.tagged tag found).2 k v' was')
    · rfl
    · exact absurd (command?_of_brokerCancel acts') (by simp [(taken?_eq_some.mp taken).1])
  · rcases notifies_origin orderly.numbered there' notifies' with ⟨v', was', old', -⟩ |
      ⟨tag', -, -, rfl, taken', -⟩ | ⟨tag', -, -, acts'⟩
    · exact absurd old' ((closing.tagged tag found).2 k v' was')
    · exact absurd (command?_of_brokerCancel acts) (by simp [(taken?_eq_some.mp taken').1])
    · rw [acts] at acts'
      cases acts'
      rfl

/-- With a task that is to tell of a cancel in line, nobody else gets in. -/
theorem Closing.gets_in (closing : Closing g s given) {e : Event} {j k : TaskId} {t u : Task}
    (there : s.task? k = some u) (notifies : u.Notifies g) (acts : s.acting? e = some (j, t))
    (gets_in : Channel.target? (s.movement t) = some g) : j = k := by
  have itself := (acting?_eq_some.mp acts).2.1
  obtain ⟨nowhere, about | ⟨tag, found⟩⟩ := target?_movement gets_in
  · rcases Task.place?_or_notifies about with place | also
    · rw [nowhere] at place
      cases place
    · exact closing.one j k t u itself there also notifies
  · exact absurd notifies ((closing.tagged tag found).2 k u there)

theorem Closing.last_apply (orderly : s.Orderly) (closing : Closing g s given) (e : Event)
    (k : TaskId) (t : Task) (there : (s.apply e).task? k = some t) (notifies : t.Notifies g)
    (stands : k ∈ (s.apply e).channel.line g) :
    ∃ ahead, (s.apply e).channel.line g = ahead ++ [k] ∧ k ∉ ahead := by
  have place := ((orderly.apply e).standing k g).mp stands
  rw [there] at place
  -- A task that gets in line now has stood in none, so that it is behind all that are there.
  have at_end (v : Task) (acts : s.acting? e = some (k, v)) (nowhere : v.place? = none)
      (gets_in : Channel.target? (s.movement v) = some g) :
      ∃ ahead, (s.apply e).channel.line g = ahead ++ [k] ∧ k ∉ ahead := by
    refine ⟨s.channel.line g, ?_, ?_⟩
    · rw [line_of_acting orderly acts]
      simp [Channel.lineAfter, gets_in]
    · rw [orderly.standing, (acting?_eq_some.mp acts).2.1, Option.bind_some, nowhere]
      exact nofun
  rcases notifies_origin orderly.numbered there notifies with
    ⟨u, was, old, ⟨waits, rfl⟩ | ⟨tag, acts, -⟩⟩ | ⟨tag, -, rfl, -⟩ | ⟨tag, found, -, acts⟩
  · have stood : k ∈ s.channel.line g := by
      rw [orderly.standing, was]
      exact place
    obtain ⟨ahead, line, behind⟩ := closing.last k t was old stood
    rcases line_apply_cases orderly e g with ⟨j, v, acts, gets_in, -⟩ | ⟨stays, line'⟩
    · cases closing.gets_in was old acts gets_in
      exact absurd acts (waits v)
    · rw [line'] at stands ⊢
      refine ⟨ahead.filter stays, ?_, fun member => behind (List.mem_filter.mp member).1⟩
      rw [line, List.filter_append, List.filter_cons_of_pos (List.mem_filter.mp stands).2]
      rfl
  · exact at_end _ acts rfl rfl
  · cases place
  · exact at_end _ acts rfl (by simp [movement, found, Channel.target?])

/-- When a notice is given, its task is the only one that has to do with the registration. -/
theorem Closing.alone (orderly : s.Orderly) (closing : Closing g s given) {e : Event} {k : TaskId}
    {t : Task} {c : Callback} (acts : s.acting? e = some (k, t)) (calls : t.callback? g = some c)
    (notifies : t.Notifies g) {j : TaskId} {u : Task} (there : s.task? j = some u)
    (about : u.about? = some g) : j = k := by
  have itself := (acting?_eq_some.mp acts).2.1
  rcases Task.place?_or_notifies about with place | also
  · have stands : k ∈ s.channel.line g := by
      rw [orderly.standing, itself]
      exact (Task.about?_of_callback? calls).2
    have stands' : j ∈ s.channel.line g := by
      rw [orderly.standing, there]
      exact place
    -- The task is the first and the last of the line.
    obtain ⟨ahead, line, behind⟩ := closing.last k t itself notifies stands
    have first := first_of_callback? acts calls
    rw [line] at first stands'
    cases ahead with
    | nil => exact List.mem_singleton.mp stands'
    | cons i ahead =>
      cases first
      exact absurd List.mem_cons_self behind
  · exact closing.one j k u t there itself also notifies

theorem Closing.quiet_apply (orderly : s.Orderly) (closing : Closing g s given) (e : Event)
    (some_given : given ++ notices g s e ≠ []) (j : TaskId) (u : Task)
    (there : (s.apply e).task? j = some u) : u.about? ≠ some g := by
  intro about
  -- Without a tag nothing new comes, so the task has had to do with the registration before.
  have no_tag (tag : ConsumerTag) : s.channel.registration? tag ≠ some g := by
    intro found
    rw [(closing.tagged tag found).1, closing.notices_of_tagged found] at some_given
    exact some_given rfl
  have before : ∃ v, s.task? j = some v ∧ v.about? = some g := by
    rw [task?_apply orderly.numbered, Option.or_eq_some_iff] at there
    rcases there with old | ⟨-, new⟩
    · rcases survivor?_cases old with ⟨v, acts, left⟩ | was
      · rcases (turns_of_fate left).about? about with before | ⟨tag, found⟩
        · exact ⟨v, (acting?_eq_some.mp acts).2.1, before⟩
        · exact absurd found (no_tag tag)
      · exact ⟨u, was, about⟩
    · split at new
      · obtain ⟨tag, found⟩ := about?_of_born new about
        exact absurd found (no_tag tag)
      · cases new
  obtain ⟨v, was, about'⟩ := before
  by_cases earlier : given = []
  · rcases notices_cases g s e with nothing | ⟨k, t, c, acts, calls, notifies, -⟩
    · rw [earlier, nothing] at some_given
      exact some_given rfl
    · cases closing.alone orderly acts calls notifies was about'
      rw [gone_of_notice orderly.numbered acts calls notifies] at there
      cases there
  · exact closing.quiet earlier j v was about'

theorem Closing.apply (orderly : s.Orderly) (closing : Closing g s given) (e : Event) :
    Closing g (s.apply e) (given ++ notices g s e) where
  made := by
    intro some_given
    refine Nat.lt_of_lt_of_le ?_ (s.length_le_apply e)
    by_cases earlier : given = []
    · rcases notices_cases g s e with nothing | ⟨k, t, c, acts, calls, -⟩
      · rw [earlier, nothing] at some_given
        exact absurd rfl some_given
      · exact orderly.about k t g (acting?_eq_some.mp acts).2.1 (Task.about?_of_callback? calls).1
    · exact closing.made earlier
  tagged := closing.tagged_apply orderly e
  one := closing.one_apply orderly e
  last := closing.last_apply orderly e
  quiet := closing.quiet_apply orderly e
  once := by
    rcases notices_cases g s e with nothing | ⟨k, t, c, acts, calls, -, one⟩
    · rw [nothing, List.append_nil]
      exact closing.once
    · by_cases earlier : given = []
      · rw [earlier, one]
        exact Nat.le_refl 1
      · exact absurd (Task.about?_of_callback? calls).1
          (closing.quiet earlier k t (acting?_eq_some.mp acts).2.1)

theorem Closing.run (orderly : s.Orderly) (closing : Closing g s given) (es : List Event) :
    Closing g (s.run es) (given ++ trace (notices g) s es) := by
  induction es generalizing s given with
  | nil =>
    rw [trace, List.append_nil]
    exact closing
  | cons e es ih =>
    have later := ih (orderly.apply e) (closing.apply orderly e)
    rw [List.append_assoc] at later
    exact later

end Keeping

theorem closing_run (confirms : Bool) (es : List Event) (g : RegistrationId) :
    Closing g ((initial confirms).run es) (trace (notices g) (initial confirms) es) := by
  have starts : Closing g (initial confirms) [] := {
    made := fun no => absurd rfl no
    tagged := fun tag found => by cases found
    one := fun j k t u there => by cases there
    last := fun k t there => by cases there
    quiet := fun no => absurd rfl no
    once := Nat.zero_le 1 }
  exact starts.run (orderly_run confirms []) es

/-! ### Where a notice comes from -/

/-- Whether something is the case at one of the events of a run. -/
def Occurred (p : Session → Event → Prop) (s : Session) (es : List Event) : Prop :=
  ∃ before e after, es = before ++ e :: after ∧ p (s.run before) e

theorem Occurred.concat {p : Session → Event → Prop} {s : Session} {es : List Event}
    (occurred : Occurred p s es) (e : Event) : Occurred p s (es ++ [e]) := by
  obtain ⟨before, e', after, rfl, held⟩ := occurred
  exact ⟨before, e', after ++ [e], by simp, held⟩

theorem occurred_last {p : Session → Event → Prop} {s : Session} {es : List Event} {e : Event}
    (held : p (s.run es) e) : Occurred p s (es ++ [e]) := ⟨es, e, [], rfl, held⟩

/-- The channel records a command to cancel the tag of a registration, and it confirms cancels. -/
def Cancels (g : RegistrationId) (tag : ConsumerTag) (s : Session) (e : Event) : Prop :=
  s.recorded e = [.cancel tag] ∧ s.channel.registration? tag = some g ∧
    s.channel.confirmsCancels = true

/-- The broker cancels the registration that a tag stands for. -/
def BrokerCancels (g : RegistrationId) (tag : ConsumerTag) (s : Session) (e : Event) : Prop :=
  (∃ k, s.acting? e = some (k, .start (.brokerCancel tag))) ∧ s.channel.registration? tag = some g

/-- A task that is to tell of a cancel is there because of a cancel of its kind. -/
theorem notifies_cause (confirms : Bool) (es : List Event) {k : TaskId} {t : Task}
    {g : RegistrationId} (there : ((initial confirms).run es).task? k = some t)
    (notifies : t.Notifies g) :
    (∃ tag queued, t = .confirm g tag queued ∧ Occurred (Cancels g tag) (initial confirms) es) ∨
      ∃ tag, t = .dismiss g tag ∧ Occurred (BrokerCancels g tag) (initial confirms) es := by
  induction es using List.reverseRecOn generalizing k t with
  | nil => cases there
  | append_singleton es e ih =>
    rw [run_concat] at there
    rcases notifies_origin (orderly_run confirms es).numbered there notifies with
      ⟨u, was, old, came⟩ | ⟨tag, found, rfl, -, taken, fine⟩ | ⟨tag, found, rfl, acts⟩
    · -- A confirmation that gets in line is still for the same cancel.
      rcases came with ⟨-, rfl⟩ | ⟨tag, acts, rfl⟩
      · rcases ih was old with ⟨tag, queued, same, occurred⟩ | ⟨tag, same, occurred⟩
        · exact .inl ⟨tag, queued, same, occurred.concat e⟩
        · exact .inr ⟨tag, same, occurred.concat e⟩
      · rcases ih (acting?_eq_some.mp acts).2.1 rfl with ⟨_, _, same, occurred⟩ | ⟨_, same, -⟩
        · cases same
          exact .inl ⟨tag, true, rfl, occurred.concat e⟩
        · cases same
    · exact .inl ⟨tag, false, rfl, occurred_last ⟨recorded_of_taken taken, found, fine⟩⟩
    · exact .inr ⟨tag, rfl, occurred_last ⟨⟨k, acts⟩, found⟩⟩

end Session
end Intake
