import Intake.Proofs.Session.Registrations

/-!
# Lines of registrations

The tasks in the line of a registration are those that wait for their turn with its handler, and the
one that has it. The main statement is `orderly_run`: this holds wherever a run gets.
-/
namespace Intake

/-- The registration that a task has to do with. -/
def Task.about? : Task → Option RegistrationId
  | .replay _ _ _ (.queued r _) => some r
  | .replay _ _ _ (.handling r _ _) => some r
  | .confirm r _ _ => some r
  | .dismiss r _ => some r
  | _ => none

/-- The registration in whose line a task stands. -/
def Task.place? : Task → Option RegistrationId
  | .replay _ _ _ (.queued r _) => some r
  | .replay _ _ _ (.handling r _ _) => some r
  | .confirm r _ true => some r
  | .dismiss r _ => some r
  | _ => none

/-- Whether a task has nothing to do with registrations. -/
def Task.isPlain : Task → Bool
  | .replay .. => false
  | .confirm .. => false
  | .dismiss .. => false
  | _ => true

namespace Session

open Channel (target?)

/-- What holds wherever a run gets: numbers of tasks have been given out; tags stand for
registrations that were made, each for one of its own; tasks have to do with registrations that were
made; and in the lines stand the tasks that say so. -/
structure Orderly (s : Session) : Prop where
  numbered : s.Numbered
  known : ∀ tag r, s.channel.registration? tag = some r → r < s.channel.registrations.length
  own_tag : ∀ tag tag' r, s.channel.registration? tag = some r →
    s.channel.registration? tag' = some r → tag = tag'
  about : ∀ k t r, s.task? k = some t → t.about? = some r → r < s.channel.registrations.length
  standing : ∀ k r, k ∈ s.channel.line r ↔ (s.task? k).bind Task.place? = some r

/-! ### Places of tasks -/

theorem about?_of_place? {t : Task} {r : RegistrationId} (place : t.place? = some r) :
    t.about? = some r := by
  unfold Task.place? at place
  split at place <;> first | exact place | cases place

/-- A task stands in line after a step if the step has put it there, or if it has stood there and
has not left. -/
theorem place?_of_fate {s : Session} {t : Task}
    (handled : ∀ r, t.about? = some r → (s.channel.handler? r).isSome) (k : TaskId)
    (answer : Except TransportError Unit) :
    ((s.fate k answer t).task? t).bind Task.place? =
      match target? (s.movement t) with
      | some r => some r
      | none =>
        match s.movement t with
        | .leaves => none
        | _ => t.place? := by
  -- Calls stand in no line, before or after; the cases that matter are those of the channel's tasks.
  cases t with
  | start call =>
    cases call with
    | deliver h d =>
      simp only [fate, movement]
      cases (s.handOver h d).2 <;> rfl
    | brokerCancel tag =>
      simp only [fate, movement]
      cases s.channel.registration? tag <;> rfl
    | receive h timeout =>
      simp only [fate, movement]
      cases s.receiver? h <;> rfl
    | cancel h =>
      simp only [fate, movement]
      cases s.receiver? h with
      | none => rfl
      | some r =>
        simp only
        rcases (r.cancel k s.clock answer).2 with _ | _ | _ <;> rfl
    | scan queue converter request =>
      simp only [fate, movement]
      split
      · rfl
      · cases answer <;> rfl
    | watch h timeout => rfl
    | sleep d => rfl
  | replay queue tag pending stage =>
    cases stage with
    | next =>
      cases pending with
      | nil => rfl
      | cons m pending =>
        simp only [fate, movement]
        cases s.channel.registration? tag <;> rfl
    | queued r d =>
      obtain ⟨h, found⟩ := Option.isSome_iff_exists.mp (handled r rfl)
      simp only [fate, movement, found]
      cases (s.handOver h d).2 <;> rfl
    | handling r d deadline =>
      obtain ⟨h, found⟩ := Option.isSome_iff_exists.mp (handled r rfl)
      simp only [fate, movement, found]
      rfl
  | confirm r tag queued => cases queued <;> rfl
  | dismiss r tag => rfl
  | taking h =>
    simp only [fate, movement]
    cases s.receiver? h with
    | none => rfl
    | some r =>
      simp only
      cases (r.take s.clock).2 <;> rfl
  | cancelling h =>
    simp only [fate, movement]
    cases s.receiver? h <;> rfl
  | watching h deadline =>
    simp only [fate, movement]
    cases s.browser? h <;> rfl
  | scanning h deadline =>
    simp only [fate, movement]
    cases s.browser? h <;> rfl
  | handling h d deadline => rfl
  | sleeping deadline => rfl

/-- A task that gets in line has stood nowhere, and it gets in the line of a registration that it
has to do with or that has a tag. -/
theorem target?_movement {s : Session} {t : Task} {r : RegistrationId}
    (gets_in : target? (s.movement t) = some r) : t.place? = none ∧
      (t.about? = some r ∨ ∃ tag, s.channel.registration? tag = some r) := by
  unfold movement at gets_in
  split at gets_in
  · split at gets_in
    · next tag r' found =>
      cases gets_in
      exact ⟨rfl, .inr ⟨_, found⟩⟩
    · cases gets_in
  · split at gets_in
    · next r' found =>
      cases gets_in
      exact ⟨rfl, .inr ⟨_, found⟩⟩
    · cases gets_in
  · split at gets_in
    · split at gets_in <;> cases gets_in
    · cases gets_in
  · split at gets_in <;> cases gets_in
  · cases gets_in
    exact ⟨rfl, .inl rfl⟩
  · cases gets_in
  · cases gets_in
  · cases gets_in

/-- How a task that has nothing to do with registrations goes on with a step: a call begins to wait, or
it finds what it is to dismiss, and what waits may wait on. -/
inductive Follows (s : Session) : Task → Task → Prop where
  | delivers {h d} (deadline : Nat) : Follows s (.start (.deliver h d)) (.handling h d deadline)
  | dismisses {tag r} : s.channel.registration? tag = some r →
    Follows s (.start (.brokerCancel tag)) (.dismiss r tag)
  | receives {h timeout r} : s.receiver? h = some r →
    Follows s (.start (.receive h timeout)) (.taking h)
  | cancels {h} : Follows s (.start (.cancel h)) (.cancelling h)
  | watches {h timeout} : Follows s (.start (.watch h timeout)) (.watching h (s.clock + timeout))
  | scans {queue converter request} : request.expected ≠ 0 →
    Follows s (.start (.scan queue converter request))
      (.scanning s.consumers.length (s.clock + request.timeout))
  | sleeps {d} : Follows s (.start (.sleep d)) (.sleeping (s.clock + d))
  | taking {h} : Follows s (.taking h) (.taking h)
  | cancelling {h} : Follows s (.cancelling h) (.cancelling h)

/-- What is left of such a task after a step is how it goes on. -/
theorem follows_of_fate {s : Session} {k : TaskId} {t u : Task} {answer : Except TransportError Unit}
    (left : (s.fate k answer t).task? t = some u) (plain : t.isPlain = true) : s.Follows t u := by
  cases t with
  | replay | confirm | dismiss => cases plain
  | start call =>
    cases call with
    | deliver h d =>
      simp only [fate] at left
      split at left <;> cases left
      exact .delivers _
    | brokerCancel tag =>
      simp only [fate] at left
      split at left
      · next r found =>
        cases left
        exact .dismisses found
      · cases left
    | receive h timeout =>
      simp only [fate] at left
      split at left
      · next r there =>
        cases left
        exact .receives there
      · cases left
    | cancel h =>
      simp only [fate] at left
      split at left
      · split at left <;> cases left
        exact .cancels
      · cases left
    | scan queue converter request =>
      simp only [fate] at left
      split at left
      · cases left
      · next some_wanted =>
        split at left <;> cases left
        exact .scans some_wanted
    | watch h timeout =>
      cases left
      exact .watches
    | sleep d =>
      cases left
      exact .sleeps
  | taking h =>
    simp only [fate] at left
    split at left
    · next r _ =>
      cases taken : (r.take s.clock).2 <;> (rw [taken] at left; cases left)
      exact .taking
    · cases left
      exact .taking
  | cancelling h =>
    simp only [fate] at left
    split at left <;> cases left
    exact .cancelling
  | watching | scanning =>
    simp only [fate] at left
    split at left <;> cases left
  | handling | sleeping => cases left

/-- What a task may turn into with a step. -/
inductive Turns (s : Session) : Task → Task → Prop where
  | plain {t u} : t.isPlain = true → u.isPlain = true → Turns s t u
  | dismisses {tag r} : s.channel.registration? tag = some r →
    Turns s (.start (.brokerCancel tag)) (.dismiss r tag)
  | draws {queue tag m pending r} : s.channel.registration? tag = some r →
    Turns s (.replay queue tag (m :: pending) .next)
      (.replay queue tag pending (.queued r (s.drawn queue m)))
  | handles {queue tag pending r d} (deadline : Nat) :
    Turns s (.replay queue tag pending (.queued r d))
      (.replay queue tag pending (.handling r d deadline))
  | handed {queue tag pending r d} :
    Turns s (.replay queue tag pending (.queued r d)) (.replay queue tag pending .next)
  | handled {queue tag pending r d deadline} :
    Turns s (.replay queue tag pending (.handling r d deadline)) (.replay queue tag pending .next)
  | queues {r tag} : Turns s (.confirm r tag false) (.confirm r tag true)

/-- What is left of a task after a step is something that it may turn into. -/
theorem turns_of_fate {s : Session} {k : TaskId} {t u : Task} {answer : Except TransportError Unit}
    (left : (s.fate k answer t).task? t = some u) : s.Turns t u := by
  cases t with
  | replay queue tag pending stage =>
    cases stage with
    | next =>
      cases pending with
      | nil => cases left
      | cons m pending =>
        simp only [fate] at left
        cases found : s.channel.registration? tag with
        | none => rw [found] at left; cases left
        | some r => rw [found] at left; cases left; exact .draws found
    | queued r d =>
      simp only [fate] at left
      split at left
      · split at left <;> cases left
        · exact .handed
        · exact .handles _
      · cases left
    | handling r d deadline =>
      simp only [fate] at left
      split at left <;> cases left
      exact .handled
  | confirm r tag queued =>
    cases queued with
    | false => cases left; exact .queues
    | true => cases left
  | dismiss r tag => cases left
  | start call =>
    cases follows_of_fate left rfl with
    | dismisses found => exact .dismisses found
    | _ => exact .plain rfl rfl
  | _ => cases follows_of_fate left rfl <;> exact .plain rfl rfl

theorem about?_of_isPlain {t : Task} (plain : t.isPlain = true) : t.about? = none := by
  cases t with
  | replay | confirm | dismiss => cases plain
  | _ => rfl

/-- What a task has to do with after a step it had to do with before, or it has found it by its
tag. -/
theorem Turns.about? {s : Session} {t u : Task} (turns : s.Turns t u) {r : RegistrationId}
    (about : u.about? = some r) :
    t.about? = some r ∨ ∃ tag, s.channel.registration? tag = some r := by
  cases turns with
  | plain _ plain =>
    rw [about?_of_isPlain plain] at about
    cases about
  | dismisses found => cases about; exact .inr ⟨_, found⟩
  | draws found => cases about; exact .inr ⟨_, found⟩
  | handles deadline => exact .inl about
  | handed => cases about
  | handled => cases about
  | queues => exact .inl about

/-! ### Order is kept -/

theorem place?_of_born {s : Session} {e : Event} {t : Task} (born : s.born? e = some t) :
    t.place? = none := by
  rcases born?_cases born with ⟨c, -, rfl⟩ | ⟨queue, tag, h, -, rfl⟩ | ⟨tag, r, -, -, rfl⟩ <;> rfl

theorem about?_of_born {s : Session} {e : Event} {t : Task} {r : RegistrationId}
    (born : s.born? e = some t) (about : t.about? = some r) :
    ∃ tag, s.channel.registration? tag = some r := by
  rcases born?_cases born with ⟨c, -, rfl⟩ | ⟨queue, tag, h, -, rfl⟩ | ⟨tag, r', -, found, rfl⟩
  · cases about
  · cases about
  · cases about
    exact ⟨tag, found⟩

theorem place?_apply {s : Session} (numbered : s.Numbered) (e : Event) (j : TaskId) :
    ((s.apply e).task? j).bind Task.place? = (s.survivor? e j).bind Task.place? :=
  bind_task?_apply numbered (fun _ born => place?_of_born born) j

theorem target?_known {s : Session} (orderly : s.Orderly) {k : TaskId} {t : Task}
    (there : s.task? k = some t) {r : RegistrationId} (gets_in : target? (s.movement t) = some r) :
    r < s.channel.registrations.length := by
  rcases (target?_movement gets_in).2 with about | ⟨tag, found⟩
  · exact orderly.about k t r there about
  · exact orderly.known tag r found

theorem line_of_acting {s : Session} (orderly : s.Orderly) {e : Event} {k : TaskId} {t : Task}
    (acts : s.acting? e = some (k, t)) (r : RegistrationId) :
    (s.apply e).channel.line r =
      Channel.lineAfter k r (s.channel.line r) (s.movement t) := by
  obtain ⟨rfl, there, -⟩ := acting?_eq_some.mp acts
  rw [apply_channel, rearranged, acts]
  simp only
  rw [Channel.line_moved, sent_line]
  intro r' gets_in
  rw [sent_length]
  exact Nat.lt_add_right _ (target?_known orderly there gets_in)

theorem line_of_idle {s : Session} {e : Event} (idle : s.acting? e = none)
    (kept : ∀ k, e ≠ .drop k) (r : RegistrationId) :
    (s.apply e).channel.line r = s.channel.line r := by
  rw [apply_channel, ← s.sent_line e r]
  cases e with
  | drop k => exact absurd rfl (kept k)
  | step k => rw [rearranged, idle]
  | _ => rfl

theorem line_of_drop (s : Session) (k : TaskId) (r : RegistrationId) :
    (s.apply (.drop k)).channel.line r =
      if (s.task? k).any isCall then (s.channel.line r).filter (· ≠ k) else s.channel.line r := by
  rw [apply_channel, rearranged]
  split
  · rw [Channel.line_leave]
    rfl
  · rfl

/-- In the lines stand after an event the tasks that say so. -/
theorem standing_apply {s : Session} (orderly : s.Orderly) (e : Event) (j : TaskId)
    (r : RegistrationId) : j ∈ (s.apply e).channel.line r ↔
      ((s.apply e).task? j).bind Task.place? = some r := by
  rw [place?_apply orderly.numbered]
  have before := orderly.standing j r
  cases acts : s.acting? e with
  | some a =>
    obtain ⟨k, t⟩ := a
    obtain ⟨-, there, -⟩ := acting?_eq_some.mp acts
    have place := place?_of_fate (s := s) (t := t)
      (fun r about => Channel.handler?_isSome.mpr (orderly.about k t r there about)) k (s.answer e)
    rw [line_of_acting orderly acts, survivor?_of_acting acts]
    unfold Channel.lineAfter
    by_cases own : j = k
    · subst own
      rw [there, Option.bind_some] at before
      rw [if_pos rfl, place]
      cases gets_in : target? (s.movement t) with
      | some r' =>
        -- The task has stood nowhere, so it stands in this line only if it gets in it now.
        rw [(target?_movement gets_in).1] at before
        by_cases same : r' = r
        · simp [same]
        · simp [same, before]
      | none =>
        cases moves : s.movement t with
        | leaves => simp
        | _ => exact before
    -- The other tasks of the line stay in it, in whichever way this one moves.
    · rw [if_neg own]
      rw [← before]
      split
      · split
        · simp [own]
        · rfl
      · split
        · simp [own]
        · rfl
  | none =>
    by_cases dropped : ∃ k, e = .drop k
    · obtain ⟨k, rfl⟩ := dropped
      rw [line_of_drop]
      simp only [survivor?, acts]
      by_cases call : (s.task? k).any isCall = true
      · by_cases own : j = k
        · simp [own, call]
        · simpa [own, call] using before
      · simpa [call] using before
    · have kept : ∀ k, e ≠ .drop k := fun k is => dropped ⟨k, is⟩
      rw [line_of_idle acts kept, survivor?_of_idle acts kept]
      exact before

theorem length_le_apply (s : Session) (e : Event) :
    s.channel.registrations.length ≤ (s.apply e).channel.registrations.length := by
  rw [length_apply]
  exact Nat.le_add_right _ _

theorem Orderly.apply {s : Session} (orderly : s.Orderly) (e : Event) : (s.apply e).Orderly where
  numbered := orderly.numbered.apply e
  known := by
    intro tag r found
    rcases registration?_apply_cases found with old | ⟨⟨queue, h, taken⟩, rfl⟩
    · exact Nat.lt_of_lt_of_le (orderly.known tag r old) (s.length_le_apply e)
    · rw [length_apply, taken]
      exact Nat.lt_succ_self _
  own_tag := by
    intro tag tag' r found found'
    -- An old registration is not the new one, and an event gives the new one only one tag.
    rcases registration?_apply_cases found with old | ⟨⟨queue, h, taken⟩, new⟩
    · rcases registration?_apply_cases found' with old' | ⟨-, new'⟩
      · exact orderly.own_tag tag tag' r old old'
      · exact absurd new' (Nat.ne_of_lt (orderly.known tag r old))
    · rcases registration?_apply_cases found' with old' | ⟨⟨queue', h', taken'⟩, -⟩
      · exact absurd new (Nat.ne_of_lt (orderly.known tag' r old'))
      · rw [taken] at taken'
        cases taken'
        rfl
  about := by
    intro j u r there about
    refine Nat.lt_of_lt_of_le ?_ (s.length_le_apply e)
    have by_tag : (∃ tag, s.channel.registration? tag = some r) →
        r < s.channel.registrations.length := fun ⟨tag, found⟩ => orderly.known tag r found
    rw [task?_apply orderly.numbered, Option.or_eq_some_iff] at there
    rcases there with old | ⟨-, new⟩
    · rcases survivor?_cases old with ⟨t, acts, left⟩ | before
      · rcases (turns_of_fate left).about? about with before | found
        · exact orderly.about j t r (acting?_eq_some.mp acts).2.1 before
        · exact by_tag found
      · exact orderly.about j u r before about
    · split at new
      · exact by_tag (about?_of_born new about)
      · cases new
  standing := standing_apply orderly e

theorem Orderly.run {s : Session} (orderly : s.Orderly) (es : List Event) : (s.run es).Orderly := by
  induction es generalizing s with
  | nil => exact orderly
  | cons e es ih => exact ih (orderly.apply e)

/-- **Order**: it holds wherever a run gets. -/
theorem orderly_run (confirms : Bool) (es : List Event) : ((initial confirms).run es).Orderly := by
  apply Orderly.run
  exact {
    numbered := fun k t there => by cases there
    known := fun tag r found => by cases found
    own_tag := fun tag tag' r found => by cases found
    about := fun k t r there => by cases there
    standing := fun k r => by simp [initial, task?, Channel.line] }

end Session
end Intake
