import Intake.Proofs.Session.Observations

/-!
# What a run does to its tasks

An event starts at most one task, which is given a number of its own, and lets at most one task
meet its fate. The main statement is `task?_apply`: every other task is what it was.
-/
namespace Intake.Session

/-! ### Tables -/

theorem lookup_filter_ne {α β : Type} [DecidableEq α] (entries : List (α × β)) (a b : α) :
    (entries.filter fun e => e.1 ≠ a).lookup b = if b = a then none else entries.lookup b := by
  induction entries with
  | nil => simp
  | cons e entries ih =>
    obtain ⟨c, v⟩ := e
    by_cases removed : c = a
    · rw [List.filter_cons_of_neg (by simp [removed]), ih]
      by_cases same : b = a
      · simp [same]
      · have other : (b == c) = false := by simpa [removed] using same
        simp [same, List.lookup_cons, other]
    · rw [List.filter_cons_of_pos (by simpa using removed), List.lookup_cons, List.lookup_cons, ih]
      by_cases found : b = c
      · simp [found, removed]
      · have other : (b == c) = false := by simpa using found
        simp [other]

theorem lookup_replace {α β : Type} [DecidableEq α] (entries : List (α × β)) (a b : α) (v : β) :
    (entries.map fun e => if e.1 = a then (a, v) else e).lookup b =
      if b = a then (entries.lookup a).map fun _ => v else entries.lookup b := by
  induction entries with
  | nil => simp
  | cons e entries ih =>
    obtain ⟨c, u⟩ := e
    by_cases replaced : c = a
    · by_cases found : b = a
      · simp [replaced, found]
      · have other : (b == a) = false := by simpa using found
        simpa [replaced, List.lookup_cons, other, found] using ih
    · have elsewhere : (a == c) = false := by simpa using Ne.symm replaced
      by_cases found : b = c
      · simp [found, replaced]
      · have other : (b == c) = false := by simpa using found
        simpa [replaced, List.lookup_cons, other, elsewhere] using ih

theorem task?_retire (s : Session) (k j : TaskId) :
    (s.retire k).task? j = if j = k then none else s.task? j := lookup_filter_ne s.tasks k j

theorem task?_setTask (s : Session) (k j : TaskId) (t : Task) :
    (s.setTask k t).task? j = if j = k then (s.task? k).map fun _ => t else s.task? j :=
  lookup_replace s.tasks k j t

/-! ### Tasks that start -/

/-- The task that a command starts once the channel has taken it. -/
def follower? (s : Session) : Command → Option Task
  | .consume queue tag _ => some (.replay queue tag (s.channel.messages queue) .next)
  | .cancel tag =>
    if s.channel.confirmsCancels then
      (s.channel.registration? tag).map fun r => .confirm r tag false
    else none
  | _ => none

def bornOf? (s : Session) (c : Option Command) : Option Task :=
  match (s.sendIfAny c).2 with
  | .ok () => c.bind s.follower?
  | .error _ => none

/-- The task that an event starts. -/
def born? (s : Session) : Event → Option Task
  | .call c => some (.start c)
  | e => s.bornOf? (s.command? e)

theorem send_spawns (s : Session) (c : Command) :
    (s.send c).1.tasks = s.tasks ++ (s.bornOf? c).toList.map (fun t => (s.nextTask, t)) ∧
      (s.send c).1.nextTask = s.nextTask + (s.bornOf? c).toList.length := by
  unfold bornOf?
  simp only [sendIfAny, Option.bind_some]
  unfold send
  split
  · simp
  · split
    · simp
    · next sent =>
      cases (Channel.takes_of_send sent).2 with
      | ack | nack => simp [follow, follower?]
      | confirms found confirms => simp [follow, follower?, spawn, found, confirms]
      | notes quiet => rcases quiet with unknown | silent <;> simp [follow, follower?, *]
      | registers free => simp [follow, follower?, spawn]

theorem sendIfAny_spawns (s : Session) (c : Option Command) :
    (s.sendIfAny c).1.tasks = s.tasks ++ (s.bornOf? c).toList.map (fun t => (s.nextTask, t)) ∧
      (s.sendIfAny c).1.nextTask = s.nextTask + (s.bornOf? c).toList.length := by
  cases c with
  | none => simp [sendIfAny, bornOf?]
  | some c => exact s.send_spawns c

theorem task?_sendIfAny (s : Session) (c : Option Command) (j : TaskId) :
    (s.sendIfAny c).1.task? j =
      (s.task? j).or (if j = s.nextTask then s.bornOf? c else none) := by
  rw [task?, (s.sendIfAny_spawns c).1, List.lookup_append, task?]
  congr 1
  cases s.bornOf? c with
  | none => simp
  | some t => by_cases new : j = s.nextTask <;> simp [new]

theorem bornOf?_enrol (s : Session) (t : Task) (c : Option Command) :
    (s.enrol t).bornOf? c = s.bornOf? c := by
  unfold bornOf?
  rw [enrol_answer]
  have same : (s.enrol t).follower? = s.follower? := by
    funext c
    simp only [follower?, enrol_channel]
  rw [same]

/-! ### What becomes of the tasks -/

/-- What is left of a task after its fate. -/
def Fate.task? (t : Task) : Fate → Option Task
  | .stays => some t
  | .becomes u => some u
  | .returns _ => none
  | .ends => none

/-- What is left after an event of a task that was there before. -/
def survivor? (s : Session) (e : Event) (j : TaskId) : Option Task :=
  match s.acting? e with
  | some (k, t) => if j = k then (s.fate k (s.answer e) t).task? t else s.task? j
  | none =>
    match e with
    | .drop k => if j = k ∧ (s.task? k).any isCall then none else s.task? j
    | _ => s.task? j

/-- The numbers of the tasks have all been given out. -/
def Numbered (s : Session) : Prop := ∀ k t, s.task? k = some t → k < s.nextTask

theorem task?_meet {s : Session} {k : TaskId} {t : Task} (there : s.task? k = some t) (f : Fate)
    (j : TaskId) : (s.meet k f).task? j = if j = k then f.task? t else s.task? j := by
  cases f with
  | stays =>
    by_cases same : j = k
    · simp [meet, same, Fate.task?, there]
    · simp [meet, same]
  | becomes u =>
    rw [meet, task?_setTask, there]
    rfl
  | returns a => exact s.task?_retire k j
  | ends => exact s.task?_retire k j

theorem move_tasks (s : Session) (k : TaskId) (m : Movement) :
    (s.move k m).tasks = s.tasks ∧ (s.move k m).nextTask = s.nextTask := by
  cases m <;> exact ⟨rfl, rfl⟩

theorem alterIfAny_tasks (s : Session) (x : Option (HandlerId × Happening)) :
    (s.alterIfAny x).tasks = s.tasks ∧ (s.alterIfAny x).nextTask = s.nextTask := by
  cases x <;> exact ⟨rfl, rfl⟩

theorem enrol_tasks (s : Session) (t : Task) :
    (s.enrol t).tasks = s.tasks ∧ (s.enrol t).nextTask = s.nextTask := by
  unfold enrol
  split
  · split <;> exact ⟨rfl, rfl⟩
  · exact ⟨rfl, rfl⟩

theorem task?_congr {s s' : Session} (same : s.tasks = s'.tasks) (j : TaskId) :
    s.task? j = s'.task? j := by
  rw [task?, task?, same]

theorem task?_outline {s : Session} (numbered : s.Numbered) {k : TaskId} {t : Task}
    (there : s.task? k = some t) (j : TaskId) :
    (s.outline k t).task? j =
      (if j = k then (s.fate k (s.sendIfAny (s.taskCommand? t)).2 t).task? t else s.task? j).or
        (if j = s.nextTask then s.bornOf? (s.taskCommand? t) else none) := by
  have before (i : TaskId) :
      (((((s.enrol t).sendIfAny (s.taskCommand? t)).1.alterIfAny
        (s.taskHappening? k ((s.enrol t).sendIfAny (s.taskCommand? t)).2 t)).move k
          (s.movement t)).task? i) =
        (s.task? i).or (if i = s.nextTask then s.bornOf? (s.taskCommand? t) else none) := by
    rw [task?_congr (move_tasks ..).1, task?_congr (alterIfAny_tasks ..).1, task?_sendIfAny,
      bornOf?_enrol, task?_congr (s.enrol_tasks t).1, (s.enrol_tasks t).2]
  -- Before the task meets its fate only the command has touched the table, and what it starts gets
  -- the next number, which is not that of the task.
  have old : k ≠ s.nextTask := Nat.ne_of_lt (numbered k t there)
  have still := before k
  rw [there, Option.some_or] at still
  rw [outline, task?_meet still, before, enrol_answer]
  by_cases same : j = k
  · simp [same, old]
  · simp [same]

theorem outline_nextTask (s : Session) (k : TaskId) (t : Task) :
    (s.outline k t).nextTask = s.nextTask + (s.bornOf? (s.taskCommand? t)).toList.length := by
  have meets (u : Session) (f : Fate) : (u.meet k f).nextTask = u.nextTask := by
    cases f <;> rfl
  rw [outline, meets, (move_tasks ..).2, (alterIfAny_tasks ..).2, (sendIfAny_spawns ..).2,
    bornOf?_enrol, (s.enrol_tasks t).2]

theorem born?_step (s : Session) (k : TaskId) : s.born? (.step k) =
    s.bornOf? ((s.acting? (.step k)).bind fun a => s.taskCommand? a.2) := rfl

theorem survivor?_of_acting {s : Session} {e : Event} {k : TaskId} {t : Task}
    (acts : s.acting? e = some (k, t)) (j : TaskId) : s.survivor? e j =
      if j = k then (s.fate k (s.answer e) t).task? t else s.task? j := by
  unfold survivor?
  rw [acts]

theorem survivor?_of_idle {s : Session} {e : Event} (idle : s.acting? e = none)
    (kept : ∀ k, e ≠ .drop k) (j : TaskId) : s.survivor? e j = s.task? j := by
  unfold survivor?
  rw [idle]
  cases e with
  | drop k => exact absurd rfl (kept k)
  | _ => rfl

theorem task?_drop (s : Session) (k j : TaskId) :
    (s.drop k).task? j = if j = k then none else s.task? j := lookup_filter_ne s.tasks k j

/-- **Tasks of a run**: after an event a task is what the event leaves of it, or it is the one that
the event starts. -/
theorem task?_apply {s : Session} (numbered : s.Numbered) (e : Event) (j : TaskId) :
    (s.apply e).task? j = (s.survivor? e j).or (if j = s.nextTask then s.born? e else none) := by
  have quiet (same : (s.apply e).tasks = s.tasks) (survives : s.survivor? e j = s.task? j)
      (none_born : s.born? e = none) : (s.apply e).task? j =
        (s.survivor? e j).or (if j = s.nextTask then s.born? e else none) := by
    rw [task?_congr same, survives, none_born]
    simp
  cases e with
  | step k =>
    cases acts : s.acting? (.step k) with
    | none =>
      refine quiet ?_ ?_ ?_
      · rw [apply_step, acts]
      · exact survivor?_of_idle acts nofun j
      · rw [born?_step, acts]
        rfl
    | some a =>
      obtain ⟨k', t⟩ := a
      obtain ⟨own, there, -⟩ := acting?_eq_some.mp acts
      cases own
      rw [survivor?_of_acting acts, apply_step, born?_step, acts, answer_of_acting acts]
      exact task?_outline numbered there j
  | command c => exact s.task?_sendIfAny (some c) j
  | cancelBrowser h =>
    rw [apply, cancelBrowser_eq]
    exact s.task?_sendIfAny _ j
  | call c =>
    -- A call is put at the end of the table under a number that nobody has.
    have spawned : (s.apply (.call c)).tasks = s.tasks ++ [(s.nextTask, .start c)] := rfl
    rw [task?, spawned, List.lookup_append]
    by_cases new : j = s.nextTask
    · simp [survivor?, acting?, born?, task?, new]
    · have other : (j == s.nextTask) = false := by simpa using new
      simp [survivor?, acting?, task?, new, List.lookup_cons, other]
  | drop k =>
    simp only [apply, giveUp, survivor?, acting?, born?, command?, bornOf?, sendIfAny,
      Option.bind_none]
    by_cases call : (s.task? k).any isCall = true
    · rw [if_pos call, task?_drop]
      by_cases same : j = k <;> simp [same, call]
    · rw [if_neg call]
      simp [call]
  | takeCollected h =>
    refine quiet ?_ rfl rfl
    rw [apply, takeCollected_eq]
    rfl
  | addReceiver queue tag converter selector config =>
    refine quiet ?_ rfl rfl
    simp only [apply, addReceiver]
    split <;> rfl
  | _ => exact quiet rfl rfl rfl

/-- What there is to know of a task after an event is known of what the event leaves of it, if it is
nothing that a task has that starts. -/
theorem bind_task?_apply {α : Type} {f : Task → Option α} {s : Session} (numbered : s.Numbered)
    {e : Event} (of_born : ∀ t, s.born? e = some t → f t = none) (j : TaskId) :
    ((s.apply e).task? j).bind f = (s.survivor? e j).bind f := by
  rw [task?_apply numbered]
  cases s.survivor? e j with
  | some t => rfl
  | none =>
    rw [Option.none_or]
    split
    · cases born : s.born? e with
      | none => rfl
      | some t => exact of_born t born
    · rfl

theorem nextTask_apply (s : Session) (e : Event) :
    (s.apply e).nextTask = s.nextTask + (s.born? e).toList.length := by
  cases e with
  | step k =>
    rw [apply_step, born?_step]
    cases acts : s.acting? (.step k) with
    | none => rfl
    | some a => exact s.outline_nextTask a.1 a.2
  | command c => exact (s.sendIfAny_spawns (some c)).2
  | cancelBrowser h =>
    rw [apply, cancelBrowser_eq]
    exact (s.sendIfAny_spawns _).2
  | drop k =>
    simp only [apply, giveUp]
    split <;> rfl
  | takeCollected h =>
    rw [apply, takeCollected_eq]
    rfl
  | addReceiver queue tag converter selector config =>
    simp only [apply, addReceiver]
    split <;> rfl
  | _ => rfl

/-- A task that survives an event has taken a step, or it is as it was. -/
theorem survivor?_cases {s : Session} {e : Event} {j : TaskId} {t : Task}
    (survives : s.survivor? e j = some t) :
    (∃ u, s.acting? e = some (j, u) ∧ (s.fate j (s.answer e) u).task? u = some t) ∨
      s.task? j = some t := by
  unfold survivor? at survives
  split at survives
  · next k u acts =>
    split at survives
    · next same =>
      subst same
      exact .inl ⟨u, acts, survives⟩
    · exact .inr survives
  · split at survives
    · split at survives
      · cases survives
      · exact .inr survives
    · exact .inr survives

theorem survivor?_isSome {s : Session} {e : Event} {j : TaskId} {t : Task}
    (survives : s.survivor? e j = some t) : ∃ u, s.task? j = some u := by
  rcases survivor?_cases survives with ⟨u, acts, -⟩ | there
  · exact ⟨u, (acting?_eq_some.mp acts).2.1⟩
  · exact ⟨t, there⟩

theorem Numbered.apply {s : Session} (numbered : s.Numbered) (e : Event) :
    (s.apply e).Numbered := by
  intro k t there
  rw [task?_apply numbered, Option.or_eq_some_iff] at there
  rw [nextTask_apply]
  rcases there with old | ⟨-, new⟩
  · obtain ⟨u, there⟩ := survivor?_isSome old
    exact Nat.lt_add_right _ (numbered k u there)
  · split at new
    · next same =>
      rw [new, same]
      exact Nat.lt_succ_self _
    · cases new

theorem task?_of_acting {s : Session} (numbered : s.Numbered) {e : Event} {k : TaskId} {t : Task}
    (acts : s.acting? e = some (k, t)) :
    (s.apply e).task? k = (s.fate k (s.answer e) t).task? t := by
  have old : k ≠ s.nextTask := Nat.ne_of_lt (numbered k t (acting?_eq_some.mp acts).2.1)
  rw [task?_apply numbered, survivor?_of_acting acts, if_pos rfl, if_neg old, Option.or_none]

/-- A task stays as it is until it takes a step or is given up. -/
theorem task?_of_kept {s : Session} (numbered : s.Numbered) {e : Event} {k : TaskId} {t : Task}
    (there : s.task? k = some t) (kept : isCall t = true → e ≠ .drop k)
    (waits : ∀ u, s.acting? e ≠ some (k, u)) : (s.apply e).task? k = some t := by
  have survives : s.survivor? e k = some t := by
    unfold survivor?
    split
    · next j u acts =>
      have other : k ≠ j := by
        rintro rfl
        exact waits u acts
      rw [if_neg other, there]
    · split
      · next j idle =>
        have not_dropped : ¬ (k = j ∧ (s.task? j).any isCall = true) := by
          rintro ⟨rfl, call⟩
          rw [there] at call
          exact kept call rfl
        rw [if_neg not_dropped, there]
      · exact there
  rw [task?_apply numbered, survives, Option.some_or]

/-- Only calls can be given up, so a task of the channel stays as it is until it takes a step. -/
theorem task?_of_waiting {s : Session} (numbered : s.Numbered) {e : Event} {k : TaskId} {t : Task}
    (there : s.task? k = some t) (no_call : isCall t = false)
    (waits : ∀ u, s.acting? e ≠ some (k, u)) : (s.apply e).task? k = some t :=
  task?_of_kept numbered there (fun call => by rw [no_call] at call; cases call) waits

theorem task?_of_gone {s : Session} (numbered : s.Numbered) (e : Event) {k : TaskId}
    (old : k < s.nextTask) (gone : s.task? k = none) : (s.apply e).task? k = none := by
  have lost : s.survivor? e k = none := by
    cases survives : s.survivor? e k with
    | none => rfl
    | some t =>
      obtain ⟨u, there⟩ := survivor?_isSome survives
      rw [gone] at there
      cases there
  rw [task?_apply numbered, lost, if_neg (Nat.ne_of_lt old)]
  rfl

end Intake.Session
