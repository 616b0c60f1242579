import Intake.Proofs.Session.Workload

/-!
# Schedules

Whatever the scheduler does is a run of steps of tasks and of moves of the clock, so that what holds
of every run holds of it (`settle_eq_run`, `awaits_await`, `joins_join`, `performs_perform`). The
bounds that it computes suffice: the turns of tasks lower the work that is left, so that no task can
run in the end (`settled_settle`), and time that moves on to the next deadline lets a task run again.
-/
namespace Intake.Session

/-! ### Runs of steps -/

/-- No task can run. -/
def Settled (s : Session) : Prop := ∀ k, s.canRun k = false

theorem step_of_waiting {s : Session} {k : TaskId} (waits : s.canRun k = false) : s.step k = s := by
  unfold step
  split
  · next t there =>
    rw [canRun, there, Option.any_some] at waits
    rw [waits]
    rfl
  · rfl

theorem Tabled.step {s : Session} (tabled : s.Tabled) (k : TaskId) : (s.step k).Tabled :=
  tabled.apply (.step k)

/-- Steps leave less work than there was, unless they do nothing. -/
theorem workload_steps {s : Session} (tabled : s.Tabled) (ks : List TaskId) :
    s.run (ks.map .step) = s ∨ (s.run (ks.map .step)).workload < s.workload := by
  induction ks generalizing s with
  | nil => exact .inl rfl
  | cons k ks ih =>
    rw [List.map_cons, run_cons, apply]
    cases able : s.canRun k with
    | false =>
      rw [step_of_waiting able]
      exact ih tabled
    | true =>
      have less := (workload_step tabled able).1
      rcases ih (tabled.step k) with same | fewer
      · rw [same]
        exact .inr less
      · exact .inr (Nat.lt_trans fewer less)

/-- A task is added only by a step that leaves less work. -/
theorem load_steps_le {s : Session} (tabled : s.Tabled) (ks : List TaskId) :
    (s.run (ks.map .step)).tasks.length + (s.run (ks.map .step)).workload ≤
      s.tasks.length + s.workload := by
  induction ks generalizing s with
  | nil => exact Nat.le_refl _
  | cons k ks ih =>
    rw [List.map_cons, run_cons, apply]
    refine Nat.le_trans (ih (tabled.step k)) ?_
    cases able : s.canRun k with
    | false => exact Nat.le_of_eq (by rw [step_of_waiting able])
    | true => exact (workload_step tabled able).2

theorem clock_steps (s : Session) (ks : List TaskId) : (s.run (ks.map .step)).clock = s.clock := by
  induction ks generalizing s with
  | nil => rfl
  | cons k ks ih => rw [List.map_cons, run_cons, ih, clock_apply]

/-! ### Turns and rounds -/

/-- A turn of a task is a run of its steps. -/
theorem turn_eq_run (fuel : Nat) (k : TaskId) (s : Session) :
    ∃ n, turn fuel k s = s.run ((List.replicate n k).map .step) := by
  induction fuel generalizing s with
  | zero => exact ⟨0, rfl⟩
  | succ fuel ih =>
    unfold turn
    split
    · obtain ⟨n, same⟩ := ih (s.step k)
      exact ⟨n + 1, same⟩
    · exact ⟨0, rfl⟩

theorem turn_of_waiting {s : Session} {k : TaskId} (waits : s.canRun k = false) (fuel : Nat) :
    turn fuel k s = s := by
  cases fuel with
  | zero => rfl
  | succ fuel => rw [turn, waits, if_neg Bool.false_ne_true]

/-- A turn ends with a task that has to wait. -/
theorem canRun_turn {fuel : Nat} {s : Session} (tabled : s.Tabled) {k : TaskId}
    (enough : s.workload ≤ fuel) : (turn fuel k s).canRun k = false := by
  induction fuel generalizing s with
  | zero =>
    cases able : s.canRun k with
    | false => exact able
    | true =>
      have less := (workload_step tabled able).1
      omega
  | succ fuel ih =>
    unfold turn
    split
    · next able =>
      have less := (workload_step tabled able).1
      exact ih (tabled.step k) (by omega)
    · next waits => exact Bool.eq_false_iff.mpr waits

/-- The turn of a task that can run leaves less work. -/
theorem workload_turn_lt {s : Session} (tabled : s.Tabled) {k : TaskId} (able : s.canRun k = true) :
    (turn s.workload k s).workload < s.workload := by
  obtain ⟨n, took⟩ := turn_eq_run s.workload k s
  rw [took]
  refine (workload_steps tabled _).resolve_left fun same => ?_
  have ended : (turn s.workload k s).canRun k = false := canRun_turn tabled (Nat.le_refl _)
  rw [took, same, able] at ended
  cases ended

theorem mem_runnable {s : Session} {k : TaskId} (able : s.canRun k = true) : k ∈ s.runnable := by
  obtain ⟨t, there, -⟩ := (Option.any_eq_true ..).mp able
  exact List.mem_filter.mpr ⟨List.mem_map.mpr ⟨(k, t), mem_tasks there, rfl⟩, able⟩

theorem length_runnable_le (s : Session) : s.runnable.length ≤ s.tasks.length :=
  Nat.le_trans (List.length_filter_le ..) (Nat.le_of_eq (List.length_map ..))

theorem serve_eq_run (fuel : Nat) (queue : List TaskId) (s : Session) :
    ∃ ks : List TaskId, serve fuel queue s = s.run (ks.map .step) := by
  induction fuel generalizing queue s with
  | zero => exact ⟨[], rfl⟩
  | succ fuel ih =>
    cases queue with
    | nil => exact ⟨[], rfl⟩
    | cons k queue =>
      obtain ⟨n, took⟩ := turn_eq_run s.workload k s
      obtain ⟨ks, served⟩ := ih (queue ++ (turn s.workload k s).runnable.filter
        (fun j => !queue.contains j)) (turn s.workload k s)
      refine ⟨List.replicate n k ++ ks, ?_⟩
      rw [serve, served, took, List.map_append, run_append]

/-- As long as whatever can run is in the queue, no task can run once the queue is empty. Every turn
of a task that cannot run shortens the queue, and every other one leaves less work. -/
theorem settled_serve {fuel bound : Nat} {queue : List TaskId} {s : Session} (tabled : s.Tabled)
    (few : s.tasks.length + s.workload ≤ bound)
    (listed : ∀ k, s.canRun k = true → k ∈ queue)
    (enough : queue.length + s.workload * bound ≤ fuel) : (serve fuel queue s).Settled := by
  induction fuel generalizing queue s with
  | zero =>
    intro k
    have empty : queue = [] := List.eq_nil_of_length_eq_zero (by omega)
    rw [serve, Bool.eq_false_iff]
    intro able
    have member := listed k able
    rw [empty] at member
    cases member
  | succ fuel ih =>
    cases queue with
    | nil =>
      intro k
      rw [serve, Bool.eq_false_iff]
      intro able
      cases listed k able
    | cons k queue =>
      rw [serve]
      obtain ⟨n, took⟩ := turn_eq_run s.workload k s
      have later : (turn s.workload k s).Tabled := took ▸ tabled.run _
      have load := load_steps_le tabled (List.replicate n k)
      rw [← took] at load
      apply ih later (Nat.le_trans load few)
      · intro j able
        rw [List.mem_append, List.mem_filter]
        by_cases waits : j ∈ queue
        · exact .inl waits
        · exact .inr ⟨mem_runnable able, by simpa using waits⟩
      · rw [List.length_append]
        rw [List.length_cons] at enough
        cases able : s.canRun k with
        | false =>
          -- Only the task that had its turn was missing from the rest, and it cannot run.
          have none_new : s.runnable.filter (fun j => !queue.contains j) = [] := by
            rw [List.filter_eq_nil_iff]
            intro j member
            have runs := (List.mem_filter.mp member).2
            have waits : j ∈ queue := by
              rcases List.mem_cons.mp (listed j runs) with rfl | waits
              · rw [able] at runs
                cases runs
              · exact waits
            simpa using waits
          rw [turn_of_waiting able, none_new, List.length_nil]
          omega
        | true =>
          have less := workload_turn_lt tabled able
          have added : ((turn s.workload k s).runnable.filter fun j => !queue.contains j).length ≤
              (turn s.workload k s).tasks.length :=
            Nat.le_trans (List.length_filter_le ..) (length_runnable_le _)
          have rounds := Nat.mul_le_mul_right bound less
          rw [Nat.succ_mul] at rounds
          omega

/-- To run all tasks until every one has to wait is to take some steps one after another. -/
theorem settle_eq_run (s : Session) : ∃ ks : List TaskId, s.settle = s.run (ks.map .step) :=
  serve_eq_run _ _ s

/-- **Settling**: all tasks are run until every one has to wait. -/
theorem settled_settle {s : Session} (tabled : s.Tabled) : s.settle.Settled := by
  refine settled_serve tabled (Nat.le_refl _) (fun k => mem_runnable) ?_
  have short := s.length_runnable_le
  rw [Nat.succ_mul, Nat.mul_succ, Nat.add_comm s.workload s.tasks.length]
  omega

theorem Tabled.settle {s : Session} (tabled : s.Tabled) : s.settle.Tabled := by
  obtain ⟨ks, same⟩ := s.settle_eq_run
  rw [same]
  exact tabled.run _

theorem workload_settle_le {s : Session} (tabled : s.Tabled) : s.settle.workload ≤ s.workload := by
  obtain ⟨ks, same⟩ := s.settle_eq_run
  rw [same]
  rcases workload_steps tabled ks with nothing | less
  · exact Nat.le_of_eq (congrArg workload nothing)
  · exact Nat.le_of_lt less

theorem workload_settle_lt {s : Session} (tabled : s.Tabled) {k : TaskId}
    (able : s.canRun k = true) : s.settle.workload < s.workload := by
  obtain ⟨ks, same⟩ := s.settle_eq_run
  have settled := settled_settle tabled k
  rw [same] at settled ⊢
  refine (workload_steps tabled ks).resolve_left fun nothing => ?_
  rw [nothing, able] at settled
  cases settled

/-! ### Time -/

/-- **Deadlines**: as time goes by, a task comes to have something to do at its deadline and at no
other moment. -/
theorem ready_at_iff (s : Session) (k : TaskId) (t : Task) {moment : Nat}
    (later : s.clock ≤ moment) : ({ s with clock := moment } : Session).ready k t = true ↔
      s.ready k t = true ∨ ∃ deadline, s.deadline? k t = some deadline ∧ deadline ≤ moment := by
  have lapses (deadline : Nat) : Receiver.expired deadline moment = true ↔
      Receiver.expired deadline s.clock = true ∨ deadline ≤ moment := by
    simp only [Receiver.expired, decide_eq_true_eq]
    omega
  cases t with
  | replay queue tag pending stage =>
    cases stage with
    | handling => simp [ready, deadline?, lapses]
    | _ => simp [ready, deadline?]
  | taking h =>
    have same : ({ s with clock := moment } : Session).receiver? h = s.receiver? h := rfl
    simp only [ready, deadline?, same]
    cases s.receiver? h with
    | none => simp
    | some r =>
      simp only [Option.any_some, Option.map_some, Receiver.canTake]
      cases r.takers with
      | nil => simp
      | cons taker others =>
        obtain ⟨call, patience⟩ := taker
        cases patience with
        | limited deadline => by_cases own : call = k <;> simp [own, lapses, or_assoc]
        | _ => simp
  | cancelling h =>
    have same : ({ s with clock := moment } : Session).receiver? h = s.receiver? h := rfl
    simp only [ready, deadline?, same]
    cases s.receiver? h with
    | none => simp
    | some r =>
      simp only [Option.any_some, Option.bind_some, Receiver.canResume]
      cases r.cancels.lookup k <;> simp [lapses, or_assoc]
  | watching | scanning => simp [ready, deadline?, lapses, isReleased, browser?, or_assoc]
  | handling | sleeping => simp [ready, deadline?, lapses]
  | _ => simp [ready, deadline?]

theorem clock_eq_pass {s : Session} {moment : Nat} (later : s.clock ≤ moment) :
    ({ s with clock := moment } : Session) = s.apply (.pass (moment - s.clock)) := by
  rw [apply, Nat.add_sub_cancel' later]

theorem deadline_of_next {s : Session} {moment : Nat} (next : s.nextDeadline? = some moment) :
    ∃ k t, (k, t) ∈ s.tasks ∧ s.deadline? k t = some moment := by
  obtain ⟨⟨k, t⟩, member, due⟩ := List.mem_filterMap.mp (List.min?_mem next)
  exact ⟨k, t, member, due⟩

theorem next_of_deadline {s : Session} {k : TaskId} {t : Task} {deadline : Nat}
    (member : (k, t) ∈ s.tasks) (due : s.deadline? k t = some deadline) :
    ∃ moment, s.nextDeadline? = some moment ∧ moment ≤ deadline := by
  have listed : deadline ∈ s.tasks.filterMap fun e => s.deadline? e.1 e.2 :=
    List.mem_filterMap.mpr ⟨(k, t), member, due⟩
  cases next : s.nextDeadline? with
  | none =>
    rw [nextDeadline?, List.min?_eq_none_iff] at next
    rw [next] at listed
    cases listed
  | some moment => exact ⟨moment, rfl, (List.min?_eq_some_iff.mp next).2 deadline listed⟩

/-- When no task can run, the next deadline is still to come, and then a task can run. -/
theorem due_at_next {s : Session} (tabled : s.Tabled) (settled : s.Settled) {moment : Nat}
    (next : s.nextDeadline? = some moment) :
    s.clock < moment ∧ ∃ k, ({ s with clock := moment } : Session).canRun k = true := by
  obtain ⟨k, t, member, due⟩ := deadline_of_next next
  have there := tabled.task?_of_mem member
  have waits := settled k
  rw [canRun, there, Option.any_some] at waits
  have later : s.clock < moment := by
    by_contra past
    have able := (s.ready_at_iff k t (Nat.le_refl _)).mpr
      (.inr ⟨moment, due, Nat.not_lt.mp past⟩)
    rw [waits] at able
    cases able
  refine ⟨later, k, ?_⟩
  have able := (s.ready_at_iff k t (Nat.le_of_lt later)).mpr (.inr ⟨moment, due, Nat.le_refl _⟩)
  exact (Option.any_eq_true ..).mpr ⟨t, there, able⟩

/-- Before the next deadline no task can run. -/
theorem settled_until {s : Session} (settled : s.Settled) {moment : Nat} (later : s.clock ≤ moment)
    (before : ∀ deadline, s.nextDeadline? = some deadline → moment < deadline) :
    ({ s with clock := moment } : Session).Settled := by
  intro k
  rw [Bool.eq_false_iff]
  intro able
  obtain ⟨t, there, ready⟩ := (Option.any_eq_true ..).mp able
  have waits := settled k
  have found : s.task? k = some t := there
  rw [canRun, found, Option.any_some] at waits
  rcases (s.ready_at_iff k t later).mp ready with now | ⟨deadline, due, past⟩
  · rw [waits] at now
    cases now
  · obtain ⟨first, next, le⟩ := next_of_deadline (mem_tasks found) due
    have ahead := before first next
    omega

/-! ### Waiting for a call -/

/-- What the scheduler does: it lets a task take a step, or lets time pass. -/
def Event.isScheduled : Event → Bool
  | .step _ => true
  | .pass _ => true
  | _ => false

def Scheduled (es : List Event) : Prop := ∀ e ∈ es, e.isScheduled = true

theorem scheduled_steps (ks : List TaskId) : Scheduled (ks.map .step) := by
  intro e member
  obtain ⟨k, -, rfl⟩ := List.mem_map.mp member
  rfl

/-- What comes of waiting for a call in a session up to a moment: a run of the scheduler up to that
moment at the latest, at the end of which the call has returned, or no task can run before that moment
is over. -/
structure Awaits (s : Session) (k : TaskId) (limit : Nat) (after : Session) : Prop where
  scheduled : ∃ es, Scheduled es ∧ after = s.run es
  in_time : after.clock ≤ limit
  ended : (after.finished? k).isSome = true ∨ after.Settled ∧
    ∀ deadline, after.nextDeadline? = some deadline → limit < deadline

/-- **Waiting**: every move of the clock lets a task run and so leaves less work, so that as many moves
as there is work are enough. -/
theorem awaits_await {fuel limit : Nat} {k : TaskId} {s : Session} (tabled : s.Tabled)
    (early : s.clock ≤ limit) (enough : s.settle.workload < fuel) :
    s.Awaits k limit (await fuel limit k s) := by
  induction fuel generalizing s with
  | zero => cases enough
  | succ fuel ih =>
    obtain ⟨ks, steps⟩ := s.settle_eq_run
    have settled := settled_settle tabled
    have tabled' := tabled.settle
    rw [await]
    generalize s.settle = u at steps settled tabled' enough ⊢
    have still : u.clock ≤ limit := by rw [steps, clock_steps]; exact early
    have ran : ∃ es, Scheduled es ∧ u = s.run es := ⟨_, scheduled_steps ks, steps⟩
    -- It ends here when the call has returned, or when nothing is due up to the limit.
    have waits (ahead : ∀ deadline, u.nextDeadline? = some deadline → limit < deadline) :
        s.Awaits k limit u := ⟨ran, still, .inr ⟨settled, ahead⟩⟩
    split
    · next returned => exact ⟨ran, still, .inl returned⟩
    · split
      · next moment next =>
        split
        · next soon =>
          obtain ⟨later, j, able⟩ := due_at_next tabled' settled next
          have passes := clock_eq_pass (Nat.le_of_lt later)
          have moved : ({ u with clock := moment } : Session).Tabled := passes ▸ tabled'.apply _
          have less := workload_settle_lt moved able
          rw [u.workload_at] at less
          obtain ⟨⟨es, scheduled, after⟩, in_time, ended⟩ := ih moved soon (by omega)
          refine ⟨⟨ks.map .step ++ .pass (moment - u.clock) :: es, ?_, ?_⟩, in_time, ended⟩
          · exact List.forall_mem_append.mpr
              ⟨scheduled_steps ks, List.forall_mem_cons.mpr ⟨rfl, scheduled⟩⟩
          · rw [after, run_append, run_cons, ← steps, ← passes]
        · next late =>
          refine waits fun deadline due => ?_
          rw [next] at due
          cases due
          exact Nat.not_le.mp late
      · next never =>
        refine waits fun deadline due => ?_
        rw [never] at due
        cases due

/-! ### Calls that are underway -/

/-- Only tasks of the channel end without an answer. -/
theorem isCall_of_ends {s : Session} {k : TaskId} {t : Task} {answer : Except TransportError Unit}
    (ends : s.fate k answer t = .ends) : isCall t = false := by
  cases t with
  | replay | confirm => rfl
  | start call =>
    cases call with
    | watch | sleep => cases ends
    | _ =>
      simp only [fate] at ends
      repeat' split at ends
      all_goals cases ends
  | taking h =>
    rcases s.fate_taking k answer h with met | ⟨a, met⟩ <;> rw [ends] at met <;> cases met
  | cancelling h =>
    rcases s.fate_cancelling k answer h with met | ⟨a, met⟩ <;> rw [ends] at met <;> cases met
  | watching | scanning =>
    simp only [fate] at ends
    split at ends <;> cases ends
  | dismiss | handling | sleeping => cases ends

theorem isCall_of_turns {s : Session} {t u : Task} (turns : s.Turns t u)
    (call : isCall t = true) : isCall u = true := by
  cases turns with
  | plain _ plain => cases u <;> first | rfl | cases plain
  | dismisses => rfl
  | _ => cases call

/-- A call has been answered, or there is a task that carries it out. -/
def Answerable (s : Session) (k : TaskId) : Prop :=
  (∃ f ∈ s.finished, f.task = k) ∨ (s.task? k).any isCall = true

theorem finished_subset {s : Session} {e : Event} (scheduled : e.isScheduled = true) :
    s.finished ⊆ (s.apply e).finished := by
  cases e with
  | step k =>
    rw [apply_step]
    cases s.acting? (.step k) with
    | none => exact List.Subset.refl _
    | some a =>
      simp only [outline_finished]
      exact List.subset_append_left ..
  | pass d => exact List.Subset.refl _
  | _ => cases scheduled

theorem Answerable.apply {s : Session} (numbered : s.Numbered) {e : Event}
    (scheduled : e.isScheduled = true) {k : TaskId} (answerable : s.Answerable k) :
    (s.apply e).Answerable k := by
  rcases answerable with ⟨f, answered, own⟩ | underway
  · exact .inl ⟨f, finished_subset scheduled answered, own⟩
  · obtain ⟨t, there, call⟩ := (Option.any_eq_true ..).mp underway
    by_cases acts : s.acting? e = some (k, t)
    · have left := task?_of_acting numbered acts
      cases met : s.fate k (s.answer e) t with
      | ends =>
        rw [isCall_of_ends met] at call
        cases call
      | returns a =>
        have returned : ⟨k, a, s.clock⟩ ∈ s.returned e := by
          rw [returned_of_acting acts, met]
          exact List.mem_cons_self
        exact .inl ⟨_, List.mem_of_mem_drop returned, rfl⟩
      | stays =>
        rw [met] at left
        exact .inr ((Option.any_eq_true ..).mpr ⟨t, left, call⟩)
      | becomes u =>
        have turns : s.Turns t u := turns_of_fate (by rw [met]; rfl)
        rw [met] at left
        exact .inr ((Option.any_eq_true ..).mpr ⟨u, left, isCall_of_turns turns call⟩)
    · refine .inr ((Option.any_eq_true ..).mpr ⟨t, task?_of_kept numbered there ?_ ?_, call⟩)
      · rintro - rfl
        cases scheduled
      · intro u other
        obtain ⟨-, found, -⟩ := acting?_eq_some.mp other
        rw [there] at found
        cases found
        exact acts other

theorem Answerable.run {s : Session} (tabled : s.Tabled) {k : TaskId} (answerable : s.Answerable k)
    {es : List Event} (scheduled : Scheduled es) : (s.run es).Answerable k := by
  induction es generalizing s with
  | nil => exact answerable
  | cons e es ih =>
    obtain ⟨first, rest⟩ := List.forall_mem_cons.mp scheduled
    exact ih (tabled.apply e) (answerable.apply tabled.numbered first) rest

theorem task?_call {s : Session} (numbered : s.Numbered) (c : Call) :
    (s.apply (.call c)).task? s.nextTask = some (.start c) := by
  have unused : s.task? s.nextTask = none := by
    rw [Option.eq_none_iff_forall_ne_some]
    intro t there
    exact Nat.lt_irrefl _ (numbered _ t there)
  rw [task?_apply numbered, survivor?_of_idle rfl (fun k same => by cases same), unused,
    Option.none_or, if_pos rfl, born?]

/-! ### Taking an answer -/

/-- What comes of waiting for a call and taking its answer: the answer, which is taken; or nothing,
when the longest wait is over and no task can run even then. -/
inductive Joins (s : Session) (k : TaskId) : Option Finished × Session → Prop
  | returned {es : List Event} {f : Finished} {after : Session} : Scheduled es →
    (s.run es).finished? k = some f → after = (s.run es).apply (.collect k) →
    Joins s k (some f, after)
  | overdue {es : List Event} {after : Session} : Scheduled es → after = s.run es →
    after.finished? k = none → after.Settled → after.clock = s.clock + longestWait →
    Joins s k (none, after)

/-- **Joining**: to wait for a call is a run of the scheduler, and nothing but the end of the longest
wait keeps it from an answer. -/
theorem joins_join {s : Session} (tabled : s.Tabled) (k : TaskId) :
    s.Joins k (s.join k) := by
  have enough : s.settle.workload < s.workload + 1 := Nat.lt_succ_of_le (workload_settle_le tabled)
  obtain ⟨⟨es, scheduled, after⟩, in_time, ended⟩ :=
    awaits_await (k := k) tabled (Nat.le_add_right _ longestWait) enough
  rw [join, after]
  rw [after] at in_time ended
  cases found : (s.run es).finished? k with
  | some f => exact .returned scheduled found rfl
  | none =>
    rw [found] at ended
    obtain ⟨settled, ahead⟩ := ended.resolve_left (by simp)
    have passes := clock_eq_pass in_time
    rw [← run_concat] at passes
    exact .overdue (List.forall_mem_append.mpr ⟨scheduled, List.forall_mem_singleton.mpr rfl⟩) passes
      found (settled_until settled in_time ahead) rfl

/-- What comes of a call: its answer, which is taken; or nothing, when the longest wait is over, and
then the call is given up. In the end the tasks that are left are run. -/
inductive Performs (s : Session) (call : Call) : Option Answer × Session → Prop
  | answered {es : List Event} {f : Finished} {ks : List TaskId} {after : Session} : Scheduled es →
    (s.run (.call call :: es)).finished? s.nextTask = some f →
    after = s.run (.call call :: es ++ .collect s.nextTask :: ks.map .step) →
    Performs s call (some f.answer, after)
  | givenUp {es : List Event} {ks : List TaskId} {after : Session} : Scheduled es →
    (s.run (.call call :: es)).finished? s.nextTask = none →
    (s.run (.call call :: es)).Settled →
    (s.run (.call call :: es)).clock = s.clock + longestWait →
    after = s.run (.call call :: es ++ .drop s.nextTask :: ks.map .step) →
    Performs s call (none, after)

/-- **Calls**: to make a call and wait for it is a run, and no task can run when it is over. -/
theorem performs_perform {s : Session} (tabled : s.Tabled) (call : Call) :
    s.Performs call (s.perform call) ∧ (s.perform call).2.Settled := by
  have tabled' := tabled.apply (.call call)
  have joins := joins_join tabled' s.nextTask
  generalize joined : (s.apply (.call call)).join s.nextTask = result at joins
  cases joins with
  | @returned es f u scheduled found taken =>
    have tabled_u : u.Tabled := taken ▸ (tabled'.run es).apply _
    obtain ⟨ks, steps⟩ := u.settle_eq_run
    have after : u.settle =
        s.run (.call call :: es ++ .collect s.nextTask :: ks.map .step) := by
      rw [steps, taken, List.cons_append, run_cons, run_append, run_cons]
    have performed : s.perform call = (some f.answer, u.settle) := by
      change (s.spawn (.start call)).join s.nextTask = (some f, u) at joined
      simp only [perform, start, joined]
    rw [performed]
    exact ⟨.answered scheduled found after, settled_settle tabled_u⟩
  | @overdue es u scheduled ran unanswered settled late =>
    have tabled_u : u.Tabled := ran ▸ tabled'.run es
    have underway : (u.task? s.nextTask).any isCall = true := by
      have answerable : (s.apply (.call call)).Answerable s.nextTask :=
        .inr (by rw [task?_call tabled.numbered]; rfl)
      rw [ran] at unanswered ⊢
      refine (answerable.run tabled' scheduled).resolve_left ?_
      rintro ⟨f, answered, own⟩
      exact absurd own (by simpa using List.find?_eq_none.mp unanswered f answered)
    have dropped : u.drop s.nextTask = u.apply (.drop s.nextTask) := (if_pos underway).symm
    have performed : s.perform call = (none, (u.apply (.drop s.nextTask)).settle) := by
      change (s.spawn (.start call)).join s.nextTask = (none, u) at joined
      simp only [perform, start, joined, dropped]
    rw [performed]
    obtain ⟨ks, steps⟩ := settle_eq_run (u.apply (.drop s.nextTask))
    have after : (u.apply (.drop s.nextTask)).settle =
        s.run (.call call :: es ++ .drop s.nextTask :: ks.map .step) := by
      rw [steps, ran, List.cons_append, run_cons, run_append, run_cons]
    exact ⟨.givenUp scheduled (ran ▸ unanswered) (ran ▸ settled) (ran ▸ late) after,
      settled_settle (tabled_u.apply _)⟩

end Intake.Session
