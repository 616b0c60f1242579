import Intake.Proofs.Browser.Requests
import Intake.Proofs.Channel.Contents
import Intake.Proofs.Receiver.Line
import Intake.Proofs.Session.Table

/-!
# Work that is left

A step of a task that can run leaves less work than there was (`workload_step`). What the step adds,
a task that the channel starts or a consumer that a scan makes for itself, is paid for by the task
that takes it, or by the consumer that sends its cancel.
-/
namespace Intake

/-! ### Work of consumers -/

/-- What a happening adds to the work of its consumer. -/
def Happening.arrivals : Happening → Nat
  | .receive .. => 1
  | _ => 0

namespace Receiver

/-- Who waits on has looked at the buffer. -/
theorem looked_of_patienceAt {now : Nat} {before after : Patience}
    (waits : patienceAt now before = some after) : after.isFresh = false := by
  unfold patienceAt at waits
  split at waits
  · cases waits
  · split at waits <;> cases waits
    rfl
  · cases waits
    rfl
  · split at waits <;> cases waits
    rfl
  · cases waits
    rfl

theorem newcomers_take_le (r : Receiver) (now : Nat) : (r.take now).1.newcomers ≤ r.newcomers := by
  cases first : r.takers with
  | nil => exact Nat.le_of_eq (by rw [take, first])
  | cons t others =>
    rw [newcomers, newcomers, first, List.countP_cons]
    rcases take_cases first now with ⟨-, -, -, rest, -⟩ | ⟨p, -, -, -, waits, rest⟩
    · rw [rest]
      exact Nat.le_add_right _ _
    · rw [rest, List.countP_cons, looked_of_patienceAt waits]
      exact Nat.le_add_right _ _

/-- A call that can look at the buffer and waits on has looked at it for the first time. -/
theorem newcomers_take_lt {r : Receiver} {call : TaskId} {now : Nat}
    (able : r.canTake call now = true) (stays : (r.take now).2 = none) :
    (r.take now).1.newcomers < r.newcomers := by
  obtain ⟨t, others, first, -⟩ := first_of_canTake able
  rcases take_cases first now with ⟨answer, returns, -⟩ | ⟨p, -, empty, going, waits, rest⟩
  · rw [stays] at returns
    cases returns
  · have lasts : r.state.isCancelled = false :=
      Bool.eq_false_iff.mpr fun c => going (isCancelled_iff.mp c)
    have fresh : t.patience.isFresh = true := by
      simp only [canTake, first, empty, lasts, Bool.and_eq_true] at able
      obtain ⟨-, due⟩ := able
      cases patience : t.patience with
      | fresh timeout => rfl
      | limited deadline =>
        -- It could look only because its time is over, and then it does not wait on.
        have past : expired deadline now = true := by simpa [patience] using due
        rw [patience, patienceAt, if_pos past] at waits
        cases waits
      | unlimited => simp [patience] at due
    rw [newcomers, newcomers, rest, first, List.countP_cons, List.countP_cons,
      looked_of_patienceAt waits, fresh]
    exact Nat.lt_succ_self _

theorem newcomers_react_le (r : Receiver) (x : Happening) :
    (r.react x).newcomers ≤ r.newcomers + x.arrivals := by
  rw [newcomers, react_takers]
  cases x with
  | receive call timeout => simp [newcomers, Happening.arrivals, Patience.isFresh]
  | take now => exact r.newcomers_take_le now
  | drop call => exact List.filter_sublist.countP_le
  | _ => exact Nat.le_refl _

end Receiver

namespace Session

/-- A change of one consumer changes the work of all by as much. -/
theorem consumersWork_modify_le {cs : List Consumer} {h : HandlerId} {f : Consumer → Consumer}
    {m n : Nat} (absent : cs[h]? = none → m ≤ n)
    (bound : ∀ c, cs[h]? = some c → consumerWork (f c) + m ≤ consumerWork c + n) :
    consumersWork (cs.modify h f) + m ≤ consumersWork cs + n := by
  induction cs generalizing h with
  | nil => simpa using absent rfl
  | cons c cs ih =>
    cases h with
    | zero =>
      have one := bound c rfl
      simp only [List.modify_zero_cons, consumersWork]
      omega
    | succ h =>
      have rest := ih (h := h) absent bound
      simp only [List.modify_succ_cons, consumersWork]
      omega

theorem consumersWork_concat (cs : List Consumer) (c : Consumer) :
    consumersWork (cs ++ [c]) = consumersWork cs + consumerWork c := by
  induction cs with
  | nil => exact Nat.add_comm _ _
  | cons d cs ih => rw [List.cons_append, consumersWork, consumersWork, ih, Nat.add_assoc]

/-! ### Work of commands -/

/-- A bound on the steps of the task that a command starts. -/
def commandWork (s : Session) : Option Command → Nat
  | some (.consume queue _ _) => 3 * s.channel.depth queue + 1
  | some (.cancel _) => 2
  | _ => 0

def workOf (s : Session) (t : Option Task) : Nat := (t.map s.taskWork).getD 0

theorem workOf_bornOf?_le (s : Session) (c : Option Command) :
    s.workOf (s.bornOf? c) ≤ s.commandWork c := by
  unfold bornOf?
  split
  · cases c with
    | none => exact Nat.le_refl _
    | some c =>
      cases c with
      | cancel tag =>
        rw [Option.bind_some, follower?]
        split
        · cases s.channel.registration? tag <;> simp [workOf, commandWork, taskWork]
        · exact Nat.zero_le _
      | _ => exact Nat.le_refl _
  · exact Nat.zero_le _

/-- What a task may add to the work of others with its next step. -/
def extraWork (s : Session) : Task → Nat
  | .start (.receive ..) => 1
  | .start (.cancel _) => 2
  | .start (.scan queue _ _) => 3 * s.channel.depth queue + 4
  | _ => 0

/-- Only a browsing consumer sends something at a delivery that starts a task. -/
theorem commandWork_handlerCommand? {s : Session} {h : HandlerId} (no_browser : s.browser? h = none)
    (d : Delivery) : s.commandWork (s.handlerCommand? h d) = 0 := by
  unfold handlerCommand?
  cases there : s.consumers[h]? with
  | none => rfl
  | some c =>
    cases c with
    | receiver r =>
      simp only [Receiver.settlement?]
      split <;> rfl
    | browser b =>
      rw [browser?_eq_some.mpr there] at no_browser
      cases no_browser
    | recorder r => rfl

/-- For any other consumer the task itself pays for what it sends, and for a call that gets in
line. -/
theorem commandWork_taskCommand?_le {s : Session} {h : HandlerId} (no_browser : s.browser? h = none)
    {k : TaskId} {t : Task} {x : Happening} {answer : Except TransportError Unit}
    (does : s.taskHappening? k answer t = some (h, x)) :
    s.commandWork (s.taskCommand? t) + x.arrivals ≤ s.extraWork t := by
  cases affects_of_does does with
  | delivers => exact Nat.le_of_eq (commandWork_handlerCommand? no_browser _)
  | hands handler =>
    rw [taskCommand?, handler]
    exact Nat.le_of_eq (commandWork_handlerCommand? no_browser _)
  | cancels =>
    rw [taskCommand?]
    cases s.receiver? h with
    | none => exact Nat.zero_le _
    | some r =>
      rw [Option.bind_some, Receiver.cancellation?]
      split
      · exact Nat.zero_le _
      · exact Nat.le_refl _
  | scanned =>
    rw [taskCommand?, no_browser]
    exact Nat.le_refl _
  | _ => exact Nat.le_refl _

/-- A browsing consumer pays for its cancel itself. -/
theorem consumerWork_browser_le (s : Session) (b : Browser) (x : Happening) :
    consumerWork (.browser (b.react x)) + s.commandWork (b.request? x) ≤
      consumerWork (.browser b) := by
  rcases b.request?_cases x with ⟨nothing, same⟩ | ⟨sends, before, issued⟩
  · simp [nothing, consumerWork, same, commandWork]
  · simp [sends, consumerWork, before, issued, commandWork]

theorem consumerWork_react_le {s : Session} {h : HandlerId} {c : Consumer}
    (there : s.consumers[h]? = some c) {k : TaskId} {t : Task} {x : Happening}
    {answer : Except TransportError Unit} (does : s.taskHappening? k answer t = some (h, x)) :
    consumerWork (c.react x) + s.commandWork (s.taskCommand? t) ≤
      consumerWork c + s.extraWork t := by
  cases c with
  | receiver r =>
    have sent := commandWork_taskCommand?_le
      (browser?_of_receiver (receiver?_eq_some.mpr there)) does
    have waits := r.newcomers_react_le x
    simp only [Consumer.react, consumerWork]
    omega
  | browser b =>
    rw [taskCommand?_of_browser (browser?_eq_some.mpr there) does]
    exact Nat.le_trans (s.consumerWork_browser_le b x) (Nat.le_add_right _ _)
  | recorder r =>
    have sent := commandWork_taskCommand?_le (by rw [browser?, there]) does
    simp only [Consumer.react, consumerWork]
    omega

/-- The consumer that a scan makes and the replay that it starts are paid for by the scan. -/
theorem consumersWork_enrol_le {s : Session} {k : TaskId} {t : Task}
    {answer : Except TransportError Unit} (idle : s.taskHappening? k answer t = none) :
    consumersWork (s.enrol t).consumers + s.commandWork (s.taskCommand? t) ≤
      consumersWork s.consumers + s.extraWork t := by
  cases t with
  | start call =>
    cases call with
    | scan queue converter request =>
      simp only [enrol, taskCommand?]
      split
      · exact Nat.le_add_right _ _
      · have new : consumerWork (.browser
            (.create s.freshTag converter request.expected.toNat request.selector)) = 3 := rfl
        simp only [addConsumer, consumersWork_concat, commandWork, extraWork]
        omega
    | deliver | receive | cancel => cases idle
    | _ => exact Nat.le_refl _
  | replay queue tag pending stage =>
    cases stage with
    | queued r d =>
      have gone : s.channel.handler? r = none := Option.map_eq_none_iff.mp idle
      rw [taskCommand?, gone]
      exact Nat.le_refl _
    | _ => exact Nat.le_refl _
  | scanning h deadline => cases idle
  | _ => exact Nat.le_refl _

theorem enrol_of_does {s : Session} {k : TaskId} {t : Task} {h : HandlerId} {x : Happening}
    {answer : Except TransportError Unit} (does : s.taskHappening? k answer t = some (h, x)) :
    s.enrol t = s := by
  cases affects_of_does does <;> rfl

/-- With a step the work of the consumers and of the task that is started grows by no more than what
the task may add. -/
theorem consumersWork_outline_le (s : Session) (k : TaskId) (t : Task)
    (answer : Except TransportError Unit) :
    consumersWork ((s.enrol t).alterIfAny (s.taskHappening? k answer t)).consumers +
      s.commandWork (s.taskCommand? t) ≤ consumersWork s.consumers + s.extraWork t := by
  cases does : s.taskHappening? k answer t with
  | none => exact consumersWork_enrol_le does
  | some y =>
    obtain ⟨h, x⟩ := y
    rw [enrol_of_does does]
    refine consumersWork_modify_le (fun absent => ?_)
      (fun c there => consumerWork_react_le there does)
    have sent := commandWork_taskCommand?_le (by rw [browser?, absent]) does
    omega

/-! ### Work of tasks -/

theorem extraWork_lt (s : Session) (t : Task) : s.extraWork t < s.taskWork t := by
  cases t with
  | start call =>
    cases call <;> simp only [extraWork, taskWork, callWork] <;> omega
  | replay queue tag pending stage =>
    cases stage <;> simp only [extraWork, taskWork, replayWork] <;> omega
  | confirm r tag queued => cases queued <;> exact Nat.succ_pos _
  | _ => exact Nat.succ_pos _

/-- A wait for a message goes on as it is, or it returns. -/
theorem fate_taking (s : Session) (k : TaskId) (answer : Except TransportError Unit)
    (h : HandlerId) : s.fate k answer (.taking h) = .stays ∨
      ∃ a, s.fate k answer (.taking h) = .returns a := by
  simp only [fate]
  split
  · next r there =>
    cases (r.take s.clock).2 with
    | none => exact .inl rfl
    | some m => exact .inr ⟨_, rfl⟩
  · exact .inl rfl

theorem fate_cancelling (s : Session) (k : TaskId) (answer : Except TransportError Unit)
    (h : HandlerId) : s.fate k answer (.cancelling h) = .stays ∨
      ∃ a, s.fate k answer (.cancelling h) = .returns a := by
  simp only [fate]
  split
  · exact .inr ⟨_, rfl⟩
  · exact .inl rfl

/-- A step that leaves a task that can run as it was is a look at an empty buffer. -/
theorem look_of_stays {s : Session} {k : TaskId} {t : Task} {answer : Except TransportError Unit}
    (able : s.ready k t = true) (stays : s.fate k answer t = .stays) :
    ∃ h r, t = .taking h ∧ s.receiver? h = some r ∧ r.canTake k s.clock = true ∧
      (r.take s.clock).2 = none := by
  have left : (s.fate k answer t).task? t = some t := by rw [stays]; rfl
  cases turns_of_fate left with
  | plain plain _ =>
    cases follows_of_fate left plain with
    | @taking h =>
      obtain ⟨r, there, can⟩ := (Option.any_eq_true ..).mp able
      simp only [fate, there] at stays
      cases look : (r.take s.clock).2 with
      | none => exact ⟨h, r, rfl, there, can, look⟩
      | some answer => rw [look] at stays; cases stays
    | @cancelling h =>
      obtain ⟨r, there, -⟩ := (Option.any_eq_true ..).mp able
      simp only [fate, there] at stays
      cases stays

/-- What a task becomes, and what it adds, is less work than it was. -/
theorem taskWork_becomes_lt {s : Session} {k : TaskId} {t u : Task}
    {answer : Except TransportError Unit} (becomes : s.fate k answer t = .becomes u) :
    s.taskWork u + s.extraWork t < s.taskWork t := by
  have left : (s.fate k answer t).task? t = some u := by rw [becomes]; rfl
  cases turns_of_fate left with
  | plain plain _ =>
    cases follows_of_fate left plain with
    | @taking h =>
      rcases s.fate_taking k answer h with met | ⟨a, met⟩ <;> rw [becomes] at met <;> cases met
    | @cancelling h =>
      rcases s.fate_cancelling k answer h with met | ⟨a, met⟩ <;> rw [becomes] at met <;> cases met
    | _ => simp only [taskWork, extraWork, callWork]; omega
  | dismisses => simp only [taskWork, extraWork, callWork]; omega
  | queues => simp [taskWork, extraWork]
  | _ => simp only [taskWork, extraWork, replayWork, List.length_cons]; omega

/-- What is left of a task, and what it adds, is less work than there was. -/
theorem workOf_fate_lt {s : Session} {k : TaskId} {t : Task} {answer : Except TransportError Unit}
    (changes : s.fate k answer t ≠ .stays) :
    s.workOf ((s.fate k answer t).task? t) + s.extraWork t < s.taskWork t := by
  cases met : s.fate k answer t with
  | stays => exact absurd met changes
  | becomes u => exact taskWork_becomes_lt met
  | returns | ends =>
    have less := s.extraWork_lt t
    simp only [Fate.task?, workOf]
    simpa using less

theorem tasksWork_congr {s s' : Session} (same : ∀ t, s.taskWork t = s'.taskWork t)
    (es : List (TaskId × Task)) : s.tasksWork es = s'.tasksWork es := by
  induction es with
  | nil => rfl
  | cons e es ih => rw [tasksWork, tasksWork, ih, same]

theorem tasksWork_append (s : Session) (es fs : List (TaskId × Task)) :
    s.tasksWork (es ++ fs) = s.tasksWork es + s.tasksWork fs := by
  induction es with
  | nil => exact (Nat.zero_add _).symm
  | cons e es ih => rw [List.cons_append, tasksWork, tasksWork, ih, Nat.add_assoc]

theorem tasksWork_toList (s : Session) (k : TaskId) (t : Option Task) :
    s.tasksWork (t.toList.map fun u => (k, u)) = s.workOf t := by
  cases t <;> rfl

/-! ### Steps -/

/-- In the table a step puts what it leaves of the task in the place of the task, and adds what it
starts. -/
theorem tasksWork_outline {s : Session} (tabled : s.Tabled) {k : TaskId} {t : Task}
    (there : s.task? k = some t) :
    s.tasksWork (s.outline k t).tasks + s.taskWork t =
        s.tasksWork s.tasks + s.workOf (s.bornOf? (s.taskCommand? t)) +
          s.workOf ((s.fate k (s.sendIfAny (s.taskCommand? t)).2 t).task? t) ∧
      (s.outline k t).tasks.length ≤ s.tasks.length + 1 := by
  obtain ⟨u, met, started⟩ := s.outline_eq_meet k t
  have distinct : (u.tasks.map Prod.fst).Nodup := by
    rw [started, List.map_append, List.map_map]
    exact tabled.nodup_start _
  have listed : u.task? k = some t := by
    rw [task?, started, List.lookup_append, ← task?, there, Option.some_or]
  obtain ⟨before, after, split, left⟩ :=
    tasks_meet distinct listed (s.fate k (s.sendIfAny (s.taskCommand? t)).2 t)
  rw [← met] at left
  constructor
  · have before_step := congrArg s.tasksWork (started.symm.trans split)
    have after_step := congrArg s.tasksWork left
    simp only [tasksWork_append, tasksWork_toList] at before_step after_step
    have place : s.tasksWork ((k, t) :: after) = s.taskWork t + s.tasksWork after := rfl
    omega
  · have before_step := congrArg List.length (started.symm.trans split)
    have after_step := congrArg List.length left
    simp only [List.length_append, List.length_cons, List.length_map] at before_step after_step
    have one (o : Option Task) : o.toList.length ≤ 1 := by cases o <;> simp
    have born := one (s.bornOf? (s.taskCommand? t))
    have kept := one ((s.fate k (s.sendIfAny (s.taskCommand? t)).2 t).task? t)
    omega

theorem outline_consumers (s : Session) (k : TaskId) (t : Task) :
    (s.outline k t).consumers = ((s.enrol t).alterIfAny
      (s.taskHappening? k (s.sendIfAny (s.taskCommand? t)).2 t)).consumers := by
  rw [outline, meet_consumers, move_consumers, enrol_answer]
  cases s.taskHappening? k (s.sendIfAny (s.taskCommand? t)).2 t with
  | none => exact sendIfAny_consumers ..
  | some y => simp only [alterIfAny, alter, sendIfAny_consumers]

/-- A call that looks at the buffer and waits on is work that is done. -/
theorem consumersWork_look_lt {s : Session} {h : HandlerId} {r : Receiver} {k : TaskId}
    (known : s.receiver? h = some r) (able : r.canTake k s.clock = true)
    (stays : (r.take s.clock).2 = none) :
    consumersWork (s.alter h (.take s.clock)).consumers < consumersWork s.consumers := by
  have there := receiver?_eq_some.mp known
  refine consumersWork_modify_le (m := 1) (n := 0) (fun absent => ?_) (fun c found => ?_)
  · rw [there] at absent
    cases absent
  · rw [there] at found
    cases found
    exact Receiver.newcomers_take_lt able stays

/-- No step changes what a task has to do, since no step publishes anything. -/
theorem taskWork_step (s : Session) (k : TaskId) (t : Task) :
    (s.step k).taskWork t = s.taskWork t := by
  have kept (queue : QueueName) : (s.step k).channel.depth queue = s.channel.depth queue := by
    have same := s.messages_apply (.step k) queue
    rw [Channel.depth, Channel.depth]
    exact congrArg List.length (same.trans (List.append_nil _))
  cases t with
  | start call => cases call <;> simp only [taskWork, callWork, kept]
  | _ => rfl

/-- Time takes no work away and adds none. -/
theorem workload_at (s : Session) (moment : Nat) :
    ({ s with clock := moment } : Session).workload = s.workload :=
  congrArg (· + consumersWork s.consumers) (tasksWork_congr (fun t => by cases t <;> rfl) s.tasks)

/-- **Progress**: a step of a task that can run leaves less work than there was. -/
theorem workload_step {s : Session} (tabled : s.Tabled) {k : TaskId} (able : s.canRun k = true) :
    (s.step k).workload < s.workload ∧
      (s.step k).tasks.length + (s.step k).workload ≤ s.tasks.length + s.workload := by
  obtain ⟨t, there, ready⟩ := (Option.any_eq_true ..).mp able
  have steps : s.step k = s.outline k t := by
    rw [step, there]
    simp only [ready, if_true, proceed_eq]
  have after : (s.step k).workload =
      s.tasksWork (s.outline k t).tasks + consumersWork (s.outline k t).consumers := by
    rw [workload, tasksWork_congr (s.taskWork_step k), steps]
  have before : s.workload = s.tasksWork s.tasks + consumersWork s.consumers := rfl
  obtain ⟨tasks, length⟩ := tasksWork_outline tabled there
  have born := s.workOf_bornOf?_le (s.taskCommand? t)
  have consumers := s.consumersWork_outline_le k t (s.sendIfAny (s.taskCommand? t)).2
  rw [← outline_consumers] at consumers
  suffices less : (s.step k).workload < s.workload by
    rw [steps] at less ⊢
    omega
  by_cases stays : s.fate k (s.sendIfAny (s.taskCommand? t)).2 t = .stays
  · -- A look at an empty buffer: the task is what it was, but its call is no newcomer any more.
    obtain ⟨h, r, rfl, known, can, looks⟩ := look_of_stays ready stays
    have less := consumersWork_look_lt known can looks
    have looked := s.outline_consumers k (.taking h)
    have kept : s.workOf (Fate.stays.task? (.taking h)) = s.taskWork (.taking h) := rfl
    have quiet : s.workOf (s.bornOf? (s.taskCommand? (.taking h))) = 0 := rfl
    rw [stays] at tasks
    simp only [enrol, taskHappening?, alterIfAny] at looked
    rw [looked] at after
    omega
  · have left := workOf_fate_lt stays
    omega

end Session
end Intake
