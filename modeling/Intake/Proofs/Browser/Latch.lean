import Intake.Proofs.Browser.Completion
import Intake.Proofs.Session.Lines
import Mathlib.Data.List.Induction

/-!
# Waits for a browsing consumer

A call that watches a browsing consumer, and a scan for its own, wait for the latch of the consumer
up to a deadline, which is set when the wait begins. The main statement is `latch_truthful`: the
latch tells the truth wherever a run gets, it stays released, and so what a wait reports when it is
over is how it has ended.
-/
namespace Intake

/-- Whether a task is a call that has yet to begin. -/
def Task.isStart : Task → Bool
  | .start _ => true
  | _ => false

namespace Browser

theorem keep_released {b : Browser} (released : b.released = true) (d : Delivery) :
    (b.keep d).released = true := by
  unfold keep
  cases b.verdict d with
  | collected m => simp [released]
  | _ => exact released

theorem cancel_released {b : Browser} (released : b.released = true)
    (answer : Except TransportError Unit) : (b.cancel answer).1.released = true := by
  unfold cancel
  split
  · exact released
  · cases answer with
    | error e => rfl
    | ok u => exact released

/-- Nothing takes a release back. -/
theorem react_released {b : Browser} (released : b.released = true) (x : Happening) :
    (b.react x).released = true := by
  cases x with
  | delivery d now answer =>
    rw [react, deliver_eq]
    split
    · exact cancel_released (keep_released released d) answer
    · exact keep_released released d
  | cancelOk | cancelledByBroker => rfl
  | endBrowsing answer => exact cancel_released released answer
  | endScan answer =>
    rw [react]
    split
    · exact cancel_released released answer
    · exact released
  | _ => exact released

theorem live_released {b : Browser} (released : b.released = true) (life : List Happening) :
    (b.live life).released = true :=
  keeps_live (P := (·.released = true)) (fun _ x kept => react_released kept x) released life

end Browser

namespace Session

/-- A browsing consumer that is there stays there, and so does the release of its latch. -/
theorem released_from_then_on {s : Session} {h : HandlerId} {b : Browser}
    (there : s.browser? h = some b) (released : b.released = true) (es : List Event) :
    ∃ b', (s.run es).browser? h = some b' ∧ b'.released = true :=
  ⟨_, (found_run (·.browser? h) (fun _ e _ => browser?_apply (h := h) e) es there).1,
    Browser.live_released released _⟩

/-! ### Waits and their deadlines -/

/-- The browsing consumer that a task waits for, and the deadline of the wait. -/
def awaits? : Task → Option (HandlerId × Nat)
  | .watching h deadline => some (h, deadline)
  | .scanning h deadline => some (h, deadline)
  | _ => none

/-- The browsing consumer that a call is going to wait for, and its timeout. -/
def awaiting? (s : Session) : Task → Option (HandlerId × Duration)
  | .start (.watch h timeout) => some (h, timeout)
  | .start (.scan _ _ request) =>
    if request.expected = 0 then none else some (s.consumers.length, request.timeout)
  | _ => none

/-- What a step leaves of a task is no call that has yet to begin; and if it waits for a browsing
consumer, it is a watch or a scan that begins. -/
theorem left_of_fate {s : Session} {k : TaskId} {t u : Task} {answer : Except TransportError Unit}
    (left : (s.fate k answer t).task? t = some u) :
    u.isStart = false ∧ ∀ h deadline, awaits? u = some (h, deadline) →
      (∃ timeout, t = .start (.watch h timeout) ∧ u = .watching h deadline ∧
        deadline = s.clock + timeout) ∨
      ∃ queue converter request, t = .start (.scan queue converter request) ∧
        request.expected ≠ 0 ∧ h = s.consumers.length ∧ deadline = s.clock + request.timeout := by
  cases turns_of_fate left with
  | plain plain _ =>
    cases follows_of_fate left plain with
    | watches =>
      refine ⟨rfl, fun _ _ waits => ?_⟩
      cases waits
      exact .inl ⟨_, rfl, rfl, rfl⟩
    | scans some_wanted =>
      refine ⟨rfl, fun _ _ waits => ?_⟩
      cases waits
      exact .inr ⟨_, _, _, rfl, some_wanted, rfl, rfl⟩
    | _ => exact ⟨rfl, fun _ _ no => by cases no⟩
  | _ => exact ⟨rfl, fun _ _ no => by cases no⟩

/-- The wait of a task that waits after a step begins with the step. -/
theorem awaits_of_fate {s : Session} {k : TaskId} {t u : Task} {answer : Except TransportError Unit}
    {h : HandlerId} {deadline : Nat} (left : (s.fate k answer t).task? t = some u)
    (waits : awaits? u = some (h, deadline)) :
    ∃ timeout, s.awaiting? t = some (h, timeout) ∧ deadline = s.clock + timeout := by
  rcases (left_of_fate left).2 h deadline waits with ⟨timeout, rfl, -, set⟩ |
    ⟨queue, converter, request, rfl, some_wanted, rfl, set⟩
  · exact ⟨timeout, rfl, set⟩
  · exact ⟨request.timeout, if_neg some_wanted, set⟩

/-- No task is there from the beginning of its wait. -/
theorem awaits_of_born {s : Session} {e : Event} {t : Task} (born : s.born? e = some t) :
    awaits? t = none := by
  rcases born?_cases born with ⟨c, -, rfl⟩ | ⟨queue, tag, h, -, rfl⟩ | ⟨tag, r, -, -, rfl⟩ <;> rfl

/-- At an event the wait of a call for a browsing consumer begins. -/
def WaitBegins (s : Session) (e : Event) (k : TaskId) (h : HandlerId) (timeout : Duration) : Prop :=
  ∃ t, s.acting? e = some (k, t) ∧ s.awaiting? t = some (h, timeout)

/-- Every wait has begun at some event of the run, and its deadline is that moment and its timeout. -/
theorem wait_begun (confirms : Bool) (es : List Event) {k : TaskId} {t : Task} {h : HandlerId}
    {deadline : Nat} (there : ((initial confirms).run es).task? k = some t)
    (waits : awaits? t = some (h, deadline)) :
    ∃ before start after timeout, es = before ++ start :: after ∧
      WaitBegins ((initial confirms).run before) start k h timeout ∧
      deadline = ((initial confirms).run before).clock + timeout := by
  induction es using List.reverseRecOn generalizing t with
  | nil => cases there
  | append_singleton es e ih =>
    rw [run_concat, task?_apply (orderly_run confirms es).numbered, Option.or_eq_some_iff] at there
    rcases there with old | ⟨-, new⟩
    · rcases survivor?_cases old with ⟨u, acts, left⟩ | found
      · obtain ⟨timeout, begins, set⟩ := awaits_of_fate left waits
        exact ⟨es, e, [], timeout, rfl, ⟨u, acts, begins⟩, set⟩
      · -- A wait that has begun earlier in the run has also begun in the longer one.
        obtain ⟨before, start, after, timeout, split, begins⟩ := ih found waits
        exact ⟨before, start, after ++ [e], timeout, by rw [split]; simp, begins⟩
    · split at new
      · rw [awaits_of_born new] at waits
        cases waits
      · cases new

/-! ### What a wait reports -/

/-- The outcome of a wait that an answer reports. -/
def outcome? : Answer → Option ScanOutcome
  | .watched outcome => some outcome
  | .scanned outcome _ => some outcome
  | _ => none

/-- The waits for a browsing consumer that end at an event, and what they report. -/
def waited (h : HandlerId) (s : Session) (e : Event) : List (TaskId × ScanOutcome) :=
  if (s.acting? e).any (fun a => (awaits? a.2).any (·.1 == h)) then
    (s.returned e).filterMap fun f => (outcome? f.answer).map fun outcome => (f.task, outcome)
  else []

/-- A wait that takes a step is over, and it reports how it has ended. -/
theorem waited_of_acting {s : Session} {h : HandlerId} {e : Event} {b : Browser} {k : TaskId}
    {t : Task} {deadline : Nat} (there : s.browser? h = some b)
    (acts : s.acting? e = some (k, t)) (waits : awaits? t = some (h, deadline)) :
    waited h s e = [(k, b.outcome)] := by
  unfold waited
  rw [acts, Option.any_some, waits, Option.any_some, if_pos (beq_self_eq_true h),
    returned_of_acting acts]
  unfold awaits? at waits
  split at waits
  · cases waits
    simp only [fate, there]
    rfl
  · cases waits
    simp only [fate, there]
    rfl
  · cases waits

/-- Every report is that of a wait that takes a step. -/
theorem mem_waited {s : Session} {h : HandlerId} {e : Event} {b : Browser} {k : TaskId}
    {outcome : ScanOutcome} (there : s.browser? h = some b) (ends : (k, outcome) ∈ waited h s e) :
    outcome = b.outcome ∧
      ∃ t deadline, s.acting? e = some (k, t) ∧ awaits? t = some (h, deadline) := by
  have own : (s.acting? e).any (fun a => (awaits? a.2).any (·.1 == h)) = true := by
    by_contra no
    rw [waited, if_neg no] at ends
    cases ends
  simp only [Option.any_eq_true] at own
  obtain ⟨⟨j, t⟩, acts, ⟨h', deadline⟩, waits, same⟩ := own
  cases eq_of_beq same
  rw [waited_of_acting there acts waits, List.mem_singleton] at ends
  cases ends
  exact ⟨rfl, t, deadline, acts, waits⟩

/-- What the outcome of a wait for a browsing consumer tells of the run before the wait ends: all
messages asked for have been collected; or the consumer has ended while some were missing; or some
were missing and the consumer went on all the time, and the whole timeout of the wait has passed
since the wait began. -/
structure TrueReport (h : HandlerId) (s : Session) (es : List Event) (k : TaskId) (b : Browser)
    (outcome : ScanOutcome) : Prop where
  exhausted : outcome = .exhausted ↔
    (trace (handedOut h) s es ++ b.collected).length = b.expected
  cancelled : outcome = .cancelled ↔ b.state = .cancelled ∧ 0 < b.remaining
  timedOut : outcome = .timedOut →
    (∃ before start after timeout, es = before ++ start :: after ∧
      WaitBegins (s.run before) start k h timeout ∧
      (s.run before).clock + timeout ≤ (s.run es).clock) ∧
    ∀ past b', past <+: es → (s.run past).browser? h = some b' →
      0 < b'.remaining ∧ b'.state ≠ .cancelled

/-- A wait that ends tells the truth. -/
theorem trueReport_of_acting {confirms : Bool} {es : List Event} {h : HandlerId} {b : Browser}
    (there : ((initial confirms).run es).browser? h = some b) {e : Event} {k : TaskId} {t : Task}
    {deadline : Nat} (acts : ((initial confirms).run es).acting? e = some (k, t))
    (waits : awaits? t = some (h, deadline)) :
    TrueReport h (initial confirms) es k b b.outcome := by
  have tells := truthful_run confirms es h there
  obtain ⟨exhausted, cancelled, timedOut⟩ := tells.outcome_iff
  obtain ⟨-, found, able⟩ := acting?_eq_some.mp acts
  constructor
  · have kept := budget_of_kept (kept_run confirms es h there)
    rw [exhausted, kept.size]
    have within := kept.within
    omega
  · rw [cancelled, Nat.pos_iff_ne_zero, and_comm]
  · intro late
    have going : b.released = false := by
      obtain ⟨missing, open_end⟩ := timedOut.mp late
      rw [← Bool.not_eq_true]
      exact fun released => (tells.mp released).elim missing open_end
    constructor
    · -- The latch is not released, so the wait goes on for its deadline, which it got as it began.
      have due : deadline ≤ ((initial confirms).run es).clock := by
        have stays : ((initial confirms).run es).isReleased h = false := by
          rw [isReleased, there]
          exact going
        unfold awaits? at waits
        split at waits <;> cases waits
        all_goals
          simp only [ready, stays, Bool.false_or] at able
          exact of_decide_eq_true able
      obtain ⟨before, start, after, timeout, split, begins, set⟩ := wait_begun confirms es found waits
      exact ⟨before, start, after, timeout, split, begins, set ▸ due⟩
    · rintro past b' ⟨rest, rfl⟩ earlier
      have unreleased : ¬ b'.released = true := by
        intro released
        obtain ⟨b'', later, stays⟩ := released_from_then_on earlier released rest
        rw [← run_append, there] at later
        cases later
        rw [going] at stays
        cases stays
      have going_on := not_or.mp (mt (truthful_run confirms past h earlier).mpr unreleased)
      exact ⟨Nat.pos_of_ne_zero going_on.1, going_on.2⟩

/-- **The latch tells the truth**: wherever a run gets, the latch of a browsing consumer is released
exactly if no message is missing or the consumer has ended, and it stays released. Every wait for
the consumer that ends therefore tells how it has ended, and a wait can end once the latch is
released or its deadline has come. -/
theorem latch_truthful (confirms : Bool) (es : List Event) (h : HandlerId) {b : Browser}
    (there : ((initial confirms).run es).browser? h = some b) :
    (b.released = true ↔ b.remaining = 0 ∨ b.state = .cancelled) ∧
    (b.released = true → ∀ fs, ∃ b', ((initial confirms).run (es ++ fs)).browser? h = some b' ∧
      b'.released = true) ∧
    (∀ e k outcome, (k, outcome) ∈ waited h ((initial confirms).run es) e →
      TrueReport h (initial confirms) es k b outcome) ∧
    (∀ k t deadline, ((initial confirms).run es).task? k = some t →
      awaits? t = some (h, deadline) →
      b.released = true ∨ deadline ≤ ((initial confirms).run es).clock →
      ∃ outcome, waited h ((initial confirms).run es) (.step k) = [(k, outcome)]) := by
  refine ⟨truthful_run confirms es h there, ?_, ?_, ?_⟩
  · intro released fs
    rw [run_append]
    exact released_from_then_on there released fs
  · intro e k outcome ends
    obtain ⟨rfl, t, deadline, acts, waits⟩ := mem_waited there ends
    exact trueReport_of_acting there acts waits
  · intro k t deadline found waits due
    have able : ((initial confirms).run es).ready k t = true := by
      unfold awaits? at waits
      split at waits <;> cases waits
      all_goals simpa [ready, isReleased, there, Receiver.expired] using due
    exact ⟨b.outcome, waited_of_acting there (acting?_eq_some.mpr ⟨rfl, found, able⟩) waits⟩

/-- A consumer of one message is watched twice: for five nanoseconds, in which nothing comes, and
for longer, until the message has come. -/
def watchedTwice : List Event :=
  [.addBrowser ⟨"clerk"⟩ (standardConverter 100) 1 none, .call (.watch 0 5), .step 0, .pass 5,
    .call (.watch 0 7), .step 1]

theorem latch_truthful_watchedTwice :
    ∃ b, ((initial true).run watchedTwice).browser? 0 = some b ∧
      b.released = false ∧
      waited 0 ((initial true).run watchedTwice) (.step 0) = [(0, .timedOut)] ∧
      TrueReport 0 (initial true) watchedTwice 0 b .timedOut ∧
      waited 0 ((initial true).run (watchedTwice ++
        [.call (.deliver 0 (.bare ⟨1⟩)), .step 2])) (.step 1) = [(1, .exhausted)] :=
  ⟨_, rfl, rfl, rfl, (latch_truthful true watchedTwice 0 rfl).2.2.1 (.step 0) 0 .timedOut
    (List.mem_singleton.mpr rfl), rfl⟩

end Session
end Intake
