import Intake.Proofs.Consumer.Ending
import Intake.Proofs.Session.Lines

/-!
# Lines for a buffer

The calls to receive that wait for a message of a consumer stand in line for its buffer, each once, and
only the first of them looks at it. The main statement is `inLine_run`: this holds wherever a run gets.
-/
namespace Intake

namespace Receiver

/-- The calls that stand in line for the buffer. -/
def line (r : Receiver) : List TaskId := r.takers.map (·.call)

theorem deliver_takers (r : Receiver) (d : Delivery) (answer : Except TransportError Unit) :
    (r.deliver d answer).1.takers = r.takers := by
  have kept : (r.keep d).takers = r.takers := by
    unfold keep
    simp only
    split <;> rfl
  rw [← kept]
  unfold deliver
  split
  · rfl
  · cases answer <;> rfl

theorem awaitEnd_takers (r : Receiver) (call : TaskId) (now : Nat) :
    (r.awaitEnd call now).1.takers = r.takers := by
  unfold awaitEnd
  split
  · rfl
  · split <;> rfl

theorem cancel_takers (r : Receiver) (call : TaskId) (now : Nat)
    (answer : Except TransportError Unit) : (r.cancel call now answer).1.takers = r.takers := by
  unfold cancel
  split
  · split
    · rfl
    · exact r.awaitEnd_takers call now
  · cases answer with
    | error e => rfl
    | ok u => exact awaitEnd_takers _ call now

/-- Only the calls to receive themselves change who waits, and how. -/
theorem react_takers (r : Receiver) (x : Happening) : (r.react x).takers =
    match x with
    | .receive call timeout => r.takers ++ [⟨call, .fresh timeout⟩]
    | .take now => (r.take now).1.takers
    | .drop call => r.takers.filter (fun t => t.call ≠ call)
    | _ => r.takers := by
  cases x with
  | delivery d now answer => exact r.deliver_takers d answer
  | cancel call now answer => exact r.cancel_takers call now answer
  | resume call =>
    simp only [react, resume]
    split <;> rfl
  | _ => rfl

/-- Only the first in line looks at the buffer, and then it leaves the line or waits on. -/
theorem take_cases {r : Receiver} {t : Taker} {others : List Taker} (first : r.takers = t :: others)
    (now : Nat) :
    (∃ answer, (r.take now).2 = some answer ∧ answer = r.buffer.head? ∧
      (r.take now).1.takers = others ∧ (r.take now).1.buffer = r.buffer.tail ∧
      (r.buffer = [] → r.state = .cancelled ∨ patienceAt now t.patience = none)) ∨
    (∃ p, (r.take now).2 = none ∧ r.buffer = [] ∧ r.state ≠ .cancelled ∧
      patienceAt now t.patience = some p ∧
      (r.take now).1.takers = { t with patience := p } :: others) := by
  unfold take
  rw [first]
  cases filled : r.buffer with
  | cons m rest => exact .inl ⟨some m, rfl, rfl, rfl, rfl, nofun⟩
  | nil =>
    simp only
    by_cases ended : r.state = .cancelled
    · rw [if_pos (isCancelled_iff.mpr ended)]
      exact .inl ⟨none, rfl, rfl, rfl, rfl, fun _ => .inl ended⟩
    · rw [if_neg fun c => ended (isCancelled_iff.mp c)]
      cases waits : patienceAt now t.patience with
      | none => exact .inl ⟨none, rfl, rfl, rfl, rfl, fun _ => .inr rfl⟩
      | some p => exact .inr ⟨p, rfl, trivial, ended, rfl, rfl⟩

/-- Who can take is the first in line. -/
theorem first_of_canTake {r : Receiver} {call : TaskId} {now : Nat}
    (able : r.canTake call now = true) : ∃ t others, r.takers = t :: others ∧ t.call = call := by
  unfold canTake at able
  split at able
  · cases able
  · next t others first =>
    rw [Bool.and_eq_true, decide_eq_true_eq] at able
    exact ⟨t, others, first, able.1⟩

/-- The first in line can take as long as there is a message, and once the consumer has ended. -/
theorem canTake_of_first {r : Receiver} {t : Taker} {others : List Taker}
    (first : r.takers = t :: others) (due : r.buffer ≠ [] ∨ r.state = .cancelled) (now : Nat) :
    r.canTake t.call now = true := by
  have due' : (!r.buffer.isEmpty || r.state.isCancelled) = true := by
    rcases due with filled | ended
    · simp [List.isEmpty_eq_false_iff.mpr filled]
    · simp [isCancelled_iff.mpr ended]
  obtain ⟨call, patience⟩ := t
  rw [canTake, first]
  cases patience <;> simp [due']

end Receiver

namespace Session

/-! ### What happens to the line -/

/-- A task that waits for a message after a step was in line before, or gets in line. -/
theorem taking_of_fate {s : Session} {k : TaskId} {t : Task} {answer : Except TransportError Unit}
    {h : HandlerId} (left : (s.fate k answer t).task? t = some (.taking h)) :
    (∃ timeout r, t = .start (.receive h timeout) ∧ s.receiver? h = some r) ∨ t = .taking h := by
  cases turns_of_fate left with
  | plain plain _ =>
    cases follows_of_fate left plain with
    | receives there => exact .inl ⟨_, _, rfl, there⟩
    | taking => exact .inr rfl

/-- No task is in line from its start. -/
theorem taking_apply {s : Session} (numbered : s.Numbered) (e : Event) (j : TaskId)
    (h : HandlerId) :
    (s.apply e).task? j = some (.taking h) ↔ s.survivor? e j = some (.taking h) := by
  rw [task?_apply numbered]
  cases s.survivor? e j with
  | some t => rw [Option.some_or]
  | none =>
    rw [Option.none_or]
    refine iff_of_false ?_ nofun
    split
    · intro born
      rcases born?_cases born with ⟨c, -, no⟩ | ⟨queue, tag, h', -, no⟩ | ⟨tag, r, -, -, no⟩ <;>
        cases no
    · exact nofun

/-- The line stays as it is unless a call gets in it, the first one looks, or one is given up. -/
theorem takers_kept {s : Session} {h : HandlerId} {e : Event} (r : Receiver)
    (no_start : ∀ k timeout, s.acting? e ≠ some (k, .start (.receive h timeout)))
    (no_look : ∀ k, s.acting? e ≠ some (k, .taking h))
    (no_drop : ∀ k, e = .drop k → (s.task? k).any isCall = false) :
    (r.react (s.happening h e)).takers = r.takers := by
  rw [Receiver.react_takers]
  split
  · next k timeout occurs => exact absurd (happening_eq_receive.mp occurs) (no_start k timeout)
  · next now occurs =>
    obtain ⟨⟨k, acts⟩, -⟩ := happening_eq_take.mp occurs
    exact absurd acts (no_look k)
  · next k occurs =>
    obtain ⟨dropped, call⟩ := happening_eq_drop.mp occurs
    rw [no_drop k dropped] at call
    cases call
  · rfl

/-- A call that looks at the buffer is the first in line. -/
theorem first_of_acting {s : Session} {e : Event} {k : TaskId} {h : HandlerId}
    (acts : s.acting? e = some (k, .taking h)) :
    ∃ r t others, s.receiver? h = some r ∧ r.takers = t :: others ∧ t.call = k := by
  obtain ⟨-, -, able⟩ := acting?_eq_some.mp acts
  cases there : s.receiver? h with
  | none =>
    rw [ready, there] at able
    cases able
  | some r =>
    rw [ready, there] at able
    obtain ⟨t, others, first, own⟩ := Receiver.first_of_canTake able
    exact ⟨r, t, others, rfl, first, own⟩

/-! ### Who stands in line -/

/-- In the line for the buffer of a consumer stand the calls that wait for a message of it, each
once. -/
structure InLine (h : HandlerId) (s : Session) : Prop where
  nodup : ∀ r, s.receiver? h = some r → r.line.Nodup
  standing : ∀ k, s.task? k = some (.taking h) ↔ ∃ r, s.receiver? h = some r ∧ k ∈ r.line

namespace InLine

variable {h : HandlerId} {s : Session}

theorem mem_line (in_line : InLine h s) {r : Receiver} (there : s.receiver? h = some r)
    (k : TaskId) : k ∈ r.line ↔ s.task? k = some (.taking h) := by
  rw [in_line.standing]
  constructor
  · exact fun stands => ⟨r, there, stands⟩
  · rintro ⟨r', there', stands⟩
    rw [there] at there'
    cases there'
    exact stands

/-- What is to be shown of a consumer that is there before an event. -/
theorem of_react (numbered : s.Numbered) {e : Event} {r : Receiver} (there : s.receiver? h = some r)
    (nodup : (r.react (s.happening h e)).line.Nodup)
    (standing : ∀ k, k ∈ (r.react (s.happening h e)).line ↔ s.survivor? e k = some (.taking h)) :
    InLine h (s.apply e) where
  nodup := by
    intro r' there'
    rw [receiver?_apply e there] at there'
    cases there'
    exact nodup
  standing := by
    intro k
    rw [taking_apply numbered, ← standing, receiver?_apply e there]
    simp

/-- Nobody waits for a consumer that is not there, nor for one that is new. -/
theorem apply_of_none (in_line : InLine h s) (numbered : s.Numbered) (e : Event)
    (no : s.receiver? h = none) : InLine h (s.apply e) := by
  have nobody : ∀ k, (s.apply e).task? k ≠ some (.taking h) := by
    intro k waits
    rcases survivor?_cases ((taking_apply numbered e k h).mp waits) with ⟨u, acts, left⟩ | waited
    · rcases taking_of_fate left with ⟨-, r, -, there⟩ | rfl
      · rw [no] at there
        cases there
      · obtain ⟨r, -, -, there, -⟩ := first_of_acting acts
        rw [no] at there
        cases there
    · obtain ⟨r, there, -⟩ := (in_line.standing k).mp waited
      rw [no] at there
      cases there
  have empty : ∀ r, (s.apply e).receiver? h = some r → r.line = [] := by
    intro r there
    obtain ⟨-, -, -, -, -, nobody, -⟩ := (receiver?_of_apply no there).eq
    rw [Receiver.line, nobody, List.map_nil]
  refine ⟨fun r there => ?_, fun k => iff_of_false (nobody k) ?_⟩
  · rw [empty r there]
    exact List.nodup_nil
  · rintro ⟨r, there, stands⟩
    rw [empty r there] at stands
    cases stands

/-- A call gets in line at its end. -/
theorem apply_of_start (in_line : InLine h s) (numbered : s.Numbered) {e : Event} {r : Receiver}
    (there : s.receiver? h = some r) {k : TaskId} {timeout : ReceiveTimeout}
    (acts : s.acting? e = some (k, .start (.receive h timeout))) : InLine h (s.apply e) := by
  obtain ⟨-, starts, -⟩ := acting?_eq_some.mp acts
  have absent : k ∉ r.line := by
    rw [in_line.mem_line there, starts]
    exact nofun
  have line : (r.react (s.happening h e)).line = r.line ++ [k] := by
    rw [Receiver.line, Receiver.react_takers, happening_eq_receive.mpr acts]
    simp [Receiver.line]
  refine of_react numbered there ?_ fun j => ?_
  · rw [line, List.nodup_append]
    refine ⟨in_line.nodup r there, List.nodup_singleton k, ?_⟩
    rintro a stands b single rfl
    exact absent (List.mem_singleton.mp single ▸ stands)
  · rw [line, List.mem_append, List.mem_singleton, in_line.mem_line there, survivor?_of_acting acts]
    by_cases own : j = k
    · simp [own, fate, there, Fate.task?]
    · simp [own]

/-- The first in line leaves it, or waits on. -/
theorem apply_of_look (in_line : InLine h s) (numbered : s.Numbered) {e : Event} {k : TaskId}
    (acts : s.acting? e = some (k, .taking h)) : InLine h (s.apply e) := by
  obtain ⟨r, t, others, there, first, own⟩ := first_of_acting acts
  have nodup := in_line.nodup r there
  have line : r.line = k :: others.map (·.call) := by rw [Receiver.line, first, List.map_cons, own]
  have takers : (r.react (s.happening h e)).takers = (r.take s.clock).1.takers := by
    rw [Receiver.react_takers, happening_eq_take.mpr ⟨⟨k, acts⟩, rfl⟩]
  have left (j : TaskId) : s.survivor? e j =
      if j = k then ((r.take s.clock).2.elim Fate.stays fun m => .returns (.message m)).task?
        (.taking h) else s.task? j := by
    rw [survivor?_of_acting acts]
    simp only [fate, there]
  rcases Receiver.take_cases first s.clock with ⟨answer, returns, -, rest, -⟩ |
    ⟨p, waits, -, -, -, rest⟩
  · -- It returns, and with its task its place is gone.
    have shorter : (r.react (s.happening h e)).line = others.map (·.call) := by
      rw [Receiver.line, takers, rest]
    rw [line] at nodup
    obtain ⟨absent, nodup⟩ := List.nodup_cons.mp nodup
    refine of_react numbered there (shorter ▸ nodup) fun j => ?_
    rw [shorter, left, returns]
    by_cases same : j = k
    · subst same
      simpa [Fate.task?] using absent
    · rw [if_neg same, ← in_line.mem_line there, line, List.mem_cons]
      simp [same]
  · -- It waits on, with its task and in its place.
    have unchanged : (r.react (s.happening h e)).line = r.line := by
      rw [Receiver.line, takers, rest, line, List.map_cons, own]
    refine of_react numbered there (unchanged ▸ nodup) fun j => ?_
    rw [unchanged, left, waits, in_line.mem_line there]
    by_cases same : j = k
    · subst same
      obtain ⟨-, waited, -⟩ := acting?_eq_some.mp acts
      simp [waited, Fate.task?]
    · rw [if_neg same]

/-- A call that is given up leaves the line. -/
theorem apply_of_drop (in_line : InLine h s) (numbered : s.Numbered) {r : Receiver}
    (there : s.receiver? h = some r) {k : TaskId} (call : (s.task? k).any isCall = true) :
    InLine h (s.apply (.drop k)) := by
  have line : (r.react (s.happening h (.drop k))).line = r.line.filter (· ≠ k) := by
    rw [Receiver.line, Receiver.react_takers, happening_eq_drop.mpr ⟨rfl, call⟩, Receiver.line,
      List.filter_map]
    rfl
  refine of_react numbered there ?_ fun j => ?_
  · rw [line]
    exact (in_line.nodup r there).filter _
  · rw [line, List.mem_filter, in_line.mem_line there]
    by_cases same : j = k
    · subst same
      simp [survivor?, acting?, call]
    · simp [survivor?, acting?, same]

theorem apply (in_line : InLine h s) (numbered : s.Numbered) (e : Event) : InLine h (s.apply e) := by
  cases there : s.receiver? h with
  | none => exact in_line.apply_of_none numbered e there
  | some r =>
    by_cases starts : ∃ k timeout, s.acting? e = some (k, .start (.receive h timeout))
    · obtain ⟨k, timeout, acts⟩ := starts
      exact in_line.apply_of_start numbered there acts
    by_cases looks : ∃ k, s.acting? e = some (k, .taking h)
    · obtain ⟨k, acts⟩ := looks
      exact in_line.apply_of_look numbered acts
    by_cases drops : ∃ k, e = .drop k ∧ (s.task? k).any isCall = true
    · obtain ⟨k, rfl, call⟩ := drops
      exact in_line.apply_of_drop numbered there call
    -- Anything else leaves both the line and the tasks in it as they are.
    have no_start : ∀ k timeout, s.acting? e ≠ some (k, .start (.receive h timeout)) :=
      fun k timeout acts => starts ⟨k, timeout, acts⟩
    have no_look : ∀ k, s.acting? e ≠ some (k, .taking h) := fun k acts => looks ⟨k, acts⟩
    have line : (r.react (s.happening h e)).line = r.line := by
      rw [Receiver.line, takers_kept r no_start no_look, Receiver.line]
      intro k dropped
      exact Bool.not_eq_true _ ▸ fun call => drops ⟨k, dropped, call⟩
    refine of_react numbered there (line ▸ in_line.nodup r there) fun j => ?_
    rw [line, in_line.mem_line there]
    constructor
    · intro waits
      refine (taking_apply numbered e j h).mp (task?_of_kept numbered waits (fun _ dropped => ?_) ?_)
      · exact drops ⟨j, dropped, by rw [waits]; rfl⟩
      · rintro u acts
        obtain ⟨-, itself, -⟩ := acting?_eq_some.mp acts
        rw [waits] at itself
        cases itself
        exact no_look j acts
    · intro survives
      rcases survivor?_cases survives with ⟨u, acts, left⟩ | waited
      · rcases taking_of_fate left with ⟨timeout, r', rfl, -⟩ | rfl
        · exact absurd acts (no_start j timeout)
        · exact absurd acts (no_look j)
      · exact waited

/-- The first in line can take a step as long as there is a message, and once the consumer has ended. -/
theorem acting?_first (in_line : InLine h s) {r : Receiver} (there : s.receiver? h = some r)
    {t : Taker} {others : List Taker} (first : r.takers = t :: others)
    (due : r.buffer ≠ [] ∨ r.state = .cancelled) :
    s.acting? (.step t.call) = some (t.call, .taking h) := by
  have waits : s.task? t.call = some (.taking h) := by
    rw [← in_line.mem_line there, Receiver.line, first]
    exact List.mem_cons_self
  refine acting?_eq_some.mpr ⟨rfl, waits, ?_⟩
  rw [ready, there, Option.any_some, Receiver.canTake_of_first first due]

end InLine

/-- **Lines for a buffer**: wherever a run gets, exactly the calls that wait for a message of a consumer
stand in line for its buffer, each of them once. -/
theorem inLine_run (confirms : Bool) (es : List Event) (h : HandlerId) :
    InLine h ((initial confirms).run es) := by
  induction es using List.reverseRecOn with
  | nil =>
    refine ⟨fun r there => ?_, fun k => iff_of_false nofun ?_⟩
    · cases there
    · rintro ⟨r, there, -⟩
      cases there
  | append_singleton es e ih =>
    rw [run_concat]
    exact ih.apply (orderly_run confirms es).numbered e

end Session
end Intake
