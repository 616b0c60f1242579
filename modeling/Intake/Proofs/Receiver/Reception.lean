import Intake.Proofs.Browser.Scan
import Intake.Proofs.Receiver.Line
import Intake.Proofs.Receiver.Mailbox
import Intake.Proofs.Session.Calls

/-!
# What a call to receive returns

A call to receive looks at the buffer when it is the first in line, and returns what it finds there: the
oldest message, whatever state the consumer is in and however long the call may wait. It returns without
a message only from an empty buffer, and only if it does not wait, if it has waited for its time since
it got hold of the buffer, or if the consumer has ended. The main statement is `receive_result`.
-/
namespace Intake.Session

/-! ### The patience of a call -/

/-- A call gets hold of the buffer at a moment of a run: it is the first in line and looks for the first
time. -/
def GetsHold (confirms : Bool) (es : List Event) (k : TaskId) (h : HandlerId) (moment : Nat) : Prop :=
  ∃ before after r timeout others, es = before ++ .step k :: after ∧
    ((initial confirms).run before).receiver? h = some r ∧
    r.takers = ⟨k, .fresh timeout⟩ :: others ∧ ((initial confirms).run before).clock = moment

/-- How far a call in line is with its wait follows from the timeout that it was made with, and from the
moment at which it got hold of the buffer. -/
def Founded (confirms : Bool) (es : List Event) (h : HandlerId) (t : Taker) : Prop :=
  match t.patience with
  | .fresh timeout => Made confirms es t.call (.receive h timeout)
  | .limited deadline => ∃ d moment, Made confirms es t.call (.receive h (.after d)) ∧
    GetsHold confirms es t.call h moment ∧ moment + d = deadline
  | .unlimited => Made confirms es t.call (.receive h .never)

section Patience

variable {confirms : Bool} {es : List Event} {e : Event} {h : HandlerId} {k : TaskId}
  {r : Receiver} {t : Taker}

theorem GetsHold.concat {moment : Nat} (holds : GetsHold confirms es k h moment) (e : Event) :
    GetsHold confirms (es ++ [e]) k h moment := by
  obtain ⟨before, after, r, timeout, others, rfl, found⟩ := holds
  exact ⟨before, after ++ [e], r, timeout, others, by simp, found⟩

theorem Founded.concat (founded : Founded confirms es h t) (e : Event) :
    Founded confirms (es ++ [e]) h t := by
  obtain ⟨call, patience⟩ := t
  cases patience with
  | fresh timeout => exact Made.append founded [e]
  | limited deadline =>
    obtain ⟨d, moment, made, holds, sum⟩ := founded
    exact ⟨d, moment, made.append [e], holds.concat e, sum⟩
  | unlimited => exact Made.append founded [e]

/-- A call that finds nothing and waits on does so by its timeout. -/
theorem Founded.of_look (there : ((initial confirms).run es).receiver? h = some r)
    {others : List Taker} (first : r.takers = t :: others) (founded : Founded confirms es h t)
    {p : Patience} (waits : Receiver.patienceAt ((initial confirms).run es).clock t.patience = some p) :
    Founded confirms (es ++ [.step t.call]) h { t with patience := p } := by
  obtain ⟨call, patience⟩ := t
  have later := founded.concat (.step call)
  cases patience with
  | fresh timeout =>
    cases timeout with
    | noWait => cases waits
    | never =>
      cases waits
      exact later
    | after d =>
      simp only [Receiver.patienceAt] at waits
      split at waits
      · cases waits
      · cases waits
        exact ⟨d, _, later, ⟨es, [], r, .after d, others, rfl, there, first, rfl⟩, rfl⟩
  | limited deadline =>
    simp only [Receiver.patienceAt] at waits
    split at waits
    · cases waits
    · cases waits
      exact later
  | unlimited =>
    cases waits
    exact later

theorem founded_run (there : ((initial confirms).run es).receiver? h = some r) :
    ∀ t ∈ r.takers, Founded confirms es h t := by
  induction es using List.reverseRecOn generalizing r with
  | nil => cases there
  | append_singleton es e ih =>
    rw [run_concat] at there
    rcases receiver?_apply_cases there with new | ⟨r₀, before, rfl⟩
    · obtain ⟨-, -, -, -, -, nobody, -⟩ := new.eq
      rw [nobody]
      exact nofun
    have old : ∀ t ∈ r₀.takers, Founded confirms (es ++ [e]) h t :=
      fun t member => (ih before t member).concat e
    -- The line grows at its end, loses its first call or makes it wait on, or loses one given up.
    intro t member
    rw [Receiver.react_takers] at member
    split at member
    · next call timeout occurs =>
      rcases List.mem_append.mp member with member | new
      · exact old t member
      · obtain rfl := List.mem_singleton.mp new
        obtain ⟨-, starts, -⟩ := acting?_eq_some.mp (happening_eq_receive.mp occurs)
        exact (made_of_start starts).append [e]
    · next now occurs =>
      obtain ⟨⟨call, acts⟩, rfl⟩ := happening_eq_take.mp occurs
      obtain ⟨r', first, others, there', line, own⟩ := first_of_acting acts
      rw [before] at there'
      cases there'
      obtain ⟨rfl, -, -⟩ := acting?_eq_some.mp acts
      rcases Receiver.take_cases line ((initial confirms).run es).clock with
        ⟨-, -, -, rest, -⟩ | ⟨p, -, -, -, waits, rest⟩
      · rw [rest] at member
        exact old t (line ▸ List.mem_cons_of_mem _ member)
      · rw [rest] at member
        rcases List.mem_cons.mp member with rfl | member
        · rw [← own]
          exact Founded.of_look before line (ih before first (line ▸ List.mem_cons_self)) waits
        · exact old t (line ▸ List.mem_cons_of_mem _ member)
    · exact old t (List.mem_of_mem_filter member)
    · exact old t member

/-- The task of a call to receive has yet to get in line, or it is in line. -/
theorem task?_of_made {timeout : ReceiveTimeout} (made : Made confirms es k (.receive h timeout))
    {t : Task} (there : ((initial confirms).run es).task? k = some t) :
    t = .start (.receive h timeout) ∨ t = .taking h := by
  induction es using List.reverseRecOn generalizing t with
  | nil => cases there
  | append_singleton es e ih =>
    rw [run_concat, task?_apply (orderly_run confirms es).numbered, Option.or_eq_some_iff] at there
    -- A call that has just been made has a number that no task has had before.
    rcases made_concat_iff.mp made with made | ⟨rfl, rfl⟩
    · rcases there with old | ⟨-, new⟩
      · rcases survivor?_cases old with ⟨u, acts, left⟩ | there
        · rcases ih made (acting?_eq_some.mp acts).2.1 with rfl | rfl
          · simp only [fate] at left
            split at left <;> cases left
            exact .inr rfl
          · obtain ⟨r, -, -, there, -⟩ := first_of_acting acts
            simp only [fate, there] at left
            cases returns : (r.take ((initial confirms).run es).clock).2 with
            | none =>
              rw [returns] at left
              cases left
              exact .inr rfl
            | some answer =>
              rw [returns] at left
              cases left
        · exact ih made there
      · split at new
        · next number => exact absurd made.lt (number ▸ Nat.lt_irrefl _)
        · cases new
    · rcases there with old | ⟨-, new⟩
      · obtain ⟨u, there⟩ := survivor?_isSome old
        exact absurd ((orderly_run confirms es).numbered _ u there) (Nat.lt_irrefl _)
      · rw [if_pos rfl] at new
        cases new
        exact .inl rfl

end Patience

/-! ### What a call has found when it returns -/

/-- What a call to receive with some timeout has found of a consumer when it returns at an event after
a run. -/
structure Found (confirms : Bool) (es : List Event) (e : Event) (h : HandlerId) (r : Receiver)
    (timeout : ReceiveTimeout) (f : Finished) : Prop where
  first : ∃ others, r.line = f.task :: others
  answer : f.answer = .message r.buffer.head?
  time : f.time = ((initial confirms).run es).clock
  rest : ∃ r', (((initial confirms).run es).apply e).receiver? h = some r' ∧ r'.buffer = r.buffer.tail
  empty : f.answer = .message none → r.buffer = []
  ended : f.answer = .message none → timeout = .never → r.state = .cancelled
  waited : f.answer = .message none → ∀ d, timeout = .after d → r.state = .cancelled ∨
    ∃ moment, GetsHold confirms (es ++ [e]) f.task h moment ∧
      moment + d ≤ ((initial confirms).run es).clock

/-- A call that gives up although the consumer has not ended does not wait, or has waited for its time
since it got hold of the buffer. -/
theorem waited_of_gives_up {confirms : Bool} {es : List Event} {h : HandlerId} {r : Receiver}
    {t : Taker} {others : List Taker} {timeout : ReceiveTimeout}
    (there : ((initial confirms).run es).receiver? h = some r) (first : r.takers = t :: others)
    (made : Made confirms es t.call (.receive h timeout))
    (gives_up : Receiver.patienceAt ((initial confirms).run es).clock t.patience = none) :
    timeout = .noWait ∨ ∃ d moment, timeout = .after d ∧
      GetsHold confirms (es ++ [.step t.call]) t.call h moment ∧
      moment + d ≤ ((initial confirms).run es).clock := by
  have founded := founded_run there t (first ▸ List.mem_cons_self)
  obtain ⟨call, patience⟩ := t
  cases patience with
  | fresh timeout' =>
    obtain rfl : timeout = timeout' := (Call.receive.inj (made_unique made founded)).2
    cases timeout with
    | noWait => exact .inl rfl
    | never => cases gives_up
    | after d =>
      -- A timeout of no length is over as soon as the call gets hold of the buffer.
      have nothing : d = 0 := by
        simp only [Receiver.patienceAt] at gives_up
        split at gives_up
        · next nothing => exact nothing
        · cases gives_up
      refine .inr ⟨d, _, rfl, ⟨es, [], r, .after d, others, rfl, there, first, rfl⟩, ?_⟩
      rw [nothing]
      exact Nat.le_refl _
  | limited deadline =>
    obtain ⟨d, moment, made', holds, sum⟩ := founded
    obtain rfl : timeout = .after d := (Call.receive.inj (made_unique made made')).2
    refine .inr ⟨d, moment, rfl, holds.concat _, ?_⟩
    by_cases late : Receiver.expired deadline ((initial confirms).run es).clock = true
    · rw [sum]
      exact of_decide_eq_true late
    · rw [Receiver.patienceAt, if_neg late] at gives_up
      cases gives_up
  | unlimited => cases gives_up

/-- A call to receive that returns has looked at the buffer. -/
theorem returned_of_look {s : Session} {e : Event} {k : TaskId} {h : HandlerId} {f : Finished}
    (acts : s.acting? e = some (k, .taking h)) (returned : f ∈ s.returned e) :
    ∃ r t others, s.receiver? h = some r ∧ r.takers = t :: others ∧ t.call = k ∧
      f = ⟨k, .message r.buffer.head?, s.clock⟩ ∧
      (r.take s.clock).1.buffer = r.buffer.tail ∧
      (r.buffer = [] → r.state = .cancelled ∨ Receiver.patienceAt s.clock t.patience = none) := by
  obtain ⟨r, t, others, there, first, own⟩ := first_of_acting acts
  rw [returned_of_acting acts] at returned
  simp only [fate, there] at returned
  rcases Receiver.take_cases first s.clock with ⟨answer, returns, rfl, -, buffer, gives_up⟩ |
    ⟨p, waits, -⟩
  · rw [returns] at returned
    exact ⟨r, t, others, there, first, own, List.mem_singleton.mp returned, buffer, gives_up⟩
  · rw [waits] at returned
    cases returned

theorem found_of_returned {confirms : Bool} {es : List Event} {h : HandlerId} {r : Receiver}
    (there : ((initial confirms).run es).receiver? h = some r) {e : Event} {f : Finished}
    {timeout : ReceiveTimeout} (returned : f ∈ ((initial confirms).run es).returned e)
    (made : Made confirms es f.task (.receive h timeout)) : Found confirms es e h r timeout f := by
  obtain ⟨t, acts⟩ := acting?_of_returned returned
  obtain ⟨rfl, waits, -⟩ := acting?_eq_some.mp acts
  rcases task?_of_made made waits with rfl | rfl
  · -- The first step of the call only puts it in line.
    rw [returned_of_acting acts] at returned
    simp only [fate, there] at returned
    cases returned
  · obtain ⟨r', t, others, there', first, own, is, buffer, gives_up⟩ := returned_of_look acts returned
    rw [there] at there'
    cases there'
    have answer : f.answer = .message r.buffer.head? := by rw [is]
    have empty (none : f.answer = .message none) : r.buffer = [] := by
      rw [answer] at none
      exact List.head?_eq_none_iff.mp (Answer.message.inj none)
    have looked := happening_eq_take.mpr ⟨⟨f.task, acts⟩, rfl⟩
    rw [← own] at made
    refine ⟨⟨others.map (·.call), ?_⟩, answer, by rw [is], ⟨_, receiver?_apply _ there, ?_⟩, empty,
      ?_, ?_⟩
    · rw [Receiver.line, first, List.map_cons, own]
    · rw [looked]
      exact buffer
    · rintro none rfl
      rcases gives_up (empty none) with ended | timed_out
      · exact ended
      · rcases waited_of_gives_up there first made timed_out with no | ⟨d, moment, no, -⟩ <;> cases no
    · rintro none d rfl
      refine (gives_up (empty none)).imp_right fun timed_out => ?_
      rcases waited_of_gives_up there first made timed_out with no | ⟨d', moment, same, holds, late⟩
      · cases no
      · cases same
        rw [own] at holds
        exact ⟨moment, holds, late⟩

/-- The first in line takes the oldest message without waiting. -/
theorem returned_of_first {s : Session} {h : HandlerId} {r : Receiver} (in_line : InLine h s)
    (there : s.receiver? h = some r) {t : Taker} {others : List Taker} {m : Message}
    {rest : List Message} (first : r.takers = t :: others) (filled : r.buffer = m :: rest) :
    s.canRun t.call = true ∧ s.returned (.step t.call) = [⟨t.call, .message (some m), s.clock⟩] := by
  have acts := in_line.acting?_first there first (.inl (by rw [filled]; exact nofun))
  obtain ⟨-, waits, able⟩ := acting?_eq_some.mp acts
  refine ⟨by rw [canRun, waits, Option.any_some, able], ?_⟩
  rw [returned_of_acting acts]
  simp [fate, there, Receiver.take, first, filled, Fate.answer?]

/-! ### Consumers that have nothing left -/

/-- A consumer has ended and there is nothing left in its buffer. -/
def Drained (h : HandlerId) (s : Session) : Prop :=
  ∃ r, s.receiver? h = some r ∧ r.state = .cancelled ∧ r.buffer = []

theorem Drained.apply {h : HandlerId} {s : Session} (drained : Drained h s) (e : Event) :
    Drained h (s.apply e) := by
  obtain ⟨r, there, ended, empty⟩ := drained
  refine ⟨_, receiver?_apply e there, Receiver.react_ended ended _, ?_⟩
  have balance := r.leaving_append_buffer (s.happening h e)
  rw [empty, Receiver.arriving_of_ended ended, List.append_nil] at balance
  exact (List.append_eq_nil_iff.mp balance).2

theorem Drained.run {h : HandlerId} {s : Session} (drained : Drained h s) (es : List Event) :
    Drained h (s.run es) := by
  induction es generalizing s with
  | nil => exact drained
  | cons e es ih => exact ih (drained.apply e)

/-- A call to receive is under way: it has yet to get in line, or it is in line. -/
def Receiving (h : HandlerId) (s : Session) (k : TaskId) : Prop :=
  (∃ timeout, s.task? k = some (.start (.receive h timeout))) ∨ s.task? k = some (.taking h)

section Drained

variable {h : HandlerId} {s : Session} {k : TaskId}

/-- While a call to receive of a consumer with nothing left is under way, some task can run. -/
theorem runnable_of_receiving (in_line : InLine h s) (drained : Drained h s)
    (receiving : Receiving h s k) : s.runnable ≠ [] := by
  intro idle
  rcases receiving with ⟨timeout, starts⟩ | waits
  · cases not_ready_of_idle idle starts
  · -- It stands in line, and the first in line can look at the buffer of a consumer that has ended.
    obtain ⟨r, there, ended, -⟩ := drained
    have stands := (in_line.mem_line there k).mpr waits
    cases first : r.takers with
    | nil =>
      rw [Receiver.line, first] at stands
      cases stands
    | cons t others =>
      obtain ⟨-, waits, able⟩ := acting?_eq_some.mp
        (in_line.acting?_first there first (.inr ended))
      rw [not_ready_of_idle idle waits] at able
      cases able

/-- The first in line of a consumer with nothing left returns without a message and makes room for the
next. -/
theorem returned_of_drained (in_line : InLine h s) {r : Receiver} (there : s.receiver? h = some r)
    (ended : r.state = .cancelled) (empty : r.buffer = []) {t : Taker} {others : List Taker}
    (first : r.takers = t :: others) :
    s.returned (.step t.call) = [⟨t.call, .message none, s.clock⟩] ∧
      ∃ r', (s.apply (.step t.call)).receiver? h = some r' ∧ r'.takers = others := by
  have acts := in_line.acting?_first there first (.inr ended)
  have looked := happening_eq_take.mpr ⟨⟨t.call, acts⟩, rfl⟩
  have result : r.take s.clock = ({ r with takers := others }, some none) := by
    rw [Receiver.take, first]
    simp only [empty, ended]
    rfl
  constructor
  · rw [returned_of_acting acts]
    simp [fate, there, result, Fate.answer?]
  · refine ⟨_, receiver?_apply _ there, ?_⟩
    rw [looked, Receiver.react, result]

end Drained

/-- The calls in line return one after another. -/
theorem returns_of_line {h : HandlerId} {s : Session} {k : TaskId} {r : Receiver}
    {takers : List Taker} (numbered : s.Numbered) (in_line : InLine h s) (drained : Drained h s)
    (there : s.receiver? h = some r) (line : r.takers = takers)
    (stands : k ∈ takers.map (·.call)) :
    ∃ ks : List TaskId, ⟨k, .message none, s.clock⟩ ∈ trace returned s (ks.map .step) := by
  -- The induction is on the calls ahead, each of which takes one step.
  induction takers generalizing s r with
  | nil => cases stands
  | cons t others ih =>
    have still := drained
    obtain ⟨r', there', ended, empty⟩ := drained
    rw [there] at there'
    cases there'
    obtain ⟨returns, r', there', rest⟩ := returned_of_drained in_line there ended empty line
    rcases List.mem_cons.mp stands with rfl | later
    · refine ⟨[t.call], ?_⟩
      simp [trace, returns]
    · have clock : (s.apply (.step t.call)).clock = s.clock := clock_apply s _
      obtain ⟨ks, returned⟩ := ih (numbered.apply (.step t.call)) (in_line.apply numbered _)
        (still.apply _) there' rest later
      rw [clock] at returned
      refine ⟨t.call :: ks, ?_⟩
      rw [List.map_cons, trace]
      exact List.mem_append_right _ returned

/-- A call to receive of a consumer with nothing left can return without a message at once. -/
theorem returns_of_receiving {h : HandlerId} {s : Session} {k : TaskId} (numbered : s.Numbered)
    (in_line : InLine h s) (drained : Drained h s) (receiving : Receiving h s k) :
    ∃ ks : List TaskId, ⟨k, .message none, s.clock⟩ ∈ trace returned s (ks.map .step) := by
  have still := drained
  obtain ⟨r, there, -⟩ := drained
  rcases receiving with ⟨timeout, starts⟩ | waits
  · -- It first has to get in line.
    have gets_in := happening_eq_receive.mpr (acting?_eq_some.mpr ⟨rfl, starts, rfl⟩)
    have line : k ∈ (r.react (s.happening h (.step k))).line := by
      rw [Receiver.line, Receiver.react_takers, gets_in]
      simp
    have clock : (s.apply (.step k)).clock = s.clock := clock_apply s _
    obtain ⟨ks, returned⟩ := returns_of_line (numbered.apply (.step k))
      (in_line.apply numbered _) (still.apply _) (receiver?_apply _ there) rfl line
    rw [clock] at returned
    refine ⟨k :: ks, ?_⟩
    rw [List.map_cons, trace]
    exact List.mem_append_right _ returned
  · exact returns_of_line numbered in_line still there rfl ((in_line.mem_line there k).mpr waits)

/-- A call to receive that is made of a consumer with nothing left: it returns without a message; as
long as it is under way it can return at once; and if time passes only when no task can run, none
passes before it returns. -/
structure ReturnsEmpty (h : HandlerId) (timeout : ReceiveTimeout) (s : Session) (es : List Event) :
    Prop where
  answer : ∀ f ∈ trace returned s (.call (.receive h timeout) :: es), f.task = s.nextTask →
    f.answer = .message none
  returns : ((s.run (.call (.receive h timeout) :: es)).task? s.nextTask).isSome →
    ∃ ks : List TaskId,
      ⟨s.nextTask, .message none, (s.run (.call (.receive h timeout) :: es)).clock⟩ ∈
        trace returned (s.run (.call (.receive h timeout) :: es)) (ks.map .step)
  at_once : trace hurried s (.call (.receive h timeout) :: es) = [] →
    (∀ f ∈ trace returned s (.call (.receive h timeout) :: es), f.task = s.nextTask →
      f.time = s.clock) ∧
    (((s.run (.call (.receive h timeout) :: es)).task? s.nextTask).isSome →
      (s.run (.call (.receive h timeout) :: es)).clock = s.clock)

section Later

variable {confirms : Bool} {es : List Event} {h : HandlerId} {timeout : ReceiveTimeout}

theorem made_of_call (fs : List Event) :
    Made confirms (es ++ .call (.receive h timeout) :: fs) ((initial confirms).run es).nextTask
      (.receive h timeout) :=
  ⟨es, fs, rfl, rfl⟩

theorem receiving_of_made {k : TaskId} (made : Made confirms es k (.receive h timeout))
    (there : (((initial confirms).run es).task? k).isSome) :
    Receiving h ((initial confirms).run es) k := by
  obtain ⟨t, there⟩ := Option.isSome_iff_exists.mp there
  rcases task?_of_made made there with rfl | rfl
  · exact .inl ⟨timeout, there⟩
  · exact .inr there

/-- While a call to receive of a consumer with nothing left is under way, time can only pass in a
hurry. -/
theorem clock_of_receiving (drained : Drained h ((initial confirms).run es)) (fs : List Event)
    (calm : trace hurried ((initial confirms).run es) (.call (.receive h timeout) :: fs) = [])
    (there : (((initial confirms).run (es ++ .call (.receive h timeout) :: fs)).task?
      ((initial confirms).run es).nextTask).isSome) :
    ((initial confirms).run (es ++ .call (.receive h timeout) :: fs)).clock =
      ((initial confirms).run es).clock := by
  induction fs using List.reverseRecOn with
  | nil => rw [run_concat, clock_apply]
  | append_singleton fs e ih =>
    rw [← List.cons_append, ← List.append_assoc, run_concat] at there ⊢
    rw [← List.cons_append, trace_concat, List.append_eq_nil_iff] at calm
    have orderly := orderly_run confirms (es ++ .call (.receive h timeout) :: fs)
    have made : Made confirms (es ++ .call (.receive h timeout) :: fs)
        ((initial confirms).run es).nextTask (.receive h timeout) := made_of_call fs
    have before : (((initial confirms).run (es ++ .call (.receive h timeout) :: fs)).task?
        ((initial confirms).run es).nextTask).isSome := by
      rw [Option.isSome_iff_ne_none]
      intro gone
      rw [task?_of_gone orderly.numbered e made.lt gone] at there
      cases there
    -- It was under way before the last event, so that this is no passing of time.
    have busy := runnable_of_receiving (inLine_run confirms _ h)
      (by rw [run_append]; exact drained.run _) (receiving_of_made made before)
    rw [clock_apply, ← ih calm.1 before]
    cases e with
    | pass d =>
      have hurry := calm.2
      rw [← run_append, hurried, if_neg busy] at hurry
      cases hurry
    | _ => rfl

theorem returnsEmpty_of_drained (drained : Drained h ((initial confirms).run es)) (fs : List Event) :
    ReturnsEmpty h timeout ((initial confirms).run es) fs := by
  -- A call that returns has been under way just before, and the consumer had nothing left.
  have found {f : Finished} (member : f ∈ trace returned ((initial confirms).run es)
      (.call (.receive h timeout) :: fs)) (own : f.task = ((initial confirms).run es).nextTask) :
      ∃ before e after, fs = before ++ e :: after ∧
        (((initial confirms).run (es ++ .call (.receive h timeout) :: before)).task?
          ((initial confirms).run es).nextTask).isSome ∧
        f.answer = .message none ∧
        f.time = ((initial confirms).run (es ++ .call (.receive h timeout) :: before)).clock := by
    rw [trace, returned_of_idle (by rfl), List.nil_append] at member
    obtain ⟨before, e, after, rfl, returned⟩ := (mem_trace ..).mp member
    rw [← run_cons, ← run_append] at returned
    obtain ⟨r, there, ended, empty⟩ :=
      drained.run (.call (.receive h timeout) :: before)
    rw [← run_append] at there
    have made : Made confirms (es ++ .call (.receive h timeout) :: before) f.task
        (.receive h timeout) := by
      rw [own]
      exact made_of_call before
    have result := found_of_returned there returned made
    obtain ⟨t, acts⟩ := acting?_of_returned returned
    refine ⟨before, e, after, rfl, ?_, ?_, result.time⟩
    · rw [← own, (acting?_eq_some.mp acts).2.1]
      rfl
    · rw [result.answer, empty]
      rfl
  refine ⟨fun f member own => ?_, fun there => ?_, fun calm => ⟨fun f member own => ?_, fun there => ?_⟩⟩
  · obtain ⟨-, -, -, -, -, answer, -⟩ := found member own
    exact answer
  · have made : Made confirms (es ++ .call (.receive h timeout) :: fs)
        ((initial confirms).run es).nextTask (.receive h timeout) := made_of_call fs
    rw [← run_append] at there ⊢
    refine returns_of_receiving (orderly_run confirms _).numbered (inLine_run confirms _ h) ?_
      (receiving_of_made made there)
    rw [run_append]
    exact drained.run _
  · obtain ⟨before, e, after, rfl, there, -, time⟩ := found member own
    rw [time]
    rw [← List.cons_append, trace_append, List.append_eq_nil_iff] at calm
    exact clock_of_receiving drained before calm.1 there
  · rw [← run_append] at there ⊢
    exact clock_of_receiving drained fs calm there

end Later

/-- **Results of receive**: wherever a run has got, a call to receive never fails. It returns when it is
the first in line, with the oldest message of the buffer if there is one, in every state of the consumer
and with every timeout; and when it is the first and there is a message, it can return at once. It
returns without a message only from an empty buffer; if it was to wait without end, only after the end of
the consumer; and if it was to wait for some time, only after that end or when this time has passed since
it got hold of the buffer. Once the consumer has ended and its buffer is empty, every later call returns
without a message before any time passes. The channel of the messages is never found closed, and what the
first in line finds there, before it looks at the end of the consumer and at its timer, is what it
takes. -/
theorem receive_result (confirms : Bool) (es : List Event) (h : HandlerId) {r : Receiver}
    (there : ((initial confirms).run es).receiver? h = some r) :
    (∀ e f timeout, f ∈ ((initial confirms).run es).returned e →
      Made confirms es f.task (.receive h timeout) → Found confirms es e h r timeout f) ∧
    (∀ t others m rest, r.takers = t :: others → r.buffer = m :: rest →
      ((initial confirms).run es).canRun t.call = true ∧
        ((initial confirms).run es).returned (.step t.call) =
          [⟨t.call, .message (some m), ((initial confirms).run es).clock⟩]) ∧
    (r.state = .cancelled → r.buffer = [] → ∀ later timeout after,
      ReturnsEmpty h timeout ((initial confirms).run (es ++ later)) after) ∧
    ∃ box, mailboxAfter h (initial confirms) none es = some box ∧ box.messages = r.buffer ∧
      (∀ u, ¬ box.FindsClosed u) ∧
      ∀ t others now, r.takers = t :: others →
        (box.poll r.state.isCancelled now t.patience).2 = (r.take now).2 := by
  refine ⟨fun e f timeout => found_of_returned there, ?_, ?_, r.mailbox, ?_, rfl, ?_, ?_⟩
  · exact fun t others m rest => returned_of_first (inLine_run confirms es h) there
  · intro ended empty later timeout after
    refine returnsEmpty_of_drained ?_ after
    rw [run_append]
    exact Drained.run ⟨r, there, ended, empty⟩ later
  · have follows := mailboxAfter_eq h (initial confirms) es
    rwa [there] at follows
  · intro u
    rw [Mailbox.findsClosed_iff]
    cases u with
    | post m => exact nofun
    | poll ended now patience => exact fun closed => Nat.one_ne_zero closed.2
  · intro t others now first
    rw [Receiver.poll_eq_take first]

/-- One call waits for some time and another one stands in line behind it, without a message. -/
def twoInLine : List Event :=
  [.addReceiver ⟨"orders"⟩ ⟨"clerk"⟩ (standardConverter 100) none {}, .call (.receive 0 (.after 5)),
    .step 0, .step 0, .call (.receive 0 .never), .step 1, .pass 5]

/-- The time of the first call is over, and the consumer ends while the second one waits. -/
def endedWhileWaiting : List Event :=
  twoInLine ++ [.step 0, .step 1, .cancelOk 0 ⟨"clerk"⟩]

theorem receive_result_endedWhileWaiting :
    (∃ r, ((initial true).run twoInLine).receiver? 0 = some r ∧
      Found true twoInLine (.step 0) 0 r (.after 5) ⟨0, .message none, 5⟩) ∧
    (∃ r, ((initial true).run endedWhileWaiting).receiver? 0 = some r ∧ r.state = .cancelled ∧
      Found true endedWhileWaiting (.step 1) 0 r .never ⟨1, .message none, 5⟩ ∧
      ReturnsEmpty 0 .never ((initial true).run (endedWhileWaiting ++ [])) [.step 1, .step 2, .step 2]) := by
  refine ⟨⟨_, rfl, ?_⟩, ⟨_, rfl, rfl, ?_, ?_⟩⟩
  · exact (receive_result true twoInLine 0 rfl).1 (.step 0) _ _ (List.mem_singleton.mpr rfl)
      ⟨twoInLine.take 1, _, rfl, rfl⟩
  · exact (receive_result true endedWhileWaiting 0 rfl).1 (.step 1) _ _ (List.mem_singleton.mpr rfl)
      ⟨twoInLine.take 4, _, rfl, rfl⟩
  · exact (receive_result true endedWhileWaiting 0 rfl).2.2.1 rfl rfl [] _ _

end Intake.Session
