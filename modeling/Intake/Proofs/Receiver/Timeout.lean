import Intake.Proofs.Receiver.Cancellation
import Intake.Proofs.Session.Calls
import Mathlib.Algebra.Group.Nat.Defs

/-!
# Timeouts of calls to cancel

A call to cancel that waits gives up as soon as its timeout has passed since it began, and not before
(`givesUp_iff`). The settings keep the low sixty-four bits of the milliseconds that are asked for, so
that a call waits as long as it was asked to only if these are all of them. The main statement is
`never_early_iff`.
-/
namespace Intake

theorem Duration.ofMillis_le_ofMillis {m n : Nat} : ofMillis m ≤ ofMillis n ↔ m ≤ n :=
  Nat.mul_le_mul_right_iff (by decide)

/-- The timeout that is kept has the low sixty-four bits of the milliseconds. -/
theorem ConsumerConfig.cancelTimeout_withCancelTimeout (c : ConsumerConfig) (d : Duration) :
    (c.withCancelTimeout d).cancelTimeout = .ofMillis (d.wholeMillis % 2 ^ 64) := rfl

/-- A deadline that is put down stays so until the call goes on or is given up. -/
theorem Receiver.lookup_cancels_react {r : Receiver} {x : Happening} {call : TaskId}
    (noted : (r.cancels.lookup call).isSome = true) (waits : x ≠ .resume call)
    (kept : x ≠ .drop call) : ((r.react x).cancels.lookup call).isSome = true := by
  have others {call' : TaskId} (other : call ≠ call') :
      ((r.cancels.filter fun c => c.1 ≠ call').lookup call).isSome = true := by
    rw [Session.lookup_filter_ne, if_neg other, noted]
  cases x with
  | cancel call' now answer =>
    rw [react, cancel_cancels]
    split
    · rw [List.lookup_append, Option.isSome_or, noted, Bool.true_or]
    · exact noted
  | resume call' =>
    have other : call ≠ call' := fun same => waits (by rw [same])
    simp only [react, resume]
    split <;> exact others other
  | drop call' => exact others fun same => kept (by rw [same])
  | delivery d now answer => rw [react, (r.deliver_cancelling d answer).2, noted]
  | take now => rw [react, (r.take_cancelling now).2, noted]
  | _ => exact noted

namespace Session

/-- A consumer has put down a deadline for every call to cancel that waits for its end. -/
def Noted (h : HandlerId) (s : Session) : Prop :=
  ∀ k, s.task? k = some (.cancelling h) →
    ∃ r, s.receiver? h = some r ∧ (r.cancels.lookup k).isSome = true

/-- A call to cancel that a step leaves waiting has begun with it, and is put down. -/
theorem Noted.of_acting {h : HandlerId} {s : Session} (noted : Noted h s) {e : Event} {k : TaskId}
    {t : Task} (acts : s.acting? e = some (k, t))
    (left : (s.fate k (s.answer e) t).task? t = some (.cancelling h)) :
    ∃ r, (s.apply e).receiver? h = some r ∧ (r.cancels.lookup k).isSome = true := by
  cases turns_of_fate left with
  | plain plain _ =>
    cases follows_of_fate left plain with
    | cancels =>
      simp only [fate] at left
      split at left
      · next r there =>
        split at left
        · next unfinished =>
          refine ⟨_, receiver?_apply e there, ?_⟩
          rw [happening_eq_cancel.mpr ⟨acts, rfl, rfl⟩, Receiver.react, Receiver.cancel_cancels,
            unfinished, List.lookup_append, Option.isSome_or, List.lookup_cons_self]
          exact Bool.or_true _
        · cases left
        · cases left
      · cases left
    | cancelling =>
      -- A call that goes on is over.
      obtain ⟨r, there, -⟩ := noted k (acting?_eq_some.mp acts).2.1
      simp only [fate, there] at left
      cases left

theorem Noted.apply {h : HandlerId} {s : Session} (numbered : s.Numbered) (noted : Noted h s)
    (e : Event) : Noted h (s.apply e) := by
  intro k waits
  by_cases acted : ∃ t, s.acting? e = some (k, t)
  · obtain ⟨t, acts⟩ := acted
    rw [task?_of_acting numbered acts] at waits
    exact noted.of_acting acts waits
  · rw [task?_apply numbered, Option.or_eq_some_iff] at waits
    rcases waits with old | ⟨-, new⟩
    · rcases survivor?_cases old with ⟨t, acts, -⟩ | same
      · exact absurd ⟨t, acts⟩ acted
      · -- A call that takes no step keeps its deadline until it is given up, and then it is gone.
        obtain ⟨r, there, found⟩ := noted k same
        refine ⟨_, receiver?_apply e there, Receiver.lookup_cancels_react found ?_ ?_⟩
        · intro occurs
          exact acted ⟨_, happening_eq_resume.mp occurs⟩
        · intro occurs
          obtain ⟨rfl, -⟩ := happening_eq_drop.mp occurs
          simp [survivor?, acting?, same, isCall] at old
    · -- No task is there from the beginning of its wait.
      split at new
      · rcases born?_cases new with ⟨c, -, no⟩ | ⟨queue, tag, i, -, no⟩ | ⟨tag, i, -, -, no⟩ <;>
          cases no
      · cases new

theorem noted_run (confirms : Bool) (es : List Event) (h : HandlerId) :
    Noted h ((initial confirms).run es) := by
  induction es using List.reverseRecOn with
  | nil => exact fun k waits => by cases waits
  | append_singleton es e ih =>
    rw [run_concat]
    exact ih.apply (orderly_run confirms es).numbered e

/-! ### Calls that give up -/

/-- A call to cancel a consumer gives up at an event, because its time is over. -/
def GivesUp (h : HandlerId) (s : Session) (e : Event) (k : TaskId) : Prop :=
  (s.acting? e).bind (fun a => cancels? a.2) = some h ∧
    ⟨k, .cancelled .timedOut, s.clock⟩ ∈ s.returned e

section GivesUp

variable {h : HandlerId} {s : Session} {e : Event} {k : TaskId} {r : Receiver}

theorem GivesUp.acting? (gives_up : GivesUp h s e k) :
    s.acting? e = some (k, .start (.cancel h)) ∨ s.acting? e = some (k, .cancelling h) := by
  obtain ⟨own, returns⟩ := gives_up
  obtain ⟨t, acts⟩ := acting?_of_returned returns
  rw [acts, Option.bind_some] at own
  rcases cancels?_eq_some.mp own with rfl | rfl
  · exact .inl acts
  · exact .inr acts

/-- A call that begins gives up if it finds the consumer going on and may not wait at all. -/
theorem givesUp_of_start (there : s.receiver? h = some r)
    (acts : s.acting? e = some (k, .start (.cancel h))) :
    GivesUp h s e k ↔ (r.cancel k s.clock (s.answer e)).2 = some (.ok .timedOut) := by
  rw [GivesUp, acts, returned_of_acting acts]
  simp only [fate, there]
  rcases (r.cancel k s.clock (s.answer e)).2 with _ | _ | outcome
  · simp [cancels?, Fate.answer?]
  · simp [cancels?, Fate.answer?]
  · simp [cancels?, Fate.answer?, eq_comm]

theorem givesUp_of_resume (there : s.receiver? h = some r)
    (acts : s.acting? e = some (k, .cancelling h)) : GivesUp h s e k ↔ r.state ≠ .cancelled := by
  rw [GivesUp, acts, returned_of_acting acts]
  simp only [fate, there]
  rcases (r.resume_result k).2 with ⟨confirmed, ended⟩ | ⟨late, going⟩
  · simp [cancels?, Fate.answer?, confirmed, ended]
  · simp [cancels?, Fate.answer?, late, going]

/-- A call that waits while the consumer goes on gives up with its next step once its deadline has
come. -/
theorem givesUp_step_iff {deadline : Nat} (there : s.receiver? h = some r)
    (going : r.state ≠ .cancelled) (waits : s.task? k = some (.cancelling h))
    (noted : r.cancels.lookup k = some deadline) :
    GivesUp h s (.step k) k ↔ deadline ≤ s.clock := by
  have able : s.ready k (.cancelling h) = decide (deadline ≤ s.clock) := by
    have unended : r.state.isCancelled = false :=
      Bool.eq_false_iff.mpr (going ∘ Receiver.isCancelled_iff.mp)
    simp only [ready, there, Option.any_some, Receiver.canResume, noted, unended, Bool.false_or,
      Receiver.expired]
  constructor
  · intro gives_up
    rcases gives_up.acting? with acts | acts
    · have starts := (acting?_eq_some.mp acts).2.1
      rw [waits] at starts
      cases starts
    · have ready := (acting?_eq_some.mp acts).2.2
      rw [able] at ready
      exact of_decide_eq_true ready
  · intro due
    have acts : s.acting? (.step k) = some (k, .cancelling h) :=
      acting?_eq_some.mpr ⟨rfl, waits, by rw [able, decide_eq_true due]⟩
    exact (givesUp_of_resume there acts).mpr going

end GivesUp

section Runs

variable {confirms : Bool} {es : List Event} {h : HandlerId} {k : TaskId} {r : Receiver}

/-- **Deadlines**: a call to cancel that waits while the consumer goes on gives up with its next step
exactly if the timeout has passed since it began. -/
theorem givesUp_iff (there : ((initial confirms).run es).receiver? h = some r)
    (going : r.state ≠ .cancelled)
    (waits : ((initial confirms).run es).task? k = some (.cancelling h)) :
    ∃ before start after, es = before ++ start :: after ∧
      begun h ((initial confirms).run before) start = [k] ∧
      (GivesUp h ((initial confirms).run es) (.step k) k ↔
        ((initial confirms).run before).clock + r.config.cancelTimeout ≤
          ((initial confirms).run es).clock) := by
  obtain ⟨r', there', noted⟩ := noted_run confirms es h k waits
  rw [there] at there'
  cases there'
  obtain ⟨deadline, found⟩ := Option.isSome_iff_exists.mp noted
  obtain ⟨before, start, after, split, begins, set⟩ := begun_of_deadline there found
  exact ⟨before, start, after, split, begins, set ▸ givesUp_step_iff there going waits found⟩

/-- A call to cancel that gives up began its timeout ago, or earlier, and it ends the consumer. -/
theorem begun_of_givesUp (there : ((initial confirms).run es).receiver? h = some r) {e : Event}
    (gives_up : GivesUp h ((initial confirms).run es) e k) :
    r.state ≠ .cancelled ∧
      (r.react (((initial confirms).run es).happening h e)).state = .cancelled ∧
      ∃ before start after, es ++ [e] = before ++ start :: after ∧
        begun h ((initial confirms).run before) start = [k] ∧
        ((initial confirms).run before).clock + r.config.cancelTimeout ≤
          ((initial confirms).run es).clock := by
  have told : (r.react (((initial confirms).run es).happening h e)).state = .cancelled ∧
      Tells h (initial confirms) es e k r (.cancelled .timedOut) := by
    rcases gives_up.acting? with acts | acts
    · exact (returned_of_start there acts).2 _ gives_up.2
    · exact (returned_of_resume there acts).2 _ gives_up.2
  obtain ⟨ended, before, start, after, split, begins, due, going⟩ := told
  exact ⟨going es r (List.prefix_refl es) there, ended, before, start, after, split, begins, due⟩

end Runs

/-! ### Timeouts that are asked for -/

/-- No call to cancel a consumer that is made with a timeout gives up before so much time has passed
since it began. -/
def NeverBefore (confirms : Bool) (timeout wait : Duration) : Prop :=
  ∀ es e h r k base, ((initial confirms).run es).receiver? h = some r →
    r.config = ConsumerConfig.withCancelTimeout base timeout →
    GivesUp h ((initial confirms).run es) e k →
    ∃ before start after, es ++ [e] = before ++ start :: after ∧
      begun h ((initial confirms).run before) start = [k] ∧
      ((initial confirms).run before).clock + wait ≤ ((initial confirms).run es).clock

/-- A call that waits while the consumer goes on gives up once the time to its deadline has passed. -/
theorem givesUp_of_pass {s : Session} {h : HandlerId} {k : TaskId} {r : Receiver} {d : Duration}
    (there : s.receiver? h = some r) (going : r.state ≠ .cancelled)
    (waits : s.task? k = some (.cancelling h))
    (noted : r.cancels.lookup k = some (s.clock + d)) : GivesUp h (s.apply (.pass d)) (.step k) k := by
  have still_there : (s.apply (.pass d)).receiver? h = some r := there
  have still_waits : (s.apply (.pass d)).task? k = some (.cancelling h) := waits
  have due : (s.apply (.pass d)).clock = s.clock + d := s.clock_apply (.pass d)
  exact (givesUp_step_iff still_there going still_waits noted).mpr (Nat.le_of_eq due.symm)

/-- The first call to cancel a new consumer gives up as soon as its timeout has passed, if nothing
else happens. -/
theorem givesUp_of_first {s : Session} (numbered : s.Numbered) {h : HandlerId} {k : TaskId}
    {r : Receiver} (there : s.receiver? h = some r) (new : r.IsNew)
    (acts : s.acting? (.step k) = some (k, .start (.cancel h)))
    (taken : s.answer (.step k) = .ok ()) :
    ∃ fs, GivesUp h (s.run fs) (.step k) k ∧ (s.run fs).clock = s.clock + r.config.cancelTimeout := by
  obtain ⟨-, -, active, unissued, -, -, unnoted⟩ := new.eq
  have requested : r.state.requestCancel = .cancelRequested := by rw [active]; rfl
  have going : ConsumerState.cancelRequested.isCancelled = false := rfl
  by_cases hurried : r.config.cancelTimeout = 0
  · -- A call that may not wait is not put down with a deadline.
    have late : (r.cancel k s.clock (.ok ())).2 = some (.ok .timedOut) := by
      simp [Receiver.cancel, Receiver.awaitEnd, unissued, requested, going, hurried]
    refine ⟨[], (givesUp_of_start there acts).mpr (by rw [taken, late]), ?_⟩
    rw [hurried]
    rfl
  · have waits : r.cancel k s.clock (.ok ()) =
        ({ r with
            cancelIssued := true, state := .cancelRequested
            cancels := [(k, s.clock + r.config.cancelTimeout)] }, none) := by
      simp [Receiver.cancel, Receiver.awaitEnd, unissued, requested, going, hurried, unnoted]
    have put_down : (s.apply (.step k)).receiver? h = some (r.cancel k s.clock (.ok ())).1 := by
      rw [receiver?_apply _ there, happening_eq_cancel.mpr ⟨acts, rfl, taken.symm⟩, Receiver.react]
    have left : (s.apply (.step k)).task? k = some (.cancelling h) := by
      rw [task?_of_acting numbered acts, taken]
      simp only [fate, there, waits]
      rfl
    have began : (s.apply (.step k)).clock = s.clock := s.clock_apply (.step k)
    rw [waits] at put_down
    refine ⟨[.step k, .pass r.config.cancelTimeout], givesUp_of_pass put_down ?_ left ?_, ?_⟩
    · intro ended
      cases ended
    · rw [began]
      exact List.lookup_cons_self
    · rw [run_cons, run_cons, run_nil, clock_apply, began]

/-- A consumer that is made with a timeout, and a call to cancel it. -/
def oneCaller (timeout : Duration) : List Event :=
  [.addReceiver ⟨"orders"⟩ ⟨"clerk"⟩ (standardConverter 100) none
    (ConsumerConfig.withCancelTimeout {} timeout), .call (.cancel 0)]

/-- There is a run in which a call gives up when the timeout that is kept has passed since the run
began. -/
theorem exists_givesUp (confirms : Bool) (timeout : Duration) :
    ∃ es r, ((initial confirms).run es).receiver? 0 = some r ∧
      r.config = ConsumerConfig.withCancelTimeout {} timeout ∧
      GivesUp 0 ((initial confirms).run es) (.step 0) 0 ∧
      ((initial confirms).run es).clock = Duration.ofMillis (timeout.wholeMillis % 2 ^ 64) := by
  have numbered := (orderly_run confirms (oneCaller timeout)).numbered
  obtain ⟨r, there, config, new⟩ : ∃ r,
      ((initial confirms).run (oneCaller timeout)).receiver? 0 = some r ∧
        r.config = ConsumerConfig.withCancelTimeout {} timeout ∧ r.IsNew :=
    ⟨_, rfl, rfl, ⟨"orders"⟩, ⟨"clerk"⟩, standardConverter 100, none,
      ConsumerConfig.withCancelTimeout {} timeout, rfl⟩
  have began : ((initial confirms).run (oneCaller timeout)).clock = 0 := rfl
  have acts : ((initial confirms).run (oneCaller timeout)).acting? (.step 0) =
      some (0, .start (.cancel 0)) := rfl
  have taken : ((initial confirms).run (oneCaller timeout)).answer (.step 0) = .ok () := rfl
  obtain ⟨fs, gives_up, clock⟩ := givesUp_of_first numbered there new acts taken
  rw [← run_append] at gives_up clock
  have still_there := receiver?_run fs there
  rw [← run_append] at still_there
  refine ⟨oneCaller timeout ++ fs, _, still_there, ?_, gives_up, ?_⟩
  · exact (congrArg (·.2.2.2.2) (r.live_settings _)).trans config
  · rw [clock, began, config, ConsumerConfig.cancelTimeout_withCancelTimeout, Nat.zero_add]

/-- Calls wait for the timeout that is kept, and no longer. -/
theorem neverBefore_iff (confirms : Bool) (timeout wait : Duration) :
    NeverBefore confirms timeout wait ↔ wait ≤ Duration.ofMillis (timeout.wholeMillis % 2 ^ 64) := by
  constructor
  · -- The call of `oneCaller` has waited no longer than its run has lasted.
    intro never_before
    obtain ⟨es, r, there, config, gives_up, clock⟩ := exists_givesUp confirms timeout
    obtain ⟨before, start, after, -, -, waited⟩ := never_before es _ 0 r 0 {} there config gives_up
    rw [← clock]
    exact Nat.le_trans (Nat.le_add_left _ _) waited
  · intro short es e h r k base there config gives_up
    obtain ⟨-, -, before, start, after, split, begins, waited⟩ := begun_of_givesUp there gives_up
    rw [config, ConsumerConfig.cancelTimeout_withCancelTimeout] at waited
    exact ⟨before, start, after, split, begins, Nat.le_trans (Nat.add_le_add_left short _) waited⟩

/-- **Early ends**: a call to cancel that gives up ends a consumer that was going on. No such call
gives up before its timeout has passed, in whole milliseconds, exactly if the milliseconds have
sixty-four bits; and among timeouts that have, a longer one never lets a call give up sooner. -/
theorem never_early_iff (confirms : Bool) (timeout : Duration) :
    (∀ es e h r k, ((initial confirms).run es).receiver? h = some r →
      GivesUp h ((initial confirms).run es) e k → r.state ≠ .cancelled ∧
        ∃ r', (((initial confirms).run es).apply e).receiver? h = some r' ∧
          r'.state = .cancelled) ∧
    (NeverBefore confirms timeout (Duration.ofMillis timeout.wholeMillis) ↔
      timeout.wholeMillis < 2 ^ 64) ∧
    ∀ longer, timeout ≤ longer → longer.wholeMillis < 2 ^ 64 →
      ∀ wait, NeverBefore confirms timeout wait → NeverBefore confirms longer wait := by
  refine ⟨?_, ?_, ?_⟩
  · intro es e h r k there gives_up
    obtain ⟨going, ended, -⟩ := begun_of_givesUp there gives_up
    exact ⟨going, _, receiver?_apply e there, ended⟩
  · rw [neverBefore_iff, Duration.ofMillis_le_ofMillis]
    constructor
    · intro kept
      exact Nat.lt_of_le_of_lt kept (Nat.mod_lt _ (Nat.two_pow_pos 64))
    · intro fits
      exact Nat.le_of_eq (Nat.mod_eq_of_lt fits).symm
  · intro longer long fits wait never_before
    have more : timeout.wholeMillis ≤ longer.wholeMillis := Nat.div_le_div_right long
    rw [neverBefore_iff] at never_before ⊢
    rw [Nat.mod_eq_of_lt (Nat.lt_of_le_of_lt more fits)] at never_before
    rw [Nat.mod_eq_of_lt fits]
    exact Nat.le_trans never_before (Duration.ofMillis_le_ofMillis.mpr more)

/-- A second is waited for with a timeout of a second, and with one of an hour; the second of two
calls that wait at once gives up when its own second is over. -/
theorem never_early_iff_twoCallers :
    NeverBefore false (Duration.ofMillis 3600000) (Duration.ofMillis 1000) ∧
    GivesUp 0 ((initial false).run twoCallers) (.step 1) 1 ∧
    (∃ r, (((initial false).run twoCallers).apply (.step 1)).receiver? 0 = some r ∧
      r.state = .cancelled) ∧
    ∃ before start after, twoCallers ++ [.step 1] = before ++ start :: after ∧
      begun 0 ((initial false).run before) start = [1] ∧
      ((initial false).run before).clock + 1000000000 ≤ ((initial false).run twoCallers).clock := by
  obtain ⟨ends, waits, longer⟩ := never_early_iff false (Duration.ofMillis 1000)
  have second : NeverBefore false (Duration.ofMillis 1000) (Duration.ofMillis 1000) :=
    waits.mpr (by decide)
  have gives_up : GivesUp 0 ((initial false).run twoCallers) (.step 1) 1 :=
    ⟨rfl, List.mem_singleton.mpr rfl⟩
  exact ⟨longer _ (by decide) (by decide) _ second, gives_up, (ends _ _ 0 _ 1 rfl gives_up).2,
    second _ _ 0 _ 1 {} rfl rfl gives_up⟩

/-- A duration of two to the sixty-fourth milliseconds is one of those there are, and with it as the
timeout a call gives up at once. -/
theorem given_up_at_once :
    Duration.ofMillis (2 ^ 64) ≤ Duration.ofParts (2 ^ 64 - 1) 999999999 ∧
    ((initial false).run (oneCaller (Duration.ofMillis (2 ^ 64)))).clock = 0 ∧
    GivesUp 0 ((initial false).run (oneCaller (Duration.ofMillis (2 ^ 64)))) (.step 0) 0 ∧
    ¬ NeverBefore false (Duration.ofMillis (2 ^ 64)) (Duration.ofMillis (2 ^ 64)) := by
  refine ⟨by decide, rfl, ⟨rfl, List.mem_singleton.mpr rfl⟩, ?_⟩
  rw [neverBefore_iff]
  decide

end Session
end Intake
