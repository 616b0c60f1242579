import Intake.Proofs.Receiver.Confirmation

/-!
# Calls to cancel

However many calls to cancel a consumer there are, and whatever becomes of them, the consumer asks
for its end once, with the first of them. The main statement is `cancel_protocol`: it says what a
call that returns has found, by what it returns, and that the consumer has ended then.
-/
namespace Intake

namespace Receiver

/-! ### The command that asks for the end -/

/-- The cancel that the consumer tries to send. -/
def tried (r : Receiver) : Happening → List Command
  | .cancel .. => r.cancellation?.toList
  | _ => []

/-- The call to cancel that begins. -/
def begun (_ : Receiver) : Happening → List TaskId
  | .cancel call _ _ => [call]
  | _ => []

theorem keep_cancelling (r : Receiver) (d : Delivery) :
    (r.keep d).cancelIssued = r.cancelIssued ∧ (r.keep d).cancels = r.cancels := by
  unfold keep
  simp only
  split <;> exact ⟨rfl, rfl⟩

theorem deliver_cancelling (r : Receiver) (d : Delivery) (answer : Except TransportError Unit) :
    (r.deliver d answer).1.cancelIssued = r.cancelIssued ∧
      (r.deliver d answer).1.cancels = r.cancels := by
  unfold deliver
  split
  · exact r.keep_cancelling d
  · cases answer <;> exact r.keep_cancelling d

theorem take_cancelling (r : Receiver) (now : Nat) :
    (r.take now).1.cancelIssued = r.cancelIssued ∧ (r.take now).1.cancels = r.cancels := by
  unfold take
  split
  · exact ⟨rfl, rfl⟩
  · split
    · exact ⟨rfl, rfl⟩
    · split <;> exact ⟨rfl, rfl⟩

theorem awaitEnd_cancelIssued (r : Receiver) (call : TaskId) (now : Nat) :
    (r.awaitEnd call now).1.cancelIssued = r.cancelIssued := by
  unfold awaitEnd
  split
  · rfl
  · split <;> rfl

theorem cancel_cancelIssued (r : Receiver) (call : TaskId) (now : Nat)
    (answer : Except TransportError Unit) :
    (r.cancel call now answer).1.cancelIssued = true := by
  unfold cancel
  split
  · next issued =>
    split
    · exact issued
    · rw [awaitEnd_cancelIssued, issued]
  · cases answer with
    | error e => rfl
    | ok u => exact awaitEnd_cancelIssued ..

/-- The end of a consumer has been asked for once a call to cancel has begun. -/
theorem react_cancelIssued (r : Receiver) (x : Happening) :
    (r.react x).cancelIssued = true ↔ r.cancelIssued = true ∨ r.begun x ≠ [] := by
  cases x with
  | cancel call now answer => simp [react, cancel_cancelIssued, begun]
  | delivery d now answer => simp [react, deliver_cancelling, begun]
  | take now => simp [react, take_cancelling, begun]
  | resume call =>
    have unchanged : (r.resume call).1.cancelIssued = r.cancelIssued := by
      unfold resume
      simp only
      split <;> rfl
    simp [react, unchanged, begun]
  | _ => simp [react, markCancelled, receive, drop, begun]

theorem live_cancelIssued (r : Receiver) (life : List Happening) :
    (r.live life).cancelIssued = true ↔ r.cancelIssued = true ∨ history begun r life ≠ [] := by
  induction life generalizing r with
  | nil => simp [history]
  | cons x life ih =>
    rw [live_cons, ih, react_cancelIssued, history, ne_eq, ne_eq, ne_eq, List.append_eq_nil_iff]
    tauto

theorem tag_react (r : Receiver) (x : Happening) : (r.react x).tag = r.tag :=
  congrArg (·.2.1) (r.react_settings x)

/-- Over a life, one cancel is tried if a call to cancel begins, and none if it was asked for
before. -/
theorem history_tried (r : Receiver) (life : List Happening) :
    history tried r life =
      if r.cancelIssued = true ∨ history begun r life = [] then [] else [.cancel r.tag] := by
  induction life generalizing r with
  | nil => simp [history]
  | cons x life ih =>
    have issues := r.react_cancelIssued x
    rw [history, history, ih, tag_react]
    by_cases begins : r.begun x = []
    · have nothing : r.tried x = [] := by
        cases x with
        | cancel call now answer => cases begins
        | _ => rfl
      simp only [issues, begins, nothing, List.nil_append, ne_eq, not_true, or_false]
    · -- The first call asks, and nothing that comes later does.
      cases x with
      | cancel call now answer =>
        cases issued : r.cancelIssued <;> simp [issues, begun, tried, cancellation?, issued]
      | _ => exact absurd rfl begins

/-! ### What calls find -/

/-- What a call to cancel with some result has found: it fails only if it is the first and its
command fails, it finds that the consumer was cancelled before only if it is not the first, and
otherwise it tells the state of the consumer. -/
def Finds (r : Receiver) (answer : Except TransportError Unit) :
    Except ConsumerError CancelOutcome → Prop
  | .error error => r.cancelIssued = false ∧ ∃ e, answer = .error e ∧ error = .transport e
  | .ok .alreadyCancelled => r.cancelIssued = true ∧ r.state = .cancelled
  | .ok .timedOut => r.state ≠ .cancelled ∧ r.config.cancelTimeout = 0
  | .ok .confirmed => r.state = .cancelled

theorem awaitEnd_result {r : Receiver} {call : TaskId} {now : Nat}
    {result : Except ConsumerError CancelOutcome} (returns : (r.awaitEnd call now).2 = some result) :
    (r.awaitEnd call now).1.state = .cancelled ∧
      (result = .ok .confirmed ∧ r.state = .cancelled ∨
        result = .ok .timedOut ∧ r.state ≠ .cancelled ∧ r.config.cancelTimeout = 0) := by
  unfold awaitEnd at returns ⊢
  by_cases ended : r.state = .cancelled
  · rw [if_pos (isCancelled_iff.mpr ended)] at returns ⊢
    exact ⟨ended, .inl ⟨(Option.some.inj returns).symm, ended⟩⟩
  · rw [if_neg fun c => ended (isCancelled_iff.mp c)] at returns ⊢
    split at returns
    · next hurried =>
      rw [if_pos hurried]
      exact ⟨rfl, .inr ⟨(Option.some.inj returns).symm, ended, hurried⟩⟩
    · cases returns

/-- What a call to cancel has found that returns as it begins. -/
theorem cancel_result {r : Receiver} {call : TaskId} {now : Nat}
    {answer : Except TransportError Unit} {result : Except ConsumerError CancelOutcome}
    (returns : (r.cancel call now answer).2 = some result) :
    (r.cancel call now answer).1.state = .cancelled ∧ r.Finds answer result := by
  unfold cancel at returns ⊢
  by_cases issued : r.cancelIssued = true
  · rw [if_pos issued] at returns ⊢
    by_cases ended : r.state = .cancelled
    · rw [if_pos (isCancelled_iff.mpr ended)] at returns ⊢
      cases returns
      exact ⟨ended, issued, ended⟩
    · rw [if_neg fun c => ended (isCancelled_iff.mp c)] at returns ⊢
      obtain ⟨late, ⟨rfl, found⟩ | ⟨rfl, found⟩⟩ := awaitEnd_result returns
      · exact ⟨late, found⟩
      · exact ⟨late, found⟩
  · rw [if_neg issued] at returns ⊢
    cases answer with
    | error e =>
      cases returns
      exact ⟨rfl, Bool.eq_false_iff.mpr issued, e, rfl, rfl⟩
    | ok u =>
      obtain ⟨late, ⟨rfl, found⟩ | ⟨rfl, found, hurried⟩⟩ := awaitEnd_result returns
      · exact ⟨late, requestCancel_eq_cancelled.mp found⟩
      · exact ⟨late, fun ended => found (requestCancel_eq_cancelled.mpr ended), hurried⟩

/-- What a call to cancel has found that returns after it has waited. -/
theorem resume_result (r : Receiver) (call : TaskId) :
    (r.resume call).1.state = .cancelled ∧
      ((r.resume call).2 = .confirmed ∧ r.state = .cancelled ∨
        (r.resume call).2 = .timedOut ∧ r.state ≠ .cancelled) := by
  unfold resume
  by_cases ended : r.state = .cancelled
  · rw [if_pos (isCancelled_iff.mpr ended)]
    exact ⟨ended, .inl ⟨rfl, ended⟩⟩
  · rw [if_neg fun c => ended (isCancelled_iff.mp c)]
    exact ⟨rfl, .inr ⟨rfl, ended⟩⟩

theorem awaitEnd_cancels (r : Receiver) (call : TaskId) (now : Nat) :
    (r.awaitEnd call now).1.cancels =
      match (r.awaitEnd call now).2 with
      | none => r.cancels ++ [(call, now + r.config.cancelTimeout)]
      | some _ => r.cancels := by
  unfold awaitEnd
  split
  · rfl
  · split <;> rfl

/-- A call to cancel that does not return as it begins is put down with its deadline. -/
theorem cancel_cancels (r : Receiver) (call : TaskId) (now : Nat)
    (answer : Except TransportError Unit) :
    (r.cancel call now answer).1.cancels =
      match (r.cancel call now answer).2 with
      | none => r.cancels ++ [(call, now + r.config.cancelTimeout)]
      | some _ => r.cancels := by
  unfold cancel
  split
  · split
    · rfl
    · exact r.awaitEnd_cancels call now
  · cases answer with
    | error e => rfl
    | ok u =>
      exact awaitEnd_cancels { r with cancelIssued := true, state := r.state.requestCancel } call now

/-- A call to cancel that waits has begun to when its deadline was the timeout away. -/
theorem mem_cancels_react {r : Receiver} {x : Happening} {call : TaskId} {deadline : Nat}
    (waits : (call, deadline) ∈ (r.react x).cancels) :
    (call, deadline) ∈ r.cancels ∨
      ∃ now answer, x = .cancel call now answer ∧ deadline = now + r.config.cancelTimeout := by
  cases x with
  | cancel call' now answer =>
    rw [react, cancel_cancels] at waits
    split at waits
    · rcases List.mem_append.mp waits with old | new
      · exact .inl old
      · cases List.mem_singleton.mp new
        exact .inr ⟨now, answer, rfl, rfl⟩
    · exact .inl waits
  | delivery d now answer =>
    rw [react, (r.deliver_cancelling d answer).2] at waits
    exact .inl waits
  | take now =>
    rw [react, (r.take_cancelling now).2] at waits
    exact .inl waits
  | resume call' =>
    simp only [react, resume] at waits
    split at waits <;> exact .inl (List.mem_filter.mp waits).1
  | drop call' => exact .inl (List.mem_filter.mp waits).1
  | _ => exact .inl waits

theorem mem_cancels_live {r : Receiver} {life : List Happening} {call : TaskId} {deadline : Nat}
    (waits : (call, deadline) ∈ (r.live life).cancels) :
    (call, deadline) ∈ r.cancels ∨
      ∃ now answer, .cancel call now answer ∈ life ∧ deadline = now + r.config.cancelTimeout := by
  induction life generalizing r with
  | nil => exact .inl waits
  | cons x life ih =>
    have same : (r.react x).config = r.config := congrArg (·.2.2.2.2) (r.react_settings x)
    rcases ih waits with old | ⟨now, answer, later, due⟩
    · rcases mem_cancels_react old with old | ⟨now, answer, rfl, due⟩
      · exact .inl old
      · exact .inr ⟨now, answer, List.mem_cons_self, due⟩
    · exact .inr ⟨now, answer, List.mem_cons_of_mem _ later, by rw [due, same]⟩

end Receiver

namespace Session

/-! ### Runs -/

/-- The cancel that a receiving consumer tries to send at an event. -/
def tried (h : HandlerId) (s : Session) (e : Event) : List Command :=
  if (s.receiver? h).isSome then (attempted h s e).toList.filter fun c => c.kind = .cancel else []

/-- The call to cancel a receiving consumer that begins at an event. -/
def begun (h : HandlerId) (s : Session) (e : Event) : List TaskId :=
  match s.acting? e with
  | some (k, .start (.cancel h')) => if h' = h ∧ (s.receiver? h).isSome then [k] else []
  | _ => []

theorem kind_of_settlement? {r : Receiver} {d : Delivery} {c : Command}
    (settles : r.settlement? d = some c) : c.kind ≠ .cancel := by
  unfold Receiver.settlement? at settles
  split at settles <;> cases settles <;> exact nofun

theorem command?_of_cancel {s : Session} {h : HandlerId} {e : Event} {r : Receiver} {k : TaskId}
    (there : s.receiver? h = some r) (acts : s.acting? e = some (k, .start (.cancel h))) :
    s.command? e = r.cancellation? := by
  rw [command?_of_acting acts, taskCommand?, there, Option.bind_some]

theorem agrees_tried (h : HandlerId) : Agrees h (tried h) Receiver.tried := by
  intro s e
  unfold tried
  cases there : s.receiver? h with
  | none => rfl
  | some r =>
    simp only [Option.isSome_some, if_true]
    -- What the consumer tries is a settlement, or its cancel as a call begins.
    cases tries : attempted h s e with
    | none =>
      unfold Receiver.tried
      split
      · next k now answer occurs =>
        have sends := command?_of_cancel there (happening_eq_cancel.mp occurs).1
        cases asks : r.cancellation? with
        | none => rfl
        | some c =>
          rw [asks] at sends
          rw [attempted_eq_some.mpr ⟨by rw [occurs]; exact nofun, sends⟩] at tries
          cases tries
      · rfl
    | some c =>
      rcases attempted_cases there tries with ⟨d, handed, settles⟩ | ⟨k, occurs, asks⟩
      · rw [happening_eq_delivery.mpr ⟨handed, rfl, rfl⟩]
        simp [Receiver.tried, kind_of_settlement? settles]
      · have kind : c.kind = .cancel := by
          unfold Receiver.cancellation? at asks
          split at asks <;> cases asks
          rfl
        rw [occurs]
        simp [Receiver.tried, asks, kind]

theorem agrees_begun (h : HandlerId) : Agrees h (begun h) Receiver.begun := by
  intro s e
  unfold begun
  cases there : s.receiver? h with
  | none => split <;> simp
  | some r =>
    simp only [Option.isSome_some, and_true]
    split
    · next k h' acts =>
      by_cases own : h' = h
      · subst own
        rw [happening_eq_cancel.mpr ⟨acts, rfl, rfl⟩, if_pos rfl]
        rfl
      · rw [happening_of_acting h acts, taskHappening?, concerning, if_neg own, if_neg own]
        rfl
    · next other =>
      unfold Receiver.begun
      split
      · next k now answer occurs =>
        exact absurd (happening_eq_cancel.mp occurs).1 (other k h)
      · rfl

/-- A consumer that has ended stays so. -/
theorem ended_from_then_on {s : Session} {h : HandlerId} {es fs : List Event} {r r' : Receiver}
    (there : (s.run es).receiver? h = some r) (ended : r.state = .cancelled)
    (later : (s.run (es ++ fs)).receiver? h = some r') : r'.state = .cancelled := by
  rw [run_append, receiver?_run fs there] at later
  cases later
  exact (r.live_state _).mpr (.inl ended)

/-- What the answer of a call to cancel tells of the run before it returns at an event: the call
fails only if it is the first and its command fails; it finds that the consumer was cancelled before
only if it is not the first and the consumer has ended; it runs out of time only if its whole
timeout has passed since it began, the consumer going on all the time; and it reports a confirmation
only if the consumer has ended. -/
def Tells (h : HandlerId) (s : Session) (es : List Event) (e : Event) (k : TaskId) (r : Receiver) :
    Answer → Prop
  | .failed error =>
    trace (begun h) s es = [] ∧ begun h (s.run es) e = [k] ∧
      attempted h (s.run es) e = some (.cancel r.tag) ∧
      ∃ failure, (s.run es).answer e = .error failure ∧ error = .transport failure
  | .cancelled .alreadyCancelled =>
    trace (begun h) s es ≠ [] ∧ begun h (s.run es) e = [k] ∧ r.state = .cancelled
  | .cancelled .timedOut =>
    ∃ before start after, es ++ [e] = before ++ start :: after ∧
      begun h (s.run before) start = [k] ∧
      (s.run before).clock + r.config.cancelTimeout ≤ (s.run es).clock ∧
      ∀ past r', past <+: es → (s.run past).receiver? h = some r' → r'.state ≠ .cancelled
  | .cancelled .confirmed => r.state = .cancelled
  | _ => False

theorem begun_eq {s : Session} {h : HandlerId} {e : Event} {r : Receiver} {k : TaskId}
    (there : s.receiver? h = some r) (acts : s.acting? e = some (k, .start (.cancel h))) :
    begun h s e = [k] := by
  unfold begun
  rw [acts, there]
  simp

/-- A call to cancel that is the first is the first of the run. -/
theorem trace_begun_eq_nil_iff {confirms : Bool} {es : List Event} {h : HandlerId} {r : Receiver}
    (there : ((initial confirms).run es).receiver? h = some r) :
    trace (begun h) (initial confirms) es = [] ↔ r.cancelIssued = false := by
  obtain ⟨r₀, new, rfl, seen⟩ := life_of_receiver es (initial_receiver? confirms h) there
  rw [seen _ _ _ (agrees_begun h), ← Bool.not_eq_true, r₀.live_cancelIssued, new.eq.2.2.2.1]
  simp

/-- What a call to cancel tells that returns as it begins. -/
theorem tells_of_start {confirms : Bool} {es : List Event} {h : HandlerId} {r : Receiver}
    (there : ((initial confirms).run es).receiver? h = some r) {e : Event} {k : TaskId}
    (acts : ((initial confirms).run es).acting? e = some (k, .start (.cancel h)))
    {result : Except ConsumerError CancelOutcome}
    (finds : r.Finds (((initial confirms).run es).answer e) result) :
    Tells h (initial confirms) es e k r
      (match result with
        | .ok outcome => .cancelled outcome
        | .error error => .failed error) := by
  have begins := begun_eq there acts
  have first := trace_begun_eq_nil_iff there
  cases result with
  | error error =>
    obtain ⟨unissued, failure, failed, rfl⟩ := finds
    refine ⟨first.mpr unissued, begins, ?_, failure, failed, rfl⟩
    have asks : r.cancellation? = some (.cancel r.tag) := by simp [Receiver.cancellation?, unissued]
    rw [attempted_eq_some, happening_eq_cancel.mpr ⟨acts, rfl, rfl⟩]
    exact ⟨nofun, (command?_of_cancel there acts).trans asks⟩
  | ok outcome =>
    cases outcome with
    | confirmed => exact finds
    | alreadyCancelled =>
      obtain ⟨issued, ended⟩ := finds
      refine ⟨?_, begins, ended⟩
      rw [ne_eq, first, issued]
      exact nofun
    | timedOut =>
      -- A call that does not wait at all has a timeout of no length.
      obtain ⟨going, hurried⟩ := finds
      refine ⟨es, e, [], rfl, begins, ?_, ?_⟩
      · rw [hurried]
        exact Nat.le_refl _
      · rintro past r' ⟨rest, rfl⟩ found ended
        exact going (ended_from_then_on found ended there)

/-- A call to cancel that is put down began in the run, and its deadline is that moment and the
timeout. -/
theorem begun_of_deadline {confirms : Bool} {es : List Event} {h : HandlerId} {r : Receiver}
    (there : ((initial confirms).run es).receiver? h = some r) {k : TaskId} {deadline : Nat}
    (waits : r.cancels.lookup k = some deadline) :
    ∃ before start after, es = before ++ start :: after ∧
      begun h ((initial confirms).run before) start = [k] ∧
      deadline = ((initial confirms).run before).clock + r.config.cancelTimeout := by
  obtain ⟨r₀, new, lived, -⟩ := life_of_receiver es (initial_receiver? confirms h) there
  have same : r.config = r₀.config := by
    rw [lived]
    exact congrArg (·.2.2.2.2) (r₀.live_settings _)
  obtain ⟨front, back, entries, -⟩ := List.lookup_eq_some_iff.mp waits
  have member : (k, deadline) ∈ r.cancels := by simp [entries]
  rw [lived] at member
  rcases Receiver.mem_cancels_live member with old | ⟨now, answer, began, set⟩
  · rw [new.eq.2.2.2.2.2.2] at old
    cases old
  · obtain ⟨past, start, rest, rfl, seen⟩ := (mem_trace _ _ _ _).mp began
    split at seen
    · next known =>
      obtain ⟨r', found⟩ := Option.isSome_iff_exists.mp known
      obtain ⟨starts, rfl, -⟩ := happening_eq_cancel.mp (List.mem_singleton.mp seen).symm
      exact ⟨past, start, rest, rfl, begun_eq found starts, by rw [same, set]⟩
    · cases seen

/-- What a call to cancel tells that returns after it has waited. -/
theorem tells_of_resume {confirms : Bool} {es : List Event} {h : HandlerId} {r : Receiver}
    (there : ((initial confirms).run es).receiver? h = some r) {e : Event} {k : TaskId}
    (acts : ((initial confirms).run es).acting? e = some (k, .cancelling h)) :
    Tells h (initial confirms) es e k r (.cancelled (r.resume k).2) := by
  rcases (r.resume_result k).2 with ⟨confirmed, ended⟩ | ⟨late, going⟩
  · rw [confirmed]
    exact ended
  · rw [late]
    -- The call goes on because its deadline has come, and the deadline was set as it began.
    have able := (acting?_eq_some.mp acts).2.2
    simp only [ready, there, Option.any_some, Receiver.canResume] at able
    split at able
    · next deadline waits =>
      have due : deadline ≤ ((initial confirms).run es).clock := by
        rcases Bool.or_eq_true _ _ ▸ able with ended | due
        · exact absurd (Receiver.isCancelled_iff.mp ended) going
        · exact of_decide_eq_true due
      obtain ⟨before, start, after, split, begins, set⟩ := begun_of_deadline there waits
      refine ⟨before, start, after ++ [e], by rw [split]; simp, begins, set ▸ due, ?_⟩
      rintro past r' ⟨rest, split⟩ found ended
      exact going (ended_from_then_on found ended (split ▸ there))
    · cases able

/-- A call to cancel that begins leaves the buffer alone, and if it returns at once the consumer has
ended. -/
theorem returned_of_start {confirms : Bool} {es : List Event} {h : HandlerId} {r : Receiver}
    (there : ((initial confirms).run es).receiver? h = some r) {e : Event} {k : TaskId}
    (acts : ((initial confirms).run es).acting? e = some (k, .start (.cancel h))) :
    (r.react (((initial confirms).run es).happening h e)).buffer = r.buffer ∧
      ∀ f ∈ ((initial confirms).run es).returned e,
        (r.react (((initial confirms).run es).happening h e)).state = .cancelled ∧
          Tells h (initial confirms) es e k r f.answer := by
  rw [happening_eq_cancel.mpr ⟨acts, rfl, rfl⟩]
  refine ⟨(r.cancel_frame _ _ _).2, ?_⟩
  intro f member
  rw [returned_of_acting acts] at member
  simp only [fate, there] at member
  cases returns : (r.cancel k ((initial confirms).run es).clock
      (((initial confirms).run es).answer e)).2 with
  | none =>
    rw [returns] at member
    cases member
  | some result =>
    obtain ⟨ended, finds⟩ := Receiver.cancel_result returns
    have tells := tells_of_start there acts finds
    rw [returns] at member
    cases result with
    | error error =>
      cases List.mem_singleton.mp member
      exact ⟨ended, tells⟩
    | ok outcome =>
      cases List.mem_singleton.mp member
      exact ⟨ended, tells⟩

/-- A call to cancel that goes on leaves the buffer alone and returns when the consumer has ended. -/
theorem returned_of_resume {confirms : Bool} {es : List Event} {h : HandlerId} {r : Receiver}
    (there : ((initial confirms).run es).receiver? h = some r) {e : Event} {k : TaskId}
    (acts : ((initial confirms).run es).acting? e = some (k, .cancelling h)) :
    (r.react (((initial confirms).run es).happening h e)).buffer = r.buffer ∧
      ∀ f ∈ ((initial confirms).run es).returned e,
        (r.react (((initial confirms).run es).happening h e)).state = .cancelled ∧
          Tells h (initial confirms) es e k r f.answer := by
  rw [happening_eq_resume.mpr acts]
  refine ⟨(r.resume_frame k).2, ?_⟩
  intro f member
  rw [returned_of_acting acts] at member
  simp only [fate, there] at member
  cases List.mem_singleton.mp member
  exact ⟨(r.resume_result k).1, tells_of_resume there acts⟩

/-- A call that cannot run does nothing to a consumer, and giving it up leaves the buffer alone. -/
theorem buffer_of_idle {s : Session} {e : Event} {k : TaskId} (event : e = .step k ∨ e = .drop k)
    (idle : s.acting? e = none) (h : HandlerId) (r : Receiver) :
    (r.react (s.happening h e)).buffer = r.buffer := by
  rcases event with rfl | rfl
  · have nothing : s.happening h (.step k) = .nothing := by
      change concerning h (happening? _ (.step k)) = _
      rw [happening?, idle]
      rfl
    rw [nothing]
    rfl
  · simp only [happening]
    split <;> rfl

/-- **Cancel protocol**: in every run a receiving consumer tries to send one cancel if a call to
cancel has begun, and none otherwise. Nothing that a call to cancel does changes the buffer, and
giving it up does not either. When a call returns the consumer has ended, and the answer tells what
the call has found. -/
theorem cancel_protocol (confirms : Bool) (es : List Event) (h : HandlerId) {r : Receiver}
    (there : ((initial confirms).run es).receiver? h = some r) :
    trace (tried h) (initial confirms) es =
      (if trace (begun h) (initial confirms) es = [] then [] else [.cancel r.tag]) ∧
    ∀ e k t, ((initial confirms).run es).task? k = some t → cancels? t = some h →
      e = .step k ∨ e = .drop k →
      ∃ r', (((initial confirms).run es).apply e).receiver? h = some r' ∧ r'.buffer = r.buffer ∧
        ∀ f ∈ ((initial confirms).run es).returned e, f.task = k ∧ r'.state = .cancelled ∧
          Tells h (initial confirms) es e k r f.answer := by
  constructor
  · obtain ⟨r₀, new, rfl, seen⟩ := life_of_receiver es (initial_receiver? confirms h) there
    have same : (r₀.live (life h (initial confirms) es)).tag = r₀.tag :=
      congrArg (·.2.1) (r₀.live_settings _)
    rw [seen _ _ _ (agrees_tried h), seen _ _ _ (agrees_begun h), r₀.history_tried, same,
      new.eq.2.2.2.1]
    simp
  · intro e k t task cancels event
    refine ⟨_, receiver?_apply e there, ?_⟩
    cases acts : ((initial confirms).run es).acting? e with
    | none =>
      refine ⟨buffer_of_idle event acts h r, ?_⟩
      intro f member
      rw [returned_of_idle acts] at member
      cases member
    | some a =>
      obtain ⟨j, u⟩ := a
      obtain ⟨rfl, found, -⟩ := acting?_eq_some.mp acts
      have own : j = k := by
        rcases event with same | no
        · exact Event.step.inj same
        · cases no
      subst own
      rw [task] at found
      cases found
      have at_call {f : Finished} (member : f ∈ ((initial confirms).run es).returned (.step j)) :
          f.task = j := by
        obtain ⟨t', acts'⟩ := acting?_of_returned member
        rw [acts] at acts'
        exact (congrArg Prod.fst (Option.some.inj acts')).symm
      rcases cancels?_eq_some.mp cancels with rfl | rfl
      · obtain ⟨buffer, tells⟩ := returned_of_start there acts
        exact ⟨buffer, fun f member => ⟨at_call member, tells f member⟩⟩
      · obtain ⟨buffer, tells⟩ := returned_of_resume there acts
        exact ⟨buffer, fun f member => ⟨at_call member, tells f member⟩⟩

/-- Two calls to cancel wait at once, and nobody confirms. -/
def twoCallers : List Event :=
  [.addReceiver ⟨"orders"⟩ ⟨"clerk"⟩ (standardConverter 100) none {}, .call (.cancel 0), .step 0,
    .pass 5, .call (.cancel 0), .step 1, .pass (Duration.ofMillis 1000)]

theorem cancel_protocol_twoCallers :
    ∃ r, ((initial false).run twoCallers).receiver? 0 = some r ∧
      trace (tried 0) (initial false) twoCallers = [.cancel ⟨"clerk"⟩] ∧
      ((initial false).run twoCallers).returned (.step 1) =
        [⟨1, .cancelled .timedOut, 1000000005⟩] ∧
      Tells 0 (initial false) twoCallers (.step 1) 1 r (.cancelled .timedOut) := by
  refine ⟨_, rfl, (cancel_protocol false twoCallers 0 rfl).1, rfl, ?_⟩
  obtain ⟨r', -, -, tells⟩ :=
    (cancel_protocol false twoCallers 0 rfl).2 (.step 1) 1 (.cancelling 0) rfl rfl (.inl rfl)
  exact (tells ⟨1, .cancelled .timedOut, 1000000005⟩ (List.mem_singleton.mpr rfl)).2.2

end Session
end Intake
