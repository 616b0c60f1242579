import Intake.Proofs.Browser.Footprint

/-!
# What a scan leaves behind

Once its command to consume is taken, a scan sends nothing but the cancel of its consumer. As long as
it waits, the cancel has been sent exactly if nothing is missing (`Started.issued_iff`), so that the
outcome tells when it is sent: with the last message, with the return, or never. In all three cases
the registration has lost its tag when the scan returns, if the channel confirms cancels
(`Returning.leaves`).
-/
namespace Intake.Session

/-- A consumer gets at an event the last message that was missing. -/
def Completes (h : HandlerId) (s : Session) (e : Event) : Prop :=
  ∃ b, s.browser? h = some b ∧ b.remaining ≠ 0 ∧ (b.react (s.happening h e)).remaining = 0

section Taken

variable {scan : Scan} {s : Session}

theorem Underway.footprint_eq {given : List Delivery} (underway : Underway scan s given)
    (e : Event) : footprint scan.call scan.consumer s e = granted scan.consumer s e := by
  obtain ⟨b, there, -⟩ := underway.browser
  refine footprint_eq_granted there fun u acts => ?_
  rcases underway.call with waits | gone
  · have itself := (acting?_eq_some.mp acts).2.1
    rw [waits] at itself
    cases itself
    rw [happening_of_acting scan.consumer acts, taskHappening?, concerning, if_pos rfl]
    rfl
  · exact absurd acts (not_acting_of_gone gone e u)

theorem Underway.trace_footprint (underway : Underway scan s []) (es : List Event)
    (apart : Apart scan.consumer es) :
    trace (footprint scan.call scan.consumer) s es = trace (granted scan.consumer) s es := by
  refine trace_congr_run fun before e after split => ?_
  subst split
  exact (underway.run before (apart_append.mp apart).1).footprint_eq e

/-- As long as a scan waits, its consumer has asked for its end exactly when nothing is missing. -/
theorem Started.issued_iff (started : Started scan s) (some_wanted : scan.expected ≠ 0)
    (es : List Event) (apart : Apart scan.consumer es) (waits : Waiting scan (s.run es))
    {b : Browser} (there : (s.run es).browser? scan.consumer = some b) :
    b.cancelIssued = true ↔ b.remaining = 0 := by
  induction es using List.reverseRecOn generalizing b with
  | nil =>
    obtain ⟨b₀, known, tag, converter, expected, selector, rfl⟩ := started.new
    obtain ⟨b₁, known', settings⟩ := started.underway.browser
    rw [known] at known'
    cases known'
    rw [run_nil, known] at there
    cases there
    -- A new consumer has asked for nothing, and all its messages are missing.
    have wanted : expected = scan.expected := congrArg (·.2.2.2) settings
    exact iff_of_false nofun (wanted ▸ some_wanted)
  | append_singleton es e ih =>
    obtain ⟨earlier, now⟩ := apart_concat.mp apart
    have before := started.underway.run es earlier
    rw [run_concat] at waits there
    obtain ⟨waited, others⟩ := before.waits_of_apply waits
    obtain ⟨b₀, known, -⟩ := before.browser
    rw [browser?_apply e known] at there
    cases there
    exact Browser.react_spent (ih earlier waited known) (before.secluded.unasked now others)

/-- Once a scan has returned, its consumer sends nothing if it has asked for its end or has ended. -/
theorem Underway.unrequested_run {given : List Delivery} (underway : Underway scan s given)
    (gone : s.task? scan.call = none) {b : Browser} (there : s.browser? scan.consumer = some b)
    (settled : b.cancelIssued = true ∨ b.state = .cancelled) (es : List Event)
    (apart : Apart scan.consumer es) : trace (requested scan.consumer) s es = [] := by
  induction es generalizing s given b with
  | nil => rfl
  | cons e es ih =>
    obtain ⟨now, later⟩ := List.forall_mem_cons.mp apart
    have unasked := underway.secluded.unasked now (not_acting_of_gone gone e)
    have nothing : b.request? (s.happening scan.consumer e) = none := by
      rcases b.request?_cases (s.happening scan.consumer e) with ⟨nothing, -⟩ |
        ⟨sends, unissued, issued⟩
      · exact nothing
      -- It would ask for its end for the first time, and not because it is asked to.
      · rcases settled with already | ended
        · rw [unissued] at already
          cases already
        · rw [Browser.react_issued_of_ended ended unasked, unissued] at issued
          cases issued
    have still : (b.react (s.happening scan.consumer e)).cancelIssued = true ∨
        (b.react (s.happening scan.consumer e)).state = .cancelled :=
      settled.imp (Browser.react_issued · _) (Browser.react_state_of_cancelled · _)
    rw [trace, ih (underway.apply now) (task?_of_gone underway.orderly.numbered e underway.old gone)
      (browser?_apply e there) still later, requested_of_browser there, Browser.requests, nothing]
    rfl

/-! ### What the consumer has asked for -/

theorem Started.waited (started : Started scan s) (es fs : List Event)
    (apart : Apart scan.consumer (es ++ fs)) (waits : Waiting scan (s.run (es ++ fs))) :
    Waiting scan (s.run es) := by
  induction fs using List.reverseRecOn with
  | nil => rwa [List.append_nil] at waits
  | append_singleton fs e ih =>
    rw [← List.append_assoc] at apart waits
    obtain ⟨earlier, -⟩ := apart_concat.mp apart
    rw [run_concat] at waits
    exact ih earlier ((started.underway.run _ earlier).waits_of_apply waits).1

theorem Started.tag_eq (started : Started scan s) (es : List Event)
    (apart : Apart scan.consumer es) {b : Browser}
    (there : (s.run es).browser? scan.consumer = some b) : b.tag = scan.tag := by
  obtain ⟨b', known, settings⟩ := (started.underway.run es apart).browser
  rw [there] at known
  cases known
  exact congrArg (·.1) settings

/-- Up to a point at which it waits, a scan has its consumer ask for its end if nothing is missing. -/
theorem Started.asked (started : Started scan s) (some_wanted : scan.expected ≠ 0)
    (es : List Event) (apart : Apart scan.consumer es) (waits : Waiting scan (s.run es))
    {b : Browser} (there : (s.run es).browser? scan.consumer = some b) :
    trace (requested scan.consumer) s es =
      if b.remaining = 0 then [.cancel scan.tag] else [] := by
  obtain ⟨b₀, known, new⟩ := started.new
  have fresh : b₀.cancelIssued = false := by
    obtain ⟨tag, converter, expected, selector, rfl⟩ := new
    rfl
  have tag : b₀.tag = scan.tag := started.tag_eq [] (List.forall_mem_nil _) known
  have issued := started.issued_iff some_wanted es apart waits there
  simp only [trace_requested known es there, fresh, tag, issued, true_and]

/-- All that the channel takes of the consumer of a scan is one cancel. -/
theorem Started.granted_cases (started : Started scan s) (es : List Event)
    (apart : Apart scan.consumer es) :
    trace (granted scan.consumer) s es = [] ∨
      trace (granted scan.consumer) s es = [.cancel scan.tag] := by
  obtain ⟨b₀, known, -⟩ := started.new
  obtain ⟨b, there, -⟩ := (started.underway.run es apart).browser
  have sub := trace_sublist (granted_sublist scan.consumer) s es
  rw [trace_requested known es there] at sub
  split at sub
  · rw [started.tag_eq [] (List.forall_mem_nil _) known] at sub
    exact List.sublist_singleton.mp sub
  · exact .inl (List.sublist_nil.mp sub)

/-- The consumer of a scan asks for its end when it gets the last message. -/
theorem Started.completes_of_requested (started : Started scan s) (some_wanted : scan.expected ≠ 0)
    {es : List Event} {e : Event} (apart : Apart scan.consumer (es ++ [e]))
    (waits : Waiting scan (s.run (es ++ [e])))
    (asks : requested scan.consumer (s.run es) e = [.cancel scan.tag]) :
    Completes scan.consumer (s.run es) e := by
  obtain ⟨earlier, -⟩ := apart_concat.mp apart
  obtain ⟨b, known, -⟩ := (started.underway.run es earlier).browser
  have became := browser?_apply e known
  rw [← run_concat] at became
  have before := started.issued_iff some_wanted es earlier (started.waited es [e] apart waits) known
  have after := started.issued_iff some_wanted (es ++ [e]) apart waits became
  rw [requested_of_browser known, Browser.requests] at asks
  rcases b.request?_cases ((s.run es).happening scan.consumer e) with ⟨nothing, -⟩ |
    ⟨-, unissued, issued⟩
  · rw [nothing] at asks
    cases asks
  · refine ⟨b, known, fun spent => ?_, after.mp issued⟩
    rw [before.mpr spent] at unissued
    cases unissued

/-! ### The tag -/

/-- A tag that nobody uses stands for what it stood for, or for nothing. -/
theorem registration?_of_unused {s : Session} {tag : ConsumerTag} (es : List Event)
    (unused : ∀ queue h, .consume queue tag h ∉ trace recorded s es) :
    (s.run es).channel.registration? tag = none ∨
      (s.run es).channel.registration? tag = s.channel.registration? tag := by
  induction es using List.reverseRecOn with
  | nil => exact .inr rfl
  | append_singleton es e ih =>
    simp only [trace_concat, List.mem_append, not_or, forall_and] at unused
    rw [run_concat]
    cases found : ((s.run es).apply e).channel.registration? tag with
    | none => exact .inl rfl
    | some r =>
      rcases registration?_apply_cases found with before | ⟨⟨queue, h, taken⟩, -⟩
      · rw [before] at ih
        exact ih unused.1
      · refine absurd ?_ (unused.2 queue h)
        rw [recorded_of_taken taken]
        exact List.mem_singleton.mpr rfl

/-- A cancel that is asked for frees the tag, or it is free because the channel is closed. -/
theorem registration?_of_requested {s : Session} (shut : s.Shut) (none_due : s.faults = [])
    (confirms : s.channel.confirmsCancels = true) {h : HandlerId} {e : Event} {tag : ConsumerTag}
    (asks : requested h s e = [.cancel tag]) : (s.apply e).channel.registration? tag = none := by
  obtain ⟨sends, -⟩ := granted_of_cancel none_due asks
  by_cases opened : s.channel.isOpen = true
  · have taken := taken?_eq_some.mpr ⟨sends, (answer_of_cancel none_due sends).mpr opened⟩
    exact registration?_of_frees (.inr (.inl ⟨taken, confirms⟩))
  · -- The channel refuses the cancel, but it is closed and has freed all tags.
    have no_close : e ≠ .close := by
      rintro rfl
      cases sends
    refine shut.apply e ?_ tag
    rw [isOpen_apply s no_close, ← Bool.not_eq_true]
    exact opened

/-- As long as the tag of a scan stands, nobody has taken it away. -/
theorem Underway.unrevoked (underway : Underway scan s []) (es : List Event)
    (apart : Apart scan.consumer es)
    (stands : (s.run es).channel.registration? scan.tag = some scan.registration) :
    trace (revoked scan) s es = [] := by
  induction es using List.reverseRecOn with
  | nil => rfl
  | append_singleton es e ih =>
    obtain ⟨earlier, -⟩ := apart_concat.mp apart
    rw [run_concat] at stands
    have stood : (s.run es).channel.registration? scan.tag = some scan.registration :=
      Classical.byContradiction fun lost =>
        registration?_ne_of_ne (underway.run es earlier).faithful.made lost stands
    rw [trace_concat, ih earlier stood, revoked, if_neg fun taken_away => taken_away.2.1 stands]
    rfl

/-- A tag that a scan has lost stays lost. -/
theorem Underway.lost_run (underway : Underway scan s []) (es fs : List Event)
    (apart : Apart scan.consumer (es ++ fs))
    (lost : (s.run es).channel.registration? scan.tag ≠ some scan.registration) :
    (s.run (es ++ fs)).channel.registration? scan.tag ≠ some scan.registration := by
  induction fs using List.reverseRecOn with
  | nil => rwa [List.append_nil]
  | append_singleton fs e ih =>
    rw [← List.append_assoc] at apart ⊢
    obtain ⟨earlier, -⟩ := apart_concat.mp apart
    rw [run_concat]
    exact registration?_ne_of_ne (underway.run _ earlier).faithful.made (ih earlier)

/-! ### Return -/

/-- What comes of a scan whose consumer asks for its end at one event only. -/
theorem Underway.footprint_of_once (underway : Underway scan s []) {before after : List Event}
    {d : Event} (apart : Apart scan.consumer (before ++ d :: after))
    (none_before : trace (requested scan.consumer) s before = [])
    (none_after : trace (requested scan.consumer) ((s.run before).apply d) after = []) :
    trace (footprint scan.call scan.consumer) s (before ++ d :: after) =
      granted scan.consumer (s.run before) d := by
  rw [underway.trace_footprint _ apart, trace_append, trace,
    trace_granted_of_unrequested none_before, trace_granted_of_unrequested none_after,
    List.append_nil, List.nil_append]

/-- A scan that has all messages has had its consumer ask for its end with the last of them. -/
theorem Started.asks_once (started : Started scan s) (some_wanted : scan.expected ≠ 0)
    {es : List Event} (apart : Apart scan.consumer es) (waits : Waiting scan (s.run es))
    {b : Browser} (there : (s.run es).browser? scan.consumer = some b) (spent : b.remaining = 0) :
    ∃ before d after, es = before ++ d :: after ∧ Completes scan.consumer (s.run before) d ∧
      requested scan.consumer (s.run before) d = [.cancel scan.tag] ∧
      trace (requested scan.consumer) s before = [] ∧
      trace (requested scan.consumer) ((s.run before).apply d) after = [] := by
  have once := started.asked some_wanted es apart waits there
  rw [if_pos spent] at once
  obtain ⟨before, d, after, rfl, asks, none_before, none_after⟩ := once_of_trace once
  refine ⟨before, d, after, rfl, ?_, asks, none_before, none_after⟩
  have same : before ++ d :: after = (before ++ [d]) ++ after := by simp
  rw [same] at apart waits
  exact started.completes_of_requested some_wanted (apart_append.mp apart).1
    (started.waited _ _ apart waits) asks

/-- When a scan returns, its consumer is asked to end if the time is over. -/
theorem requested_of_returning {e : Event} {b : Browser}
    (acts : s.acting? e = some (scan.call, .scanning scan.consumer scan.deadline))
    (there : s.browser? scan.consumer = some b) :
    s.happening scan.consumer e = .endScan (s.answer e) ∧
      requested scan.consumer s e =
        if b.outcome = .timedOut then b.cancellation?.toList else [] := by
  have occurs : s.happening scan.consumer e = .endScan (s.answer e) := by
    rw [happening_of_acting scan.consumer acts, taskHappening?, concerning, if_pos rfl]
  refine ⟨occurs, ?_⟩
  rw [requested_of_browser there, Browser.requests, occurs, Browser.request?]
  split <;> rfl

/-- A scan that waits returns by a step of its own. -/
theorem acting?_of_waiting (waits : Waiting scan s) {e : Event} {f : Finished}
    (returned : f ∈ s.returned e) (own : f.task = scan.call) :
    s.acting? e = some (scan.call, .scanning scan.consumer scan.deadline) := by
  obtain ⟨t, acts⟩ := acting?_of_returned returned
  rw [own] at acts
  have itself := (acting?_eq_some.mp acts).2.1
  rw [waits] at itself
  cases itself
  exact acts

/-- A scan has returned with the step at which it does. -/
theorem Underway.gone_of_returning {given : List Delivery} (underway : Underway scan s given)
    {e : Event} (acts : s.acting? e = some (scan.call, .scanning scan.consumer scan.deadline)) :
    (s.apply e).task? scan.call = none := by
  obtain ⟨b, there, -⟩ := underway.browser
  rw [task?_of_acting underway.orderly.numbered acts, fate_of_scanning there]
  rfl

/-- A scan returns at an event after a run, in which nobody names its consumer and no failure is asked
for. -/
structure Returning (scan : Scan) (s : Session) (es : List Event) (e : Event) (b : Browser) :
    Prop where
  started : Started scan s
  some_wanted : scan.expected ≠ 0
  shut : s.Shut
  none_due : s.faults = []
  apart : Apart scan.consumer es
  faultless : Faultless es
  there : (s.run es).browser? scan.consumer = some b
  acts : (s.run es).acting? e = some (scan.call, .scanning scan.consumer scan.deadline)

namespace Returning

variable {es : List Event} {e : Event} {b : Browser}

theorem waits (returning : Returning scan s es e b) : Waiting scan (s.run es) :=
  (acting?_eq_some.mp returning.acts).2.1

theorem untouched (returning : Returning scan s es e b) : e.touches scan.consumer = false := by
  rw [(acting?_eq_some.mp returning.acts).1]
  rfl

theorem apart_with (returning : Returning scan s es e b) {fs : List Event}
    (apart : Apart scan.consumer fs) : Apart scan.consumer (es ++ e :: fs) :=
  apart_append.mpr ⟨returning.apart, List.forall_mem_cons.mpr ⟨returning.untouched, apart⟩⟩

theorem underway (returning : Returning scan s es e b) :
    Underway scan (s.run es) (servedTo scan s es) :=
  returning.started.underway.run es returning.apart

theorem truthful (returning : Returning scan s es e b) : b.Truthful :=
  (returning.started.collected es returning.apart returning.waits returning.there).1

/-- The consumer has asked for its end by now if nothing is missing. -/
theorem issued_iff (returning : Returning scan s es e b) :
    b.cancelIssued = true ↔ b.remaining = 0 :=
  returning.started.issued_iff returning.some_wanted es returning.apart returning.waits
    returning.there

/-- A scan that has all messages sends its cancel with the last of them. -/
theorem footprint_of_exhausted (returning : Returning scan s es e b)
    (exhausted : b.outcome = .exhausted) :
    ∃ before d after, es = before ++ d :: after ∧ Completes scan.consumer (s.run before) d ∧
      ((s.run before).channel.confirmsCancels = true →
        (s.run (before ++ [d])).channel.registration? scan.tag = none) ∧
      ∀ fs, Apart scan.consumer fs →
        trace (footprint scan.call scan.consumer) s (es ++ e :: fs) =
          if (s.run before).channel.isOpen = true then [.cancel scan.tag] else [] := by
  have spent := returning.truthful.outcome_iff.1.mp exhausted
  obtain ⟨before, d, after, split, completes, asks, none_before, none_after⟩ :=
    returning.started.asks_once returning.some_wanted returning.apart returning.waits
      returning.there spent
  have none_due : (s.run before).faults = [] :=
    faults_run returning.none_due before (faultless_append.mp (split ▸ returning.faultless)).1
  refine ⟨before, d, after, split, completes, fun confirms => ?_, fun fs apart => ?_⟩
  · rw [run_concat]
    exact registration?_of_requested (returning.shut.run before) none_due confirms asks
  · -- Neither the return nor anything after it sends a second cancel.
    have apart := returning.apart_with apart
    obtain ⟨b', there', -⟩ := (returning.started.underway.run _ apart).browser
    rw [run_append] at there'
    have none_later : trace (requested scan.consumer) (s.run es) (e :: fs) = [] := by
      rw [trace_requested returning.there (e :: fs) there', returning.issued_iff.mpr spent]
      rfl
    have same : es ++ e :: fs = before ++ d :: (after ++ e :: fs) := by
      rw [split, List.append_assoc, List.cons_append]
    rw [same] at apart ⊢
    rw [returning.started.underway.footprint_of_once apart none_before,
      (granted_of_cancel none_due asks).2]
    rw [trace_append, none_after, ← run_cons, ← run_append, ← split, none_later]
    rfl

/-- A scan whose time is over sends its cancel as it returns. -/
theorem footprint_of_timedOut (returning : Returning scan s es e b)
    (late : b.outcome = .timedOut) :
    ((s.run es).channel.confirmsCancels = true →
      ((s.run es).apply e).channel.registration? scan.tag = none) ∧
    ∀ fs, Apart scan.consumer fs →
      trace (footprint scan.call scan.consumer) s (es ++ e :: fs) =
        if (s.run es).channel.isOpen = true then [.cancel scan.tag] else [] := by
  have none_due := faults_run returning.none_due es returning.faultless
  have some_missing := (returning.truthful.outcome_iff.2.2.mp late).1
  have unissued : b.cancelIssued = false := by
    rw [← Bool.not_eq_true, returning.issued_iff]
    exact some_missing
  obtain ⟨occurs, asks⟩ := requested_of_returning returning.acts returning.there
  have tag := returning.started.tag_eq es returning.apart returning.there
  rw [if_pos late, Browser.cancellation?, unissued, tag] at asks
  have issued : (b.react ((s.run es).happening scan.consumer e)).cancelIssued = true := by
    rw [occurs, Browser.react, if_pos late]
    exact b.cancel_issued _
  refine ⟨fun confirms => ?_, fun fs apart => ?_⟩
  · exact registration?_of_requested (returning.shut.run es) none_due confirms asks
  · rw [returning.started.underway.footprint_of_once (returning.apart_with apart),
      (granted_of_cancel none_due asks).2]
    · rw [returning.started.asked returning.some_wanted es returning.apart returning.waits
        returning.there, if_neg some_missing]
    · exact (returning.underway.apply returning.untouched).unrequested_run
        (returning.underway.gone_of_returning returning.acts) (browser?_apply e returning.there)
        (.inl issued) fs apart

/-- A scan whose consumer was cancelled sends nothing, and its registration has lost its tag. -/
theorem footprint_of_cancelled (returning : Returning scan s es e b)
    (cancelled : b.outcome = .cancelled) :
    (s.run es).channel.registration? scan.tag ≠ some scan.registration ∧
    ∀ fs, Apart scan.consumer fs →
      trace (footprint scan.call scan.consumer) s (es ++ e :: fs) = [] := by
  obtain ⟨some_missing, ended⟩ := returning.truthful.outcome_iff.2.1.mp cancelled
  refine ⟨fun stands => ?_, fun fs apart => ?_⟩
  · -- With the tag, the consumer would have gone on as long as messages are missing.
    have unrevoked := returning.started.underway.unrevoked es returning.apart stands
    exact (returning.started.going es returning.apart returning.waits unrevoked returning.there
      some_missing).2 ended
  · obtain ⟨-, asks⟩ := requested_of_returning returning.acts returning.there
    rw [cancelled, if_neg nofun] at asks
    have none_before := returning.started.asked returning.some_wanted es returning.apart
      returning.waits returning.there
    rw [if_neg some_missing] at none_before
    have none_after := (returning.underway.apply returning.untouched).unrequested_run
      (returning.underway.gone_of_returning returning.acts) (browser?_apply e returning.there)
      (.inr (Browser.react_state_of_cancelled ended _)) fs apart
    rw [returning.started.underway.trace_footprint _ (returning.apart_with apart)]
    apply trace_granted_of_unrequested
    rw [trace_append, trace, none_before, asks, none_after]
    rfl

/-- When a scan returns its registration has lost its tag, if the channel confirms cancels then. -/
theorem lost (returning : Returning scan s es e b)
    (confirms : (s.run es).channel.confirmsCancels = true) :
    ((s.run es).apply e).channel.registration? scan.tag ≠ some scan.registration := by
  cases outcome : b.outcome with
  | exhausted =>
    obtain ⟨before, d, after, split, -, freed, -⟩ := returning.footprint_of_exhausted outcome
    -- The tag was free after the last message, and the registration does not get it back.
    have same : es ++ [e] = (before ++ [d]) ++ (after ++ [e]) := by simp [split]
    have apart : Apart scan.consumer (es ++ [e]) := returning.apart_with (List.forall_mem_nil _)
    rw [← run_concat, same]
    rw [same] at apart
    refine returning.started.underway.lost_run _ _ apart ?_
    have confirmed : (s.run before).channel.confirmsCancels = true := by
      rw [split, run_append] at confirms
      exact confirms_of_run confirms
    rw [freed confirmed]
    nofun
  | timedOut =>
    rw [(returning.footprint_of_timedOut outcome).1 confirms]
    nofun
  | cancelled =>
    exact registration?_ne_of_ne returning.underway.faithful.made
      (returning.footprint_of_cancelled outcome).1

/-- A scan that returns does not consume. -/
theorem no_consume (returning : Returning scan s es e b) (queue : QueueName) (tag : ConsumerTag)
    (h : HandlerId) : .consume queue tag h ∉ (s.run es).recorded e := by
  intro recorded
  have step := (acting?_eq_some.mp returning.acts).1
  rw [recorded_eq] at recorded
  split at recorded
  · rcases consume_cases (Option.mem_toList.mp recorded) with other | ⟨k, c, r, acts, -⟩
    · rw [step] at other
      cases other
    · rw [returning.acts] at acts
      cases acts
  · cases recorded

end Returning

/-- What a scan leaves behind that returns at an event after a run: the cancel of its consumer, or
nothing, whatever comes later; and a free tag. -/
structure Leaves (scan : Scan) (s : Session) (es : List Event) (e : Event)
    (outcome : ScanOutcome) : Prop where
  -- it was sent with the last message if the channel was open then
  exhausted : outcome = .exhausted → ∃ before d after, es = before ++ d :: after ∧
    Completes scan.consumer (s.run before) d ∧
    ∀ fs, Apart scan.consumer fs →
      trace (footprint scan.call scan.consumer) s (es ++ e :: fs) =
        if (s.run before).channel.isOpen = true then [.cancel scan.tag] else []
  -- it is sent with the return if the channel is open
  timedOut : outcome = .timedOut → ∀ fs, Apart scan.consumer fs →
    trace (footprint scan.call scan.consumer) s (es ++ e :: fs) =
      if (s.run es).channel.isOpen = true then [.cancel scan.tag] else []
  cancelled : outcome = .cancelled → ∀ fs, Apart scan.consumer fs →
    trace (footprint scan.call scan.consumer) s (es ++ e :: fs) = []
  -- as long as the channel has confirmed cancels
  freed : (s.run es).channel.confirmsCancels = true →
    (∀ queue h, .consume queue scan.tag h ∉ trace recorded s es) →
    ((s.run es).apply e).channel.registration? scan.tag = none

theorem Returning.leaves {es : List Event} {e : Event} {b : Browser}
    (returning : Returning scan s es e b) : Leaves scan s es e b.outcome := by
  refine ⟨fun exhausted => ?_, fun late => ?_, fun cancelled => ?_, fun confirms unused => ?_⟩
  · obtain ⟨before, d, after, split, completes, -, left⟩ :=
      returning.footprint_of_exhausted exhausted
    exact ⟨before, d, after, split, completes, left⟩
  · exact (returning.footprint_of_timedOut late).2
  · exact (returning.footprint_of_cancelled cancelled).2
  · have unused' : ∀ queue h, .consume queue scan.tag h ∉ trace recorded s (es ++ [e]) := by
      intro queue h
      rw [trace_concat, List.mem_append]
      exact not_or.mpr ⟨unused queue h, returning.no_consume queue scan.tag h⟩
    have lost := returning.lost confirms
    rw [← run_concat] at lost ⊢
    -- The tag has not been given to anybody else.
    rcases registration?_of_unused _ unused' with free | same
    · exact free
    · exact absurd (same.trans returning.started.tagged) lost

end Taken

/-! ### Scans of a session -/

section Scans

variable {e : Event} {k : TaskId} {queue : QueueName} {converter : Converter}
  {request : ScanRequest}

theorem footprint_of_acting {s : Session} {t : Task} (acts : s.acting? e = some (k, t))
    (h : HandlerId) : footprint k h s e = s.recorded e := by
  rw [footprint, acts, if_pos]
  exact .inl (decide_eq_true rfl)

/-- A call that begins a scan changes nothing in the channel if its command is not taken. -/
theorem channel_of_untaken {s : Session}
    (acts : s.acting? e = some (k, .start (.scan queue converter request)))
    (untaken : s.taken? e = none) : (s.apply e).channel = s.channel := by
  obtain ⟨rfl, -⟩ := acting?_eq_some.mp acts
  rw [apply_channel, rearranged, acts]
  rcases s.sent_cases (.step k) with ⟨c, f, taken, -⟩ | ⟨-, same⟩
  · rw [untaken] at taken
    cases taken
  · exact same

theorem taken?_of_refused {s : Session} {error : TransportError} (failed : s.answer e = .error error) :
    s.taken? e = none := by
  rw [taken?, failed]

/-- A tag that nobody has used stands for nothing. -/
theorem registration?_of_fresh (confirms : Bool) (es : List Event) {tag : ConsumerTag}
    (fresh : ∀ q h, .consume q tag h ∉ ((initial confirms).run es).channel.log) :
    ((initial confirms).run es).channel.registration? tag = none := by
  rw [log_run] at fresh
  rcases registration?_of_unused es fun q h used => fresh q h (List.mem_append_right _ used) with
    free | same
  · exact free
  · exact same

/-- What a scan leaves in the channel whose call begins at an event after a run: nothing if it asks
for no message or its command to consume is refused; otherwise that command and no more than a cancel
of its tag, and what its return tells (`Leaves`). Its consumer is its own, nobody has used its tag
before, and no failure of a command is due or asked for. -/
structure Footprint (es : List Event) (s : Session) (e : Event) (k : TaskId) (queue : QueueName)
    (converter : Converter) (request : ScanRequest) : Prop where
  none_wanted : request.expected = 0 → s.recorded e = [] ∧ (s.apply e).channel = s.channel ∧
    s.returned e = [⟨k, .scanned .exhausted [], s.clock⟩]
  refused : request.expected ≠ 0 → ∀ error, s.answer e = .error error →
    (s.apply e).channel = s.channel ∧
    s.returned e = [⟨k, .failed (.transport error), s.clock⟩] ∧
    ((∀ q h, .consume q s.freshTag h ∉ s.channel.log) →
      (s.apply e).channel.registration? s.freshTag = none) ∧
    ∀ fs, Apart s.consumers.length (es ++ fs) →
      trace (footprint k s.consumers.length) s (e :: fs) = []
  taken : request.expected ≠ 0 → s.answer e = .ok () →
    (∀ q h, .consume q s.freshTag h ∉ s.channel.log) → s.faults = [] →
    ∀ fs, Apart s.consumers.length (es ++ fs) → Faultless fs →
      (∃ later, trace (footprint k s.consumers.length) s (e :: fs) =
          .consume queue s.freshTag s.consumers.length :: later ∧
        (later = [] ∨ later = [.cancel s.freshTag])) ∧
      ∀ d, ∀ f ∈ ((s.apply e).run fs).returned d, f.task = k →
        ∃ outcome messages, f.answer = .scanned outcome messages ∧
          Leaves (s.scanOf k queue converter request) (s.apply e) fs d outcome

/-- A scan for no message returns at once. -/
theorem untaken_of_none_wanted {s : Session}
    (acts : s.acting? e = some (k, .start (.scan queue converter request)))
    (none_wanted : request.expected = 0) :
    s.taken? e = none ∧ s.returned e = [⟨k, .scanned .exhausted [], s.clock⟩] := by
  constructor
  · have quiet : s.command? e = none := by
      rw [command?_of_acting acts]
      exact if_pos none_wanted
    cases taken : s.taken? e with
    | none => rfl
    | some c =>
      rw [(taken?_eq_some.mp taken).1] at quiet
      cases quiet
  · rw [returned_of_acting acts]
    simp only [fate, if_pos none_wanted]
    rfl

/-- From its beginning on, a scan leaves its command to consume and no more than one cancel. -/
theorem Begins.footprint (confirms : Bool) (es : List Event)
    (begins : Begins ((initial confirms).run es) e k queue converter request)
    (fresh : ∀ q h, .consume q ((initial confirms).run es).freshTag h ∉
      ((initial confirms).run es).channel.log)
    {fs : List Event} (apart : Apart ((initial confirms).run es).consumers.length (es ++ fs)) :
    ∃ later, trace (footprint k ((initial confirms).run es).consumers.length)
        ((initial confirms).run es) (e :: fs) =
        .consume queue ((initial confirms).run es).freshTag
          ((initial confirms).run es).consumers.length :: later ∧
      (later = [] ∨ later = [.cancel ((initial confirms).run es).freshTag]) := by
  obtain ⟨before, after⟩ := apart_append.mp apart
  have started := started_of_begins confirms es begins fresh before
  refine ⟨_, ?_, started.granted_cases fs after⟩
  rw [trace, footprint_of_acting begins.acts, recorded_of_taken begins.taken]
  exact congrArg _ (started.underway.trace_footprint fs after)

theorem footprint_of_scan (confirms : Bool) (es : List Event)
    (acts : ((initial confirms).run es).acting? e =
      some (k, .start (.scan queue converter request))) :
    Footprint es ((initial confirms).run es) e k queue converter request where
  none_wanted := by
    intro none_wanted
    obtain ⟨untaken, returned⟩ := untaken_of_none_wanted acts none_wanted
    exact ⟨recorded_of_untaken untaken, channel_of_untaken acts untaken, returned⟩
  refused := by
    intro some_wanted error failed
    have untaken := taken?_of_refused failed
    have same := channel_of_untaken acts untaken
    refine ⟨same, ?_, fun fresh => ?_, fun fs apart => ?_⟩
    · rw [returned_of_acting acts, failed]
      simp only [fate, if_neg some_wanted]
      rfl
    · rw [same, registration?_of_fresh confirms es fresh]
    · obtain ⟨before, after⟩ := apart_append.mp apart
      rw [trace, footprint_of_acting acts, recorded_of_untaken untaken,
        (forsaken_of_refused confirms es acts some_wanted failed before).silent_run fs after]
      rfl
  taken := by
    intro some_wanted accepted fresh none_due fs apart faultless
    have begins : Begins ((initial confirms).run es) e k queue converter request :=
      ⟨acts, some_wanted, accepted⟩
    refine ⟨begins.footprint confirms es fresh apart, fun d f returned own => ?_⟩
    obtain ⟨before, after⟩ := apart_append.mp apart
    have started := started_of_begins confirms es begins fresh before
    have underway := started.underway.run fs after
    obtain ⟨waits, -, b, there, answer⟩ := underway.scanned_of_returned returned own
    refine ⟨b.outcome, b.collected, answer, Returning.leaves (b := b) ?_⟩
    exact {
      started := started
      some_wanted := fun none_wanted => some_wanted (UInt64.toNat_inj.mp none_wanted)
      shut := ((shut_initial confirms).run es).apply e
      none_due := by
        obtain ⟨rfl, -⟩ := acting?_eq_some.mp acts
        exact faults_apply none_due fun _ _ other => Event.noConfusion other
      apart := after
      faultless := faultless
      there := there
      acts := acting?_of_waiting waits returned own }

end Scans

/-- **Browsing leaves no footprint**: a browsing consumer settles nothing and attempts its cancel at
most once; nothing but publishing changes the messages of a queue; and a scan leaves in the channel
what its `Footprint` says. -/
theorem browsing_footprint (confirms : Bool) (es : List Event) :
    (∀ h b, ((initial confirms).run es).browser? h = some b →
      trace (requested h) (initial confirms) es =
        if b.cancelIssued then [.cancel b.tag] else []) ∧
    (∀ queue, ((initial confirms).run es).channel.messages queue =
      trace (published queue) (initial confirms) es) ∧
    ∀ e k queue converter request,
      ((initial confirms).run es).acting? e = some (k, .start (.scan queue converter request)) →
      Footprint es ((initial confirms).run es) e k queue converter request :=
  ⟨fun _ _ there => requests_run confirms es _ there,
    fun queue => messages_run (initial confirms) es queue,
    fun _ _ _ _ _ acts => footprint_of_scan confirms es acts⟩

/-- The scan for three messages that finds two sends its cancel as it returns, and its tag is free
then. -/
theorem browsing_footprint_twoOfThree :
    trace (footprint 0 0) (((initial true).run scanForThree).apply (.step 0))
        (replayOfThree ++ [.step 0]) = [.cancel (.generate 0)] ∧
      (((((initial true).run scanForThree).apply (.step 0)).run replayOfThree).apply
        (.step 0)).channel.registration? (.generate 0) = none := by
  obtain ⟨messages, returned⟩ : ∃ messages,
      ((((initial true).run scanForThree).apply (.step 0)).run replayOfThree).returned (.step 0) =
        [⟨0, .scanned .timedOut messages, 5⟩] := ⟨_, rfl⟩
  have scan := (browsing_footprint true scanForThree).2.2 (.step 0) 0 ⟨"orders"⟩
    (standardConverter 100) threeOfKind rfl
  have left := (scan.taken (by decide) rfl nofun rfl replayOfThree (by decide)
    (by simp [Faultless, replayOfThree])).2
  obtain ⟨outcome, messages', same, leaves⟩ :=
    left (.step 0) ⟨0, .scanned .timedOut messages, 5⟩ (by simp [returned]) rfl
  cases same
  have unused : trace recorded (((initial true).run scanForThree).apply (.step 0)) replayOfThree =
      [] := rfl
  refine ⟨leaves.timedOut rfl [] (List.forall_mem_nil _), leaves.freed rfl fun queue h used => ?_⟩
  rw [unused] at used
  cases used

end Intake.Session
