import Intake.Proofs.Browser.Collection
import Mathlib.Data.List.Infix

/-!
# What a scan returns

Whatever else goes on, a scan returns a beginning of the messages that it looks for, and its outcome
tells whether they are as many as it asked for. If its consumer keeps its tag and time passes only
when no task can run, the replay of the queue is over before the time of the scan is, so that it
returns as many of the messages as there are (`scan_returns`).
-/
namespace Intake

/-- The messages are the first of those that a scan looks for, no more than it asked for, and the
outcome tells whether they are as many. -/
structure Scan.Finds (scan : Scan) (looked_for : List Message) (outcome : ScanOutcome)
    (messages : List Message) : Prop where
  first : messages <+: looked_for.take scan.expected
  exhausted : outcome = .exhausted ↔ messages.length = scan.expected

/-- The messages are all that a scan can return of those that it looks for, and the outcome tells
whether there are as many as it asked for. -/
structure Scan.FindsAll (scan : Scan) (looked_for : List Message) (outcome : ScanOutcome)
    (messages : List Message) : Prop where
  all : messages = looked_for.take scan.expected
  outcome_eq : outcome = if scan.expected ≤ looked_for.length then .exhausted else .timedOut

namespace Browser

theorem IsNew.active {b : Browser} (new : b.IsNew) : b.state = .active := by
  obtain ⟨tag, converter, expected, selector, rfl⟩ := new
  rfl

/-- The delivery that is the last one wanted leaves nothing missing. -/
theorem remaining_of_completes {b : Browser} {d : Delivery} (completes : b.completes d = true)
    (answer : Except TransportError Unit) : (b.deliver d answer).1.remaining = 0 := by
  rw [(b.deliver_frame d answer).1]
  unfold Browser.completes at completes
  split at completes
  · next m verdict =>
    have last : b.remaining = 1 := of_decide_eq_true completes
    simp [keep, verdict, last]
  · cases completes

end Browser

namespace Session

variable {scan : Scan} {s : Session}

/-! ### Scans that have just begun -/

/-- A scan that has just begun. -/
structure Started (scan : Scan) (s : Session) : Prop where
  underway : Underway scan s []
  closing : ∃ told, Closing scan.registration s told
  new : ∃ b, s.browser? scan.consumer = some b ∧ b.IsNew
  tagged : s.channel.registration? scan.tag = some scan.registration
  replays : s.task? scan.replay = some (.replay scan.queue scan.tag scan.snapshot .next)
  waits : Waiting scan s
  deadline : scan.deadline = s.clock + scan.request.timeout

theorem started_of_begins (confirms : Bool) (es : List Event) {e : Event} {k : TaskId}
    {queue : QueueName} {converter : Converter} {request : ScanRequest}
    (begins : Begins ((initial confirms).run es) e k queue converter request)
    (fresh : ∀ q h, .consume q ((initial confirms).run es).freshTag h ∉
      ((initial confirms).run es).channel.log)
    (apart : Apart ((initial confirms).run es).consumers.length es) :
    Started (((initial confirms).run es).scanOf k queue converter request)
      (((initial confirms).run es).apply e) where
  underway := underway_of_begins confirms es begins fresh apart
  closing := ⟨_, (closing_run confirms es _).apply (orderly_run confirms es) e⟩
  new := ⟨_, browser?_of_scan begins.acts begins.some_wanted, _, _, _, _, rfl⟩
  tagged := registration?_of_consume begins.taken
  replays := task?_of_consume (orderly_run confirms es).numbered begins.taken
  waits := begins.call (orderly_run confirms es)
  deadline := by
    obtain ⟨rfl, -⟩ := acting?_eq_some.mp begins.acts
    rw [clock_apply]
    rfl

/-! ### Return -/

/-- A scan that takes a step returns what its consumer has collected. -/
theorem Underway.returned_of_acting {given : List Delivery} (underway : Underway scan s given)
    {e : Event} (acts : s.acting? e = some (scan.call, .scanning scan.consumer scan.deadline)) :
    ∃ b, s.browser? scan.consumer = some b ∧
      s.returned e = [⟨scan.call, .scanned b.outcome b.collected, s.clock⟩] := by
  obtain ⟨b, known, -⟩ := underway.browser
  refine ⟨b, known, ?_⟩
  rw [Session.returned_of_acting acts, fate_of_scanning known]
  rfl

/-- A scan that nobody gives up waits until it has returned. -/
theorem Started.returns (started : Started scan s) (es : List Event)
    (apart : Apart scan.consumer es) (kept : .drop scan.call ∉ es) :
    (∃ f ∈ trace returned s es, f.task = scan.call) ∨ Waiting scan (s.run es) := by
  induction es using List.reverseRecOn with
  | nil => exact .inr started.waits
  | append_singleton es e ih =>
    obtain ⟨earlier, -⟩ := apart_concat.mp apart
    have before := started.underway.run es earlier
    rw [trace_concat, run_concat]
    rcases ih earlier fun member => kept (List.mem_append_left _ member) with
      ⟨f, returned, own⟩ | waits
    · exact .inl ⟨f, List.mem_append_left _ returned, own⟩
    · by_cases acts : ∃ u, (s.run es).acting? e = some (scan.call, u)
      · obtain ⟨u, acts⟩ := acts
        have itself := (acting?_eq_some.mp acts).2.1
        rw [waits] at itself
        cases itself
        obtain ⟨b, -, returns⟩ := before.returned_of_acting acts
        exact .inl ⟨_, List.mem_append_right _ (returns ▸ List.mem_singleton.mpr rfl), rfl⟩
      · refine .inr (task?_of_kept before.orderly.numbered waits (fun _ dropped => ?_)
          fun u is => acts ⟨u, is⟩)
        exact kept (List.mem_append_right _ (List.mem_singleton.mpr dropped.symm))

/-- A scan that can go on returns. -/
theorem Started.returns_of_due (started : Started scan s) (es : List Event)
    (apart : Apart scan.consumer es) (waits : Waiting scan (s.run es))
    (due : (s.run es).isReleased scan.consumer = true ∨ scan.deadline ≤ (s.run es).clock) :
    ∃ f ∈ (s.run es).returned (.step scan.call), f.task = scan.call := by
  have able : (s.run es).ready scan.call (.scanning scan.consumer scan.deadline) = true := by
    simpa [ready, Receiver.expired] using due
  obtain ⟨b, -, returns⟩ := (started.underway.run es apart).returned_of_acting
    (acting?_eq_some.mpr ⟨rfl, waits, able⟩)
  exact ⟨_, returns ▸ List.mem_singleton.mpr rfl, rfl⟩

/-- A scan returns what its consumer has collected, when the latch is released or the time is
over. -/
theorem Underway.scanned_of_returned {given : List Delivery} (underway : Underway scan s given)
    {e : Event} {f : Finished} (returned : f ∈ s.returned e) (own : f.task = scan.call) :
    Waiting scan s ∧
      (s.isReleased scan.consumer = true ∨ scan.deadline ≤ s.clock) ∧
      ∃ b, s.browser? scan.consumer = some b ∧ f.answer = .scanned b.outcome b.collected := by
  obtain ⟨t, acts⟩ := acting?_of_returned returned
  rw [own] at acts
  obtain ⟨-, there, able⟩ := acting?_eq_some.mp acts
  rcases underway.call with waits | gone
  · rw [waits] at there
    cases there
    obtain ⟨b, known, returns⟩ := underway.returned_of_acting acts
    rw [returns, List.mem_singleton] at returned
    refine ⟨waits, ?_, b, known, by rw [returned]⟩
    simpa [ready, Receiver.expired] using able
  · rw [gone] at there
    cases there

/-! ### The first messages -/

/-- What the consumer of a scan has collected while the scan waits is what it wanted first. -/
theorem Started.collected (started : Started scan s) (es : List Event)
    (apart : Apart scan.consumer es) (waits : Waiting scan (s.run es))
    {b : Browser} (there : (s.run es).browser? scan.consumer = some b) :
    b.Truthful ∧ b.collected = (wanted scan.consumer s es).take scan.expected ∧
      b.remaining = scan.expected - (wanted scan.consumer s es).length := by
  obtain ⟨b₀, known, new⟩ := started.new
  obtain ⟨b', there', settings, truthful, kept⟩ := browser_of_new known new es
  rw [there] at there'
  cases there'
  obtain ⟨b₁, known', settings'⟩ := started.underway.browser
  rw [known] at known'
  cases known'
  have expected : b.expected = scan.expected := congrArg (·.2.2.2) (settings.trans settings')
  rw [handedOut_of_waiting started.underway es apart waits] at kept
  rw [← expected]
  exact ⟨truthful, kept.first, kept.missing⟩

/-- What serves a scan begins what it looks for, whatever tags the deliveries to come get. -/
theorem Started.matched_prefix_wanted (started : Started scan s) (es : List Event)
    (apart : Apart scan.consumer es) {tags : List DeliveryTag}
    (tagged : (servedTo scan s es).map Delivery.tag <+: tags) :
    matched scan s es <+: scan.wanted tags := by
  have after := started.underway.run es apart
  exact (prefix_deliveries after.made after.faithful.given_prefix.1 tagged).filterMap _

/-- **First messages**: what a scan has collected while it waits is a beginning of what it looks
for, and its outcome tells whether it is as much as it asked for. -/
theorem Started.finds (started : Started scan s) (es : List Event)
    (apart : Apart scan.consumer es) (waits : Waiting scan (s.run es))
    {b : Browser} (there : (s.run es).browser? scan.consumer = some b) {tags : List DeliveryTag}
    (tagged : (servedTo scan s es).map Delivery.tag <+: tags) :
    scan.Finds (scan.wanted tags) b.outcome b.collected where
  first := by
    rw [(started.collected es apart waits there).2.1]
    exact ((wanted_prefix_matched started.underway es apart there).1.trans
      (started.matched_prefix_wanted es apart tagged)).take _
  exhausted := by
    obtain ⟨truthful, collected, remaining⟩ := started.collected es apart waits there
    rw [truthful.outcome_iff.1, collected, remaining, List.length_take]
    omega

/-! ### Scans that are left alone -/

/-- An event that takes the tag of a scan away from its registration and is not the doing of its
consumer. -/
def revoked (scan : Scan) (s : Session) (e : Event) : List Event :=
  if s.channel.registration? scan.tag = some scan.registration ∧
      (s.apply e).channel.registration? scan.tag ≠ some scan.registration ∧
      concerns (s.happening scan.consumer e) = false
    then [e] else []

/-- Time that passes although some task can run. The scheduler lets no such time pass (`await`). -/
def hurried (s : Session) : Event → List Event
  | .pass d => if s.runnable = [] then [] else [.pass d]
  | _ => []

/-- A consumer that misses nothing goes on missing nothing. -/
theorem spent_apply {h : HandlerId} {b : Browser} (there : s.browser? h = some b)
    (spent : b.remaining = 0) (e : Event) : (b.react (s.happening h e)).remaining = 0 :=
  ((draws_apply there e).rests fun _ _ => .inr spent).1.trans spent

/-- While the scan waits and something is missing, its registration keeps its tag and its consumer
does not end, unless somebody else takes the tag away. -/
theorem Underway.going_apply {given : List Delivery} (underway : Underway scan s given)
    {told : List Callback} (closing : Closing scan.registration s told) {b : Browser}
    (there : s.browser? scan.consumer = some b) {e : Event}
    (apart : e.touches scan.consumer = false) (others : ∀ u, s.acting? e ≠ some (scan.call, u))
    (unrevoked : revoked scan s e = [])
    (stands : s.channel.registration? scan.tag = some scan.registration)
    (going : b.state ≠ .cancelled)
    (some_missing : (b.react (s.happening scan.consumer e)).remaining ≠ 0) :
    (s.apply e).channel.registration? scan.tag = some scan.registration ∧
      (b.react (s.happening scan.consumer e)).state ≠ .cancelled := by
  by_cases concerned : concerns (s.happening scan.consumer e) = true
  · have real := concerns_iff.mp concerned
    rcases underway.happening_cases apart others with ⟨d, handed⟩ | ⟨j, t, acts, notifies, -⟩ |
      ⟨idle, quiet⟩
    · -- The last delivery wanted would leave nothing missing, and any other makes no command.
      have occurs := happening_eq_delivery.mpr ⟨handed, rfl, rfl⟩
      rw [occurs] at some_missing ⊢
      have goes_on : b.completes d = false := by
        rw [← Bool.not_eq_true]
        intro completes
        exact some_missing (Browser.remaining_of_completes completes _)
      have quiet : s.command? e = none := by
        rw [command?_of_handed handed, handlerCommand?, browser?_eq_some.mp there]
        simp [Browser.command?, goes_on]
      rw [registration?_of_quiet real quiet, Browser.react, Browser.deliver_eq, goes_on]
      exact ⟨stands, by simpa [Browser.keep_state] using going⟩
    · exact absurd notifies ((closing.tagged _ stands).2 j t (acting?_eq_some.mp acts).2.1)
    · rw [registration?_of_quiet real (quiet concerned), (idle b).1]
      exact ⟨stands, going⟩
  · have nothing : s.happening scan.consumer e = .nothing := by
      rw [concerns_iff] at concerned
      exact Classical.not_not.mp concerned
    rw [nothing]
    refine ⟨Classical.byContradiction fun lost => ?_, going⟩
    rw [revoked, if_pos ⟨stands, lost, Bool.not_eq_true _ ▸ concerned⟩] at unrevoked
    cases unrevoked

/-- While a scan waits and something is missing, its registration has its tag and its consumer has
not ended, unless somebody else has taken the tag away. -/
theorem Started.going (started : Started scan s) (es : List Event)
    (apart : Apart scan.consumer es) (waits : Waiting scan (s.run es))
    (unrevoked : trace (revoked scan) s es = []) {b : Browser}
    (there : (s.run es).browser? scan.consumer = some b) (some_missing : b.remaining ≠ 0) :
    (s.run es).channel.registration? scan.tag = some scan.registration ∧ b.state ≠ .cancelled := by
  induction es using List.reverseRecOn generalizing b with
  | nil =>
    obtain ⟨b₀, known, new⟩ := started.new
    rw [run_nil, known] at there
    cases there
    rw [new.active]
    exact ⟨started.tagged, nofun⟩
  | append_singleton es e ih =>
    obtain ⟨earlier, now⟩ := apart_concat.mp apart
    have before := started.underway.run es earlier
    rw [run_concat] at waits there ⊢
    obtain ⟨waited, others⟩ := before.waits_of_apply waits
    obtain ⟨b₀, known, -⟩ := before.browser
    rw [browser?_apply e known] at there
    cases there
    rw [trace_concat, List.append_eq_nil_iff] at unrevoked
    obtain ⟨stands, going⟩ := ih earlier waited unrevoked.1 known
      fun spent => some_missing (spent_apply known spent e)
    obtain ⟨told, closing⟩ := started.closing
    exact before.going_apply (closing.run started.underway.orderly es) known now
      others unrevoked.2 stands going some_missing

/-! ### Replays in time -/

/-- As long as its tag stands, the replay of a scan does not wait for a handler to be done. -/
theorem Started.not_handling (started : Started scan s) (es : List Event)
    (apart : Apart scan.consumer es)
    (stands : (s.run es).channel.registration? scan.tag = some scan.registration) (q : QueueName)
    (t : ConsumerTag) (pending : List Stored) (r : RegistrationId) (d : Delivery) (deadline : Nat) :
    (s.run es).task? scan.replay ≠ some (.replay q t pending (.handling r d deadline)) := by
  induction es using List.reverseRecOn generalizing pending with
  | nil =>
    rw [run_nil, started.replays]
    exact nofun
  | append_singleton es e ih =>
    intro there
    obtain ⟨earlier, -⟩ := apart_concat.mp apart
    have before := started.underway.run es earlier
    rw [run_concat] at stands there
    have stood : (s.run es).channel.registration? scan.tag = some scan.registration :=
      Classical.byContradiction fun lost =>
        registration?_ne_of_ne before.faithful.made lost stands
    rcases replay_origin before.orderly.numbered there with old | ⟨u, acts, turns⟩ | ⟨-, no, -⟩
    · exact ih earlier stood pending old
    · cases turns with
      | plain _ plain => cases plain
      | handles _ =>
        have was := (acting?_eq_some.mp acts).2.1
        -- What it has in hand is for its own registration, whose handler is done at once.
        cases before.faithful.course with
        | goes_on there' in_hand _ =>
          rw [was] at there'
          cases there'
          obtain ⟨rfl, -⟩ := in_hand r d rfl
          exact before.idle_apply e scan.replay ⟨_, _, _, _, _, there⟩
        | cut_off lost _ _ => exact lost stood
        | ended gone _ =>
          rw [was] at gone
          cases gone
    · cases no

theorem not_ready_of_idle (idle : s.runnable = []) {k : TaskId} {t : Task}
    (there : s.task? k = some t) : s.ready k t = false := by
  obtain ⟨before, after, same, -⟩ := List.lookup_eq_some_iff.mp there
  have listed : k ∈ s.tasks.map (·.1) := by
    rw [same]
    simp
  have rests := List.filter_eq_nil_iff.mp idle k listed
  simpa [canRun, there] using rests

/-- A replay that waits for its turn with the consumer of a scan is the first in line, as long as the
tag stands. -/
theorem Underway.first_of_queued {given : List Delivery} (underway : Underway scan s given)
    {told : List Callback} (closing : Closing scan.registration s told)
    (stands : s.channel.registration? scan.tag = some scan.registration) {q : QueueName}
    {t : ConsumerTag} {pending : List Stored} {d : Delivery}
    (there : s.task? scan.replay = some (.replay q t pending (.queued scan.registration d))) :
    s.channel.isFirst scan.registration scan.replay = true := by
  rw [isFirst_iff]
  have in_line : scan.replay ∈ s.channel.line scan.registration := by
    rw [underway.orderly.standing, there]
    rfl
  cases line : s.channel.line scan.registration with
  | nil =>
    rw [line] at in_line
    cases in_line
  | cons j rest =>
    have first : j ∈ s.channel.line scan.registration := by
      rw [line]
      exact List.mem_cons_self
    obtain ⟨u, was, place⟩ := Option.bind_eq_some_iff.mp ((underway.orderly.standing j _).mp first)
    have quiet := (closing.tagged _ stands).2 j u was
    refine congrArg some ?_
    -- Nobody else waits for the consumer: no replay, no handler at work and no notice.
    unfold Task.place? at place
    split at place
    · cases place
      exact underway.faithful.only_replay j _ _ _ _ was
    · cases place
      exact absurd ⟨_, _, _, _, _, was⟩ (underway.idle j)
    · cases place
      exact absurd rfl quiet
    · cases place
      exact absurd rfl quiet
    · cases place

/-- When no task can run and the tag stands, the replay of a scan is over. -/
theorem Underway.served_of_idle {given : List Delivery} (underway : Underway scan s given)
    {told : List Callback} (closing : Closing scan.registration s told)
    (stands : s.channel.registration? scan.tag = some scan.registration)
    (not_handling : ∀ q t pending r d deadline,
      s.task? scan.replay ≠ some (.replay q t pending (.handling r d deadline)))
    (idle : s.runnable = []) : given.map Delivery.stored = scan.snapshot := by
  cases underway.faithful.course with
  | @goes_on pending stage there in_hand _ =>
    have rests := not_ready_of_idle idle there
    cases stage with
    | next => cases rests
    | queued r d =>
      obtain ⟨rfl, -⟩ := in_hand r d rfl
      rw [ready, underway.first_of_queued closing stands there] at rests
      cases rests
    | handling r d deadline => exact absurd there (not_handling _ _ _ _ _ _)
  | cut_off lost _ _ => exact absurd stands lost
  | ended _ all => exact all

/-- Once everything has served a scan nothing more does. -/
theorem Started.servedTo_of_all (started : Started scan s) (es : List Event)
    (apart : Apart scan.consumer es) {before after : List Event}
    (split : es = before ++ after)
    (all : (servedTo scan s before).map Delivery.stored = scan.snapshot) :
    servedTo scan s es = servedTo scan s before := by
  subst split
  have so_far := (started.underway.run _ apart).faithful.given_prefix.1
  rw [servedTo_append, List.map_append, all] at so_far
  have lengths := so_far.length_le
  rw [List.length_append, List.length_map] at lengths
  have nothing : servedTo scan (s.run before) after = [] :=
    List.eq_nil_of_length_eq_zero (by omega)
  rw [servedTo_append, nothing, List.append_nil]

/-- **Replays in time**: when the time of a scan is over that still waits, nothing is missing or the
replay is over. -/
theorem Started.served_in_time (started : Started scan s) (es : List Event)
    (apart : Apart scan.consumer es) (waits : Waiting scan (s.run es))
    (unrevoked : trace (revoked scan) s es = []) (calm : trace hurried s es = [])
    (patient : 0 < scan.request.timeout) (late : scan.deadline ≤ (s.run es).clock) {b : Browser}
    (there : (s.run es).browser? scan.consumer = some b) :
    b.remaining = 0 ∨ (servedTo scan s es).map Delivery.stored = scan.snapshot := by
  induction es using List.reverseRecOn generalizing b with
  | nil =>
    rw [run_nil, started.deadline] at late
    exact absurd late (Nat.not_le_of_gt (Nat.lt_add_of_pos_right patient))
  | append_singleton es e ih =>
    obtain ⟨earlier, -⟩ := apart_concat.mp apart
    have before := started.underway.run es earlier
    rw [run_concat] at waits there late
    obtain ⟨waited, -⟩ := before.waits_of_apply waits
    obtain ⟨b₀, known, -⟩ := before.browser
    rw [browser?_apply e known] at there
    cases there
    rw [trace_concat, List.append_eq_nil_iff] at unrevoked calm
    by_cases spent : b₀.remaining = 0
    · exact .inl (spent_apply known spent e)
    right
    have all : (servedTo scan s es).map Delivery.stored = scan.snapshot := by
      by_cases already : scan.deadline ≤ (s.run es).clock
      · exact (ih earlier waited unrevoked.1 calm.1 already known).resolve_left spent
      · -- The time is over by this event, so that time passes and no task can run.
        rw [clock_apply] at late
        cases e with
        | pass d =>
          have idle : (s.run es).runnable = [] :=
            Classical.byContradiction fun some_run => by
              rw [hurried, if_neg some_run] at calm
              cases calm.2
          obtain ⟨told, closing⟩ := started.closing
          obtain ⟨stands, -⟩ := started.going es earlier waited unrevoked.1 known spent
          exact before.served_of_idle (closing.run started.underway.orderly es) stands
            (started.not_handling es earlier stands) idle
        | _ => exact absurd late already
    rw [started.servedTo_of_all (es ++ [e]) apart rfl all, all]

/-! ### All messages -/

/-- When everything has served a scan, what it looks for is what has served it. -/
theorem Started.wanted_of_all (started : Started scan s) (es : List Event)
    (apart : Apart scan.consumer es)
    (all : (servedTo scan s es).map Delivery.stored = scan.snapshot) {tags : List DeliveryTag}
    (tagged : (servedTo scan s es).map Delivery.tag <+: tags) :
    scan.wanted tags = matched scan s es := by
  have after := started.underway.run es apart
  have so_far := prefix_deliveries after.made after.faithful.given_prefix.1 tagged
  have same : servedTo scan s es =
      List.zipWith (Stored.delivery scan.queue) scan.snapshot tags := by
    apply so_far.eq_of_length_le
    rw [List.length_zipWith, ← all, List.length_map]
    exact Nat.min_le_left _ _
  rw [Scan.wanted, ← same]
  rfl

/-- **All messages**: what a scan returns that is left alone is all that it looks for, or as much as
it asked for. -/
theorem Started.finds_all (started : Started scan s) (es : List Event)
    (apart : Apart scan.consumer es) (waits : Waiting scan (s.run es))
    (due : (s.run es).isReleased scan.consumer = true ∨ scan.deadline ≤ (s.run es).clock)
    (unrevoked : trace (revoked scan) s es = []) (calm : trace hurried s es = [])
    (patient : 0 < scan.request.timeout) {b : Browser}
    (there : (s.run es).browser? scan.consumer = some b) {tags : List DeliveryTag}
    (tagged : (servedTo scan s es).map Delivery.tag <+: tags) :
    scan.FindsAll (scan.wanted tags) b.outcome b.collected := by
  have finds := started.finds es apart waits there tagged
  obtain ⟨truthful, collected, remaining⟩ := started.collected es apart waits there
  by_cases spent : b.remaining = 0
  · have exhausted := truthful.outcome_iff.1.mpr spent
    have full := finds.exhausted.mp exhausted
    have all : b.collected = (scan.wanted tags).take scan.expected := by
      apply finds.first.eq_of_length_le
      rw [full]
      exact List.length_take_le _ _
    refine ⟨all, ?_⟩
    rw [exhausted, if_pos]
    rw [← full, all]
    exact List.length_take_le' _ _
  · obtain ⟨-, going⟩ := started.going es apart waits unrevoked there spent
    have unreleased : (s.run es).isReleased scan.consumer = false := by
      rw [isReleased, there, Option.any_some, ← Bool.not_eq_true]
      exact fun released => (truthful.mp released).elim spent going
    have late : scan.deadline ≤ (s.run es).clock := by
      rw [unreleased] at due
      exact due.resolve_left Bool.false_ne_true
    have in_time := started.served_in_time es apart waits unrevoked calm patient late there
    have all := in_time.resolve_left spent
    have everything := started.wanted_of_all es apart all tagged
    have same := (wanted_prefix_matched started.underway es apart there).2 going
    rw [same, ← everything] at collected remaining
    refine ⟨collected, ?_⟩
    rw [truthful.outcome_iff.2.2.mpr ⟨spent, going⟩, if_neg]
    omega

/-! ### Answers -/

/-- What holds of a scan after a run: if nobody gives it up it has returned, or it does so with its
next step as soon as the latch is released or the time is over; and if it returns at the next event
it is with messages that it looks for, whatever tags the deliveries to come would get. -/
structure Answered (scan : Scan) (s : Session) (es : List Event) : Prop where
  returns : .drop scan.call ∉ es → (∃ f ∈ trace returned s es, f.task = scan.call) ∨
    ((s.run es).isReleased scan.consumer = true ∨ scan.deadline ≤ (s.run es).clock →
      ∃ f ∈ (s.run es).returned (.step scan.call), f.task = scan.call)
  result : ∀ e, ∀ f ∈ (s.run es).returned e, f.task = scan.call →
    ∃ outcome messages, f.answer = .scanned outcome messages ∧
      ∀ tags, (servedTo scan s es).map Delivery.tag <+: tags →
        scan.Finds (scan.wanted tags) outcome messages ∧
        (0 < scan.request.timeout → trace (revoked scan) s es = [] → trace hurried s es = [] →
          scan.FindsAll (scan.wanted tags) outcome messages)

theorem Started.answered (started : Started scan s) (es : List Event)
    (apart : Apart scan.consumer es) : Answered scan s es where
  returns := by
    intro kept
    rcases started.returns es apart kept with returned | waits
    · exact .inl returned
    · exact .inr (started.returns_of_due es apart waits)
  result := by
    intro e f returned own
    obtain ⟨waits, due, b, there, answer⟩ :=
      (started.underway.run es apart).scanned_of_returned returned own
    refine ⟨b.outcome, b.collected, answer, fun tags tagged => ?_⟩
    refine ⟨started.finds es apart waits there tagged, fun patient unrevoked calm => ?_⟩
    exact started.finds_all es apart waits due unrevoked calm patient there tagged

/-- **Scans**: a scan whose command to consume fails returns the failure at once. Any other returns a
beginning of the messages that it looks for, and all of them, or as many as it asked for, if nobody
else takes its tag away and time passes only when no task can run. Its consumer is its own, and
nobody has used its tag before. -/
theorem scan_returns (confirms : Bool) (es : List Event) {e : Event} {k : TaskId}
    {queue : QueueName} {converter : Converter} {request : ScanRequest}
    (acts : ((initial confirms).run es).acting? e =
      some (k, .start (.scan queue converter request)))
    (some_wanted : request.expected ≠ 0)
    (fresh : ∀ q h, .consume q ((initial confirms).run es).freshTag h ∉
      ((initial confirms).run es).channel.log) :
    (∀ error, ((initial confirms).run es).answer e = .error error →
      ((initial confirms).run es).returned e =
        [⟨k, .failed (.transport error), ((initial confirms).run es).clock⟩]) ∧
    (((initial confirms).run es).answer e = .ok () →
      ((initial confirms).run es).returned e = [] ∧
      ∀ fs : List Event,
        Apart ((initial confirms).run es).consumers.length (es ++ fs) →
        Answered (((initial confirms).run es).scanOf k queue converter request)
          (((initial confirms).run es).apply e) fs) := by
  constructor
  · intro error failed
    rw [returned_of_acting acts, failed]
    simp only [fate, if_neg some_wanted]
    rfl
  · intro accepted
    constructor
    · rw [returned_of_acting acts, accepted]
      simp only [fate, if_neg some_wanted]
      rfl
    · intro fs apart
      obtain ⟨before, after⟩ := apart_append.mp apart
      exact (started_of_begins confirms es ⟨acts, some_wanted, accepted⟩ fresh before).answered fs
        after

/-- A request for three messages that have a kind. -/
def threeOfKind : ScanRequest :=
  { expected := 3, selector := some fun hs => (hs.find? "JMSType").isSome, timeout := 5 }

/-- Three messages, of which the last two have a kind, and a scan. -/
def scanForThree : List Event :=
  let order (kind : Option String) : Event :=
    .publish ⟨"orders"⟩ ⟨{ kind := kind }, ByteArray.empty⟩
  [order none, order (some "order"), order (some "order"),
    .call (.scan ⟨"orders"⟩ (standardConverter 100) threeOfKind)]

def scanOfThree : Scan :=
  ((initial true).run scanForThree).scanOf 0 ⟨"orders"⟩ (standardConverter 100) threeOfKind

/-- The replay hands over the three messages and ends, and then the time of the scan is over. -/
def replayOfThree : List Event := List.replicate 7 (.step 1) ++ [.pass 5]

/-- A scan for three messages of which the queue holds two returns these two when its time is over. -/
theorem scan_returns_twoOfThree :
    ∃ messages,
      ((((initial true).run scanForThree).apply (.step 0)).run replayOfThree).returned (.step 0) =
        [⟨0, .scanned .timedOut messages, 5⟩] ∧
      messages.map (·.deliveryTag) = [⟨2⟩, ⟨3⟩] ∧
      scanOfThree.FindsAll (scanOfThree.wanted [⟨1⟩, ⟨2⟩, ⟨3⟩]) .timedOut messages := by
  obtain ⟨messages, returned, tagged⟩ : ∃ messages,
      ((((initial true).run scanForThree).apply (.step 0)).run replayOfThree).returned (.step 0) =
        [⟨0, .scanned .timedOut messages, 5⟩] ∧
      messages.map (·.deliveryTag) = [⟨2⟩, ⟨3⟩] := ⟨_, rfl, rfl⟩
  have answered := ((scan_returns true scanForThree (e := .step 0) rfl (by decide) nofun).2 rfl).2
    replayOfThree (by decide)
  have member : ⟨0, .scanned .timedOut messages, 5⟩ ∈
      ((((initial true).run scanForThree).apply (.step 0)).run replayOfThree).returned
        (.step 0) := by
    rw [returned]
    exact List.mem_singleton.mpr rfl
  obtain ⟨outcome, messages', same, right⟩ := answered.result (.step 0) _ member rfl
  cases same
  exact ⟨messages, returned, tagged, (right [⟨1⟩, ⟨2⟩, ⟨3⟩] ⟨[], rfl⟩).2 (by decide) rfl rfl⟩

end Session
end Intake
