import Intake.Proofs.Browser.Seclusion

/-!
# Scans under way

From when a scan begins, its replay serves its registration the messages of the queue in order, and
its consumer wants what the selector lets through of them (`Underway`). None of it depends on what
else goes on in the channel.
-/
namespace Intake

/-- The delivery that a replay of a queue makes of a message. -/
def Stored.delivery (queue : QueueName) (m : Stored) (tag : DeliveryTag) : Delivery :=
  { envelope := ⟨tag, false, "", queue.text⟩, properties := m.properties, body := m.body }

/-- A scan, and what it works with. -/
structure Scan where
  call : TaskId
  consumer : HandlerId
  registration : RegistrationId
  replay : TaskId
  tag : ConsumerTag
  queue : QueueName
  -- the messages of the queue when the scan begins
  snapshot : List Stored
  converter : Converter
  request : ScanRequest
  deadline : Nat

namespace Scan

/-- How many messages a scan asks for. -/
def expected (scan : Scan) : Nat := scan.request.expected.toNat

/-- The messages that a scan looks for, in the order of the queue, if the deliveries of the snapshot
carry these tags. -/
def wanted (scan : Scan) (tags : List DeliveryTag) : List Message :=
  (List.zipWith (Stored.delivery scan.queue) scan.snapshot tags).filterMap
    (matching? scan.converter scan.request.selector)

end Scan

namespace Session

/-- The scan that a call begins. -/
def scanOf (s : Session) (k : TaskId) (queue : QueueName) (converter : Converter)
    (request : ScanRequest) : Scan where
  call := k
  consumer := s.consumers.length
  registration := s.channel.registrations.length
  replay := s.nextTask
  tag := s.freshTag
  queue := queue
  snapshot := s.channel.messages queue
  converter := converter
  request := request
  deadline := s.clock + request.timeout

/-! ### Replays -/

/-- A replay makes its deliveries of messages by the name of its queue. -/
def Drawn (s : Session) : Prop :=
  ∀ k q t pending r d, s.task? k = some (.replay q t pending (.queued r d)) →
    d = d.stored.delivery q d.tag

theorem Drawn.apply {s : Session} (orderly : s.Orderly) (drawn : s.Drawn) (e : Event) :
    (s.apply e).Drawn := by
  intro k q t pending r d there
  rcases replay_origin orderly.numbered there with old | ⟨before, -, turns⟩ | ⟨-, no, -⟩
  · exact drawn k q t pending r d old
  · cases turns with
    | plain _ plain => cases plain
    | draws _ => rfl
  · cases no

theorem drawn_run (confirms : Bool) (es : List Event) : ((initial confirms).run es).Drawn := by
  induction es using List.reverseRecOn with
  | nil =>
    intro k q t pending r d there
    cases there
  | append_singleton es e ih =>
    rw [run_concat]
    exact ih.apply (orderly_run confirms es) e

/-- A delivery that bears the name of a queue is made of a message by that name. -/
theorem Drawn.eq_of_served {s : Session} (drawn : s.Drawn) {g : RegistrationId} {e : Event}
    {p : TaskId × Delivery} (serves : p ∈ served g s e) {queue : QueueName}
    (routed : p.2.envelope.routingKey = queue.text) : p.2 = p.2.stored.delivery queue p.2.tag := by
  rcases served_cases g s e with ⟨k, q, t, pending, d, acts, it⟩ | ⟨nothing, -⟩
  · rw [it, List.mem_singleton] at serves
    subst serves
    have made := drawn k q t pending _ d (acting?_eq_some.mp acts).2.1
    -- Two queues of the same name are the same.
    obtain rfl : q = queue := by
      obtain ⟨name⟩ := queue
      obtain ⟨name'⟩ := q
      exact congrArg QueueName.mk ((congrArg (·.envelope.routingKey) made).symm.trans routed)
    exact made
  · rw [nothing] at serves
    cases serves

/-- A replay follows a command to consume by its tag. -/
theorem logged_of_replay (confirms : Bool) (es : List Event) {k : TaskId} {q : QueueName}
    {t : ConsumerTag} {pending : List Stored} {stage : ReplayStage}
    (there : ((initial confirms).run es).task? k = some (.replay q t pending stage)) :
    ∃ h, .consume q t h ∈ ((initial confirms).run es).channel.log := by
  induction es using List.reverseRecOn generalizing pending stage with
  | nil => cases there
  | append_singleton es e ih =>
    rw [run_concat] at there ⊢
    rw [log_eq_append_recorded, recorded_eq_taken]
    rcases replay_origin (orderly_run confirms es).numbered there with old | ⟨before, acts, turns⟩ |
      ⟨-, -, -, h, taken⟩
    · obtain ⟨h, logged⟩ := ih old
      exact ⟨h, List.mem_append_left _ logged⟩
    · have was := (acting?_eq_some.mp acts).2.1
      have followed : ∃ h, .consume q t h ∈ ((initial confirms).run es).channel.log := by
        cases turns with
        | plain _ plain => cases plain
        | _ => exact ih was
      obtain ⟨h, logged⟩ := followed
      exact ⟨h, List.mem_append_left _ logged⟩
    · rw [taken]
      exact ⟨h, List.mem_append_right _ (List.mem_singleton.mpr rfl)⟩

/-- With deliveries made of the first messages of a snapshot, the deliveries that are made of all of
them begin. -/
theorem prefix_deliveries {queue : QueueName} {given : List Delivery} {snapshot : List Stored}
    {tags : List DeliveryTag} (drawn : ∀ d ∈ given, d = d.stored.delivery queue d.tag)
    (so_far : given.map Delivery.stored <+: snapshot) (tagged : given.map Delivery.tag <+: tags) :
    given <+: List.zipWith (Stored.delivery queue) snapshot tags := by
  obtain ⟨messages, rfl⟩ := so_far
  obtain ⟨rest, rfl⟩ := tagged
  rw [List.zipWith_append (by simp)]
  have same : List.zipWith (Stored.delivery queue) (given.map Delivery.stored)
      (given.map Delivery.tag) = given := by
    rw [List.zipWith_map, List.zipWith_self]
    exact (List.map_congr_left fun d member => (drawn d member).symm).trans given.map_id
  rw [same]
  exact List.prefix_append _ _

/-! ### The invariant of a scan -/

/-- The call of a scan waits for its consumer. -/
abbrev Waiting (scan : Scan) (s : Session) : Prop :=
  s.task? scan.call = some (.scanning scan.consumer scan.deadline)

/-- The deliveries that serve the registration of a scan in a run. -/
def servedTo (scan : Scan) (s : Session) (es : List Event) : List Delivery :=
  (trace (served scan.registration) s es).map (·.2)

theorem servedTo_append (scan : Scan) (s : Session) (es fs : List Event) :
    servedTo scan s (es ++ fs) = servedTo scan s es ++ servedTo scan (s.run es) fs := by
  rw [servedTo, trace_append, List.map_append]
  rfl

theorem servedTo_concat (scan : Scan) (s : Session) (es : List Event) (e : Event) :
    servedTo scan s (es ++ [e]) =
      servedTo scan s es ++ (served scan.registration (s.run es) e).map (·.2) := by
  rw [servedTo, trace_concat, List.map_append]
  rfl

/-- The invariant of a scan after some deliveries have served its registration. -/
structure Underway (scan : Scan) (s : Session) (given : List Delivery) : Prop where
  orderly : s.Orderly
  drawn : s.Drawn
  secluded : Secluded scan.consumer scan.registration scan.call s
  known : scan.consumer < s.consumers.length
  handler : s.channel.handler? scan.registration = some scan.consumer
  faithful : Faithful scan.registration scan.replay scan.queue scan.tag scan.snapshot s
    (given.map Delivery.stored)
  made : ∀ d ∈ given, d = d.stored.delivery scan.queue d.tag
  browser : ∃ b, s.browser? scan.consumer = some b ∧
    b.settings = (scan.tag, scan.converter, scan.request.selector, scan.expected)
  idle : ∀ j, ¬ Busy scan.registration s j
  old : scan.call < s.nextTask
  call : Waiting scan s ∨ s.task? scan.call = none

/-- A browsing consumer is done with a delivery at once. -/
theorem handOver_of_browser {s : Session} {h : HandlerId} {b : Browser}
    (there : s.browser? h = some b) (d : Delivery) : ∃ result, (s.handOver h d).2 = .done result := by
  unfold handOver
  rw [browser?_eq_some.mp there]
  exact ⟨_, rfl⟩

section Keeping

variable {scan : Scan} {s : Session} {given : List Delivery}

/-- A scan that takes a step returns, with what its consumer has collected. -/
theorem fate_of_scanning {h : HandlerId} {b : Browser} (there : s.browser? h = some b) (k : TaskId)
    (answer : Except TransportError Unit) (deadline : Nat) :
    s.fate k answer (.scanning h deadline) = .returns (.scanned b.outcome b.collected) := by
  simp only [fate, there]

/-- What serves the registration is made of a message by the name of the queue. -/
theorem Underway.made_of_served (underway : Underway scan s given) {e : Event}
    {p : TaskId × Delivery} (serves : p ∈ served scan.registration s e) :
    p.2 = p.2.stored.delivery scan.queue p.2.tag :=
  underway.drawn.eq_of_served serves (underway.faithful.served_own e p serves).2

theorem Underway.idle_apply (underway : Underway scan s given) (e : Event) (j : TaskId) :
    ¬ Busy scan.registration (s.apply e) j := by
  rintro ⟨q, t, pending, d, deadline, there⟩
  rcases replay_origin underway.orderly.numbered there with old | ⟨before, acts, turns⟩ | ⟨-, no, -⟩
  · exact underway.idle j ⟨q, t, pending, d, deadline, old⟩
  · cases turns with
    | plain _ plain => cases plain
    | handles _ =>
      obtain ⟨b, found, -⟩ := underway.browser
      obtain ⟨result, done⟩ := handOver_of_browser found d
      rw [task?_of_acting underway.orderly.numbered acts] at there
      simp only [fate, underway.handler, done] at there
      cases there
  · cases no

theorem Underway.call_apply (underway : Underway scan s given) (e : Event) :
    Waiting scan (s.apply e) ∨ (s.apply e).task? scan.call = none := by
  rcases underway.call with waits | gone
  · by_cases acts : ∃ u, s.acting? e = some (scan.call, u)
    · obtain ⟨u, acts⟩ := acts
      have itself := (acting?_eq_some.mp acts).2.1
      rw [waits] at itself
      cases itself
      obtain ⟨b, found, -⟩ := underway.browser
      right
      rw [task?_of_acting underway.orderly.numbered acts, fate_of_scanning found]
      rfl
    · have idle : ∀ u, s.acting? e ≠ some (scan.call, u) := fun u is => acts ⟨u, is⟩
      by_cases dropped : e = .drop scan.call
      · right
        have call : (s.task? scan.call).any isCall = true := by rw [waits]; rfl
        rw [dropped, apply, giveUp, if_pos call, task?_drop, if_pos rfl]
      · exact .inl (task?_of_kept underway.orderly.numbered waits (fun _ => dropped) idle)
  · exact .inr (task?_of_gone underway.orderly.numbered e underway.old gone)

theorem Underway.apply (underway : Underway scan s given) {e : Event}
    (apart : e.touches scan.consumer = false) :
    Underway scan (s.apply e) (given ++ (served scan.registration s e).map (·.2)) where
  orderly := underway.orderly.apply e
  drawn := underway.drawn.apply underway.orderly e
  secluded := underway.secluded.apply_of_not_made underway.orderly apart
    (fun same => absurd same (Nat.ne_of_lt underway.known))
  known := Nat.lt_of_lt_of_le underway.known (s.length_consumers_le_apply e)
  handler := (s.handler?_apply e underway.faithful.made).trans underway.handler
  faithful := by
    rw [List.map_append, List.map_map]
    exact underway.faithful.apply underway.orderly e
  made := by
    intro d member
    rcases List.mem_append.mp member with old | new
    · exact underway.made d old
    · obtain ⟨p, serves, rfl⟩ := List.mem_map.mp new
      exact underway.made_of_served serves
  browser := by
    obtain ⟨b, found, settings⟩ := underway.browser
    exact ⟨_, browser?_apply e found, (b.react_settings _).trans settings⟩
  idle := underway.idle_apply e
  old := by
    rw [nextTask_apply]
    exact Nat.lt_add_right _ underway.old
  call := underway.call_apply e

theorem Underway.run (underway : Underway scan s []) (es : List Event)
    (apart : Apart scan.consumer es) :
    Underway scan (s.run es) (servedTo scan s es) := by
  induction es using List.reverseRecOn with
  | nil => exact underway
  | append_singleton es e ih =>
    obtain ⟨earlier, now⟩ := apart_concat.mp apart
    rw [run_concat, servedTo_concat]
    exact (ih earlier).apply now

end Keeping

/-! ### A scan that begins -/

section Beginning

variable {s : Session} {e : Event} {k : TaskId} {queue : QueueName} {converter : Converter}
  {request : ScanRequest}

/-- The call of a scan, as it begins and its command to consume is taken. -/
structure Begins (s : Session) (e : Event) (k : TaskId) (queue : QueueName) (converter : Converter)
    (request : ScanRequest) : Prop where
  acts : s.acting? e = some (k, .start (.scan queue converter request))
  some_wanted : request.expected ≠ 0
  accepted : s.answer e = .ok ()

theorem Begins.taken (begins : Begins s e k queue converter request) :
    s.taken? e = some (.consume queue s.freshTag s.consumers.length) := by
  refine taken?_eq_some.mpr ⟨?_, begins.accepted⟩
  rw [command?_of_acting begins.acts]
  exact if_neg begins.some_wanted

theorem Begins.call (orderly : s.Orderly) (begins : Begins s e k queue converter request) :
    (s.apply e).task? k =
      some (.scanning s.consumers.length (s.clock + request.timeout)) := by
  rw [task?_of_acting orderly.numbered begins.acts, begins.accepted]
  simp only [fate, if_neg begins.some_wanted, Fate.task?]

/-- Nobody is busy with a registration that is made only now. -/
theorem idle_of_new (orderly : s.Orderly) (e : Event) (j : TaskId) :
    ¬ Busy s.channel.registrations.length (s.apply e) j := by
  rintro ⟨q, t, pending, d, deadline, there⟩
  rcases replay_origin orderly.numbered there with old | ⟨before, acts, turns⟩ | ⟨-, no, -⟩
  · exact Nat.lt_irrefl _ (orderly.about j _ _ old rfl)
  · cases turns with
    | plain _ plain => cases plain
    | handles _ => exact Nat.lt_irrefl _ (orderly.about j _ _ (acting?_eq_some.mp acts).2.1 rfl)
  · cases no

/-- A scan is under way once it has begun, if nobody names its consumer and no one has used its tag
before. -/
theorem underway_of_begins (confirms : Bool) (es : List Event)
    (begins : Begins ((initial confirms).run es) e k queue converter request)
    (fresh : ∀ q h, .consume q ((initial confirms).run es).freshTag h ∉
      ((initial confirms).run es).channel.log)
    (apart : Apart ((initial confirms).run es).consumers.length es) :
    Underway (((initial confirms).run es).scanOf k queue converter request)
      (((initial confirms).run es).apply e) [] := by
  have orderly := orderly_run confirms es
  have step : e.touches ((initial confirms).run es).consumers.length = false := by
    rw [(acting?_eq_some.mp begins.acts).1]
    rfl
  have none_left : ¬ ((initial confirms).run es).Leftover
      ((initial confirms).run es).freshTag := by
    rintro ⟨j, q, pending, stage, there, -⟩
    obtain ⟨h, logged⟩ := logged_of_replay confirms es there
    exact fresh q h logged
  exact {
    orderly := orderly.apply e
    drawn := (drawn_run confirms es).apply orderly e
    secluded := by
      refine (secluded_before confirms es (Nat.le_refl _) apart _ k).apply orderly step ?_ ?_
      · exact fun _ _ _ => rfl
      · intro j q c r acts _ _
        rw [begins.acts] at acts
        cases acts
        rfl
    known := length_lt_of_scan begins.acts begins.some_wanted
    handler := handler?_of_consume begins.taken
    faithful := faithful_of_consume orderly begins.taken none_left
    made := fun d member => absurd member List.not_mem_nil
    browser := ⟨_, browser?_of_scan begins.acts begins.some_wanted, rfl⟩
    idle := idle_of_new orderly e
    old := by
      rw [nextTask_apply]
      exact Nat.lt_add_right _ (orderly.numbered k _ (acting?_eq_some.mp begins.acts).2.1)
    call := .inl (begins.call orderly) }

end Beginning

end Session
end Intake
