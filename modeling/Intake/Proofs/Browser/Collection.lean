import Intake.Proofs.Browser.Pursuit

/-!
# What the consumer of a scan collects

The consumer of a scan wants what the scan looks for of the deliveries that serve its registration
(`wanted_prefix_matched`). As long as the scan waits it keeps what it collects, and nothing happens to
it but deliveries and notices of its registration.
-/
namespace Intake.Session

section Result

variable {scan : Scan} {s : Session}

/-! ### What the consumer of a scan wants -/

/-- What reaches the consumer of a scan is what serves its registration. -/
theorem Underway.offered_eq {given : List Delivery} (underway : Underway scan s given) {b : Browser}
    (found : s.browser? scan.consumer = some b) (e : Event) :
    offered scan.consumer s e = (served scan.registration s e).map fun p => (b, p.2) := by
  have same {d : Delivery} := handed?_iff_served (e := e) (d := d) underway.orderly
    underway.secluded.no_call underway.secluded.only_registration underway.handler
  rcases served_cases scan.registration s e with ⟨k, q, t, pending, d, -, serves⟩ | ⟨nothing, -⟩
  · rw [serves]
    exact offered_of_handed found (same.mpr ⟨k, serves⟩)
  · rw [nothing]
    apply offered_of_idle
    intro d handed
    obtain ⟨k, serves⟩ := same.mp handed
    rw [nothing] at serves
    cases serves

/-- The messages that a scan looks for among those that have served it. -/
def matched (scan : Scan) (s : Session) (es : List Event) : List Message :=
  (servedTo scan s es).filterMap (matching? scan.converter scan.request.selector)

/-- The consumer of a scan wants what the scan looks for, until the consumer has ended. -/
theorem wanted_prefix_matched (underway : Underway scan s []) (es : List Event)
    (apart : Apart scan.consumer es) {b : Browser}
    (there : (s.run es).browser? scan.consumer = some b) :
    wanted scan.consumer s es <+: matched scan s es ∧
      (b.state ≠ .cancelled → wanted scan.consumer s es = matched scan s es) := by
  induction es using List.reverseRecOn generalizing b with
  | nil => exact ⟨List.prefix_rfl, fun _ => rfl⟩
  | append_singleton es e ih =>
    obtain ⟨earlier, -⟩ := apart_concat.mp apart
    have before := underway.run es earlier
    obtain ⟨b₀, known, settings⟩ := before.browser
    obtain ⟨so_far, going⟩ := ih earlier known
    have wants (d : Delivery) : b₀.wants? d =
        if b₀.state = .cancelled then none
        else matching? scan.converter scan.request.selector d := by
      rw [b₀.wants?_eq, show b₀.converter = scan.converter from congrArg (·.2.1) settings,
        show b₀.selector = scan.request.selector from congrArg (·.2.2.1) settings]
    have more : wanted scan.consumer s (es ++ [e]) = wanted scan.consumer s es ++
        ((served scan.registration (s.run es) e).filterMap fun p => b₀.wants? p.2) := by
      rw [wanted, trace_concat, List.filterMap_append, before.offered_eq known, List.filterMap_map]
      rfl
    have more' : matched scan s (es ++ [e]) = matched scan s es ++
        ((served scan.registration (s.run es) e).map (·.2)).filterMap
          (matching? scan.converter scan.request.selector) := by
      rw [matched, servedTo_concat, List.filterMap_append]
      rfl
    rw [run_concat, browser?_apply e known] at there
    cases there
    by_cases ended : b₀.state = .cancelled
    · -- A consumer that has ended wants nothing more, and it does not come back.
      have nothing : ((served scan.registration (s.run es) e).filterMap fun p => b₀.wants? p.2) =
          [] := by
        simp [wants, ended]
      rw [more, more', nothing, List.append_nil]
      exact ⟨so_far.trans (List.prefix_append _ _),
        fun going => absurd (Browser.react_state_of_cancelled ended _) going⟩
    · have same : wanted scan.consumer s (es ++ [e]) = matched scan s (es ++ [e]) := by
        rw [more, more', going ended, List.filterMap_map]
        simp only [wants, if_neg ended]
        rfl
      exact ⟨same ▸ List.prefix_rfl, fun _ => same⟩

/-! ### What happens to the consumer of a scan -/

theorem Underway.waits_of_apply {given : List Delivery} (underway : Underway scan s given)
    {e : Event} (waits : Waiting scan (s.apply e)) :
    Waiting scan s ∧ ∀ u, s.acting? e ≠ some (scan.call, u) := by
  rcases underway.call with before | gone
  · refine ⟨before, ?_⟩
    intro u acts
    have itself := (acting?_eq_some.mp acts).2.1
    rw [before] at itself
    cases itself
    obtain ⟨b, known, -⟩ := underway.browser
    rw [Waiting, task?_of_acting underway.orderly.numbered acts, fate_of_scanning known] at waits
    cases waits
  · rw [Waiting, task?_of_gone underway.orderly.numbered e underway.old gone] at waits
    cases waits

/-- A task that is not the scan hands the consumer a delivery, tells it of a cancel of its
registration, or does nothing that matters to a browsing consumer. -/
theorem Underway.taskHappening?_cases {given : List Delivery} (underway : Underway scan s given)
    {j : TaskId} {t : Task} {x : Happening} {answer : Except TransportError Unit}
    (there : s.task? j = some t) (other : j ≠ scan.call)
    (does : s.taskHappening? j answer t = some (scan.consumer, x)) :
    (∃ d, s.taskHands? t = some (scan.consumer, d)) ∨
    (t.Notifies scan.registration ∧ ∀ b : Browser, b.taking x = []) ∨
    ((∀ b : Browser, b.react x = b ∧ b.taking x = []) ∧ s.taskCommand? t = none) := by
  have no_receiver : s.receiver? scan.consumer = none := by
    obtain ⟨b, known, -⟩ := underway.browser
    rw [receiver?, browser?_eq_some.mp known]
  have own {r : RegistrationId} (handler : s.channel.handler? r = some scan.consumer) :
      r = scan.registration := underway.secluded.only_registration r handler
  cases affects_of_does does with
  | delivers => exact absurd there (underway.secluded.no_call j _)
  | cancels => exact .inr (.inr ⟨fun b => ⟨rfl, rfl⟩, by rw [taskCommand?, no_receiver]; rfl⟩)
  | hands handler => exact .inl ⟨_, by rw [taskHands?, handler]; rfl⟩
  | confirms handler | dismisses handler => exact .inr (.inl ⟨own handler, fun _ => rfl⟩)
  | scanned => exact absurd (underway.secluded.only_scan j _ there rfl) other
  | _ => exact .inr (.inr ⟨fun b => ⟨rfl, rfl⟩, rfl⟩)

/-- While a scan waits, its consumer gets deliveries of its registration, it may be told of a cancel
of its registration, and nothing else matters to it. -/
theorem Underway.happening_cases {given : List Delivery} (underway : Underway scan s given)
    {e : Event} (apart : e.touches scan.consumer = false)
    (others : ∀ u, s.acting? e ≠ some (scan.call, u)) :
    (∃ d, s.handed? e = some (scan.consumer, d)) ∨
    (∃ j t, s.acting? e = some (j, t) ∧ t.Notifies scan.registration ∧
      ∀ b : Browser, b.taking (s.happening scan.consumer e) = []) ∨
    ((∀ b : Browser, b.react (s.happening scan.consumer e) = b ∧
        b.taking (s.happening scan.consumer e) = []) ∧
      (concerns (s.happening scan.consumer e) = true → s.command? e = none)) := by
  by_cases concerned : s.happening scan.consumer e = .nothing
  · rw [concerned]
    exact .inr (.inr ⟨fun b => ⟨rfl, rfl⟩, nofun⟩)
  rcases Session.happening_cases rfl concerned with ⟨j, t, acts, does⟩ | ⟨tag, rfl, -⟩ |
    ⟨tag, rfl, -⟩ | ⟨rfl, -⟩ | ⟨rfl, -⟩ | ⟨j, rfl, does⟩
  · have other : j ≠ scan.call := by
      rintro rfl
      exact others t acts
    rcases underway.taskHappening?_cases (acting?_eq_some.mp acts).2.1 other does with
      ⟨d, hands⟩ | ⟨notifies, idle⟩ | ⟨idle, quiet⟩
    · refine .inl ⟨d, ?_⟩
      rw [handed?, acts]
      exact hands
    · exact .inr (.inl ⟨j, t, acts, notifies, idle⟩)
    · exact .inr (.inr ⟨idle, fun _ => (command?_of_acting acts).trans quiet⟩)
  · simp [Event.touches] at apart
  · simp [Event.touches] at apart
  · simp [Event.touches] at apart
  · simp [Event.touches] at apart
  · rw [does]
    exact .inr (.inr ⟨fun b => ⟨rfl, rfl⟩, fun _ => rfl⟩)

/-- As long as a scan waits nobody takes the messages of its consumer. -/
theorem handedOut_of_waiting (underway : Underway scan s []) (es : List Event)
    (apart : Apart scan.consumer es) (waits : Waiting scan (s.run es)) :
    trace (handedOut scan.consumer) s es = [] := by
  induction es using List.reverseRecOn with
  | nil => rfl
  | append_singleton es e ih =>
    obtain ⟨earlier, now⟩ := apart_concat.mp apart
    have before := underway.run es earlier
    rw [run_concat] at waits
    obtain ⟨waited, others⟩ := before.waits_of_apply waits
    obtain ⟨b, known, -⟩ := before.browser
    have nothing : b.taking ((s.run es).happening scan.consumer e) = [] := by
      rcases before.happening_cases now others with ⟨d, handed⟩ | ⟨_, _, -, -, idle⟩ |
        ⟨idle, -⟩
      · rw [happening_eq_delivery.mpr ⟨handed, rfl, rfl⟩]
        rfl
      · exact idle b
      · exact (idle b).2
    rw [trace_concat, ih earlier waited, handedOut, known]
    exact nothing

end Result

end Intake.Session
