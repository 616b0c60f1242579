import Intake.Proofs.Browser.Budget

/-!
# Commands of a browsing consumer

The only command that a browsing consumer ever sends is its cancel, and it sends it once
(`requests_run`). It settles nothing.
-/
namespace Intake

namespace Browser

/-- The command that the consumer sends when something happens to it. -/
def request? (b : Browser) : Happening → Option Command
  | .delivery d _ _ => b.command? d
  | .endBrowsing _ => b.cancellation?
  | .endScan _ => if b.outcome = .timedOut then b.cancellation? else none
  | _ => none

theorem cancel_issued (b : Browser) (answer : Except TransportError Unit) :
    (b.cancel answer).1.cancelIssued = true := by
  unfold cancel
  split
  · assumption
  · cases answer <;> rfl

theorem keep_issued (b : Browser) (d : Delivery) : (b.keep d).cancelIssued = b.cancelIssued := by
  unfold keep
  cases b.verdict d <;> rfl

/-- Asking for the end sends the cancel unless that was done before. -/
theorem cancellation?_cases (b : Browser) :
    (b.cancellation? = none ∧ b.cancelIssued = true) ∨
      (b.cancellation? = some (.cancel b.tag) ∧ b.cancelIssued = false) := by
  unfold cancellation?
  cases b.cancelIssued
  · exact .inr ⟨rfl, rfl⟩
  · exact .inl ⟨rfl, rfl⟩

/-- Whatever happens, the consumer sends nothing and has asked for its end as before; or it sends its
cancel and asks for its end by that. -/
theorem request?_cases (b : Browser) (x : Happening) :
    (b.request? x = none ∧ (b.react x).cancelIssued = b.cancelIssued) ∨
      (b.request? x = some (.cancel b.tag) ∧ b.cancelIssued = false ∧
        (b.react x).cancelIssued = true) := by
  -- What is asked for is sent if it has not been sent before.
  have asks {after : Browser} (issued : after.cancelIssued = true) :
      (b.cancellation? = none ∧ after.cancelIssued = b.cancelIssued) ∨
        (b.cancellation? = some (.cancel b.tag) ∧ b.cancelIssued = false ∧
          after.cancelIssued = true) := by
    rcases b.cancellation?_cases with ⟨nothing, before⟩ | ⟨sends, before⟩
    · exact .inl ⟨nothing, issued.trans before.symm⟩
    · exact .inr ⟨sends, before, issued⟩
  cases x with
  | delivery d now answer =>
    rw [request?, command?, react, deliver_eq]
    split
    · exact asks (cancel_issued _ answer)
    · exact .inl ⟨rfl, b.keep_issued d⟩
  | endBrowsing answer => exact asks (b.cancel_issued answer)
  | endScan answer =>
    rw [request?, react]
    split
    · exact asks (b.cancel_issued answer)
    · exact .inl ⟨rfl, rfl⟩
  | _ => exact .inl ⟨rfl, rfl⟩

theorem react_issued {b : Browser} (issued : b.cancelIssued = true) (x : Happening) :
    (b.react x).cancelIssued = true := by
  rcases b.request?_cases x with ⟨-, same⟩ | ⟨-, -, asked⟩
  · exact same.trans issued
  · exact asked

theorem live_issued {b : Browser} (issued : b.cancelIssued = true) (life : List Happening) :
    (b.live life).cancelIssued = true :=
  keeps_live (P := (·.cancelIssued = true)) (fun _ x kept => react_issued kept x) issued life

def requests (b : Browser) (x : Happening) : List Command := (b.request? x).toList

/-- In its life a consumer sends its cancel if it comes to ask for its end, and nothing else. -/
theorem history_requests (b : Browser) (life : List Happening) :
    historyOf react requests b life =
      if b.cancelIssued = false ∧ (b.live life).cancelIssued = true then [.cancel b.tag] else [] := by
  induction life generalizing b with
  | nil =>
    rw [historyOf, live_nil, if_neg]
    rintro ⟨no, yes⟩
    rw [no] at yes
    cases yes
  | cons x life ih =>
    have tag : (b.react x).tag = b.tag := congrArg (·.1) (b.react_settings x)
    rw [historyOf, ih, tag, live_cons, requests]
    rcases b.request?_cases x with ⟨nothing, same⟩ | ⟨sends, before, issued⟩
    · rw [nothing, same]
      rfl
    · rw [sends, issued, before, live_issued issued]
      rfl

end Browser

namespace Session

/-- A task sends what its consumer sends at what happens to it. -/
theorem taskCommand?_of_browser {s : Session} {h : HandlerId} {b : Browser}
    (there : s.browser? h = some b) {k : TaskId} {t : Task} {x : Happening}
    {answer : Except TransportError Unit} (does : s.taskHappening? k answer t = some (h, x)) :
    s.taskCommand? t = b.request? x := by
  have no_receiver : s.receiver? h = none := by rw [receiver?, browser?_eq_some.mp there]
  have sends (d : Delivery) : s.handlerCommand? h d = b.command? d := by
    rw [handlerCommand?, browser?_eq_some.mp there]
  cases affects_of_does does with
  | delivers => exact sends _
  | hands handler =>
    rw [taskCommand?, handler]
    exact sends _
  | cancels =>
    rw [taskCommand?, no_receiver]
    rfl
  | scanned =>
    rw [taskCommand?, there]
    rfl
  | _ => rfl

/-- What is attempted on behalf of a browsing consumer is what it sends at what happens to it. -/
theorem attempted_of_browser {s : Session} {h : HandlerId} {b : Browser}
    (there : s.browser? h = some b) (e : Event) :
    attempted h s e = b.request? (s.happening h e) := by
  unfold attempted
  by_cases concerned : s.happening h e = .nothing
  · rw [concerned]
    rfl
  rw [if_pos (concerns_iff.mpr concerned)]
  rcases happening_cases rfl concerned with ⟨k, t, acts, does⟩ | ⟨tag, rfl, occurs⟩ |
    ⟨tag, rfl, occurs⟩ | ⟨rfl, occurs⟩ | ⟨rfl, occurs⟩ | ⟨k, rfl, occurs⟩
  · rw [command?_of_acting acts, taskCommand?_of_browser there does]
  · rw [occurs]
    rfl
  · rw [occurs]
    rfl
  · rw [occurs, command?, there]
    rfl
  · rw [occurs]
    rfl
  · rw [occurs]
    rfl

/-- The commands that a browsing consumer attempts to send at an event. -/
def requested (h : HandlerId) (s : Session) (e : Event) : List Command :=
  if (s.browser? h).isSome then (attempted h s e).toList else []

theorem requested_of_browser {s : Session} {h : HandlerId} {b : Browser}
    (there : s.browser? h = some b) (e : Event) :
    requested h s e = b.requests (s.happening h e) := by
  rw [requested, there, attempted_of_browser there]
  rfl

theorem agrees_requested (h : HandlerId) : BrowserAgrees h (requested h) Browser.requests := by
  intro s e
  simp only
  cases there : s.browser? h with
  | none =>
    rw [requested, there]
    rfl
  | some b => exact requested_of_browser there e

/-- From wherever a consumer is there, it sends its cancel if it has not asked for its end before and
comes to ask for it, and nothing else. -/
theorem trace_requested {s : Session} {h : HandlerId} {b b' : Browser}
    (there : s.browser? h = some b) (es : List Event) (there' : (s.run es).browser? h = some b') :
    trace (requested h) s es =
      if b.cancelIssued = false ∧ b'.cancelIssued = true then [.cancel b.tag] else [] := by
  obtain ⟨found, seen⟩ :=
    found_run (·.browser? h) (fun _ e _ => browser?_apply (h := h) e) es there
  rw [there'] at found
  cases found
  rw [seen _ _ _ (agrees_requested h), b.history_requests]
  rfl

/-- **Commands of a browsing consumer**: whatever goes on, a browsing consumer attempts its cancel
once if it has asked for its end, and it attempts nothing else. -/
theorem requests_run (confirms : Bool) (es : List Event) (h : HandlerId) {b : Browser}
    (there : ((initial confirms).run es).browser? h = some b) :
    trace (requested h) (initial confirms) es =
      if b.cancelIssued then [.cancel b.tag] else [] := by
  obtain ⟨b₀, new, rfl, seen⟩ := life_of_browser es (initial_browser? confirms h) there
  have fresh : b₀.cancelIssued = false := by
    obtain ⟨tag, converter, expected, selector, rfl⟩ := new
    rfl
  have tag : (b₀.live (browserLife h (initial confirms) es)).tag = b₀.tag :=
    congrArg (·.1) (b₀.live_settings _)
  rw [seen _ _ _ (agrees_requested h), b₀.history_requests, fresh, tag]
  simp only [true_and]

end Session
end Intake
