import Intake.Proofs.Browser.Budget

/-!
# The latch of a browsing consumer

Several operations release the latch of a browsing consumer, and several move its state. They all
keep what the latch tells: that the wait for messages is over, because none is missing or because
the consumer has ended (`truthful_run`).
-/
namespace Intake

namespace Browser

/-- The latch is released exactly if nothing is missing or the consumer has ended. -/
def Truthful (b : Browser) : Prop := b.released = true ↔ b.remaining = 0 ∨ b.state = .cancelled

theorem truthful_markCancelled (b : Browser) : b.markCancelled.Truthful :=
  iff_of_true rfl (.inr rfl)

theorem Truthful.cancel {b : Browser} (truthful : b.Truthful)
    (answer : Except TransportError Unit) : (b.cancel answer).1.Truthful := by
  unfold Browser.cancel
  split
  · exact truthful
  · cases answer with
    | error e => exact truthful_markCancelled _
    | ok u =>
      change b.released = true ↔ b.remaining = 0 ∨ b.state.requestCancel = .cancelled
      rw [requestCancel_eq_cancelled]
      exact truthful

/-- The last message that is missing releases the latch, and any other leaves it as it is. -/
theorem Truthful.keep {b : Browser} (truthful : b.Truthful) (d : Delivery) :
    (b.keep d).Truthful := by
  unfold Browser.keep
  cases verdict : b.verdict d with
  | collected m =>
    have some_missing := (verdict_eq_collected.mp verdict).2
    have released : b.released = true ↔ b.state = .cancelled :=
      Iff.trans truthful (or_iff_right some_missing)
    have last : b.remaining - 1 = 0 ↔ b.remaining = 1 := by omega
    simp only [Truthful, Bool.or_eq_true, decide_eq_true_eq, released, last]
    exact or_comm
  | _ => exact truthful

theorem Truthful.react {b : Browser} (truthful : b.Truthful) (x : Happening) :
    (b.react x).Truthful := by
  cases x with
  | delivery d now answer =>
    rw [Browser.react, deliver_eq]
    split
    · exact (truthful.keep d).cancel answer
    · exact truthful.keep d
  | cancelOk tag now => exact b.truthful_markCancelled
  | cancelledByBroker tag now => exact b.truthful_markCancelled
  | endBrowsing answer => exact truthful.cancel answer
  | endScan answer =>
    rw [Browser.react]
    split
    · exact truthful.cancel answer
    · exact truthful
  | _ => exact truthful

theorem Truthful.live {b : Browser} (truthful : b.Truthful) (life : List Happening) :
    (b.live life).Truthful :=
  keeps_live (P := Truthful) (fun _ x kept => kept.react x) truthful life

theorem IsNew.truthful {b : Browser} (new : b.IsNew) : b.Truthful := by
  obtain ⟨tag, converter, expected, selector, rfl⟩ := new
  simp [Truthful, create]

/-- How the wait for messages ended is told by the latch, so it tells what the latch tells. -/
theorem Truthful.outcome_iff {b : Browser} (truthful : b.Truthful) :
    (b.outcome = .exhausted ↔ b.remaining = 0) ∧
      (b.outcome = .cancelled ↔ b.remaining ≠ 0 ∧ b.state = .cancelled) ∧
      (b.outcome = .timedOut ↔ b.remaining ≠ 0 ∧ b.state ≠ .cancelled) := by
  unfold Truthful at truthful
  unfold outcome
  by_cases spent : b.remaining = 0
  · simp [truthful.mpr (.inl spent), spent]
  · by_cases ended : b.state = .cancelled
    · simp [truthful.mpr (.inr ended), spent, ended]
    · have waits : b.released = false := by
        rw [← Bool.not_eq_true, truthful]
        exact fun done => done.elim spent ended
      simp [waits, spent, ended]

/-! ### What does not come back -/

theorem keep_state (b : Browser) (d : Delivery) : (b.keep d).state = b.state := by
  unfold keep
  cases b.verdict d <;> rfl

theorem cancel_state_of_cancelled {b : Browser} (ended : b.state = .cancelled)
    (answer : Except TransportError Unit) : (b.cancel answer).1.state = .cancelled := by
  unfold cancel
  split
  · exact ended
  · cases answer with
    | error e => rfl
    | ok u => exact requestCancel_eq_cancelled.mpr ended

/-- A consumer that has ended stays so. -/
theorem react_state_of_cancelled {b : Browser} (ended : b.state = .cancelled) (x : Happening) :
    (b.react x).state = .cancelled := by
  cases x with
  | delivery d now answer =>
    have kept : (b.keep d).state = .cancelled := (b.keep_state d).trans ended
    rw [react, deliver_eq]
    split
    · exact cancel_state_of_cancelled kept answer
    · exact kept
  | cancelOk | cancelledByBroker => rfl
  | endBrowsing answer => exact cancel_state_of_cancelled ended answer
  | endScan answer =>
    rw [react]
    split
    · exact cancel_state_of_cancelled ended answer
    · exact ended
  | _ => exact ended

end Browser

namespace Session

/-- The latch tells the truth wherever a run gets. -/
theorem truthful_run (confirms : Bool) (es : List Event) (h : HandlerId) {b : Browser}
    (there : ((initial confirms).run es).browser? h = some b) : b.Truthful := by
  obtain ⟨b₀, new, rfl, -⟩ := life_of_browser es (initial_browser? confirms h) there
  exact new.truthful.live _

/-- What a run makes of a new browsing consumer. -/
theorem browser_of_new {s : Session} {h : HandlerId} {b₀ : Browser} (there : s.browser? h = some b₀)
    (new : b₀.IsNew) (es : List Event) :
    ∃ b, (s.run es).browser? h = some b ∧ b.settings = b₀.settings ∧ b.Truthful ∧
      b.Kept (trace (offered h) s es) (trace (handedOut h) s es) := by
  obtain ⟨found, seen⟩ :=
    found_run (·.browser? h) (fun _ e _ => browser?_apply (h := h) e) es there
  refine ⟨_, found, b₀.live_settings _, new.truthful.live _, ?_⟩
  rw [seen _ _ _ (agrees_offered h), seen _ _ _ (agrees_handedOut h)]
  exact new.kept.live _

end Session
end Intake
