import Intake.Consumer

/-!
# Lives of consumers

Whatever goes on in a session, only a few things happen to any one consumer. Its life is the
list of these; the consumer after a life is found without the session.
-/
namespace Intake

/-- What happens to one consumer, and what it is told by it: the time, and what the channel answers
to the command that the consumer sends, if it sends one. -/
inductive Happening where
  | nothing
  | delivery (d : Delivery) (now : Nat) (answer : Except TransportError Unit)
  -- the end of the work on a delivery
  | handled (d : Delivery) (now : Nat)
  | cancelOk (tag : ConsumerTag) (now : Nat)
  | cancelledByBroker (tag : ConsumerTag) (now : Nat)
  -- a call to receive gets in line
  | receive (call : TaskId) (timeout : ReceiveTimeout)
  -- the first call in line looks at the buffer
  | take (now : Nat)
  -- a call to cancel begins
  | cancel (call : TaskId) (now : Nat) (answer : Except TransportError Unit)
  -- the wait of a call to cancel is over
  | resume (call : TaskId)
  -- a browsing consumer is asked to end
  | endBrowsing (answer : Except TransportError Unit)
  -- the wait of a scan is over
  | endScan (answer : Except TransportError Unit)
  | takeCollected
  -- a call is given up
  | drop (call : TaskId)

def Receiver.react (r : Receiver) : Happening → Receiver
  | .delivery d _ answer => (r.deliver d answer).1
  | .cancelOk .. => r.markCancelled
  | .cancelledByBroker .. => r.markCancelled
  | .receive call timeout => r.receive call timeout
  | .take now => (r.take now).1
  | .cancel call now answer => (r.cancel call now answer).1
  | .resume call => (r.resume call).1
  | .drop call => r.drop call
  | _ => r

/-- A browsing consumer after something has happened to it. A scan that runs out of time asks for
the end of its consumer before it takes the messages. -/
def Browser.react (b : Browser) : Happening → Browser
  | .delivery d _ answer => (b.deliver d answer).1
  | .cancelOk .. => b.markCancelled
  | .cancelledByBroker .. => b.markCancelled
  | .endBrowsing answer => (b.cancel answer).1
  | .endScan answer =>
    (if b.outcome = .timedOut then (b.cancel answer).1 else b).takeMessages.2
  | .takeCollected => b.takeMessages.2
  | _ => b

def Recorder.react (r : Recorder) : Happening → Recorder
  | .delivery d now _ =>
    if r.effort d = 0 then (r.note (.began d now)).note (.ended d.tag now)
    else r.note (.began d now)
  | .handled d now => r.note (.ended d.tag now)
  | .cancelOk tag now => r.note (.cancelOk tag now)
  | .cancelledByBroker tag now => r.note (.cancelled tag now)
  | _ => r

def Consumer.react : Consumer → Happening → Consumer
  | .receiver r, x => .receiver (r.react x)
  | .browser b, x => .browser (b.react x)
  | .recorder r, x => .recorder (r.react x)

namespace Consumer

@[simp] theorem react_nothing (c : Consumer) : c.react .nothing = c := by
  cases c <;> rfl

theorem cancelOk_eq_react (tag : ConsumerTag) (now : Nat) (c : Consumer) :
    c.cancelOk tag now = c.react (.cancelOk tag now) := by
  cases c <;> rfl

theorem cancelledByBroker_eq_react (tag : ConsumerTag) (now : Nat) (c : Consumer) :
    c.cancelledByBroker tag now = c.react (.cancelledByBroker tag now) := by
  cases c <;> rfl

end Consumer

theorem requestCancel_eq_cancelled {s : ConsumerState} :
    s.requestCancel = .cancelled ↔ s = .cancelled := by
  cases s <;> decide

/-- What there is to see of the life of anything that reacts to what happens. -/
def historyOf {σ α : Type} (react : σ → Happening → σ) (see : σ → Happening → List α) :
    σ → List Happening → List α
  | _, [] => []
  | c, x :: life => see c x ++ historyOf react see (react c x) life

namespace Receiver

theorem isCancelled_iff {s : ConsumerState} : s.isCancelled = true ↔ s = .cancelled := by
  cases s <;> decide

def live (r : Receiver) (life : List Happening) : Receiver := life.foldl react r

@[simp] theorem live_nil (r : Receiver) : r.live [] = r := rfl

@[simp] theorem live_cons (r : Receiver) (x : Happening) (life : List Happening) :
    r.live (x :: life) = (r.react x).live life := rfl

/-- What nothing that happens takes away from a consumer, it keeps for its life. -/
theorem keeps_live {P : Receiver → Prop} (keeps : ∀ r x, P r → P (r.react x)) {r : Receiver}
    (holds : P r) (life : List Happening) : P (r.live life) :=
  List.foldlRecOn life react holds fun r kept x _ => keeps r x kept

/-- A receiving consumer to which nothing has happened. -/
def IsNew (r : Receiver) : Prop :=
  ∃ queue tag converter selector config, create queue tag converter selector config = .ok r

/-- What there is to see of a life. -/
def history {α : Type} (see : Receiver → Happening → List α) : Receiver → List Happening → List α
  | _, [] => []
  | r, x :: life => see r x ++ history see (r.react x) life

theorem history_eq {α : Type} (see : Receiver → Happening → List α) (r : Receiver)
    (life : List Happening) : history see r life = historyOf react see r life := by
  induction life generalizing r with
  | nil => rfl
  | cons x life ih => rw [history, historyOf, ih]

/-- A new consumer is active, has room for a message, and nothing has happened to it. -/
theorem IsNew.eq {r : Receiver} (new : r.IsNew) :
    0 < r.capacity ∧ r.buffer = [] ∧ r.state = .active ∧ r.cancelIssued = false ∧
      r.counters = {} ∧ r.takers = [] ∧ r.cancels = [] := by
  obtain ⟨queue, tag, converter, selector, config, created⟩ := new
  unfold create at created
  split at created
  · cases created
  · next valid =>
    split at created
    · cases created
    · cases created
      -- That there is room is the first check of the settings; all else is as a new consumer has it.
      refine ⟨?_, rfl, rfl, rfl, rfl, rfl, rfl⟩
      unfold ConsumerConfig.validate at valid
      split at valid
      · cases valid
      · next positive =>
        have nonzero : config.batchingSize.toNat ≠ 0 := by
          intro zero
          exact positive (UInt64.toNat_inj.mp zero)
        exact Nat.pos_of_ne_zero nonzero

/-! ### What never changes -/

/-- What a consumer was made with. -/
def settings (r : Receiver) :
    QueueName × ConsumerTag × Converter × Option Selector × ConsumerConfig :=
  (r.queue, r.tag, r.converter, r.selector, r.config)

theorem keep_settings (r : Receiver) (d : Delivery) : (r.keep d).settings = r.settings := by
  unfold keep
  simp only
  split <;> rfl

theorem deliver_settings (r : Receiver) (d : Delivery) (answer : Except TransportError Unit) :
    (r.deliver d answer).1.settings = r.settings := by
  rw [← r.keep_settings d]
  unfold deliver
  split
  · rfl
  · cases answer <;> rfl

theorem take_settings (r : Receiver) (now : Nat) : (r.take now).1.settings = r.settings := by
  unfold take
  split
  · rfl
  · split
    · rfl
    · split <;> rfl

theorem awaitEnd_frame (r : Receiver) (call : TaskId) (now : Nat) :
    (r.awaitEnd call now).1.settings = r.settings ∧
      (r.awaitEnd call now).1.buffer = r.buffer := by
  unfold awaitEnd
  split
  · exact ⟨rfl, rfl⟩
  · split <;> exact ⟨rfl, rfl⟩

theorem cancel_frame (r : Receiver) (call : TaskId) (now : Nat)
    (answer : Except TransportError Unit) :
    (r.cancel call now answer).1.settings = r.settings ∧
      (r.cancel call now answer).1.buffer = r.buffer := by
  unfold cancel
  split
  · split
    · exact ⟨rfl, rfl⟩
    · exact r.awaitEnd_frame call now
  · cases answer with
    | error e => exact ⟨rfl, rfl⟩
    | ok u => exact awaitEnd_frame _ call now

theorem resume_frame (r : Receiver) (call : TaskId) :
    (r.resume call).1.settings = r.settings ∧ (r.resume call).1.buffer = r.buffer := by
  unfold resume
  simp only
  split <;> exact ⟨rfl, rfl⟩

/-- Nothing that happens to a consumer changes what it was made with. -/
theorem react_settings (r : Receiver) (x : Happening) : (r.react x).settings = r.settings := by
  cases x with
  | delivery d now answer => exact r.deliver_settings d answer
  | take now => exact r.take_settings now
  | cancel call now answer => exact (r.cancel_frame call now answer).1
  | resume call => exact (r.resume_frame call).1
  | _ => rfl

theorem live_settings (r : Receiver) (life : List Happening) :
    (r.live life).settings = r.settings :=
  keeps_live (P := (·.settings = r.settings)) (fun c x same => (c.react_settings x).trans same) rfl
    life

end Receiver

namespace Browser

def live (b : Browser) (life : List Happening) : Browser := life.foldl react b

@[simp] theorem live_nil (b : Browser) : b.live [] = b := rfl

@[simp] theorem live_cons (b : Browser) (x : Happening) (life : List Happening) :
    b.live (x :: life) = (b.react x).live life := rfl

/-- What nothing that happens takes away from a consumer, it keeps for its life. -/
theorem keeps_live {P : Browser → Prop} (keeps : ∀ b x, P b → P (b.react x)) {b : Browser}
    (holds : P b) (life : List Happening) : P (b.live life) :=
  List.foldlRecOn life react holds fun b kept x _ => keeps b x kept

/-- A browsing consumer to which nothing has happened. -/
def IsNew (b : Browser) : Prop :=
  ∃ tag converter expected selector, b = create tag converter expected selector

/-- What a consumer was made with. -/
def settings (b : Browser) : ConsumerTag × Converter × Option Selector × Nat :=
  (b.tag, b.converter, b.selector, b.expected)

/-! ### What each operation leaves alone -/

/-- Asking for the end of a consumer changes neither its messages nor how many are missing. -/
theorem cancel_frame (b : Browser) (answer : Except TransportError Unit) :
    (b.cancel answer).1.settings = b.settings ∧ (b.cancel answer).1.collected = b.collected ∧
      (b.cancel answer).1.remaining = b.remaining ∧
      (b.cancel answer).1.counters = b.counters := by
  unfold cancel
  split
  · exact ⟨rfl, rfl, rfl, rfl⟩
  · cases answer <;> exact ⟨rfl, rfl, rfl, rfl⟩

/-- A delivery is kept or not, and then the end of the consumer may be asked for. -/
theorem deliver_eq (b : Browser) (d : Delivery) (answer : Except TransportError Unit) :
    (b.deliver d answer).1 =
      if b.completes d then ((b.keep d).cancel answer).1 else b.keep d := by
  unfold deliver completes
  cases b.verdict d <;> simp only [Bool.false_eq_true, if_false]
  split <;> rfl

theorem keep_settings (b : Browser) (d : Delivery) : (b.keep d).settings = b.settings := by
  unfold keep
  simp only
  split <;> rfl

theorem deliver_settings (b : Browser) (d : Delivery) (answer : Except TransportError Unit) :
    (b.deliver d answer).1.settings = b.settings := by
  rw [deliver_eq]
  split
  · rw [((b.keep d).cancel_frame answer).1, keep_settings]
  · exact b.keep_settings d

/-- Nothing that happens to a consumer changes what it was made with. -/
theorem react_settings (b : Browser) (x : Happening) : (b.react x).settings = b.settings := by
  cases x with
  | delivery d now answer => exact b.deliver_settings d answer
  | endBrowsing answer => exact (b.cancel_frame answer).1
  | endScan answer =>
    rw [react]
    split
    · exact (b.cancel_frame answer).1
    · rfl
  | _ => rfl

theorem live_settings (b : Browser) (life : List Happening) :
    (b.live life).settings = b.settings :=
  keeps_live (P := (·.settings = b.settings)) (fun c x same => (c.react_settings x).trans same) rfl
    life

end Browser

/-- A consumer to which nothing has happened. -/
def Consumer.IsNew : Consumer → Prop
  | .receiver r => r.IsNew
  | .browser b => b.IsNew
  | .recorder r => r.log = []

end Intake
