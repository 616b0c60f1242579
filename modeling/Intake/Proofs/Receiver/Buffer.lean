import Intake.Proofs.Session.Observations

/-!
# The buffer of a receiving consumer

What goes into the buffer comes out of it, once and in the same order. The main statement is
`received_append_buffer`: in every run, the messages that calls to receive have returned, followed
by those in the buffer, are the messages of the deliveries that were kept.
-/
namespace Intake

namespace Receiver

/-! ### Verdicts -/

theorem isFull_iff {r : Receiver} : r.isFull = true ↔ r.capacity ≤ r.buffer.length := by
  rw [isFull, decide_eq_true_eq]

theorem verdict_eq_accepted {r : Receiver} {d : Delivery} {m : Message} :
    r.verdict d = .accepted m ↔ r.state ≠ .cancelled ∧ r.converter d = .ok m ∧
      selects r.selector m = true ∧ r.buffer.length < r.capacity := by
  unfold verdict
  by_cases ended : r.state = .cancelled
  · rw [if_pos (isCancelled_iff.mpr ended)]
    simp [ended]
  · have going : ¬ r.state.isCancelled = true := fun c => ended (isCancelled_iff.mp c)
    rw [if_neg going]
    cases converted : r.converter d with
    | error e => simp
    | ok m' =>
      by_cases wanted : selects r.selector m' = true
      · by_cases full : r.isFull = true
        · have room : ¬ r.buffer.length < r.capacity := Nat.not_lt.mpr (isFull_iff.mp full)
          simp [wanted, full, room]
        · have room : r.buffer.length < r.capacity :=
            Nat.lt_of_not_le fun le => full (isFull_iff.mpr le)
          simp only [wanted, full]
          constructor
          · rintro ⟨⟩
            exact ⟨ended, rfl, wanted, room⟩
          · rintro ⟨-, eq, -⟩
            cases eq
            rfl
      · simp only [wanted]
        constructor
        · rintro ⟨⟩
        · rintro ⟨-, eq, selected, -⟩
          cases eq
          exact absurd selected wanted

theorem verdict_eq_filtered {r : Receiver} {d : Delivery} (filtered : r.verdict d = .filtered) :
    ∃ m, r.converter d = .ok m ∧ selects r.selector m = false := by
  unfold verdict at filtered
  split at filtered
  · cases filtered
  · split at filtered
    · cases filtered
    · next m converted =>
      split at filtered
      · next unwanted => exact ⟨m, converted, Bool.not_eq_true' _ ▸ unwanted⟩
      · split at filtered <;> cases filtered

/-! ### What goes in and what comes out -/

/-- The message that a delivery adds to the buffer: the consumer has not ended, the delivery
converts, the selector wants the message, and there is room for it. -/
def welcomed (r : Receiver) (d : Delivery) : List Message :=
  match r.converter d with
  | .ok m =>
    if r.state ≠ .cancelled ∧ selects r.selector m = true ∧ r.buffer.length < r.capacity then [m]
    else []
  | .error _ => []

def arriving : Receiver → Happening → List Message :=
  Session.atArrival fun r d _ => r.welcomed d

def leaving (r : Receiver) : Happening → List Message
  | .take now => ((r.take now).2.bind id).toList
  | _ => []

theorem welcomed_eq_singleton {r : Receiver} {d : Delivery} {m : Message} :
    r.welcomed d = [m] ↔ r.verdict d = .accepted m := by
  rw [verdict_eq_accepted, welcomed]
  split
  · next m' converted =>
    split
    · next fits =>
      constructor
      · rintro ⟨⟩
        exact ⟨fits.1, converted, fits.2⟩
      · rintro ⟨-, eq, -⟩
        rw [converted] at eq
        cases eq
        rfl
    · next unfit =>
      constructor
      · rintro ⟨⟩
      · rintro ⟨going, eq, wanted, room⟩
        rw [converted] at eq
        cases eq
        exact absurd ⟨going, wanted, room⟩ unfit
  · next e unconverted =>
    constructor
    · rintro ⟨⟩
    · rintro ⟨-, eq, -⟩
      rw [unconverted] at eq
      cases eq

theorem welcomed_cases (r : Receiver) (d : Delivery) :
    (∃ m, r.welcomed d = [m]) ∨ r.welcomed d = [] := by
  unfold welcomed
  split
  · next m _ =>
    split
    · exact .inl ⟨m, rfl⟩
    · exact .inr rfl
  · exact .inr rfl

theorem keep_buffer (r : Receiver) (d : Delivery) :
    (r.keep d).buffer = r.buffer ++ r.welcomed d := by
  rcases r.welcomed_cases d with ⟨m, welcome⟩ | unwelcome
  · have accepted := welcomed_eq_singleton.mp welcome
    simp only [keep, accepted, welcome]
  · rw [unwelcome, List.append_nil]
    cases decided : r.verdict d with
    | accepted m =>
      rw [welcomed_eq_singleton.mpr decided] at unwelcome
      cases unwelcome
    | _ => simp only [keep, decided]

theorem afterCommand_buffer (r : Receiver) (answer : Except TransportError Unit) :
    (r.afterCommand answer).1.buffer = r.buffer := by
  cases answer <;> rfl

theorem deliver_buffer (r : Receiver) (d : Delivery) (answer : Except TransportError Unit) :
    (r.deliver d answer).1.buffer = r.buffer ++ r.welcomed d := by
  rw [← keep_buffer]
  unfold deliver
  split
  · rfl
  · exact afterCommand_buffer _ answer

theorem take_buffer (r : Receiver) (now : Nat) :
    ((r.take now).2.bind id).toList ++ (r.take now).1.buffer = r.buffer := by
  unfold take
  split
  · rfl
  · split
    · next filled => rw [filled]; rfl
    · next empty => split <;> (rw [empty]; rfl)

/-- Nothing happens to the buffer but that messages go in at its end and come out at its front. -/
theorem leaving_append_buffer (r : Receiver) (x : Happening) :
    r.leaving x ++ (r.react x).buffer = r.buffer ++ r.arriving x := by
  cases x with
  | delivery d now answer => exact r.deliver_buffer d answer
  | take now => exact (r.take_buffer now).trans (List.append_nil _).symm
  | cancel call now answer =>
    exact (r.cancel_frame call now answer).2.trans (List.append_nil _).symm
  | resume call => exact (r.resume_frame call).2.trans (List.append_nil _).symm
  | _ => exact (List.append_nil _).symm

theorem history_leaving_append_buffer (r : Receiver) (life : List Happening) :
    history leaving r life ++ (r.live life).buffer = r.buffer ++ history arriving r life := by
  induction life generalizing r with
  | nil => exact (List.append_nil _).symm
  | cons x life ih =>
    -- The balance of the first event and that of the rest have the buffer in between in common.
    rw [history, history, live_cons, List.append_assoc, ih, ← List.append_assoc,
      leaving_append_buffer, List.append_assoc]

/-- A buffer that holds no more than its capacity never does. -/
theorem react_length_le {r : Receiver} (fits : r.buffer.length ≤ r.capacity) (x : Happening) :
    (r.react x).buffer.length ≤ r.capacity := by
  have balance := congrArg List.length (r.leaving_append_buffer x)
  rw [List.length_append, List.length_append] at balance
  cases x with
  | delivery d now answer =>
    -- Only a delivery makes the buffer longer, and it is welcome only if there is room.
    change _ = _ + (r.welcomed d).length at balance
    rcases r.welcomed_cases d with ⟨m, welcome⟩ | unwelcome
    · have room := (verdict_eq_accepted.mp (welcomed_eq_singleton.mp welcome)).2.2.2
      rw [welcome, List.length_singleton] at balance
      omega
    · rw [unwelcome, List.length_nil] at balance
      omega
  | _ =>
    change _ = _ + 0 at balance
    omega

/-! ### What is acknowledged -/

/-- The message of a delivery that converts and that the selector wants. -/
def wanted? (r : Receiver) (d : Delivery) : Option Message :=
  match r.converter d with
  | .ok m => if selects r.selector m then some m else none
  | .error _ => none

/-- A delivery whose acknowledgement the channel takes. -/
def acknowledging (r : Receiver) (d : Delivery) : Except TransportError Unit → List Delivery
  | .ok () => if r.settlement? d = some (.ack d.tag false) then [d] else []
  | .error _ => []

theorem converter_congr {r r' : Receiver} (same : r.settings = r'.settings) :
    r.converter = r'.converter := congrArg (·.2.2.1) same

theorem wanted?_congr {r r' : Receiver} (same : r.settings = r'.settings) :
    r.wanted? = r'.wanted? := by
  simp only [settings, Prod.mk.injEq] at same
  funext d
  simp only [wanted?, same]

theorem acknowledging_cases (r : Receiver) (d : Delivery) (answer : Except TransportError Unit) :
    r.acknowledging d answer = [] ∨
      r.acknowledging d answer = [d] ∧ (∃ m, r.converter d = .ok m) ∧
        (r.wanted? d).toList.Sublist (r.welcomed d) := by
  cases answer with
  | error e => exact .inl rfl
  | ok u =>
    by_cases acks : r.settlement? d = some (.ack d.tag false)
    · refine .inr ⟨if_pos acks, ?_⟩
      cases decided : r.verdict d with
      | filtered =>
        -- What the selector does not want is acknowledged without being kept.
        obtain ⟨m, converted, unwanted⟩ := verdict_eq_filtered decided
        refine ⟨⟨m, converted⟩, ?_⟩
        simp [wanted?, converted, unwanted]
      | accepted m =>
        obtain ⟨-, converted, wanted, -⟩ := verdict_eq_accepted.mp decided
        refine ⟨⟨m, converted⟩, ?_⟩
        rw [welcomed_eq_singleton.mpr decided]
        simp [wanted?, converted, wanted]
      | rejected => simp [settlement?, decided] at acks
      | unconvertible e => simp [settlement?, decided] at acks
      | overflowed => simp [settlement?, decided] at acks
    · exact .inl (if_neg acks)

/-- Over a life, the deliveries that are acknowledged convert, and the messages of those that are
wanted have gone into the buffer. -/
theorem history_acknowledging (r : Receiver) (life : List Happening) :
    (∀ d ∈ history (Session.atArrival acknowledging) r life, ∃ m, r.converter d = .ok m) ∧
      ((history (Session.atArrival acknowledging) r life).filterMap r.wanted?).Sublist
        (history arriving r life) := by
  induction life generalizing r with
  | nil =>
    refine ⟨fun d member => ?_, List.Sublist.refl _⟩
    exact absurd member List.not_mem_nil
  | cons x life ih =>
    obtain ⟨later, sublist⟩ := ih (r.react x)
    rw [converter_congr (r.react_settings x)] at later
    rw [wanted?_congr (r.react_settings x)] at sublist
    simp only [history, List.filterMap_append]
    cases x with
    | delivery d now answer =>
      change (∀ d' ∈ r.acknowledging d answer ++ _, _) ∧
        ((r.acknowledging d answer).filterMap r.wanted? ++ _).Sublist (r.welcomed d ++ _)
      rcases r.acknowledging_cases d answer with nothing | ⟨acks, converts, fits⟩
      · rw [nothing]
        exact ⟨later, sublist.trans (List.sublist_append_right _ _)⟩
      · rw [acks]
        constructor
        · intro d' member
          rcases List.mem_cons.mp member with rfl | member
          · exact converts
          · exact later d' member
        · refine List.Sublist.append ?_ sublist
          cases wanted : r.wanted? d with
          | none => simp [wanted]
          | some m => simpa [wanted] using fits
    | _ => exact ⟨later, sublist⟩

end Receiver

namespace Session

/-! ### Runs -/

def received (h : HandlerId) (s : Session) (e : Event) : List Message :=
  match s.acting? e with
  | some (_, .taking h') =>
    if h' = h then
      (s.returned e).filterMap fun f => match f.answer with
        | .message m => m
        | _ => none
    else []
  | _ => []

/-- The message of a delivery that is kept at an event. -/
def kept (h : HandlerId) (s : Session) (e : Event) : List Message :=
  (arrival? h s e).elim [] fun p => p.1.welcomed p.2

/-- The delivery whose acknowledgement reaches the channel at an event. -/
def acknowledged (h : HandlerId) (s : Session) (e : Event) : List Delivery :=
  (arrival? h s e).elim [] fun p => if .ack p.2.tag false ∈ s.recorded e then [p.2] else []

theorem agrees_received (h : HandlerId) : Agrees h (received h) Receiver.leaving := by
  intro s e
  unfold received
  split
  · next k h' acts =>
    by_cases same : h' = h
    · subst same
      rw [if_pos rfl, returned_eq, acts]
      simp only [fate]
      cases there : s.receiver? h' with
      | none => rfl
      | some r =>
        simp only [happening_eq_take.mpr ⟨⟨k, acts⟩, rfl⟩, Receiver.leaving]
        cases (r.take s.clock).2 with
        | none => rfl
        | some m => cases m <;> rfl
    · rw [if_neg same]
      cases s.receiver? h with
      | none => rfl
      | some r =>
        simp only [happening_of_acting h acts, taskHappening?, concerning, if_neg same]
        rfl
  · next idle =>
    cases s.receiver? h with
    | none => rfl
    | some r =>
      simp only [Receiver.leaving]
      split
      · next now occurs =>
        obtain ⟨⟨k, acts⟩, -⟩ := happening_eq_take.mp occurs
        exact absurd acts (idle k h)
      · rfl

theorem agrees_kept (h : HandlerId) : Agrees h (kept h) Receiver.arriving :=
  agrees_atArrival h fun r d _ => r.welcomed d

theorem agrees_acknowledged (h : HandlerId) :
    Agrees h (acknowledged h) (atArrival Receiver.acknowledging) := by
  have same : acknowledged h = fun s e =>
      (arrival? h s e).elim [] fun p => p.1.acknowledging p.2 (s.answer e) := by
    funext s e
    unfold acknowledged
    cases arrives : arrival? h s e with
    | none => rfl
    | some p =>
      obtain ⟨r, d⟩ := p
      simp only [Option.elim_some, recorded_eq, command?_of_arrival arrives,
        Receiver.acknowledging]
      cases s.answer e with
      | error e => rfl
      | ok u =>
        simp only [Option.mem_toList]
  rw [same]
  exact agrees_atArrival h Receiver.acknowledging

/-- **No loss, no duplication, first in, first out**: in every run, the messages that calls to
receive have returned, in the order in which the calls took them, and then the messages in the
buffer are the messages of the deliveries that were kept, in the order in which they came. Every
delivery that was acknowledged converts, and if the selector wants its message, then the message
has been returned or is in the buffer. -/
theorem received_append_buffer (confirms : Bool) (es : List Event) (h : HandlerId) {r : Receiver}
    (there : ((initial confirms).run es).receiver? h = some r) :
    trace (received h) (initial confirms) es ++ r.buffer = trace (kept h) (initial confirms) es ∧
      (∀ d ∈ trace (acknowledged h) (initial confirms) es, ∃ m, r.converter d = .ok m) ∧
      ((trace (acknowledged h) (initial confirms) es).filterMap r.wanted?).Sublist
        (trace (received h) (initial confirms) es ++ r.buffer) := by
  obtain ⟨r₀, new, rfl, seen⟩ := life_of_receiver es (initial_receiver? confirms h) there
  -- The buffer was empty in the beginning, so what came out and what is left is all that went in.
  obtain ⟨-, empty, -⟩ := new.eq
  have balance := r₀.history_leaving_append_buffer (life h (initial confirms) es)
  rw [empty, List.nil_append] at balance
  rw [seen _ _ _ (agrees_received h), seen _ _ _ (agrees_kept h),
    seen _ _ _ (agrees_acknowledged h)]
  obtain ⟨converts, sublist⟩ := r₀.history_acknowledging (life h (initial confirms) es)
  have same := r₀.live_settings (life h (initial confirms) es)
  refine ⟨balance, ?_, ?_⟩
  · rw [Receiver.converter_congr same]
    exact converts
  · rw [balance, Receiver.wanted?_congr same]
    exact sublist

/-- A delivery that is taken from a buffer of one place, one that stays in it, and one for which
there is no room. -/
def takenKeptRefused : List Event :=
  [.addReceiver ⟨"orders"⟩ ⟨"clerk"⟩ (standardConverter 100) none { batchingSize := 1 },
    .call (.deliver 0 (.bare ⟨1⟩)), .step 0, .call (.receive 0 .noWait), .step 1, .step 1,
    .call (.deliver 0 (.bare ⟨2⟩)), .step 2, .call (.deliver 0 (.bare ⟨3⟩)), .step 3]

theorem received_append_buffer_takenKeptRefused :
    ∃ r, ((initial true).run takenKeptRefused).receiver? 0 = some r ∧ r.buffer.length = 1 ∧
      trace (received 0) (initial true) takenKeptRefused ++ r.buffer =
        trace (kept 0) (initial true) takenKeptRefused :=
  ⟨_, rfl, rfl, (received_append_buffer true takenKeptRefused 0 rfl).1⟩

end Session
end Intake
