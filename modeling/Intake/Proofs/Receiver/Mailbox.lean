import Intake.Proofs.Receiver.Buffer

/-!
# Mailboxes

The messages of a receiving consumer go through a bounded channel with two ends: deliveries are posted
at one and calls to receive read at the other. The channel is closed for those who post once its
reading end is gone, and for those who read once nobody can post any more. The main statement is
`mailboxAfter_eq`: a mailbox that is made with a consumer and used by it alone holds what is in the
buffer of the consumer, and keeps both its ends. Hence nobody ever finds it closed (`findsClosed_iff`),
and a call that looks at the mailbox, at the end of the consumer and at its timer, in this order, finds
what the consumer gives it (`poll_eq_take`).
-/
namespace Intake

/-- A bounded channel of messages. -/
structure Mailbox where
  messages : List Message
  capacity : Nat
  -- how many there are who can post
  senders : Nat
  -- whether there is somebody to read
  attended : Bool

namespace Mailbox

inductive Posting where
  | posted
  | full
  | closed
  deriving DecidableEq

inductive Reading where
  | message (m : Message)
  | empty
  | closed

/-- A new mailbox with both its ends. -/
def create (capacity : Nat) : Mailbox := ⟨[], capacity, 1, true⟩

/-- Posts a message if there is room for it. -/
def post (b : Mailbox) (m : Message) : Mailbox × Posting :=
  if !b.attended then (b, .closed)
  else if b.capacity ≤ b.messages.length then (b, .full)
  else ({ b with messages := b.messages ++ [m] }, .posted)

/-- Reads the oldest message. -/
def read (b : Mailbox) : Mailbox × Reading :=
  match b.messages with
  | m :: rest => ({ b with messages := rest }, .message m)
  | [] => (b, if b.senders = 0 then .closed else .empty)

def tryRead (b : Mailbox) : Mailbox × Option Message :=
  match b.read with
  | (b, .message m) => (b, some m)
  | (b, _) => (b, none)

/-- Looks for a message, and if there is none, for the end of the consumer, after which it looks once
more. Without an answer it waits on. -/
def next (b : Mailbox) (ended : Bool) : Mailbox × Option (Option Message) :=
  match b.read with
  | (b, .message m) => (b, some (some m))
  | (b, .closed) => (b, some none)
  | (b, .empty) => if ended then (b.tryRead.1, some b.tryRead.2) else (b, none)

/-- Looks at a timer after what it limits. -/
def within (late : Bool) : Mailbox × Option (Option Message) → Mailbox × Option (Option Message)
  | (b, some answer) => (b, some answer)
  | (b, none) => (b, if late then some none else none)

/-- One look of the call that holds the mailbox. -/
def poll (b : Mailbox) (ended : Bool) (now : Nat) : Patience → Mailbox × Option (Option Message)
  | .fresh .noWait => (b.tryRead.1, some b.tryRead.2)
  | .fresh (.after d) => within (Receiver.expired (now + d) now) (b.next ended)
  | .fresh .never => b.next ended
  | .limited deadline => within (Receiver.expired deadline now) (b.next ended)
  | .unlimited => b.next ended

/-! ### Open mailboxes -/

section Looks

variable {b : Mailbox} {m : Message} {rest : List Message}

theorem tryRead_of_message (filled : b.messages = m :: rest) :
    b.tryRead = ({ b with messages := rest }, some m) := by
  simp only [tryRead, read, filled]

theorem tryRead_of_empty (empty : b.messages = []) : b.tryRead = (b, none) := by
  simp only [tryRead, read, empty]
  by_cases closed : b.senders = 0 <;> simp only [closed, if_true, if_false]

/-- A message is found whether or not the consumer has ended. -/
theorem next_of_message (filled : b.messages = m :: rest) (ended : Bool) :
    b.next ended = ({ b with messages := rest }, some (some m)) := by
  simp only [next, read, filled]

theorem next_of_empty (empty : b.messages = []) (opened : b.senders ≠ 0) (ended : Bool) :
    b.next ended = (b, if ended then some none else none) := by
  have nothing : b.read = (b, .empty) := by simp only [read, empty, if_neg opened]
  simp only [next, nothing, tryRead_of_empty empty]
  cases ended <;> rfl

/-- Who finds a message does not look at a timer. -/
theorem poll_of_message (filled : b.messages = m :: rest) (ended : Bool) (now : Nat)
    (patience : Patience) :
    b.poll ended now patience = ({ b with messages := rest }, some (some m)) := by
  have found := next_of_message filled ended
  cases patience with
  | fresh timeout =>
    cases timeout with
    | noWait => simp only [poll, tryRead_of_message filled]
    | after d => simp only [poll, found, within]
    | never => exact found
  | limited deadline => simp only [poll, found, within]
  | unlimited => exact found

/-- Who finds no message gives up if the consumer has ended, or if it does not wait any longer. -/
theorem poll_of_empty (empty : b.messages = []) (opened : b.senders ≠ 0) (ended : Bool) (now : Nat)
    (patience : Patience) :
    b.poll ended now patience =
      (b, if ended ∨ Receiver.patienceAt now patience = none then some none else none) := by
  have found := next_of_empty empty opened ended
  cases patience with
  | fresh timeout =>
    cases timeout with
    | noWait => simp [poll, tryRead_of_empty empty, Receiver.patienceAt]
    | after d =>
      rw [poll, found]
      cases ended with
      | true => rfl
      | false =>
        -- A timer has run out at once exactly if it has no length.
        have due : Receiver.expired (now + d) now = decide (d = 0) :=
          decide_eq_decide.mpr ⟨fun late => Nat.le_zero.mp (Nat.add_le_add_iff_left.mp late),
            fun no_time => no_time ▸ Nat.le_refl now⟩
        simp only [within, due]
        by_cases no_time : d = 0 <;> simp [Receiver.patienceAt, no_time]
    | never => simp [poll, found, Receiver.patienceAt]
  | limited deadline =>
    rw [poll, found]
    cases ended with
    | true => rfl
    | false => cases late : Receiver.expired deadline now <;> simp [within, Receiver.patienceAt, late]
  | unlimited => simp [poll, found, Receiver.patienceAt]

end Looks

/-! ### Use of a mailbox -/

/-- What a consumer does with its mailbox. -/
inductive Use where
  | post (m : Message)
  | poll (ended : Bool) (now : Nat) (patience : Patience)

def used (b : Mailbox) : Use → Mailbox
  | .post m => (b.post m).1
  | .poll ended now patience => (b.poll ended now patience).1

/-- The mailbox is closed for who uses it. -/
def FindsClosed (b : Mailbox) : Use → Prop
  | .post m => (b.post m).2 = .closed
  | .poll .. => b.read.2 = .closed

/-- A mailbox is closed for who posts if there is nobody to read, and for who reads if it is empty and
nobody can post. -/
theorem findsClosed_iff (b : Mailbox) (u : Use) : b.FindsClosed u ↔
    match u with
    | .post _ => b.attended = false
    | .poll .. => b.messages = [] ∧ b.senders = 0 := by
  cases u with
  | post m =>
    simp only [FindsClosed, post]
    cases b.attended with
    | false => simp
    | true =>
      simp only [Bool.not_true, Bool.false_eq_true, if_false]
      split <;> simp
  | poll ended now patience =>
    simp only [FindsClosed, read]
    cases b.messages with
    | cons m rest => simp
    | nil => by_cases none : b.senders = 0 <;> simp [none]

end Mailbox

namespace Receiver

/-- The mailbox of a consumer that holds both its ends. -/
def mailbox (r : Receiver) : Mailbox := ⟨r.buffer, r.capacity, 1, true⟩

/-- What a consumer does with its mailbox when something happens to it: it posts the message of a
delivery that converts and that the selector wants, unless it has ended, and the first call in line
looks for a message. -/
def use? (r : Receiver) : Happening → Option Mailbox.Use
  | .delivery d _ _ => if r.state.isCancelled then none else (r.wanted? d).map .post
  | .take now => r.takers.head?.map fun t => .poll r.state.isCancelled now t.patience
  | _ => none

/-- What the first call in line finds in the mailbox is what the consumer gives it. -/
theorem poll_eq_take {r : Receiver} {t : Taker} {others : List Taker}
    (first : r.takers = t :: others) (now : Nat) :
    r.mailbox.poll r.state.isCancelled now t.patience =
      ((r.take now).1.mailbox, (r.take now).2) := by
  cases filled : r.buffer with
  | cons m rest =>
    rw [Mailbox.poll_of_message (b := r.mailbox) filled]
    simp only [take, first, filled]
    rfl
  | nil =>
    rw [Mailbox.poll_of_empty (b := r.mailbox) filled Nat.one_ne_zero]
    simp only [take, first, filled]
    cases ended : r.state.isCancelled with
    | true => simp [mailbox, capacity, filled]
    | false =>
      cases waits : patienceAt now t.patience <;> simp [mailbox, capacity, filled]

/-- What is posted gets in exactly if the delivery is kept, and finds the mailbox full exactly if the
delivery overflows. -/
theorem post_eq_verdict {r : Receiver} {d : Delivery} {m : Message} (going : r.state ≠ .cancelled)
    (wanted : r.wanted? d = some m) :
    (r.mailbox.post m = ({ r.mailbox with messages := r.buffer ++ [m] }, .posted) ∧
        r.verdict d = .accepted m) ∨
      (r.mailbox.post m = (r.mailbox, .full) ∧ r.verdict d = .overflowed) := by
  unfold wanted? at wanted
  split at wanted
  · next m' converted =>
    split at wanted
    · next selected =>
      cases wanted
      have not_ended : ¬ r.state.isCancelled = true := fun c => going (isCancelled_iff.mp c)
      by_cases full : r.capacity ≤ r.buffer.length
      · refine .inr ⟨by simp [Mailbox.post, mailbox, full], ?_⟩
        simp [verdict, not_ended, converted, selected, isFull, full]
      · refine .inl ⟨by simp [Mailbox.post, mailbox, full], ?_⟩
        simp [verdict, not_ended, converted, selected, isFull, full]
    · cases wanted
  · cases wanted

theorem welcomed_of_not_accepted {r : Receiver} {d : Delivery}
    (refused : ∀ m, r.verdict d ≠ .accepted m) : r.welcomed d = [] := by
  rcases r.welcomed_cases d with ⟨m, welcome⟩ | unwelcome
  · exact absurd (welcomed_eq_singleton.mp welcome) (refused m)
  · exact unwelcome

theorem wanted?_of_accepted {r : Receiver} {d : Delivery} {m : Message}
    (accepted : r.verdict d = .accepted m) : r.state ≠ .cancelled ∧ r.wanted? d = some m := by
  obtain ⟨going, converted, selected, -⟩ := verdict_eq_accepted.mp accepted
  exact ⟨going, by simp [wanted?, converted, selected]⟩

/-- Whatever happens to a consumer, its mailbox is used as the consumer uses it. -/
theorem mailbox_react (r : Receiver) (x : Happening) :
    (r.react x).mailbox = (r.use? x).elim r.mailbox r.mailbox.used := by
  have filled (messages : List Message) (buffer : (r.react x).buffer = messages) :
      (r.react x).mailbox = { r.mailbox with messages := messages } := by
    have config : (r.react x).config = r.config := congrArg (·.2.2.2.2) (r.react_settings x)
    simp only [mailbox, capacity, buffer, config]
  have same (buffer : (r.react x).buffer = r.buffer) : (r.react x).mailbox = r.mailbox :=
    filled r.buffer buffer
  cases x with
  | delivery d now answer =>
    have buffer := r.deliver_buffer d answer
    by_cases posts : r.state ≠ .cancelled ∧ (r.wanted? d).isSome
    · obtain ⟨going, some_wanted⟩ := posts
      obtain ⟨m, wanted⟩ := Option.isSome_iff_exists.mp some_wanted
      have uses : r.use? (.delivery d now answer) = some (.post m) := by
        rw [use?, if_neg fun c => going (isCancelled_iff.mp c), wanted, Option.map_some]
      rw [uses, Option.elim_some, Mailbox.used]
      rcases post_eq_verdict going wanted with ⟨posted, accepted⟩ | ⟨full, overflowed⟩
      · rw [posted]
        rw [welcomed_eq_singleton.mpr accepted] at buffer
        exact filled _ buffer
      · rw [full]
        rw [welcomed_of_not_accepted (by simp [overflowed]), List.append_nil] at buffer
        exact same buffer
    · -- A delivery that is not posted is not kept either.
      have idle : r.use? (.delivery d now answer) = none := by
        by_cases ended : r.state = .cancelled
        · rw [use?, if_pos (isCancelled_iff.mpr ended)]
        · have unwanted : r.wanted? d = none := by simpa [ended] using posts
          rw [use?, unwanted]
          split <;> rfl
      rw [welcomed_of_not_accepted, List.append_nil] at buffer
      · rw [idle]
        exact same buffer
      · intro m accepted
        obtain ⟨going, wanted⟩ := wanted?_of_accepted accepted
        exact posts ⟨going, by rw [wanted]; rfl⟩
  | take now =>
    cases line : r.takers with
    | nil => simp [use?, line, react, take]
    | cons t others =>
      have looks := poll_eq_take line now
      simp [use?, line, react, Mailbox.used, looks]
  | cancel call now answer => exact same (r.cancel_frame call now answer).2
  | resume call => exact same (r.resume_frame call).2
  | _ => rfl

end Receiver

namespace Session

open Receiver

/-- The mailbox of a consumer after an event: it is made with the consumer, and used when something
happens to the consumer. -/
def followMailbox (h : HandlerId) (s : Session) (e : Event) : Option Mailbox → Option Mailbox
  | some b => some (((s.receiver? h).bind (·.use? (s.happening h e))).elim b b.used)
  | none => ((s.apply e).receiver? h).map fun r => .create r.capacity

/-- The mailbox of a consumer after a run. -/
def mailboxAfter (h : HandlerId) : Session → Option Mailbox → List Event → Option Mailbox
  | _, b, [] => b
  | s, b, e :: es => mailboxAfter h (s.apply e) (followMailbox h s e b) es

theorem followMailbox_eq (h : HandlerId) (s : Session) (e : Event) :
    followMailbox h s e ((s.receiver? h).map mailbox) = ((s.apply e).receiver? h).map mailbox := by
  cases there : s.receiver? h with
  | some r =>
    rw [receiver?_apply e there, Option.map_some, Option.map_some, mailbox_react]
    simp only [followMailbox, there, Option.bind_some]
  | none =>
    simp only [followMailbox, Option.map_none]
    cases comes : (s.apply e).receiver? h with
    | none => rfl
    | some r =>
      obtain ⟨-, empty, -⟩ := (receiver?_of_apply there comes).eq
      simp only [Option.map_some, mailbox, Mailbox.create, empty]

/-- **Mailboxes**: a mailbox that is made with a consumer and used by it alone holds the messages of its
buffer, and nobody ever takes away one of its ends. -/
theorem mailboxAfter_eq (h : HandlerId) (s : Session) (es : List Event) :
    mailboxAfter h s ((s.receiver? h).map mailbox) es = ((s.run es).receiver? h).map mailbox := by
  induction es generalizing s with
  | nil => rfl
  | cons e es ih => rw [mailboxAfter, followMailbox_eq, ih, run_cons]

end Session
end Intake
