import Intake.Proofs.Receiver.Settlement
import Intake.Proofs.Settings.Loading

/-!
# Creation of receiving consumers

The settings of a consumer are checked, and then its buffer is made. The check has a lower bound for
the size of the buffer and no upper one, and a buffer has a largest size, so that there are settings,
and configurations that can be loaded, with which no consumer can be made. The main statement is
`usable_iff`: it says which these are, and what becomes of all others.
-/
namespace Intake

namespace Receiver

/-- A buffer can have a size below a power of two. -/
theorem maxCapacity_lt_iff {size : UInt64} : maxCapacity < size ↔ 2 ^ 61 ≤ size.toNat := by
  have largest : maxCapacity.toNat = 2 ^ 61 - 1 := by decide
  rw [UInt64.lt_iff_toNat_lt, largest]
  omega

variable (queue : QueueName) (tag : ConsumerTag) (converter : Converter)
  (selector : Option Selector)

/-- The consumer that is made with some settings. -/
def fresh (config : ConsumerConfig) : Receiver :=
  { queue := queue, tag := tag, converter := converter, selector := selector, config := config }

theorem create_of_invalid {config : ConsumerConfig} {e : ConfigurationError}
    (invalid : config.validate = .error e) :
    create queue tag converter selector config = .error (.refused e) := by
  rw [create, invalid]

theorem create_of_large {config : ConsumerConfig} (valid : config.validate = .ok ())
    (large : 2 ^ 61 ≤ config.batchingSize.toNat) :
    create queue tag converter selector config = .error (.impossible config.batchingSize) := by
  simp only [create, valid, if_pos (maxCapacity_lt_iff.mpr large)]

theorem create_of_fits {config : ConsumerConfig} (valid : config.validate = .ok ())
    (fits : config.batchingSize.toNat < 2 ^ 61) :
    create queue tag converter selector config =
      .ok (fresh queue tag converter selector config) := by
  simp only [create, valid, if_neg (mt maxCapacity_lt_iff.mp (Nat.not_le.mpr fits))]
  rfl

/-- Consumers are made exactly with the valid settings whose size a buffer can have. -/
theorem create_eq_ok_iff {config : ConsumerConfig} {r : Receiver} :
    create queue tag converter selector config = .ok r ↔
      config.validate = .ok () ∧ config.batchingSize.toNat < 2 ^ 61 ∧
        r = fresh queue tag converter selector config := by
  constructor
  · intro made
    cases valid : config.validate with
    | error e =>
      rw [create_of_invalid queue tag converter selector valid] at made
      cases made
    | ok u =>
      by_cases fits : config.batchingSize.toNat < 2 ^ 61
      · rw [create_of_fits queue tag converter selector valid fits] at made
        exact ⟨rfl, fits, (Except.ok.inj made).symm⟩
      · rw [create_of_large queue tag converter selector valid (Nat.not_lt.mp fits)] at made
        cases made
  · rintro ⟨valid, fits, rfl⟩
    exact create_of_fits queue tag converter selector valid fits

/-- Whatever happens to a new consumer, its buffer is full exactly if it holds as many messages as
the settings say, and it never holds more. -/
theorem isFull_live_fresh (config : ConsumerConfig) (life : List Happening) :
    let r := (fresh queue tag converter selector config).live life
    r.buffer.length ≤ config.batchingSize.toNat ∧
      (r.isFull = true ↔ r.buffer.length = config.batchingSize.toNat) := by
  intro r
  -- The settings of a consumer never change.
  have capacity : r.capacity = config.batchingSize.toNat :=
    congrArg (·.2.2.2.2.batchingSize.toNat)
      ((fresh queue tag converter selector config).live_settings life)
  have within : r.buffer.length ≤ r.capacity := live_length_le (Nat.zero_le _) life
  rw [isFull_iff, ← capacity]
  exact ⟨within, fun full => Nat.le_antisymm within full, Nat.le_of_eq ∘ Eq.symm⟩

/-- **Usable settings**: a consumer is made with valid settings exactly if their size is one that a
buffer can have, and it is active and empty, and has room for exactly so many messages for all its
life; with a larger size no buffer can be made. Settings that are not valid are refused, and nothing
is built. Whatever is loaded is valid, and every size of a signed word can be loaded but zero, so that
a loaded configuration can be used exactly if its size is one that a buffer can have. -/
theorem usable_iff :
    (∀ config : ConsumerConfig, config.validate = .ok () →
      (config.batchingSize.toNat < 2 ^ 61 →
        ∃ r, create queue tag converter selector config = .ok r ∧ r.state = .active ∧
          r.buffer = [] ∧ r.capacity = config.batchingSize.toNat ∧
          ∀ life, (r.live life).buffer.length ≤ config.batchingSize.toNat ∧
            ((r.live life).isFull = true ↔
              (r.live life).buffer.length = config.batchingSize.toNat)) ∧
      (2 ^ 61 ≤ config.batchingSize.toNat →
        create queue tag converter selector config = .error (.impossible config.batchingSize))) ∧
    (∀ (config : ConsumerConfig) (e : ConfigurationError), config.validate = .error e →
      create queue tag converter selector config = .error (.refused e) ∧
        ∀ s : Session, s.apply (.addReceiver queue tag converter selector config) = s) ∧
    (∀ (files : Files) (name : Option String) (bindings : List (String × String))
        (c : BridgeConfig), BridgeConfig.load files name bindings = .ok c →
      ((∃ r, create queue tag converter selector c.consumer = .ok r) ↔
        c.consumer.batchingSize.toNat < 2 ^ 61)) ∧
    ∀ n, 0 < n → n < 2 ^ 63 →
      ∃ c, BridgeConfig.load BridgeConfig.noFiles none (BridgeConfig.sizeVariable n) = .ok c ∧
        c.consumer.batchingSize.toNat = n := by
  refine ⟨?_, ?_, ?_, fun n => BridgeConfig.load_sizeVariable⟩
  · intro config valid
    refine ⟨fun fits => ?_, create_of_large queue tag converter selector valid⟩
    exact ⟨_, create_of_fits queue tag converter selector valid fits, rfl, rfl, rfl,
      isFull_live_fresh queue tag converter selector config⟩
  · intro config e invalid
    have refused := create_of_invalid queue tag converter selector invalid
    refine ⟨refused, fun s => ?_⟩
    rw [Session.apply, refused]
    rfl
  · intro files name bindings c loads
    have valid : c.consumer.validate = .ok () := BridgeConfig.validate_of_load loads
    constructor
    · rintro ⟨r, made⟩
      exact ((create_eq_ok_iff queue tag converter selector).mp made).2.1
    · intro fits
      exact ⟨_, create_of_fits queue tag converter selector valid fits⟩

/-- Settings with a buffer of seven places, with none, and with more than a buffer can have. -/
theorem usable_iff_threeSizes :
    (∃ r, create ⟨"orders"⟩ ⟨"clerk"⟩ (standardConverter 100) none { batchingSize := 7 } = .ok r ∧
      r.state = .active ∧ r.buffer = [] ∧ r.capacity = 7) ∧
    create ⟨"orders"⟩ ⟨"clerk"⟩ (standardConverter 100) none { batchingSize := 0 } =
      .error (.refused (.invalid "consumer.batching_size must be at least 1")) ∧
    create ⟨"orders"⟩ ⟨"clerk"⟩ (standardConverter 100) none
        { batchingSize := 2305843009213693952 } =
      .error (.impossible 2305843009213693952) ∧
    ∃ c, BridgeConfig.load BridgeConfig.noFiles none (BridgeConfig.sizeVariable 7) = .ok c ∧
      ∃ r, create ⟨"orders"⟩ ⟨"clerk"⟩ (standardConverter 100) none c.consumer = .ok r := by
  obtain ⟨made, refused, loaded, loads⟩ :=
    usable_iff ⟨"orders"⟩ ⟨"clerk"⟩ (standardConverter 100) none
  obtain ⟨r, created, active, empty, capacity, -⟩ :=
    (made { batchingSize := 7 } rfl).1 (by decide)
  have large := (made { batchingSize := 2305843009213693952 } rfl).2 (by decide)
  obtain ⟨c, fine, size⟩ := loads 7 (by omega) (by omega)
  have usable := (loaded _ _ _ c fine).mpr (by rw [size]; decide)
  exact ⟨⟨r, created, active, empty, capacity⟩, (refused { batchingSize := 0 } _ rfl).1, large,
    c, fine, usable⟩

/-- An environment that asks for one place more than a buffer can have. -/
def oneTooMany : List (String × String) :=
  [("BRIDGE__CONSUMER__BATCHING_SIZE", "2305843009213693952")]

/-- It is loaded and valid, and no consumer can be made with it. -/
theorem loaded_unusable :
    BridgeConfig.load BridgeConfig.noFiles none oneTooMany =
        .ok { consumer := { batchingSize := 2305843009213693952 } } ∧
      ({ batchingSize := 2305843009213693952 } : ConsumerConfig).validate = .ok () ∧
      create ⟨"orders"⟩ ⟨"clerk"⟩ (standardConverter 100) none
          { batchingSize := 2305843009213693952 } =
        .error (.impossible 2305843009213693952) := by
  refine ⟨?_, rfl, create_of_large _ _ _ _ rfl (by decide)⟩
  decide +kernel

end Receiver
end Intake
