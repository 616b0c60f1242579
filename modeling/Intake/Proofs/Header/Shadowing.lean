import Intake.Proofs.Header.View
import Intake.Proofs.Instant.Reading
import Mathlib.Data.List.Sort

/-!
# What a producer cannot set

A message covers the names of the standard headers that it gives a value. Under a name that it covers
the view does not depend on the headers of the producer, and under any other name it shows them. Two
messages that differ in their headers only have the same view exactly if their producers have set the
same under every name that is not covered, and this is when no selector tells them apart: the main
statement is `headers_eq_iff`.
-/
namespace Intake

/-! ### Headers by what is found in them -/

theorem lookup_eq_some_iff {entries : List (String × HeaderValue)} (order : Ascending entries)
    (name : String) (value : HeaderValue) :
    entries.lookup name = some value ↔ (name, value) ∈ entries := by
  induction entries with
  | nil => simp
  | cons first rest ih =>
    obtain ⟨n, v⟩ := first
    obtain ⟨below, tail⟩ := List.pairwise_cons.mp order
    by_cases same : name = n
    · subst same
      -- The names of the other entries are greater, so that the first one is the only candidate.
      have alone : (name, value) ∉ rest := fun there => String.lt_irrefl name (below _ there)
      simp [alone, eq_comm]
    · rw [List.lookup_cons, beq_eq_false_iff_ne.mpr same]
      simp [same, ih tail]

/-- Headers are determined by what is found under each name. -/
theorem Headers.eq_of_find? {h k : Headers} (same : ∀ name, h.find? name = k.find? name) : h = k := by
  have entries : h.entries = k.entries := by
    have irrefl : Std.Irrefl fun a b : String × HeaderValue => a.1 < b.1 :=
      ⟨fun _ => String.lt_irrefl _⟩
    have antisymm : Std.Antisymm fun a b : String × HeaderValue => a.1 < b.1 :=
      ⟨fun _ _ less greater => absurd greater (String.lt_asymm less)⟩
    refine List.Pairwise.eq_of_mem_iff h.ascending k.ascending fun e => ?_
    have found := same e.1
    rw [← lookup_eq_some_iff h.ascending, ← lookup_eq_some_iff k.ascending]
    exact Eq.congr_left found
  cases h
  cases k
  cases entries
  rfl

/-! ### Milliseconds in a header -/

/-- The milliseconds of an instant are a number of 64 bits. -/
theorem Instant.toInt_millis (t : Instant) :
    (Int64.ofInt t.millis).toInt = t.millis := by
  have range := t.range
  have fraction := t.nanos_lt
  rw [inRange, Bool.and_eq_true, decide_eq_true_eq, decide_eq_true_eq] at range
  have first : firstSecond = -8334601228800 := by decide
  have last : endSecond = 8210266876800 := by decide
  have bounds : -2 ^ 63 ≤ t.millis ∧ t.millis < 2 ^ 63 := by
    simp only [millis]
    omega
  exact Int64.toInt_ofInt_of_le bounds.1 bounds.2

namespace StandardHeader

theorem named?_eq_some_iff (name : String) (s : StandardHeader) :
    named? name = some s ↔ s.name = name := by
  constructor
  · intro found
    have named := List.find?_some (p := fun s : StandardHeader => decide (s.name = name)) found
    exact of_decide_eq_true named
  · rintro rfl
    cases s <;> decide

end StandardHeader

namespace Message

/-! ### Names that a message covers -/

/-- A message covers the name of a standard header that it gives a value: the mode of delivery and the
redelivery always, any other one if the property is set. -/
def Covers (m : Message) (name : String) : Prop :=
  name = "JMSDeliveryMode" ∨ name = "JMSRedelivered" ∨
    (name = "JMSMessageID" ∧ m.properties.messageId.isSome) ∨
    (name = "JMSCorrelationID" ∧ m.properties.correlationId.isSome) ∨
    (name = "JMSType" ∧ m.properties.kind.isSome) ∨
    (name = "JMSPriority" ∧ m.properties.priority.isSome) ∨
    (name = "JMSTimestamp" ∧ m.properties.timestamp.isSome)

instance (m : Message) (name : String) : Decidable (m.Covers name) :=
  inferInstanceAs (Decidable (_ ∨ _))

theorem standard?_name (m : Message) (s : StandardHeader) : m.standard? s.name = s.value? m := by
  rw [standard?, (StandardHeader.named?_eq_some_iff s.name s).mpr rfl, Option.bind_some]

/-- A message covers exactly the names under which it gives a value to a standard header. -/
theorem covers_iff (m : Message) (name : String) : m.Covers name ↔ (m.standard? name).isSome := by
  constructor
  · rintro (rfl | rfl | ⟨rfl, set⟩ | ⟨rfl, set⟩ | ⟨rfl, set⟩ | ⟨rfl, set⟩ | ⟨rfl, set⟩)
    · exact m.standard?_name .deliveryMode ▸ rfl
    · exact m.standard?_name .redelivered ▸ rfl
    · exact m.standard?_name .messageId ▸ (Option.isSome_map ..).trans set
    · exact m.standard?_name .correlationId ▸ (Option.isSome_map ..).trans set
    · exact m.standard?_name .kind ▸ (Option.isSome_map ..).trans set
    · exact m.standard?_name .priority ▸ (Option.isSome_map ..).trans set
    · exact m.standard?_name .timestamp ▸ (Option.isSome_map ..).trans set
  · intro set
    obtain ⟨v, found⟩ := Option.isSome_iff_exists.mp set
    obtain ⟨s, named, value⟩ := Option.bind_eq_some_iff.mp found
    obtain rfl := (StandardHeader.named?_eq_some_iff name s).mp named
    have given : (s.value? m).isSome := Option.isSome_of_eq_some value
    cases s with
    | deliveryMode => exact .inl rfl
    | redelivered => exact .inr (.inl rfl)
    | _ =>
      simp only [StandardHeader.value?, Option.isSome_map] at given
      simp [Covers, StandardHeader.name, given]

theorem find?_headers_name (m : Message) {s : StandardHeader} {v : HeaderValue}
    (gives : s.value? m = some v) : m.headers.find? s.name = some v := by
  rw [find?_headers, standard?_name, gives, Option.some_or]

/-- The view shows the header of the producer under every name that the message does not cover. -/
theorem find?_headers_of_not_covers {m : Message} {name : String} (uncovered : ¬ m.Covers name) :
    m.headers.find? name = m.userHeader? name := by
  rw [covers_iff, Option.not_isSome_iff_eq_none] at uncovered
  rw [find?_headers, uncovered, Option.none_or]

/-! ### Messages that differ in their headers only -/

/-- A message without the headers of its producer. -/
def bare (m : Message) : Message :=
  { m with properties := { m.properties with headers := Headers.empty } }

theorem value?_bare (m : Message) (s : StandardHeader) : s.value? m.bare = s.value? m := by
  cases s <;> rfl

theorem standard?_congr {m n : Message} (bare : m.bare = n.bare) (name : String) :
    m.standard? name = n.standard? name := by
  have value (s : StandardHeader) : s.value? m = s.value? n := by
    rw [← value?_bare, bare, value?_bare]
  simp only [standard?, value]

/-- Messages that differ in their headers only have the same view exactly if their producers have set
the same under the names that are not covered. -/
theorem headers_eq_iff_userHeader? {m n : Message} (bare : m.bare = n.bare) :
    m.headers = n.headers ↔ ∀ name, ¬ m.Covers name → m.userHeader? name = n.userHeader? name := by
  have covers (name : String) : m.Covers name ↔ n.Covers name := by
    rw [covers_iff, covers_iff, standard?_congr bare]
  constructor
  · intro same name uncovered
    rw [← find?_headers_of_not_covers uncovered, same,
      find?_headers_of_not_covers (mt (covers name).mpr uncovered)]
  · intro same
    refine Headers.eq_of_find? fun name => ?_
    -- A covered name shows what both messages say, without a look at their headers.
    by_cases covered : m.Covers name
    · obtain ⟨v, found⟩ := Option.isSome_iff_exists.mp ((m.covers_iff name).mp covered)
      rw [find?_headers, find?_headers, ← standard?_congr bare, found, Option.some_or, Option.some_or]
    · rw [find?_headers_of_not_covers covered,
        find?_headers_of_not_covers (mt (covers name).mpr covered), same name covered]

/-- Messages have the same view exactly if no selector tells them apart. -/
theorem headers_eq_iff_selects (m n : Message) :
    m.headers = n.headers ↔ ∀ selector, selects selector m = selects selector n := by
  constructor
  · intro same selector
    cases selector with
    | none => rfl
    | some s => exact congrArg s same
  · -- One of the selectors asks for just this view.
    intro same
    have own := same (some fun h => h = n.headers)
    simpa [selects] using own

/-- **The view cannot be spoofed**: a standard header shows what the message says, whatever the
producer has set under its name, and under every name that the message does not cover the view shows
what the producer has set. Messages that differ in their headers only have the same view exactly if
their producers agree about the names that are not covered, and exactly then every selector decides
the same about them. -/
theorem headers_eq_iff (m : Message) :
    ((m.headers.find? "JMSDeliveryMode" = some (.text "PERSISTENT") ↔
        m.properties.deliveryMode = some 2) ∧
      (m.headers.find? "JMSDeliveryMode" = some (.text "NON_PERSISTENT") ↔
        m.properties.deliveryMode ≠ some 2)) ∧
    m.headers.find? "JMSRedelivered" = some (.flag m.redelivered) ∧
    (∀ id, m.properties.messageId = some id →
      m.headers.find? "JMSMessageID" = some (.text id)) ∧
    (∀ id, m.properties.correlationId = some id →
      m.headers.find? "JMSCorrelationID" = some (.text id)) ∧
    (∀ kind, m.properties.kind = some kind → m.headers.find? "JMSType" = some (.text kind)) ∧
    (∀ p, m.properties.priority = some p →
      ∃ i : Int64, i.toInt = p.toNat ∧ m.headers.find? "JMSPriority" = some (.whole i)) ∧
    (∀ t, m.properties.timestamp = some t →
      ∃ i : Int64, i.toInt = t.millis ∧ m.headers.find? "JMSTimestamp" = some (.whole i)) ∧
    (∀ name, ¬ m.Covers name → m.headers.find? name = m.userHeader? name) ∧
    ∀ n : Message, m.bare = n.bare →
      (m.headers = n.headers ↔
        ∀ name, ¬ m.Covers name → m.userHeader? name = n.userHeader? name) ∧
      (m.headers = n.headers ↔ ∀ selector, selects selector m = selects selector n) := by
  refine ⟨?_, ?_, ?_, ?_, ?_, ?_, ?_, fun name => find?_headers_of_not_covers,
    fun n bare => ⟨headers_eq_iff_userHeader? bare, headers_eq_iff_selects m n⟩⟩
  · have mode : m.headers.find? "JMSDeliveryMode" = some (.text
        (if m.properties.deliveryMode = some 2 then "PERSISTENT" else "NON_PERSISTENT")) :=
      m.find?_headers_name (s := .deliveryMode) rfl
    rw [mode]
    by_cases persistent : m.properties.deliveryMode = some 2
    · simp [persistent]
    · simp [persistent]
  · exact m.find?_headers_name (s := .redelivered) rfl
  · intro id set
    exact m.find?_headers_name (s := .messageId) (by rw [StandardHeader.value?, set]; rfl)
  · intro id set
    exact m.find?_headers_name (s := .correlationId) (by rw [StandardHeader.value?, set]; rfl)
  · intro kind set
    exact m.find?_headers_name (s := .kind) (by rw [StandardHeader.value?, set]; rfl)
  · intro p set
    refine ⟨Int64.ofInt p.toNat, ?_,
      m.find?_headers_name (s := .priority) (by rw [StandardHeader.value?, set]; rfl)⟩
    have small := p.toNat_lt
    exact Int64.toInt_ofInt_of_le (by omega) (by omega)
  · intro t set
    exact ⟨Int64.ofInt t.millis, t.toInt_millis,
      m.find?_headers_name (s := .timestamp) (by rw [StandardHeader.value?, set]; rfl)⟩

/-- A message of a kind and with a timestamp whose producer has set a header of the name for kinds,
one of the name for priorities, and one that says it is persistent. -/
def spoofing : Message where
  deliveryTag := ⟨1⟩
  redelivered := true
  exchange := ""
  routingKey := "orders"
  properties :=
    { kind := some "order", timestamp := Instant.ofMillis? 1500
      headers := Headers.ofList
        [("JMSType", .text "mine"), ("JMSPriority", .whole 9),
          ("JMSDeliveryMode", .text "PERSISTENT")] }
  body := .text ""

/-- The same message with other headers of its producer under the names that it covers. -/
def spoofingMore : Message :=
  { spoofing with
    properties :=
      { spoofing.properties with
        headers := Headers.ofList
          [("JMSPriority", .whole 9), ("JMSRedelivered", .flag false),
            ("JMSTimestamp", .null)] } }

/-- The producer sets the priority, which the message leaves open, and nothing else of it is seen. -/
theorem headers_eq_iff_spoofing :
    spoofing.headers.find? "JMSType" = some (.text "order") ∧
      spoofing.headers.find? "JMSDeliveryMode" = some (.text "NON_PERSISTENT") ∧
      spoofing.headers.find? "JMSPriority" = some (.whole 9) ∧
      spoofing.headers = spoofingMore.headers ∧
      ∀ selector, selects selector spoofing = selects selector spoofingMore := by
  obtain ⟨⟨-, mode⟩, -, -, -, kind, -, -, others, twin⟩ := headers_eq_iff spoofing
  have views : spoofing.headers = spoofingMore.headers := by decide
  refine ⟨kind "order" rfl, mode.mpr (by decide), ?_, views, (twin spoofingMore rfl).2.mp views⟩
  rw [others "JMSPriority" (by decide)]
  decide

end Message
end Intake
