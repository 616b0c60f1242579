import Intake.Conversion
import Intake.Proofs.Json.Scanning

/-!
# Bodies in JSON

What becomes of a delivery that says that its body is JSON, and that passes the other checks. The
main statement is `json_body_cases`: the body is converted if it is JSON text, and otherwise the
delivery is rejected for the first thing that is wrong with its bytes.
-/
namespace Intake

/-- A text that is JSON, read by its characters. -/
def Json.IsJson (s : String) : Prop := Grammar.IsText (s.toList.map Char.toNat)

/-- Bytes that are JSON, read one by one: in a string any byte may stand from 0x20 up, except the
quote and the backslash. -/
def Json.IsJsonBytes (body : ByteArray) : Prop := Grammar.IsText (codes (Text.bytes body))

theorem Json.isJsonBytes_toUTF8 (s : String) : IsJsonBytes s.toUTF8 ↔ IsJson s :=
  Grammar.isText_encode s

namespace Delivery

/-- The content type says that the body is JSON. -/
def SaysJson (d : Delivery) : Prop :=
  ∃ contentType, d.properties.contentType = some contentType ∧
    mediaType contentType = "application/json".toList

/-- The delivery passes the checks that come before that of the body. -/
structure Passes (limit : Nat) (d : Delivery) : Prop where
  size : d.body.size ≤ limit
  names : ∀ e ∈ d.properties.headers.entries, e.1 ≠ ""
  encoding : ∀ e, d.properties.contentEncoding = some e → isIdentityEncoding e = true

/-- The message of a delivery, with a body for it. -/
def message (d : Delivery) (body : Body) : Message :=
  { deliveryTag := d.envelope.deliveryTag, redelivered := d.envelope.redelivered
    exchange := d.envelope.exchange, routingKey := d.envelope.routingKey
    properties := d.properties, body := body }

end Delivery

/-- A delivery that passes the other checks is converted if its body is. -/
theorem standardConverter_of_passes {limit : Nat} {d : Delivery} (passes : d.Passes limit) :
    standardConverter limit d =
      (decodeBody (.of d.properties.contentType) d.body).map d.message := by
  have named : d.properties.headers.entries.any (fun e => e.1.isEmpty) = false := by
    rw [List.any_eq_false]
    intro e member
    simpa using passes.names e member
  have plain : d.properties.contentEncoding.filter (fun e => !isIdentityEncoding e) = none := by
    rw [Option.filter_eq_none_iff]
    intro e known
    simp [passes.encoding e known]
  rw [standardConverter, if_neg (Nat.not_lt_of_le passes.size), named, if_neg Bool.false_ne_true,
    plain]
  simp only
  cases decodeBody (.of d.properties.contentType) d.body <;> rfl

theorem form_of_saysJson {d : Delivery} (declared : d.SaysJson) :
    BodyForm.of d.properties.contentType = .json := by
  obtain ⟨contentType, known, json⟩ := declared
  rw [known, BodyForm.of]
  simp [json]

theorem decodeText_cases (body : ByteArray) :
    (∃ s : String, s.toUTF8 = body ∧ decodeText body = .ok (.text s)) ∨
    ((∀ s : String, s.toUTF8 ≠ body) ∧ decodeText body = .error .invalidUtf8) := by
  unfold decodeText
  cases read : String.fromUTF8? body with
  | some s => exact .inl ⟨s, Text.fromUTF8?_eq_some.mp read, rfl⟩
  | none => exact .inr ⟨Text.fromUTF8?_eq_none.mp read, rfl⟩

/-- What becomes of a body that is to be JSON. -/
theorem decodeBody_json_cases (body : ByteArray) :
    (∃ s : String, s.toUTF8 = body ∧ Json.IsJson s ∧ decodeBody .json body = .ok (.text s)) ∨
    (Json.IsJsonBytes body ∧ (∀ s : String, s.toUTF8 ≠ body) ∧
      decodeBody .json body = .error .invalidUtf8) ∨
    (¬ Json.IsJsonBytes body ∧ ∃ fault, decodeBody .json body = .error (.malformedJson fault)) := by
  have accepted := Json.accept_iff (Text.bytes body)
  cases result : Json.accept (Text.bytes body) with
  | ok u =>
    have json : Json.IsJsonBytes body := accepted.mp result
    have decoded : decodeBody .json body = decodeText body := by simp only [decodeBody, result]
    rw [decoded]
    rcases decodeText_cases body with ⟨s, rfl, text⟩ | ⟨no_text, rejected⟩
    · exact .inl ⟨s, rfl, (Json.isJsonBytes_toUTF8 s).mp json, text⟩
    · exact .inr (.inl ⟨json, no_text, rejected⟩)
  | error fault =>
    refine .inr (.inr ⟨fun json => ?_, fault, by simp only [decodeBody, result]⟩)
    rw [accepted.mpr json] at result
    cases result

/-- **Bodies in JSON**: a delivery that says that its body is JSON and passes the other checks is
converted exactly if the body is the encoding of a JSON text; the message has that text. It is
rejected as invalid UTF-8 exactly if its bytes are JSON but not the encoding of any text, and as
malformed JSON exactly if they are not JSON. The scanner has come to its verdict by itself: with any
larger bound on its steps it comes to the same. -/
theorem json_body_cases {limit : Nat} {d : Delivery} (declared : d.SaysJson)
    (passes : d.Passes limit) :
    (∀ m, standardConverter limit d = .ok m ↔
      ∃ s : String, s.toUTF8 = d.body ∧ Json.IsJson s ∧ m = d.message (.text s)) ∧
    (standardConverter limit d = .error .invalidUtf8 ↔
      Json.IsJsonBytes d.body ∧ ∀ s : String, s.toUTF8 ≠ d.body) ∧
    ((∃ fault, standardConverter limit d = .error (.malformedJson fault)) ↔
      ¬ Json.IsJsonBytes d.body) ∧
    (∀ fuel, 2 * (Text.bytes d.body).length + 2 ≤ fuel →
      Json.scan fuel .value [] (.ofBytes (Text.bytes d.body)) =
        Json.skipValue (.ofBytes (Text.bytes d.body))) := by
  have steps : ∀ fuel, 2 * (Text.bytes d.body).length + 2 ≤ fuel →
      Json.scan fuel .value [] (.ofBytes (Text.bytes d.body)) =
        Json.skipValue (.ofBytes (Text.bytes d.body)) :=
    fun fuel large => Json.scan_eq_skipValue large
  rw [standardConverter_of_passes passes, form_of_saysJson declared]
  -- The three kinds of bodies exclude each other, and so do the three results.
  rcases decodeBody_json_cases d.body with ⟨s, encoded, json, decoded⟩ |
    ⟨json, no_text, decoded⟩ | ⟨no_json, fault, decoded⟩
  · have bytes : Json.IsJsonBytes d.body := by
      rw [← encoded]
      exact (Json.isJsonBytes_toUTF8 s).mpr json
    rw [decoded]
    refine ⟨fun m => ⟨?_, ?_⟩, ?_, ?_, steps⟩
    · rintro ⟨⟩
      exact ⟨s, encoded, json, rfl⟩
    · rintro ⟨s', encoded', -, rfl⟩
      have same : s' = s := String.toByteArray_inj.mp (encoded'.trans encoded.symm)
      rw [same]
      rfl
    · exact iff_of_false nofun fun none => none.2 s encoded
    · refine iff_of_false ?_ (not_not_intro bytes)
      rintro ⟨fault, ⟨⟩⟩
  · rw [decoded]
    refine ⟨fun m => iff_of_false nofun ?_, iff_of_true rfl ⟨json, no_text⟩, ?_, steps⟩
    · rintro ⟨s, encoded, -⟩
      exact no_text s encoded
    · refine iff_of_false ?_ (not_not_intro json)
      rintro ⟨fault, ⟨⟩⟩
  · rw [decoded]
    refine ⟨fun m => iff_of_false nofun ?_, iff_of_false nofun fun json => no_json json.1,
      iff_of_true ⟨fault, rfl⟩ no_json, steps⟩
    rintro ⟨s, encoded, json, -⟩
    rw [← encoded, Json.isJsonBytes_toUTF8] at no_json
    exact no_json json

/-- A delivery that says that its body is JSON. -/
def Delivery.inJson (body : ByteArray) : Delivery :=
  { envelope := ⟨⟨1⟩, false, "orders", "new"⟩
    properties := { contentType := some "Application/JSON; charset=utf-8" }
    body := body }

/-- A number that is too large for any type is JSON, a byte that no text has is not UTF-8, and a list
does not end with a comma. -/
theorem json_body_cases_threeBodies :
    (Delivery.inJson "[1e999]".toUTF8).SaysJson ∧
    (Delivery.inJson "[1e999]".toUTF8).Passes 100 ∧
    standardConverter 100 (.inJson "[1e999]".toUTF8) =
      .ok ((Delivery.inJson "[1e999]".toUTF8).message (.text "[1e999]")) ∧
    standardConverter 100 (.inJson (Text.pack [0x22, 0xff, 0x22])) = .error .invalidUtf8 ∧
    ∃ fault, standardConverter 100 (.inJson "[1,]".toUTF8) = .error (.malformedJson fault) := by
  have declared (body : ByteArray) : (Delivery.inJson body).SaysJson := ⟨_, rfl, rfl⟩
  have passes (body : ByteArray) (small : body.size ≤ 100) : (Delivery.inJson body).Passes 100 :=
    ⟨small, nofun, nofun⟩
  have number : Json.IsJson "[1e999]" :=
    (Json.isJsonBytes_toUTF8 _).mp ((Json.accept_iff _).mp rfl)
  have bytes : Json.IsJsonBytes (Text.pack [0x22, 0xff, 0x22]) := (Json.accept_iff _).mp rfl
  have no_text : ∀ s : String, s.toUTF8 ≠ Text.pack [0x22, 0xff, 0x22] :=
    Text.fromUTF8?_eq_none.mp rfl
  have comma : ¬ Json.IsJsonBytes "[1,]".toUTF8 := by
    intro json
    have refused : Json.accept (Text.bytes "[1,]".toUTF8) =
        .error (.malformed .expectedValue ⟨1, 4⟩) := rfl
    rw [(Json.accept_iff _).mpr json] at refused
    cases refused
  refine ⟨declared _, passes _ (by decide), ?_, ?_, ?_⟩
  · exact ((json_body_cases (declared _) (passes _ (by decide))).1 _).mpr ⟨_, rfl, number, rfl⟩
  · exact (json_body_cases (declared _) (passes _ (by decide))).2.1.mpr ⟨bytes, no_text⟩
  · exact (json_body_cases (declared _) (passes _ (by decide))).2.2.1.mpr comma

end Intake
