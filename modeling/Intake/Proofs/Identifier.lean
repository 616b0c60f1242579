import Intake.Proofs.Interchange

/-!
# Where the names of queues come from

A name that is made from text or parsed is checked, and is made of the texts that a name may have
and of no others. A name that is read from JSON is any text, so the ways to get a name agree on a
text exactly if a name may have it (`sources_agree_iff`).
-/
namespace Intake.QueueName

open Json

/-- What the text of a queue name is to be: 1 to 255 bytes of letters, digits and four marks. -/
def IsProper (text : String) : Prop :=
  1 ≤ text.utf8ByteSize ∧ text.utf8ByteSize ≤ 255 ∧
    ∀ c ∈ text.toList, ('A' ≤ c ∧ c ≤ 'Z') ∨ ('a' ≤ c ∧ c ≤ 'z') ∨ ('0' ≤ c ∧ c ≤ '9') ∨
      c ∈ ['-', '_', '.', ':']

theorem allowed_iff {c : Char} : allowed c = true ↔
    ('A' ≤ c ∧ c ≤ 'Z') ∨ ('a' ≤ c ∧ c ≤ 'z') ∨ ('0' ≤ c ∧ c ≤ '9') ∨
      c ∈ ['-', '_', '.', ':'] := by
  unfold allowed
  delta Char.isAlphanum Char.isAlpha Char.isUpper Char.isLower Char.isDigit
  simp [Char.le_def, or_assoc]

/-- A name is made of a text exactly if the text is proper. -/
theorem ofText_eq_ok {text : String} {n : QueueName} :
    ofText text = .ok n ↔ n = ⟨text⟩ ∧ IsProper text := by
  unfold ofText IsProper
  simp only [← allowed_iff]
  split
  · next long =>
    constructor
    · rintro ⟨⟩
    · rintro ⟨-, some_byte, short, -⟩
      omega
  · next fits =>
    split
    · next all =>
      constructor
      · rintro ⟨⟩
        exact ⟨rfl, by omega, by omega, List.all_eq_true.mp all⟩
      · rintro ⟨rfl, -⟩
        rfl
    · next other =>
      constructor
      · rintro ⟨⟩
      · rintro ⟨-, -, -, all⟩
        exact absurd (List.all_eq_true.mpr all) other

/-- A name is read from JSON as the text that the JSON says, whatever that is. -/
theorem parse_codec (bs : List UInt8) :
    Codec.parse codec bs = (Codec.parse Codec.text bs).map mk := by
  simp only [Codec.parse, codec, Codec.via]
  cases Codec.text.read (Cursor.ofBytes bs) with
  | error fault => rfl
  | ok found =>
    obtain ⟨text, c⟩ := found
    simp only [bind, Except.bind, pure, Except.pure]
    cases c.finish <;> rfl

/-- **Sources of names**: making a name from a text and parsing it succeed exactly for the proper
texts. Reading a name from JSON is reading a text, every text is said by some JSON, and no text is
refused. So for JSON that says a text, reading does what making does exactly if the text is
proper. -/
theorem sources_agree_iff (text : String) :
    (∀ n, ofText text = .ok n ↔ n = ⟨text⟩ ∧ IsProper text) ∧
    (∀ n, parse text = .ok n ↔ n = ⟨text⟩ ∧ IsProper text) ∧
    (∀ bs, Codec.parse codec bs = (Codec.parse Codec.text bs).map mk) ∧
    (∃ bs, Codec.parse Codec.text bs = .ok text) ∧
    (∀ bs, Codec.parse Codec.text bs = .ok text →
      ((Codec.parse codec bs).toOption = (ofText text).toOption ↔ IsProper text)) := by
  refine ⟨fun n => ofText_eq_ok, fun n => ofText_eq_ok, parse_codec,
    ⟨_, Codec.parse_write (Codec.restores_text text)⟩, ?_⟩
  intro bs spells
  rw [parse_codec, spells]
  constructor
  · intro same
    cases made : ofText text with
    | ok n => exact (ofText_eq_ok.mp made).2
    | error e =>
      rw [made] at same
      cases same
  · intro proper
    rw [ofText_eq_ok.mpr ⟨rfl, proper⟩]
    rfl

/-- The JSON `"orde\u0072s"`, which says a proper text in a roundabout way. -/
def escapedName : List UInt8 :=
  [0x22, 0x6f, 0x72, 0x64, 0x65, 0x5c, 0x75, 0x30, 0x30, 0x37, 0x32, 0x73, 0x22]

theorem sources_agree_iff_escapedName :
    Codec.parse Codec.text escapedName = .ok "orders" ∧
      (Codec.parse codec escapedName).toOption = (ofText "orders").toOption := by
  have spells : Codec.parse Codec.text escapedName = .ok "orders" := by rfl
  have made : ofText "orders" = .ok ⟨"orders"⟩ := by decide
  obtain ⟨makes, -, -, -, agree⟩ := sources_agree_iff "orders"
  exact ⟨spells, (agree escapedName spells).mpr ((makes _).mp made).2⟩

/-- The JSON of a text with a blank in it. -/
def blankName : List UInt8 := Codec.text.write "with space"

/-- It is read as a name, which cannot be made. -/
theorem read_improper :
    Codec.parse codec blankName = .ok ⟨"with space"⟩ ∧
      ofText "with space" = .error (.invalidFormat "queue_name"
        "only ASCII alphanumeric, hyphens, underscores, periods and colons allowed") ∧
      ¬ IsProper "with space" := by
  have refused : ofText "with space" = .error (.invalidFormat "queue_name"
      "only ASCII alphanumeric, hyphens, underscores, periods and colons allowed") := by decide
  refine ⟨Codec.parse_write (restores ⟨"with space"⟩), refused, ?_⟩
  intro proper
  rw [ofText_eq_ok.mpr ⟨rfl, proper⟩] at refused
  cases refused

end Intake.QueueName
