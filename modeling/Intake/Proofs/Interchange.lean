import Intake.Interchange
import Intake.Proofs.Instant.Reading
import Intake.Proofs.Json.Composites

/-!
# Reading back the data model

Every value of the types that are stored or sent is read back from its own text
(`interchange_read_back`), except for doubles among the headers.
-/
namespace Intake

open Json Codec

/-! ### Instants -/

namespace Instant

/-- A byte that stands for itself inside a string, and is a whole character. -/
def Plain (b : UInt8) : Prop := escape b = [b] ∧ b.toNat < 0x80

instance : DecidablePred Plain := fun b =>
  inferInstanceAs (Decidable (escape b = [b] ∧ b.toNat < 0x80))

theorem plain_of_isDigit {b : UInt8} (digit : Cursor.isDigit b = true) : Plain b := by
  obtain ⟨low, high⟩ := isDigit_iff.mp digit
  have other : ∀ c : UInt8, c.toNat < 0x30 ∨ 0x39 < c.toNat → b ≠ c := by
    rintro c outside rfl
    omega
  have large : ¬ b < 0x20 := by
    simp only [UInt8.lt_iff_toNat_lt, UInt8.reduceToNat]
    omega
  refine ⟨?_, by omega⟩
  simp [escape, other, large]

theorem plain_yearText (year : Int) : ∀ b ∈ yearText year, Plain b := by
  have digits : ∀ b ∈ padded 4 year.natAbs, Plain b :=
    fun b member => plain_of_isDigit (digits_padded 4 year.natAbs b member)
  rw [yearText]
  split
  · exact digits
  · refine List.forall_mem_cons.mpr ⟨?_, digits⟩
    split <;> decide

theorem plain_fractionText (t : Instant) : ∀ b ∈ fractionText t, Plain b := by
  have point : ∀ width n, ∀ b ∈ 0x2e :: padded width n, Plain b := fun width n =>
    List.forall_mem_cons.mpr
      ⟨by decide, fun b member => plain_of_isDigit (digits_padded width n b member)⟩
  simp only [fractionText]
  split
  · simp
  · split
    · exact point 3 _
    · split
      · exact point 6 _
      · exact point 9 _

theorem plain_interchange (t : Instant) : ∀ b ∈ t.interchange, Plain b := by
  have digits : ∀ n, ∀ b ∈ twoDigits n, Plain b :=
    fun n b member => plain_of_isDigit (digits_twoDigits n b member)
  have marks : Plain 0x2d ∧ Plain 0x54 ∧ Plain 0x3a ∧ Plain 0x5a := by decide
  obtain ⟨dash, joint, colon, zone⟩ := marks
  simp only [interchange, dateText, timeText, List.forall_mem_append, List.forall_mem_singleton,
    and_assoc]
  exact ⟨plain_yearText _, dash, digits _, dash, digits _, joint, digits _, colon, digits _, colon,
    digits _, plain_fractionText t, zone⟩

theorem flatMap_escape {bs : List UInt8} (plain : ∀ b ∈ bs, Plain b) : bs.flatMap escape = bs := by
  induction bs with
  | nil => rfl
  | cons b bs ih =>
    obtain ⟨first, others⟩ := List.forall_mem_cons.mp plain
    rw [List.flatMap_cons, first.1, ih others, List.singleton_append]

/-- The interchange text is written like any string. -/
theorem writeText_interchange (t : Instant) :
    writeText (String.ofList (Text.letters t.interchange)) = codec.write t := by
  have plain := plain_interchange t
  rw [writeText, Text.encode_letters fun b member => (plain b member).2, flatMap_escape plain]
  rfl

theorem restores (t : Instant) : codec.Restores t := by
  intro left p ends
  rw [← writeText_interchange]
  refine (takes_readString _ _ left p ends).bind fun q => ?_
  simp [read_interchange, pure, Except.pure]

theorem opens_write (t : Instant) : Opens (codec.write t) :=
  ⟨0x22, _, rfl, rfl, by decide, by decide⟩

end Instant

/-! ### Headers -/

/-- A header value is no double. -/
def HeaderValue.Exact (v : HeaderValue) : Prop := ∀ d, v ≠ .double d

theorem HeaderValue.restores {v : HeaderValue} (exact : v.Exact) : codec.Restores v := by
  cases v with
  | flag b => exact restores_variant rfl rfl (takes_variant "Bool" flag (restores_flag b))
  | whole i => exact restores_variant rfl rfl (takes_variant "Int" whole (restores_int64 i))
  | double d => exact absurd rfl (exact d)
  | text s => exact restores_variant rfl rfl (takes_variant "String" text (restores_text s))
  | octets b => exact restores_variant rfl rfl (takes_variant "Bytes" octets (restores_octets b))
  | null => exact restores_bare rfl rfl rfl

/-- No header value is a double. -/
def Headers.Exact (h : Headers) : Prop := ∀ e ∈ h.entries, e.2.Exact

/-- An entry is put after those whose names are less. -/
theorem insertEntry_of_lt {name : String} {value : HeaderValue}
    {entries : List (String × HeaderValue)} (less : ∀ e ∈ entries, e.1 < name) :
    insertEntry name value entries = entries ++ [(name, value)] := by
  induction entries with
  | nil => rfl
  | cons e entries ih =>
    obtain ⟨first, others⟩ := List.forall_mem_cons.mp less
    have notBefore : ¬ name < e.1 := String.lt_asymm first
    have different : name ≠ e.1 := by
      rintro rfl
      exact String.lt_irrefl _ first
    simp [insertEntry, notBefore, different, ih others]

theorem Headers.ext {a b : Headers} (same : a.entries = b.entries) : a = b := by
  cases a
  cases b
  cases same
  rfl

/-- Headers set in the order of their names are kept in that order. -/
theorem Headers.entries_foldl_insert {before after : List (String × HeaderValue)} {h : Headers}
    (same : h.entries = before) (ascending : Ascending (before ++ after)) :
    (after.foldl (fun h e => h.insert e.1 e.2) h).entries = before ++ after := by
  induction after generalizing h before with
  | nil => simpa using same
  | cons e after ih =>
    have less : ∀ b ∈ before, b.1 < e.1 := fun b member =>
      (List.pairwise_append.mp ascending).2.2 b member e List.mem_cons_self
    have step : (h.insert e.1 e.2).entries = before ++ [e] := by
      change insertEntry e.1 e.2 h.entries = before ++ [e]
      rw [same, insertEntry_of_lt less]
    have rest := ih step (by simpa using ascending)
    simpa using rest

/-- Headers are made up by their entries. -/
theorem Headers.ofList_entries (h : Headers) : ofList h.entries = h := by
  have entries : (ofList h.entries).entries = h.entries :=
    entries_foldl_insert (h := empty) rfl h.ascending
  exact Headers.ext entries

theorem Headers.restores {h : Headers} (exact : h.Exact) : codec.Restores h :=
  restores_via (restores_entries fun e member => HeaderValue.restores (exact e member))
    h.ofList_entries

/-! ### Identifiers -/

theorem QueueName.restores (n : QueueName) : codec.Restores n := restores_via (restores_text _) rfl

theorem DeliveryTag.restores (t : DeliveryTag) : codec.Restores t :=
  restores_via (restores_word64 _ _) rfl

theorem ConsumerTag.restores (t : ConsumerTag) : codec.Restores t :=
  restores_via (restores_text _) rfl

/-! ### Records

Each member is copied, in the order of the members; put into the value to start from, the copies
make up the record. -/

theorem Envelope.restores (e : Envelope) : codec.Restores e :=
  restores_record _ _
    (.cons (copies_member _ _ _ (DeliveryTag.restores _)) <|
      .cons (copies_member _ _ _ (restores_flag _)) <|
      .cons (copies_member _ _ _ (restores_text _)) <|
      .cons (copies_member _ _ _ (restores_text _)) .nil)
    (by decide) rfl

/-- An optional text among the properties is copied. -/
theorem Properties.copies_text (name : String) {get : Properties → Option String}
    (put : Option String → Properties → Properties) (p : Properties) :
    Copies (textMember name get put) p (put (get p)) :=
  copies_member _ _ _ (restores_optional restores_text opens_writeText _)

theorem Properties.restores {p : Properties} (exact : p.headers.Exact) : codec.Restores p := by
  have word : ∀ o : Option UInt8, (optional word8).Restores o :=
    restores_optional restores_word8 fun n => opens_ofInt n.toNat
  have instant : (optional Instant.codec).Restores p.timestamp :=
    restores_optional Instant.restores Instant.opens_write _
  exact restores_record _ _
    (.cons (copies_text _ _ p) <| .cons (copies_text _ _ p) <|
      .cons (copies_member _ _ _ (Headers.restores exact)) <|
      .cons (copies_member _ _ _ (word _)) <| .cons (copies_member _ _ _ (word _)) <|
      .cons (copies_text _ _ p) <| .cons (copies_text _ _ p) <| .cons (copies_text _ _ p) <|
      .cons (copies_text _ _ p) <| .cons (copies_member _ _ _ instant) <|
      .cons (copies_text _ _ p) <| .cons (copies_text _ _ p) <| .cons (copies_text _ _ p) .nil)
    (by decide) rfl

theorem Delivery.restores {d : Delivery} (exact : d.properties.headers.Exact) : codec.Restores d :=
  restores_record _ _
    (.cons (copies_member _ _ _ (Envelope.restores _)) <|
      .cons (copies_member _ _ _ (Properties.restores exact)) <|
      .cons (copies_member _ _ _ (restores_octets _)) .nil)
    (by decide) rfl

theorem Body.restores (b : Body) : codec.Restores b := by
  cases b with
  | text s => exact restores_variant rfl rfl (takes_variant "Text" Body.text (restores_text s))
  | octets b =>
    exact restores_variant rfl rfl (takes_variant "Bytes" Body.octets (restores_octets b))

theorem Message.restores {m : Message} (exact : m.properties.headers.Exact) : codec.Restores m :=
  restores_record _ _
    (.cons (copies_member _ _ _ (DeliveryTag.restores _)) <|
      .cons (copies_member _ _ _ (restores_flag _)) <|
      .cons (copies_member _ _ _ (restores_text _)) <|
      .cons (copies_member _ _ _ (restores_text _)) <|
      .cons (copies_member _ _ _ (Properties.restores exact)) <|
      .cons (copies_member _ _ _ (Body.restores _)) .nil)
    (by decide) rfl

theorem ConsumerState.restores (s : ConsumerState) : codec.Restores s := by
  cases s with
  | active => exact restores_bare rfl rfl rfl
  | cancelRequested => exact restores_bare rfl rfl rfl
  | cancelled => exact restores_bare rfl rfl rfl

theorem Metrics.restores (m : Metrics) : codec.Restores m := by
  have word : ∀ name (get : Counters → UInt64) put, Copies (counter name get put) m
      (fun a => { a with counters := put (get m.counters) a.counters }) :=
    fun _ _ _ => copies_member _ _ _ (restores_word64 _ _)
  exact restores_record _ _
    (.cons (copies_member _ _ _ (ConsumerState.restores _)) <|
      .cons (word _ _ _) <| .cons (word _ _ _) <| .cons (word _ _ _) <| .cons (word _ _ _) <|
      .cons (word _ _ _) <| .cons (word _ _ _) <| .cons (word _ _ _) <|
      .cons (copies_member _ _ _ (restores_word64 _ _)) .nil)
    (by decide) rfl

theorem ConsumerConfig.restores (c : ConsumerConfig) : codec.Restores c :=
  restores_record _ _
    (.cons (copies_member _ _ _ (restores_word64 _ _)) <|
      .cons (copies_member _ _ _ (restores_word64 _ _)) <|
      .cons (copies_member _ _ _ (restores_flag _)) <|
      .cons (copies_member _ _ _ (restores_flag _)) .nil)
    (by decide) rfl

theorem BrowseConfig.restores (c : BrowseConfig) : codec.Restores c :=
  restores_record _ _
    (.cons (copies_member _ _ _ (restores_word64 _ _)) <|
      .cons (copies_member _ _ _ (restores_word64 _ _)) .nil)
    (by decide) rfl

theorem BridgeConfig.restores (c : BridgeConfig) : codec.Restores c :=
  restores_record _ _
    (.cons (copies_member _ _ _ (ConsumerConfig.restores _)) <|
      .cons (copies_member _ _ _ (BrowseConfig.restores _)) .nil)
    (by decide) rfl

/-! ### All types -/

/-- A value is parsed from its own text. -/
def ReadBack {α : Type} (c : Codec α) (a : α) : Prop := parse c (c.write a) = .ok a

/-- **Interchange**: what is written of a value is read as that value, if no header value of it is a
double. -/
theorem interchange_read_back :
    (∀ n, ReadBack QueueName.codec n) ∧
    (∀ t, ReadBack DeliveryTag.codec t) ∧
    (∀ t, ReadBack ConsumerTag.codec t) ∧
    (∀ t, ReadBack Instant.codec t) ∧
    (∀ v : HeaderValue, v.Exact → ReadBack HeaderValue.codec v) ∧
    (∀ e, ReadBack Envelope.codec e) ∧
    (∀ p : Properties, p.headers.Exact → ReadBack Properties.codec p) ∧
    (∀ d : Delivery, d.properties.headers.Exact → ReadBack Delivery.codec d) ∧
    (∀ b, ReadBack Body.codec b) ∧
    (∀ m : Message, m.properties.headers.Exact → ReadBack Message.codec m) ∧
    (∀ s, ReadBack ConsumerState.codec s) ∧
    (∀ m, ReadBack Metrics.codec m) ∧
    (∀ c, ReadBack ConsumerConfig.codec c) ∧
    (∀ c, ReadBack BrowseConfig.codec c) ∧
    (∀ c, ReadBack BridgeConfig.codec c) :=
  ⟨fun n => parse_write n.restores,
    fun t => parse_write t.restores,
    fun t => parse_write t.restores,
    fun t => parse_write t.restores,
    fun _ exact => parse_write (HeaderValue.restores exact),
    fun e => parse_write e.restores,
    fun _ exact => parse_write (Properties.restores exact),
    fun _ exact => parse_write (Delivery.restores exact),
    fun b => parse_write b.restores,
    fun _ exact => parse_write (Message.restores exact),
    fun s => parse_write s.restores,
    fun m => parse_write m.restores,
    fun c => parse_write c.restores,
    fun c => parse_write c.restores,
    fun c => parse_write c.restores⟩

/-- A leap second, 2016-12-31T23:59:60.999Z. -/
def leapSecond : Instant where
  seconds := 1483228799
  nanos := 1999000000
  range := by decide
  nanos_lt := by decide
  leap := by decide

/-- Headers of every kind but doubles. -/
def mixedHeaders : Headers where
  entries := [("", .null), ("count", .whole Int64.minValue), ("data", .octets ⟨#[0, 255]⟩),
    ("line\n\"", .text "\\ü\u0000"), ("ok", .flag true)]
  ascending := by
    unfold Ascending
    decide

def datedProperties : Properties :=
  { contentType := some "", headers := mixedHeaders, priority := some 255
    timestamp := some leapSecond }

theorem interchange_read_back_leapSecond :
    ReadBack Instant.codec leapSecond ∧
    datedProperties.headers.Exact ∧ ReadBack Properties.codec datedProperties ∧
    ReadBack HeaderValue.codec (.text "\\ü\u0000") ∧
    ReadBack Delivery.codec ⟨⟨⟨1⟩, true, "", "key"⟩, datedProperties, ⟨#[10, 0]⟩⟩ ∧
    ReadBack Message.codec ⟨⟨1⟩, true, "", "key", datedProperties, .text "\n"⟩ := by
  have exact : datedProperties.headers.Exact := by
    simp [Headers.Exact, HeaderValue.Exact, datedProperties, mixedHeaders]
  obtain ⟨-, -, -, instant, header, -, properties, delivery, -, message, -⟩ := interchange_read_back
  exact ⟨instant _, exact, properties _ exact, header _ (by simp [HeaderValue.Exact]),
    delivery _ exact, message _ exact⟩

end Intake
