import Intake.Proofs.Conversion.JsonBody

/-!
# What becomes of a delivery

Which deliveries are converted, into what, and which error the others get. The judgement `Becomes` has
one rule for each check that can fail and one for each kind of body, in terms of the delivery alone: the
media type is described by the shape of the content type, JSON by its grammar, and UTF-8 by the texts
that there are. The main statement is `standardConverter_eq_iff`: the converter decides this judgement,
and what it converts keeps all that has been delivered.
-/
namespace Intake

namespace Text

/-! ### Blanks at the ends of a text -/

/-- Neither the first nor the last character is blank. -/
structure Trimmed (s : List Char) : Prop where
  first : ∀ c ∈ s.head?, isBlank c = false
  last : ∀ c ∈ s.getLast?, isBlank c = false

theorem trimStart_of_blank {s : List Char} (blank : ∀ c ∈ s, isBlank c = true) :
    trimStart s = [] :=
  List.dropWhile_eq_nil_iff.mpr blank

theorem first_dropWhile {p : Char → Bool} (s : List Char) :
    ∀ c ∈ (s.dropWhile p).head?, p c = false := by
  intro c first
  have stops := List.head?_dropWhile_not p s
  rw [Option.mem_def.mp first] at stops
  exact stops

/-- Blanks at both ends are all that is trimmed. -/
theorem trim_append {before core after : List Char} (blank : ∀ c ∈ before ++ after, isBlank c = true)
    (trimmed : Trimmed core) : trim (before ++ core ++ after) = core := by
  have front : ∀ c ∈ before, isBlank c = true :=
    fun c member => blank c (List.mem_append_left _ member)
  have back : ∀ c ∈ after, isBlank c = true :=
    fun c member => blank c (List.mem_append_right _ member)
  have begun : trimStart (before ++ core ++ after) = trimStart (core ++ after) := by
    rw [List.append_assoc]
    exact List.dropWhile_append_of_pos front
  rw [trim, begun]
  -- Without a core the blanks at the end are blanks at the start too.
  cases core with
  | nil => rw [List.nil_append, trimStart_of_blank back]; rfl
  | cons c core =>
    have kept : trimStart (c :: core ++ after) = c :: core ++ after :=
      trimStart_eq_self (by simpa using trimmed.first)
    have ended : trimStart (after.reverse ++ (c :: core).reverse) = (c :: core).reverse := by
      rw [trimStart, List.dropWhile_append_of_pos fun c member => back c (List.mem_reverse.mp member)]
      refine trimStart_eq_self ?_
      rw [List.head?_reverse]
      exact trimmed.last
    rw [kept, List.reverse_append, ended, List.reverse_reverse]

/-- Every text is what is left of it when it is trimmed, between blanks. -/
theorem exists_eq_append_trim (s : List Char) :
    ∃ before after, s = before ++ trim s ++ after ∧ (∀ c ∈ before ++ after, isBlank c = true) ∧
      Trimmed (trim s) := by
  have front := List.takeWhile_append_dropWhile (p := isBlank) (l := s)
  have split : trimStart s = trim s ++ ((trimStart s).reverse.takeWhile isBlank).reverse := by
    rw [← List.reverse_inj, List.reverse_append, List.reverse_reverse]
    simp [trim, trimStart]
  refine ⟨s.takeWhile isBlank, ((trimStart s).reverse.takeWhile isBlank).reverse, ?_, ?_, ?_, ?_⟩
  · rw [List.append_assoc, ← split]
    exact front.symm
  · intro c member
    rcases List.mem_append.mp member with member | member
    · exact List.all_eq_true.mp (List.all_takeWhile ..) c member
    · exact List.all_eq_true.mp (List.all_takeWhile ..) c (List.mem_reverse.mp member)
  · -- What is trimmed at the end leaves the first character where it is.
    intro c first
    refine first_dropWhile s c ?_
    change c ∈ (trimStart s).head?
    rw [split, Option.mem_def, List.head?_append, Option.mem_def.mp first, Option.some_or]
  · intro c last
    rw [trim, List.getLast?_reverse] at last
    exact first_dropWhile _ c last

end Text

/-! ### Media types -/

/-- A content type names a media type: before its first semicolon there are blanks, the media type with
its ASCII letters in any case, and blanks. -/
def NamesMedia (contentType : String) (media : List Char) : Prop :=
  ∃ before core after parameters, contentType.toList = before ++ core ++ after ++ parameters ∧
    (∀ c ∈ before ++ core ++ after, c ≠ ';') ∧ (∀ c ∈ parameters.head?, c = ';') ∧
    (∀ c ∈ before ++ after, Text.isBlank c = true) ∧ Text.Trimmed core ∧
    core.map Char.toLower = media

theorem takeWhile_append_eq {p : Char → Bool} {s rest : List Char} (all : ∀ c ∈ s, p c = true)
    (ends : ∀ c ∈ rest.head?, p c = false) : (s ++ rest).takeWhile p = s := by
  rw [List.takeWhile_append_of_pos all]
  cases rest with
  | nil => simp
  | cons c rest => rw [List.takeWhile_cons_of_neg (by simp [ends c rfl]), List.append_nil]

/-- Every content type names exactly one media type. -/
theorem mediaType_eq_iff (contentType : String) (media : List Char) :
    mediaType contentType = media ↔ NamesMedia contentType media := by
  constructor
  · rintro rfl
    obtain ⟨before, after, split, blank, trimmed⟩ :=
      Text.exists_eq_append_trim (contentType.toList.takeWhile (· ≠ ';'))
    refine ⟨before, _, after, contentType.toList.dropWhile (· ≠ ';'), ?_, ?_, ?_, blank, trimmed, rfl⟩
    · rw [← split, List.takeWhile_append_dropWhile]
    · intro c member
      rw [← split] at member
      simpa using List.all_eq_true.mp (List.all_takeWhile ..) c member
    · intro c first
      simpa using Text.first_dropWhile _ c first
  · rintro ⟨before, core, after, parameters, split, plain, ends, blank, trimmed, rfl⟩
    have cut : contentType.toList.takeWhile (· ≠ ';') = before ++ core ++ after := by
      rw [split]
      exact takeWhile_append_eq (fun c member => by simpa using plain c member)
        (fun c first => by simpa using ends c first)
    rw [mediaType, cut, Text.trim_append blank trimmed]
    rfl

/-- An encoding that leaves the body as it is has no name or the name `identity`. -/
theorem isIdentityEncoding_iff (encoding : String) :
    isIdentityEncoding encoding = true ↔
      encoding = "" ∨ encoding.toList.map Char.toLower = "identity".toList := by
  simp [isIdentityEncoding, Text.sameIgnoringCase, Text.asciiLower]

namespace Delivery

def HasMedia (d : Delivery) (media : List Char) : Prop :=
  ∃ contentType, d.properties.contentType = some contentType ∧ NamesMedia contentType media

/-- The media type is that of JSON. -/
def IsDeclaredJson (d : Delivery) : Prop := d.HasMedia "application/json".toList

/-- The media type is one of texts. -/
def IsDeclaredText (d : Delivery) : Prop := ∃ subtype, d.HasMedia ("text/".toList ++ subtype)

theorem HasMedia.unique {d : Delivery} {media other : List Char} (one : d.HasMedia media)
    (two : d.HasMedia other) : media = other := by
  obtain ⟨contentType, known, names⟩ := one
  obtain ⟨again, same, others⟩ := two
  obtain rfl : contentType = again := Option.some_inj.mp (known.symm.trans same)
  rw [← (mediaType_eq_iff _ _).mpr names, (mediaType_eq_iff _ _).mpr others]

/-- The form of a body is the one that the media type asks for. -/
theorem form_cases (d : Delivery) :
    (d.IsDeclaredJson ∧ ¬ d.IsDeclaredText ∧ BodyForm.of d.properties.contentType = .json) ∨
    (¬ d.IsDeclaredJson ∧ d.IsDeclaredText ∧ BodyForm.of d.properties.contentType = .text) ∨
    (¬ d.IsDeclaredJson ∧ ¬ d.IsDeclaredText ∧
      BodyForm.of d.properties.contentType = .octets) := by
  have different (subtype : List Char) : "application/json".toList ≠ "text/".toList ++ subtype := by
    simp
  cases known : d.properties.contentType with
  | none =>
    refine .inr (.inr ⟨?_, ?_, rfl⟩)
    · rintro ⟨contentType, set, -⟩
      rw [known] at set
      cases set
    · rintro ⟨subtype, contentType, set, -⟩
      rw [known] at set
      cases set
  | some contentType =>
    have own : d.HasMedia (mediaType contentType) :=
      ⟨contentType, known, (mediaType_eq_iff _ _).mp rfl⟩
    simp only [BodyForm.of]
    split
    · next json =>
      rw [json] at own
      refine .inl ⟨own, ?_, rfl⟩
      rintro ⟨subtype, text⟩
      exact different subtype (own.unique text)
    · next no_json =>
      have other : ¬ d.IsDeclaredJson := fun json => no_json (own.unique json)
      split
      · next begins =>
        obtain ⟨subtype, text⟩ := List.isPrefixOf_iff_prefix.mp begins
        exact .inr (.inl ⟨other, ⟨subtype, text ▸ own⟩, rfl⟩)
      · next begins =>
        refine .inr (.inr ⟨other, ?_, rfl⟩)
        rintro ⟨subtype, text⟩
        exact begins (List.isPrefixOf_iff_prefix.mpr ⟨subtype, (own.unique text).symm⟩)

/-! ### The judgement -/

/-- A body that is to be read as text: one that is declared as text, and one that is declared as JSON
and is JSON. -/
def IsRead (d : Delivery) : Prop :=
  d.IsDeclaredJson ∧ Json.IsJsonBytes d.body ∨ d.IsDeclaredText

/-- What is to become of a delivery if bodies up to a size are converted. -/
inductive Becomes (limit : Nat) (d : Delivery) : Except ConversionError Message → Prop
  | tooLarge (large : limit < d.body.size) :
    Becomes limit d (.error (.tooLarge d.body.size limit))
  | unnamedHeader (fits : d.body.size ≤ limit) (value : HeaderValue)
    (unnamed : ("", value) ∈ d.properties.headers.entries) :
    Becomes limit d (.error (.invalidHeader "" "header names must not be empty"))
  | encoded (fits : d.body.size ≤ limit) (named : ∀ e ∈ d.properties.headers.entries, e.1 ≠ "")
    (encoding : String) (set : d.properties.contentEncoding = some encoding)
    (coded : encoding ≠ "" ∧ encoding.toList.map Char.toLower ≠ "identity".toList) :
    Becomes limit d (.error (.unsupported ("content encoding '" ++ encoding ++ "'")))
  | malformedJson (passes : d.Passes limit) (declared : d.IsDeclaredJson)
    (malformed : ¬ Json.IsJsonBytes d.body) (fault : Json.Fault)
    (found : Json.accept (Text.bytes d.body) = .error fault) :
    Becomes limit d (.error (.malformedJson fault))
  | invalidUtf8 (passes : d.Passes limit) (read : d.IsRead) (invalid : ∀ s : String, s.toUTF8 ≠ d.body) :
    Becomes limit d (.error .invalidUtf8)
  | text (passes : d.Passes limit) (read : d.IsRead) (s : String) (valid : s.toUTF8 = d.body) :
    Becomes limit d (.ok (d.message (.text s)))
  | octets (passes : d.Passes limit) (other : ¬ d.IsDeclaredJson ∧ ¬ d.IsDeclaredText) :
    Becomes limit d (.ok (d.message (.octets d.body)))

end Delivery

/-- A body that is to be read as text is decoded. -/
theorem decodeBody_of_isRead {d : Delivery} (read : d.IsRead) :
    decodeBody (.of d.properties.contentType) d.body = decodeText d.body := by
  rcases d.form_cases with ⟨-, no_text, form⟩ | ⟨-, -, form⟩ | ⟨no_json, no_text, -⟩
  · obtain ⟨-, well⟩ := read.resolve_right no_text
    rw [form, decodeBody, (Json.accept_iff _).mpr well]
  · rw [form, decodeBody]
  · rcases read with ⟨json, -⟩ | text
    · exact absurd json no_json
    · exact absurd text no_text

/-- A delivery that passes the other checks becomes what the judgement says of its body. -/
theorem becomes_of_passes {limit : Nat} {d : Delivery} (passes : d.Passes limit) :
    d.Becomes limit (standardConverter limit d) := by
  rw [standardConverter_of_passes passes]
  have reading (read : d.IsRead) :
      d.Becomes limit ((decodeBody (.of d.properties.contentType) d.body).map d.message) := by
    rw [decodeBody_of_isRead read]
    rcases decodeText_cases d.body with ⟨s, valid, decoded⟩ | ⟨invalid, decoded⟩
    · rw [decoded]
      exact .text passes read s valid
    · rw [decoded]
      exact .invalidUtf8 passes read invalid
  -- What is declared as JSON is checked as JSON first, and then read like any other text.
  rcases d.form_cases with ⟨json, -, form⟩ | ⟨-, text, -⟩ | ⟨no_json, no_text, form⟩
  · have accepted := Json.accept_iff (Text.bytes d.body)
    cases result : Json.accept (Text.bytes d.body) with
    | ok u => exact reading (.inl ⟨json, accepted.mp result⟩)
    | error fault =>
      have malformed : ¬ Json.IsJsonBytes d.body := by
        intro well
        rw [accepted.mpr well] at result
        cases result
      rw [form, decodeBody, result]
      exact .malformedJson passes json malformed fault result
  · exact reading (.inr text)
  · rw [form]
    exact .octets passes ⟨no_json, no_text⟩

/-- The converter does what the judgement says. -/
theorem becomes_standardConverter (limit : Nat) (d : Delivery) :
    d.Becomes limit (standardConverter limit d) := by
  by_cases large : limit < d.body.size
  · rw [standardConverter, if_pos large]
    exact .tooLarge large
  have fits : d.body.size ≤ limit := Nat.le_of_not_lt large
  by_cases unnamed : d.properties.headers.entries.any (fun e => e.1.isEmpty) = true
  · rw [standardConverter, if_neg large, if_pos unnamed]
    obtain ⟨⟨name, value⟩, member, empty⟩ := List.any_eq_true.mp unnamed
    obtain rfl : name = "" := String.isEmpty_iff.mp empty
    exact .unnamedHeader fits value member
  have named : ∀ e ∈ d.properties.headers.entries, e.1 ≠ "" := by
    intro e member empty
    exact unnamed (List.any_eq_true.mpr ⟨e, member, String.isEmpty_iff.mpr empty⟩)
  cases coded : d.properties.contentEncoding.filter (fun e => !isIdentityEncoding e) with
  | some encoding =>
    rw [standardConverter, if_neg large, if_neg unnamed, coded]
    obtain ⟨set, other⟩ := Option.filter_eq_some_iff.mp coded
    have foreign : ¬ isIdentityEncoding encoding = true := by simpa using other
    rw [isIdentityEncoding_iff, not_or] at foreign
    exact .encoded fits named encoding set foreign
  | none =>
    refine becomes_of_passes ⟨fits, named, fun e set => ?_⟩
    simpa using Option.filter_eq_none_iff.mp coded e set

namespace Delivery.Becomes

variable {limit : Nat} {d : Delivery}

/-- The judgement leaves no choice. -/
theorem standardConverter_eq {r : Except ConversionError Message} (becomes : d.Becomes limit r) :
    standardConverter limit d = r := by
  cases becomes with
  | tooLarge large => rw [standardConverter, if_pos large]
  | unnamedHeader fits value unnamed =>
    have found : d.properties.headers.entries.any (fun e => e.1.isEmpty) = true :=
      List.any_eq_true.mpr ⟨_, unnamed, rfl⟩
    rw [standardConverter, if_neg (Nat.not_lt_of_le fits), if_pos found]
  | encoded fits named encoding set coded =>
    have names : d.properties.headers.entries.any (fun e => e.1.isEmpty) = false := by
      rw [List.any_eq_false]
      intro e member
      simpa using named e member
    have foreign : isIdentityEncoding encoding = false := by
      rw [← Bool.not_eq_true, isIdentityEncoding_iff, not_or]
      exact coded
    have kept : d.properties.contentEncoding.filter (fun e => !isIdentityEncoding e) =
        some encoding := by
      rw [set, Option.filter_some, foreign]
      rfl
    rw [standardConverter, if_neg (Nat.not_lt_of_le fits), names, if_neg Bool.false_ne_true, kept]
  | malformedJson passes declared malformed fault found =>
    rcases d.form_cases with ⟨-, -, form⟩ | ⟨no_json, -⟩ | ⟨no_json, -⟩
    · rw [standardConverter_of_passes passes, form, decodeBody, found]
      rfl
    · exact absurd declared no_json
    · exact absurd declared no_json
  | invalidUtf8 passes read invalid =>
    have none : decodeText d.body = .error .invalidUtf8 := by
      rw [decodeText, Text.fromUTF8?_eq_none.mpr invalid]
    rw [standardConverter_of_passes passes, decodeBody_of_isRead read, none]
    rfl
  | text passes read s valid =>
    have some : decodeText d.body = .ok (.text s) := by
      rw [decodeText, Text.fromUTF8?_eq_some.mpr valid]
    rw [standardConverter_of_passes passes, decodeBody_of_isRead read, some]
    rfl
  | octets passes other =>
    rcases d.form_cases with ⟨json, -⟩ | ⟨-, text, -⟩ | ⟨-, -, form⟩
    · exact absurd json other.1
    · exact absurd text other.2
    · rw [standardConverter_of_passes passes, form]
      rfl

/-- A delivery that is converted keeps all that it carries. -/
theorem preserved {m : Message} (becomes : d.Becomes limit (.ok m)) :
    m = d.message m.body ∧ m.body.bytes = d.body ∧
      (m.body.isText = true ↔ d.IsDeclaredJson ∨ d.IsDeclaredText) := by
  cases becomes with
  | text passes read s valid =>
    refine ⟨rfl, valid, iff_of_true rfl ?_⟩
    rcases read with ⟨json, -⟩ | text
    · exact .inl json
    · exact .inr text
  | octets passes other => exact ⟨rfl, rfl, iff_of_false Bool.false_ne_true (not_or.mpr other)⟩

end Delivery.Becomes

/-- **What the converter accepts**: its result is the one of the judgement, which takes the checks in
their order: the size of the body, the names of the headers, the content encoding, and then what the
media type asks of the body. A message that it makes has the routing data and the properties of the
delivery, its body has the same bytes, and it is a text exactly if the media type is that of JSON or one
of texts. -/
theorem standardConverter_eq_iff (limit : Nat) (d : Delivery) :
    (∀ r, standardConverter limit d = r ↔ d.Becomes limit r) ∧
    ∀ m, standardConverter limit d = .ok m →
      m.deliveryTag = d.envelope.deliveryTag ∧ m.redelivered = d.envelope.redelivered ∧
      m.exchange = d.envelope.exchange ∧ m.routingKey = d.envelope.routingKey ∧
      m.properties = d.properties ∧ m.body.bytes = d.body ∧
      (m.body.isText = true ↔ d.IsDeclaredJson ∨ d.IsDeclaredText) := by
  refine ⟨fun r => ⟨?_, Delivery.Becomes.standardConverter_eq⟩, fun m made => ?_⟩
  · rintro rfl
    exact becomes_standardConverter limit d
  · have becomes := becomes_standardConverter limit d
    rw [made] at becomes
    obtain ⟨whole, bytes, kind⟩ := becomes.preserved
    rw [whole]
    exact ⟨rfl, rfl, rfl, rfl, rfl, bytes, kind⟩

/-- A delivery whose content type has blanks, capitals and a parameter. -/
def Delivery.inPlainText (body : ByteArray) : Delivery :=
  { envelope := ⟨⟨7⟩, true, "orders", "new"⟩
    properties :=
      { contentType := some "\u2003Text/Plain ; charset=utf-8", contentEncoding := some "IDENTITY" }
    body := body }

/-- The body is read as text if it is one, and is never too large for a limit of its own size. -/
theorem standardConverter_eq_iff_plainText :
    standardConverter 1 (.inPlainText "x".toUTF8) =
      .ok ((Delivery.inPlainText "x".toUTF8).message (.text "x")) ∧
    ((Delivery.inPlainText "x".toUTF8).message (.text "x")).body.bytes = "x".toUTF8 ∧
    standardConverter 1 (.inPlainText (Text.pack [0xff])) = .error .invalidUtf8 ∧
    standardConverter 0 (.inPlainText "x".toUTF8) = .error (.tooLarge 1 0) := by
  have text (body : ByteArray) : (Delivery.inPlainText body).IsDeclaredText :=
    ⟨"plain".toList, _, rfl, (mediaType_eq_iff _ _).mp (by decide)⟩
  have passes (body : ByteArray) (small : body.size ≤ 1) : (Delivery.inPlainText body).Passes 1 := by
    refine ⟨small, nofun, ?_⟩
    rintro e ⟨⟩
    decide
  have made : standardConverter 1 (.inPlainText "x".toUTF8) =
      .ok ((Delivery.inPlainText "x".toUTF8).message (.text "x")) :=
    ((standardConverter_eq_iff 1 _).1 _).mpr
      (.text (passes _ (by decide)) (.inr (text _)) "x" rfl)
  refine ⟨made, ((standardConverter_eq_iff 1 _).2 _ made).2.2.2.2.2.1, ?_, ?_⟩
  · refine ((standardConverter_eq_iff 1 _).1 _).mpr ?_
    exact .invalidUtf8 (passes _ (by decide)) (.inr (text _)) (Text.fromUTF8?_eq_none.mp rfl)
  · exact ((standardConverter_eq_iff 0 _).1 _).mpr (.tooLarge (by decide))

end Intake
