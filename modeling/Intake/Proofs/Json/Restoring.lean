import Intake.Json.Codec
import Intake.Proofs.Json.Skipping
import Intake.Proofs.Number.Digits
import Intake.Proofs.Text.Encoding

/-!
# Reading back numbers and strings

A codec restores a value if its reader takes the value off its own text and leaves what follows,
whatever that is, as long as a number does not go on in it (`Codec.Restores`). Whole numbers within
their bounds, flags and texts are restored. The text of a value that is restored is parsed as that
value (`Codec.parse_write`).
-/
namespace Intake.Json

variable {α β : Type}

/-! ### Readers that succeed -/

/-- A reader succeeds with a value, and these bytes are what it leaves. -/
def Yields (result : Except Fault (α × Cursor)) (a : α) (left : List UInt8) : Prop :=
  ∃ p, result = .ok (a, ⟨left, p⟩)

@[simp] theorem yields_ok {a b : α} {c : Cursor} {left : List UInt8} :
    Yields (.ok (a, c)) b left ↔ a = b ∧ c.rest = left := by
  constructor
  · rintro ⟨p, same⟩
    cases same
    exact ⟨rfl, rfl⟩
  · rintro ⟨rfl, rfl⟩
    exact ⟨c.position, rfl⟩

/-- What is read first is handed on, together with the bytes it leaves. -/
theorem Yields.bind {result : Except Fault (α × Cursor)}
    {next : α × Cursor → Except Fault (β × Cursor)} {a : α} {b : β} {left more : List UInt8}
    (first : Yields result a left)
    (follows : ∀ p, Yields (next (a, ⟨left, p⟩)) b more) : Yields (result >>= next) b more := by
  obtain ⟨p, rfl⟩ := first
  exact follows p

/-- Nothing is skipped before a byte that is no blank. -/
theorem skipBlanks_cons {b : UInt8} (solid : Cursor.isBlank b = false) (rest : List UInt8)
    (p : Position) : Cursor.skipBlanks ⟨b :: rest, p⟩ = ⟨b :: rest, p⟩ := by
  simp [Cursor.skipBlanks, Cursor.skipBlanksFrom, solid]

theorem beginValue_cons {b : UInt8} (solid : Cursor.isBlank b = false) (rest : List UInt8)
    (p : Position) : beginValue ⟨b :: rest, p⟩ = .ok (b, ⟨b :: rest, p⟩) := by
  simp [beginValue, skipBlanks_cons solid]

/-! ### Restoring codecs -/

namespace Codec

/-- A reader takes a value off a text. -/
def Takes (read : Reader α) (text : List UInt8) (a : α) : Prop :=
  ∀ left p, Stops isNumeric left → Yields (read ⟨text ++ left, p⟩) a left

/-- A codec reads a value off its own text. -/
def Restores (c : Codec α) (a : α) : Prop := Takes c.read (c.write a) a

/-- The text of a value that is restored is parsed as that value. -/
theorem parse_write {c : Codec α} {a : α} (restores : c.Restores a) :
    parse c (c.write a) = .ok a := by
  obtain ⟨p, read⟩ := restores [] Position.start (stops_nil _)
  rw [List.append_nil] at read
  rw [parse, Cursor.ofBytes, read]
  rfl

theorem restores_via {c : Codec β} {forth : α → β} {back : β → α} {a : α}
    (restores : c.Restores (forth a)) (inverse : back (forth a) = a) :
    (c.via forth back).Restores a := by
  intro left p ends
  refine (restores left p ends).bind fun q => ?_
  simp [inverse, pure, Except.pure]

theorem restores_flag (b : Bool) : flag.Restores b := by
  intro left p _
  cases b with
  | true =>
    obtain ⟨q, read⟩ : Leaves (Cursor.expectWord Cursor.trueTail (Cursor.trueTail ++ left)
        (p.after 0x74)) left := leaves_expectWord.mpr rfl
    simp [flag, beginValue_cons (b := 0x74) rfl, Cursor.step, bind, Except.bind, pure, Except.pure,
      read]
  | false =>
    obtain ⟨q, read⟩ : Leaves (Cursor.expectWord Cursor.falseTail (Cursor.falseTail ++ left)
        (p.after 0x66)) left := leaves_expectWord.mpr rfl
    simp [flag, beginValue_cons (b := 0x66) rfl, Cursor.step, bind, Except.bind, pure, Except.pure,
      read]

end Codec

/-! ### Whole numbers -/

theorem yields_readAfterWhole (positive : Bool) (n : Nat) {left : List UInt8}
    (ends : Stops isNumeric left) (p : Position) :
    Yields (readAfterWhole positive n ⟨left, p⟩) (wholeOf positive n) left := by
  cases left with
  | nil => exact ⟨p, rfl⟩
  | cons b left =>
    have other := stops_cons.mp ends
    simp only [isNumeric, Bool.or_eq_false_iff, decide_eq_false_iff_not] at other
    simp [readAfterWhole, other]

/-- Digits are read onto a value as long as the whole fits. -/
theorem yields_readWholeDigits (positive : Bool) {digits left : List UInt8} {value : Nat}
    (all : ∀ b ∈ digits, Cursor.isDigit b = true)
    (fits : Decimal.valueOnto value digits ≤ maxWhole) (ends : Stops isNumeric left)
    (p : Position) :
    Yields (readWholeDigits positive value (digits ++ left) p)
      (wholeOf positive (Decimal.valueOnto value digits)) left := by
  induction digits generalizing value p with
  | nil =>
    have after := yields_readAfterWhole positive value ends p
    cases left with
    | nil => exact after
    | cons b left =>
      have other := stops_cons.mp (stops_isDigit ends)
      simpa [readWholeDigits, other] using after
  | cons b digits ih =>
    obtain ⟨digit, others⟩ := List.forall_mem_cons.mp all
    rw [Decimal.valueOnto_cons] at fits ⊢
    have small : ¬ maxWhole < value * 10 + (b.toNat - 0x30) :=
      Nat.not_lt_of_le (Nat.le_trans (Decimal.le_valueOnto _ digits) fits)
    simpa [readWholeDigits, digit, small] using ih others fits (p.after b)

/-- The digits of a number that fits are read as that number. -/
theorem yields_readNumber (positive : Bool) {n : Nat} {left : List UInt8} (fits : n ≤ maxWhole)
    (ends : Stops isNumeric left) (p : Position) :
    Yields (readNumber positive (Decimal.ofNat n ++ left) p) (wholeOf positive n) left := by
  obtain ⟨value, digits⟩ := Decimal.value_ofNat n
  rcases Decimal.ofNat_cases n with ⟨rfl, shape⟩ | ⟨-, b, others, shape, nonzero⟩
  · have after := yields_readAfterWhole positive 0 ends (p.after 0x30)
    rw [shape]
    cases left with
    | nil => exact after
    | cons d left =>
      have other := stops_cons.mp (stops_isDigit ends)
      simpa [readNumber, other] using after
  · rw [shape] at value digits ⊢
    obtain ⟨digit, all⟩ := List.forall_mem_cons.mp digits
    have first : Decimal.valueOnto (b.toNat - 0x30) others = n := by simpa using value
    have read := yields_readWholeDigits positive all (first ▸ fits) ends (p.after b)
    rw [first] at read
    simpa [readNumber, nonzero, digit] using read

theorem isBlank_of_isDigit {b : UInt8} (digit : Cursor.isDigit b = true) :
    Cursor.isBlank b = false := by
  rw [Bool.eq_false_iff]
  intro blank
  have low := isDigit_iff.mp digit
  have high := isBlank_iff.mp blank
  simp only [Grammar.IsDigit, Grammar.IsBlank] at low high
  omega

/-- The first byte of the text of a whole number. -/
theorem ofInt_cases (i : Int) :
    (0 ≤ i ∧ ∃ b digits, Decimal.ofNat i.natAbs = b :: digits ∧ Cursor.isDigit b = true ∧
      Decimal.ofInt i = Decimal.ofNat i.natAbs) ∨
    (i < 0 ∧ Decimal.ofInt i = 0x2d :: Decimal.ofNat i.natAbs) := by
  by_cases negative : i < 0
  · exact .inr ⟨negative, if_pos negative⟩
  · obtain ⟨b, digits, shape⟩ := List.exists_cons_of_ne_nil (Decimal.ofNat_ne_nil i.natAbs)
    have digit : Cursor.isDigit b = true := by
      refine (Decimal.value_ofNat i.natAbs).2 b ?_
      rw [shape]
      exact List.mem_cons_self
    exact .inl ⟨by omega, b, digits, shape, digit, if_neg negative⟩

namespace Codec

/-- A whole number that is a signed or an unsigned word of sixty-four bits is read as itself. -/
theorem takes_readAnyNumber {i : Int} (low : -9223372036854775808 ≤ i)
    (high : i ≤ 18446744073709551615) (expected : String) :
    Takes (readAnyNumber expected) (Decimal.ofInt i) (.whole i) := by
  intro left p ends
  rcases ofInt_cases i with ⟨sign, b, digits, shape, digit, text⟩ | ⟨sign, text⟩
  · have fits : i.natAbs ≤ maxWhole := by
      simp only [maxWhole, UInt64.size]
      omega
    have read := yields_readNumber true fits ends p
    have value : wholeOf true i.natAbs = .whole i := by
      rw [wholeOf, if_pos rfl, Int.natAbs_of_nonneg sign]
    have unsigned : b ≠ 0x2d := by
      rintro rfl
      exact absurd digit (by decide)
    rw [value, shape] at read
    rw [text, shape, readAnyNumber, List.cons_append, beginValue_cons (isBlank_of_isDigit digit)]
    simpa [bind, Except.bind, unsigned, digit] using read
  · have fits : i.natAbs ≤ maxWhole := by
      simp only [maxWhole, UInt64.size]
      omega
    have read := yields_readNumber false fits ends (p.after 0x2d)
    have value : wholeOf false i.natAbs = .whole i := by
      have bounds : 0 < i.natAbs ∧ i.natAbs ≤ Nat.pow 2 63 := by
        simp only [Nat.pow_eq]
        omega
      have opposite : -(i.natAbs : Int) = i := by omega
      rw [wholeOf, if_neg Bool.false_ne_true, if_pos bounds, opposite]
    rw [value] at read
    rw [text, readAnyNumber, List.cons_append, beginValue_cons rfl]
    simpa [bind, Except.bind, Cursor.step] using read

theorem restores_whole {low high i : Int} (above : low ≤ i) (below : i ≤ high)
    (least : -9223372036854775808 ≤ low) (greatest : high ≤ 18446744073709551615)
    (expected : String) : (whole low high expected).Restores i := by
  intro left p ends
  have number := takes_readAnyNumber (Int.le_trans least above) (Int.le_trans below greatest)
  refine (number expected left p ends).bind fun q => ?_
  simp [above, below, pure, Except.pure]

theorem restores_word8 (n : UInt8) : word8.Restores n := by
  have below := n.toNat_lt
  refine restores_via (restores_whole ?_ ?_ ?_ ?_ _) ?_
  · omega
  · omega
  · decide
  · decide
  · simp

theorem restores_word64 (expected : String) (n : UInt64) : (word64 expected).Restores n := by
  have below := n.toNat_lt
  refine restores_via (restores_whole ?_ ?_ ?_ ?_ _) ?_
  · omega
  · simp only [UInt64.size]
    omega
  · decide
  · decide
  · simp

theorem restores_int64 (i : Int64) : int64.Restores i := by
  refine restores_via (restores_whole ?_ ?_ ?_ ?_ _) ?_
  · exact Int64.minValue_le_toInt i
  · exact Int64.toInt_le i
  · decide
  · decide
  · exact Int64.ofInt_toInt i

end Codec

/-! ### Strings -/

theorem hexValue?_hexByte : ∀ n < 16, Cursor.hexValue? (hexByte n) = some n := by decide

/-- The two hexadecimal digits of a control character tell the character. -/
theorem hexQuad?_hexByte {b : UInt8} (control : b < 0x20) :
    Cursor.hexQuad? 0x30 0x30 (hexByte (b.toNat / 16)) (hexByte (b.toNat % 16)) = some b.toNat := by
  have small : b.toNat < 0x20 := UInt8.lt_iff_toNat_lt.mp control
  have zero : Cursor.hexValue? 0x30 = some 0 := rfl
  simp only [Cursor.hexQuad?, zero, hexValue?_hexByte (b.toNat / 16) (by omega),
    hexValue?_hexByte (b.toNat % 16) (by omega), Option.some.injEq]
  omega

/-- A letter after a backslash is read as the byte that it stands for. -/
theorem readString_letter {e x : UInt8} (named : escapedByte? e = some x) (more : List UInt8)
    (p : Position) (acc : List UInt8) :
    ∃ q, readString true none (0x5c :: e :: more) p acc =
      readString true none more q (x :: acc) := by
  have other : e ≠ 0x75 := by
    rintro rfl
    cases named
  refine ⟨(p.after 0x5c).after e, ?_⟩
  rw [readString.eq_def]
  simp [other, named, pushLone]

/-- A control character is read off its hexadecimal digits. -/
theorem readString_control {b : UInt8} (control : b < 0x20) (more : List UInt8) (p : Position)
    (acc : List UInt8) :
    ∃ q, readString true none ([0x5c, 0x75, 0x30, 0x30, hexByte (b.toNat / 16),
      hexByte (b.toNat % 16)] ++ more) p acc = readString true none more q (b :: acc) := by
  have small : b.toNat < 0x20 := UInt8.lt_iff_toNat_lt.mp control
  have single : isTrailing b.toNat = false ∧ isLeading b.toNat = false := by
    simp [isTrailing, isLeading]
    omega
  have bytes : pushCodePoint b.toNat acc = b :: acc := by
    have ascii : b.toNat < 0x80 := by omega
    simp [pushCodePoint, codePointBytes, ascii]
  let digits := [0x30, 0x30, hexByte (b.toNat / 16), hexByte (b.toNat % 16)]
  refine ⟨((p.after 0x5c).after 0x75).afterAll digits, ?_⟩
  rw [List.cons_append, readString.eq_def]
  simp [digits, hexQuad?_hexByte control, single, bytes]

/-- What stands for a byte inside a string is read as that byte. -/
theorem readString_escape (b : UInt8) (more : List UInt8) (p : Position) (acc : List UInt8) :
    ∃ q, readString true none (escape b ++ more) p acc =
      readString true none more q (b :: acc) := by
  unfold escape
  split
  next quote =>
    subst quote
    exact readString_letter rfl more p acc
  split
  next backslash =>
    subst backslash
    exact readString_letter rfl more p acc
  split
  next backspace => exact backspace ▸ readString_letter rfl more p acc
  split
  next feed => exact feed ▸ readString_letter rfl more p acc
  split
  next line => exact line ▸ readString_letter rfl more p acc
  split
  next carriage => exact carriage ▸ readString_letter rfl more p acc
  split
  next tab => exact tab ▸ readString_letter rfl more p acc
  split
  next control => exact readString_control control more p acc
  next quote backslash _ _ _ _ _ plain =>
    refine ⟨p.after b, ?_⟩
    rw [List.singleton_append, readString.eq_def]
    simp [quote, backslash, plain, pushLone]

/-- A string is read up to its closing quote. -/
theorem yields_readString (bs left : List UInt8) (p : Position) (acc : List UInt8) :
    Yields (readString true none (bs.flatMap escape ++ 0x22 :: left) p acc) (acc.reverse ++ bs)
      left := by
  induction bs generalizing p acc with
  | nil =>
    rw [List.flatMap_nil, List.nil_append, readString.eq_def]
    simp [pushLone]
  | cons b bs ih =>
    obtain ⟨q, step⟩ := readString_escape b (bs.flatMap escape ++ 0x22 :: left) p acc
    rw [List.flatMap_cons, List.append_assoc, step]
    simpa using ih q (b :: acc)

/-- The text of a string, its opening quote read. -/
theorem yields_readText (s : String) (left : List UInt8) (p : Position) :
    Yields (readText ((Text.encode s).flatMap escape ++ 0x22 :: left) p) s left := by
  obtain ⟨q, read⟩ := yields_readString (Text.encode s) left p []
  simp [readText, read]

theorem writeText_append (s : String) (left : List UInt8) :
    writeText s ++ left = 0x22 :: ((Text.encode s).flatMap escape ++ 0x22 :: left) := by
  simp [writeText]

namespace Codec

theorem takes_readString (expected : String) (s : String) :
    Takes (readString expected) (writeText s) s := by
  intro left p _
  rw [writeText_append]
  exact yields_readText s left (p.after 0x22)

theorem restores_text (s : String) : text.Restores s := takes_readString "a string" s

end Codec
end Intake.Json
