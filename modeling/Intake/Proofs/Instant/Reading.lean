import Intake.Instant.Reading
import Intake.Proofs.Calendar
import Intake.Proofs.Number.Digits
import Intake.Proofs.Text.Encoding

/-!
# Reading back instants

An instant is read off its interchange text (`read_interchange`), with and without a sign of the
year, with a fraction of three, six or nine digits or none, and in a leap second.
-/
namespace Intake

open Text (letter letters)

namespace Instant

/-! ### Runs of digits -/

theorem isDigit_letter {b : UInt8} (digit : Json.Cursor.isDigit b = true) :
    (letter b).isDigit = true := by
  have code : (letter b).val.toNat = b.toNat := Text.toNat_letter b
  simp only [Json.Cursor.isDigit, Bool.and_eq_true, decide_eq_true_eq,
    UInt8.le_iff_toNat_le] at digit
  simp only [Char.isDigit, Bool.and_eq_true, decide_eq_true_eq, ge_iff_le, UInt32.le_iff_toNat_le,
    code]
  exact digit

/-- The characters do not go on with a digit. -/
def EndsDigits (s : List Char) : Prop := ∀ c ∈ s.head?, c.isDigit = false

/-- Digits are read onto a value, as many as are wanted or as there are. -/
theorem readDigits_letters {digits : List UInt8} {count value : Nat} {rest : List Char}
    (all : ∀ b ∈ digits, Json.Cursor.isDigit b = true)
    (small : Decimal.valueOnto value digits < Nat.pow 2 63) (fits : digits.length ≤ count)
    (ends : digits.length = count ∨ EndsDigits rest) :
    readDigits count value (letters digits ++ rest) =
      .ok (Decimal.valueOnto value digits, rest) := by
  induction digits generalizing count value with
  | nil =>
    cases count with
    | zero => rfl
    | succ count =>
      cases rest with
      | nil => rfl
      | cons c rest =>
        have other : c.isDigit = false := by simpa [EndsDigits] using ends
        simp [readDigits, other]
  | cons b digits ih =>
    obtain ⟨digit, others⟩ := List.forall_mem_cons.mp all
    cases count with
    | zero => simp at fits
    | succ count =>
      rw [Decimal.valueOnto_cons] at small ⊢
      have next := Nat.lt_of_le_of_lt (Decimal.le_valueOnto _ digits) small
      have read := ih others small (by simpa using fits) (by simpa using ends)
      simpa [readDigits, isDigit_letter digit, next] using read

/-- A number is read off digits of which there is one at least. -/
theorem readNumber_letters {digits : List UInt8} (count : Nat) (rest : List Char)
    (all : ∀ b ∈ digits, Json.Cursor.isDigit b = true) (some_digit : digits ≠ [])
    (small : Decimal.valueOnto 0 digits < Nat.pow 2 63) (fits : digits.length ≤ count)
    (ends : digits.length = count ∨ EndsDigits rest) :
    readNumber count (letters digits ++ rest) = .ok (Decimal.valueOnto 0 digits, rest) := by
  have read := readDigits_letters all small fits ends
  cases digits with
  | nil => exact absurd rfl some_digit
  | cons b digits =>
    have digit := isDigit_letter (all b List.mem_cons_self)
    simpa [readNumber, digit] using read

/-! ### Padded numbers -/

theorem valueOnto_zeros (count : Nat) : Decimal.valueOnto 0 (List.replicate count 0x30) = 0 := by
  induction count with
  | zero => rfl
  | succ count ih => simpa [List.replicate_succ] using ih

theorem value_padded (width n : Nat) : Decimal.valueOnto 0 (padded width n) = n := by
  rw [padded, Decimal.valueOnto_append, valueOnto_zeros, (Decimal.value_ofNat n).1]

theorem digits_padded (width n : Nat) : ∀ b ∈ padded width n, Json.Cursor.isDigit b = true := by
  intro b member
  rcases List.mem_append.mp member with zero | digit
  · rw [List.eq_of_mem_replicate zero]
    rfl
  · exact (Decimal.value_ofNat n).2 b digit

theorem length_padded (width n : Nat) (positive : 0 < width) (small : n < Nat.pow 10 width) :
    (padded width n).length = width := by
  have fits := Decimal.length_ofNat_le positive small
  simp [padded, fits]

theorem padded_ne_nil (width n : Nat) : padded width n ≠ [] := by
  simp [padded, Decimal.ofNat_ne_nil]

/-- A padded number is read as the number. -/
theorem readNumber_padded (count width n : Nat) (rest : List Char) (small : n < Nat.pow 2 63)
    (fits : (padded width n).length ≤ count)
    (ends : (padded width n).length = count ∨ EndsDigits rest) :
    readNumber count (letters (padded width n) ++ rest) = .ok (n, rest) := by
  have value := value_padded width n
  have read := readNumber_letters count rest (digits_padded width n) (padded_ne_nil width n)
    (value.symm ▸ small) fits ends
  rwa [value] at read

theorem value_twoDigits {n : Nat} (small : n < 100) : Decimal.valueOnto 0 (twoDigits n) = n := by
  have tens : n / 10 % 10 < 10 := Nat.mod_lt _ (by decide)
  have ones : n % 10 < 10 := Nat.mod_lt _ (by decide)
  simp only [twoDigits, Decimal.valueOnto_cons, Decimal.valueOnto_nil,
    Decimal.digitByte_toNat tens, Decimal.digitByte_toNat ones]
  omega

theorem digits_twoDigits (n : Nat) : ∀ b ∈ twoDigits n, Json.Cursor.isDigit b = true := by
  have tens : n / 10 % 10 < 10 := Nat.mod_lt _ (by decide)
  have ones : n % 10 < 10 := Nat.mod_lt _ (by decide)
  simpa [twoDigits] using ⟨Decimal.isDigit_digitByte tens, Decimal.isDigit_digitByte ones⟩

/-! ### The parts of an instant -/

theorem trimStart_digits {digits : List UInt8} (all : ∀ b ∈ digits, Json.Cursor.isDigit b = true)
    (some_digit : digits ≠ []) (rest : List Char) :
    Text.trimStart (letters digits ++ rest) = letters digits ++ rest := by
  cases digits with
  | nil => exact absurd rfl some_digit
  | cons b digits =>
    have digit := all b List.mem_cons_self
    refine Text.trimStart_eq_self ?_
    simp only [Json.Cursor.isDigit, Bool.and_eq_true, decide_eq_true_eq,
      UInt8.le_iff_toNat_le, UInt8.reduceToNat] at digit
    simp [Text.isBlank]
    omega

theorem readField_twoDigits (low high : Nat) {n : Nat} (bounds : low ≤ n ∧ n ≤ high)
    (small : n < 100) (rest : List Char) :
    readField low high (letters (twoDigits n) ++ rest) = .ok (n, rest) := by
  have value := value_twoDigits small
  have digits := digits_twoDigits n
  have fits : Decimal.valueOnto 0 (twoDigits n) < Nat.pow 2 63 := by
    rw [value]
    exact Nat.lt_trans small (by decide)
  have read := readNumber_letters 2 rest digits (by simp [twoDigits]) fits (by simp [twoDigits])
    (.inl rfl)
  rw [readField, trimStart_digits digits (by simp [twoDigits]), read, value]
  simp [bind, Except.bind, bounds]

theorem readMark_cons (mark : Char) (solid : Text.isBlank mark = false) (rest : List Char) :
    readMark mark (mark :: rest) = .ok rest := by
  have trim : Text.trimStart (mark :: rest) = mark :: rest :=
    Text.trimStart_eq_self (by simpa using solid)
  simp [readMark, trim]

theorem letter_ne_sign {b : UInt8} (digit : Json.Cursor.isDigit b = true) :
    letter b ≠ '-' ∧ letter b ≠ '+' := by
  have known := isDigit_letter digit
  constructor
  · intro same
    rw [same] at known
    cases known
  · intro same
    rw [same] at known
    cases known

/-- A year is read up to the hyphen that follows it. -/
theorem readYear_yearText {year : Int} (bounds : -2147483648 ≤ year ∧ year ≤ 2147483647)
    (rest : List Char) :
    readYear (letters (yearText year) ++ '-' :: rest) = .ok (year, '-' :: rest) := by
  have small : year.natAbs < Nat.pow 2 63 := by
    rw [Nat.pow_eq]
    omega
  have ends : EndsDigits ('-' :: rest) := by simp [EndsDigits]
  have signed := readNumber_padded (letters (padded 4 year.natAbs) ++ '-' :: rest).length 4
    year.natAbs ('-' :: rest) small (by simp) (.inr ends)
  rw [yearText]
  split
  · next short =>
    have sign : (year.natAbs : Int) = year := Int.natAbs_of_nonneg short.1
    have below : year.natAbs < 10000 := by omega
    have four := length_padded 4 year.natAbs (by decide) below
    have read := readNumber_padded 4 4 year.natAbs ('-' :: rest) small (Nat.le_of_eq four)
      (.inl four)
    have digits := digits_padded 4 year.natAbs
    have trim := trimStart_digits digits (padded_ne_nil 4 year.natAbs) ('-' :: rest)
    obtain ⟨b, more, shape⟩ := List.exists_cons_of_ne_nil (padded_ne_nil 4 year.natAbs)
    rw [shape] at digits
    obtain ⟨minus, plus⟩ := letter_ne_sign (digits b List.mem_cons_self)
    rw [shape, Text.letters_cons, List.cons_append] at read trim ⊢
    simp [readYear, trim, minus, plus, read, sign, bind, Except.bind, pure, Except.pure, bounds]
  · next long =>
    by_cases negative : year < 0
    · have sign : -(year.natAbs : Int) = year := by omega
      have trim : Text.trimStart ('-' :: (letters (padded 4 year.natAbs) ++ '-' :: rest)) = _ :=
        Text.trimStart_eq_self (by rintro c ⟨⟩; rfl)
      have mark : letter 0x2d = '-' := rfl
      rw [if_pos negative, Text.letters_cons, mark, List.cons_append, readYear, trim]
      simp only [signed, bind, Except.bind, pure, Except.pure, sign, bounds, and_self, if_true]
    · have sign : (year.natAbs : Int) = year := by omega
      have trim : Text.trimStart ('+' :: (letters (padded 4 year.natAbs) ++ '-' :: rest)) = _ :=
        Text.trimStart_eq_self (by rintro c ⟨⟩; rfl)
      have mark : letter 0x2b = '+' := rfl
      rw [if_neg negative, Text.letters_cons, mark, List.cons_append, readYear, trim]
      simp only [signed, bind, Except.bind, pure, Except.pure, sign, bounds, and_self, if_true]

/-- A fraction of a second is read as nanoseconds. -/
theorem readFraction_padded (width n : Nat) (positive : 0 < width) (width_le : width ≤ 9)
    (small : n < Nat.pow 10 width) {rest : List Char} (ends : EndsDigits rest) :
    readFraction ('.' :: (letters (padded width n) ++ rest)) =
      .ok (n * Nat.pow 10 (9 - width), rest) := by
  have length := length_padded width n positive small
  have most : Nat.pow 10 width ≤ 1000000000 := Nat.pow_le_pow_right (by decide) width_le
  have below : n < Nat.pow 2 63 :=
    Nat.lt_of_lt_of_le small (Nat.le_trans most (by decide))
  have fewer : (padded width n).length ≤ 9 := Nat.le_trans (Nat.le_of_eq length) width_le
  have read := readNumber_padded 9 width n rest below fewer (.inr ends)
  have stop : rest.dropWhile Char.isDigit = rest := by
    cases rest with
    | nil => rfl
    | cons c rest =>
      have other : c.isDigit = false := by simpa [EndsDigits] using ends
      simp [other]
  simp [readFraction, read, bind, Except.bind, pure, Except.pure, length, stop]

theorem readFraction_fractionText (t : Instant) :
    readFraction (letters (fractionText t) ++ ['Z']) = .ok (t.nanos % 1000000000, ['Z']) := by
  have ends : EndsDigits ['Z'] := by simp [EndsDigits]
  have below : t.nanos % 1000000000 < 1000000000 := Nat.mod_lt _ (by decide)
  simp only [fractionText]
  generalize t.nanos % 1000000000 = n at *
  split
  · next zero =>
    subst zero
    rfl
  split
  · next millis =>
    have whole : n / 1000000 * Nat.pow 10 (9 - 3) = n := by
      rw [show Nat.pow 10 (9 - 3) = 1000000 from rfl]
      omega
    have small : n / 1000000 < 1000 := by omega
    have read := readFraction_padded 3 (n / 1000000) (by decide) (by decide) small ends
    rwa [whole] at read
  split
  · next micros =>
    have whole : n / 1000 * Nat.pow 10 (9 - 6) = n := by
      rw [show Nat.pow 10 (9 - 6) = 1000 from rfl]
      omega
    have small : n / 1000 < 1000000 := by omega
    have read := readFraction_padded 6 (n / 1000) (by decide) (by decide) small ends
    rwa [whole] at read
  · have read := readFraction_padded 9 n (by decide) (by decide) below ends
    rwa [Nat.sub_self, show Nat.pow 10 0 = 1 from rfl, Nat.mul_one] at read

/-! ### Instants -/

theorem of?_eq (t : Instant) : of? t.seconds t.nanos = some t :=
  dif_pos ⟨t.range, t.nanos_lt, t.leap⟩

/-- Every number of milliseconds whose second lies in the range is an instant. -/
theorem ofMillis?_isSome (millis : Int) :
    (ofMillis? millis).isSome = inRange (millis.fdiv 1000) := by
  have part : millis.fmod 1000 < 1000 := Int.fmod_lt_of_pos _ (by decide)
  have below : (millis.fmod 1000).toNat * 1000000 < 1000000000 := by omega
  rw [ofMillis?, of?]
  split
  · next proper => exact proper.1.symm
  · next improper =>
    refine (Bool.eq_false_iff.mpr fun range => improper ⟨range, ?_, ?_⟩).symm
    · omega
    · omega

theorem seconds_eq (t : Instant) :
    t.seconds = t.seconds.fdiv 86400 * 86400 + t.secondOfDay ∧ t.secondOfDay < 86400 := by
  have low : 0 ≤ t.seconds.fmod 86400 := Int.fmod_nonneg_of_pos _ (by decide)
  have high : t.seconds.fmod 86400 < 86400 := Int.fmod_lt_of_pos _ (by decide)
  have whole := Int.fmod_add_fdiv_mul t.seconds 86400
  simp only [secondOfDay]
  omega

/-- The date of an instant is a date of the range. -/
theorem date_bounds (t : Instant) :
    t.date.isValid = true ∧ Calendar.dayNumber t.date = t.seconds.fdiv 86400 ∧
      Calendar.firstYear ≤ t.date.year ∧ t.date.year ≤ Calendar.lastYear := by
  obtain ⟨seconds, second_lt⟩ := seconds_eq t
  have range := t.range
  rw [inRange, Bool.and_eq_true, decide_eq_true_eq, decide_eq_true_eq] at range
  obtain ⟨low, high⟩ := range
  rw [firstSecond] at low
  rw [endSecond] at high
  refine ⟨Calendar.isValid_dateOf _, Calendar.dayNumber_dateOf _, Calendar.year_bounds ?_ ?_⟩
  · omega
  · omega

/-- The parts of an instant make it up. -/
theorem assemble_parts (t : Instant) :
    assemble t.date (t.secondOfDay / 3600) (t.secondOfDay / 60 % 60)
      (t.secondOfDay % 60 + t.nanos / 1000000000) (t.nanos % 1000000000) 0 = .ok t := by
  have nanos_lt := t.nanos_lt
  obtain ⟨date, number, year_low, year_high⟩ := t.date_bounds
  obtain ⟨seconds, second_lt⟩ := seconds_eq t
  have allowed : (!t.date.isValid || t.date.year < Calendar.firstYear ||
      Calendar.lastYear < t.date.year) = false := by
    simp [date, Int.not_lt.mpr year_low, Int.not_lt.mpr year_high]
  by_cases isLeap : 1000000000 ≤ t.nanos
  · have last := t.leap isLeap
    have sixty : t.secondOfDay % 60 + t.nanos / 1000000000 = 60 := by omega
    have whole : t.seconds.fdiv 86400 * 86400 +
        ((t.secondOfDay : Int) / 3600 * 3600 + (t.secondOfDay : Int) / 60 % 60 * 60 + 59) =
        t.seconds := by omega
    have nanos : t.nanos % 1000000000 + 1000000000 = t.nanos := by omega
    simp [assemble, allowed, sixty, number, whole, nanos, of?_eq]
  · have second : t.secondOfDay % 60 + t.nanos / 1000000000 = t.secondOfDay % 60 := by omega
    have ordinary : t.secondOfDay % 60 ≠ 60 := by omega
    have whole : t.seconds.fdiv 86400 * 86400 + ((t.secondOfDay : Int) / 3600 * 3600 +
        (t.secondOfDay : Int) / 60 % 60 * 60 + (t.secondOfDay : Int) % 60) = t.seconds := by omega
    have nanos : t.nanos % 1000000000 = t.nanos := by omega
    simp [assemble, allowed, second, ordinary, number, whole, nanos, of?_eq]

/-- **Reading back**: an instant is read off its interchange text. -/
theorem read_interchange (t : Instant) : read (letters t.interchange) = .ok t := by
  obtain ⟨date, -, year_low, year_high⟩ := t.date_bounds
  have second_lt := (seconds_eq t).2
  have nanos_lt := t.nanos_lt
  have leap := t.leap
  have year_bounds : -2147483648 ≤ t.date.year ∧ t.date.year ≤ 2147483647 :=
    ⟨Int.le_trans (by decide) year_low, Int.le_trans year_high (by decide)⟩
  obtain ⟨month_bounds, day_bounds⟩ := Calendar.bounds_of_isValid date
  have text : letters t.interchange = letters (yearText t.date.year) ++ '-' ::
      (letters (twoDigits t.date.month) ++ '-' :: (letters (twoDigits t.date.day) ++ 'T' ::
      (letters (twoDigits (t.secondOfDay / 3600)) ++ ':' ::
      (letters (twoDigits (t.secondOfDay / 60 % 60)) ++ ':' ::
      (letters (twoDigits (t.secondOfDay % 60 + t.nanos / 1000000000)) ++
      (letters (fractionText t) ++ ['Z'])))))) := by
    simp [interchange, dateText, timeText, letter]
  have year := readYear_yearText year_bounds
  have month := readField_twoDigits 1 12 month_bounds (by omega)
  have day := readField_twoDigits 1 31 day_bounds (by omega)
  have hour := readField_twoDigits 0 23 (n := t.secondOfDay / 3600) (by omega)
    (by omega)
  have minute := readField_twoDigits 0 59 (n := t.secondOfDay / 60 % 60)
    (by omega) (by omega)
  have second := readField_twoDigits 0 60
    (n := t.secondOfDay % 60 + t.nanos / 1000000000) (by omega) (by omega)
  have dash := readMark_cons '-' rfl
  have colon := readMark_cons ':' rfl
  have zone : readOffset (Text.trimStart ['Z']) = .ok (0, []) := rfl
  have fraction := readFraction_fractionText t
  have ended : (Text.trimStart []).isEmpty = true := rfl
  have parts := t.assemble_parts
  rw [text]
  simp [read, year, month, day, hour, minute, second, dash, colon, fraction, zone, ended, parts,
    readJoint, bind, Except.bind]

end Instant
end Intake
