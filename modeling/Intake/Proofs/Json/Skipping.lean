import Intake.Proofs.Json.Grammar
import Mathlib.Data.List.TakeWhile

/-!
# Reading past words, numbers and strings

What the readers of single tokens read past is a token of the grammar, and they read past every
token that is not followed by more of its kind. For strings and the names of members this is one
statement (`leaves_skipString`, `leaves_skipKey`); numbers end where nothing numeric follows.
-/
namespace Intake.Json

open Grammar

/-- The codes of bytes. -/
def codes (bs : List UInt8) : List Nat := bs.map UInt8.toNat

@[simp] theorem codes_nil : codes [] = [] := rfl

@[simp] theorem codes_cons (b : UInt8) (bs : List UInt8) : codes (b :: bs) = b.toNat :: codes bs :=
  rfl

@[simp] theorem codes_append (bs cs : List UInt8) : codes (bs ++ cs) = codes bs ++ codes cs :=
  List.map_append

theorem codes_eq_append_iff {bs : List UInt8} {t u : List Nat} :
    codes bs = t ++ u ↔ ∃ cs ds, bs = cs ++ ds ∧ codes cs = t ∧ codes ds = u :=
  List.map_eq_append_iff

theorem codes_eq_append {bs : List UInt8} {t u : List Nat} (coded : codes bs = t ++ u) :
    ∃ cs ds, bs = cs ++ ds ∧ codes cs = t ∧ codes ds = u := codes_eq_append_iff.mp coded

theorem codes_eq_cons_iff {bs : List UInt8} {c : Nat} {t : List Nat} :
    codes bs = c :: t ↔ ∃ b cs, bs = b :: cs ∧ b.toNat = c ∧ codes cs = t := List.map_eq_cons_iff

theorem codes_eq_cons {bs : List UInt8} {c : Nat} {t : List Nat} (coded : codes bs = c :: t) :
    ∃ b cs, bs = b :: cs ∧ b.toNat = c ∧ codes cs = t := codes_eq_cons_iff.mp coded

theorem codes_injective {bs cs : List UInt8} (same : codes bs = codes cs) : bs = cs :=
  (List.map_inj_right fun _ _ => UInt8.toNat_inj.mp).mp same

theorem codes_eq_nil {bs : List UInt8} (coded : codes bs = []) : bs = [] :=
  List.map_eq_nil_iff.mp coded

/-- A reader succeeds, and these bytes are what it leaves. -/
def Leaves (result : Except Fault Cursor) (left : List UInt8) : Prop :=
  ∃ p, result = .ok ⟨left, p⟩

@[simp] theorem leaves_ok {c : Cursor} {left : List UInt8} :
    Leaves (.ok c) left ↔ c.rest = left := by
  constructor
  · rintro ⟨p, same⟩
    cases same
    rfl
  · rintro rfl
    exact ⟨c.position, rfl⟩

@[simp] theorem not_leaves_error {fault : Fault} {left : List UInt8} :
    ¬ Leaves (.error fault) left := by
  rintro ⟨p, same⟩
  cases same

/-- The bytes do not begin with one of a kind. -/
def Stops (kind : UInt8 → Bool) (bs : List UInt8) : Prop := ∀ b ∈ bs.head?, kind b = false

@[simp] theorem stops_nil (kind : UInt8 → Bool) : Stops kind [] := by simp [Stops]

@[simp] theorem stops_cons {kind : UInt8 → Bool} {b : UInt8} {bs : List UInt8} :
    Stops kind (b :: bs) ↔ kind b = false := by simp [Stops]

theorem dropWhile_append {kind : UInt8 → Bool} {bs left : List UInt8}
    (all : ∀ b ∈ bs, kind b = true) (stops : Stops kind left) :
    (bs ++ left).dropWhile kind = left := by
  rw [List.dropWhile_append_of_pos all]
  cases left with
  | nil => rfl
  | cons b left =>
    have other := stops_cons.mp stops
    simp [other]

/-- What is dropped is of the kind. -/
theorem exists_dropped (kind : UInt8 → Bool) (bs : List UInt8) :
    ∃ dropped, bs = dropped ++ bs.dropWhile kind ∧ ∀ b ∈ dropped, kind b = true :=
  ⟨bs.takeWhile kind, (List.takeWhile_append_dropWhile).symm,
    fun _ member => List.mem_takeWhile_imp member⟩

/-! ### Blanks -/

theorem isBlank_iff {b : UInt8} : Cursor.isBlank b = true ↔ IsBlank b.toNat := by
  simp [Cursor.isBlank, IsBlank, ← UInt8.toNat_inj]
  omega

theorem blanks_codes {bs : List UInt8} :
    Blanks (codes bs) ↔ ∀ b ∈ bs, Cursor.isBlank b = true := by
  simp [Blanks, codes, isBlank_iff]

theorem skipBlanks_rest (c : Cursor) : c.skipBlanks.rest = c.rest.dropWhile Cursor.isBlank := by
  obtain ⟨bs, p⟩ := c
  unfold Cursor.skipBlanks
  induction bs generalizing p with
  | nil => rfl
  | cons b bs ih =>
    cases known : Cursor.isBlank b with
    | true => simpa [Cursor.skipBlanksFrom, known] using ih (p.after b)
    | false => simp [Cursor.skipBlanksFrom, known]

/-- The blanks before what is left. -/
theorem exists_blanks (c : Cursor) :
    ∃ w, c.rest = w ++ c.skipBlanks.rest ∧ Blanks (codes w) := by
  obtain ⟨w, split, blanks⟩ := exists_dropped Cursor.isBlank c.rest
  exact ⟨w, by rw [skipBlanks_rest, ← split], blanks_codes.mpr blanks⟩

theorem skipBlanks_of_blanks {w left : List UInt8} (blanks : Blanks (codes w))
    (stops : Stops Cursor.isBlank left) (p : Position) :
    ∃ q, Cursor.skipBlanks ⟨w ++ left, p⟩ = ⟨left, q⟩ := by
  have rest := skipBlanks_rest ⟨w ++ left, p⟩
  rw [dropWhile_append (blanks_codes.mp blanks) stops] at rest
  generalize Cursor.skipBlanks ⟨w ++ left, p⟩ = c at rest
  exact ⟨c.position, by rw [← rest]⟩

/-! ### Numbers -/

theorem isDigit_iff {b : UInt8} : Cursor.isDigit b = true ↔ IsDigit b.toNat := by
  simp [Cursor.isDigit, IsDigit, UInt8.le_iff_toNat_le]

theorem skipDigitsFrom_rest (bs : List UInt8) (p : Position) :
    (Cursor.skipDigitsFrom bs p).rest = bs.dropWhile Cursor.isDigit := by
  induction bs generalizing p with
  | nil => rfl
  | cons b bs ih =>
    cases known : Cursor.isDigit b with
    | true => simpa [Cursor.skipDigitsFrom, known] using ih (p.after b)
    | false => simp [Cursor.skipDigitsFrom, known]

theorem digits_codes {bs : List UInt8} :
    (∀ c ∈ codes bs, IsDigit c) ↔ ∀ b ∈ bs, Cursor.isDigit b = true := by
  simp [codes, isDigit_iff]

/-- A digit and the digits that follow it. -/
theorem digits_of_dropWhile {d : UInt8} {bs left : List UInt8}
    (digit : Cursor.isDigit d = true) (leaves : bs.dropWhile Cursor.isDigit = left) :
    ∃ ds, bs = ds ++ left ∧ ∀ c ∈ codes (d :: ds), IsDigit c := by
  obtain ⟨ds, split, others⟩ := exists_dropped Cursor.isDigit bs
  refine ⟨ds, by rw [← leaves, ← split], digits_codes.mpr ?_⟩
  exact List.forall_mem_cons.mpr ⟨digit, others⟩

/-- Digits are read past up to what is none. -/
theorem dropWhile_of_digits {ds left : List UInt8} (digits : ∀ c ∈ codes ds, IsDigit c)
    (ends : Stops Cursor.isDigit left) : (ds ++ left).dropWhile Cursor.isDigit = left :=
  dropWhile_append (digits_codes.mp digits) ends

theorem whole_of_leaves {bs left : List UInt8} {p : Position}
    (leaves : Leaves (skipWhole bs p) left) : ∃ t, bs = t ++ left ∧ Whole (codes t) := by
  cases bs with
  | nil => simp [skipWhole] at leaves
  | cons b rest =>
    by_cases zero : b = 0x30
    · subst zero
      have same : rest = left := by
        cases rest with
        | nil => simpa [skipWhole] using leaves
        | cons d more =>
          cases digit : Cursor.isDigit d with
          | true => simp [skipWhole, digit] at leaves
          | false => simpa [skipWhole, digit] using leaves
      exact ⟨[0x30], by rw [same]; rfl, .inl rfl⟩
    · cases digit : Cursor.isDigit b with
      | false => simp [skipWhole, zero, digit] at leaves
      | true =>
        simp only [skipWhole, zero, digit, if_true, if_false, leaves_ok,
          skipDigitsFrom_rest] at leaves
        obtain ⟨ds, split, digits⟩ := digits_of_dropWhile digit leaves
        obtain ⟨first, others⟩ := List.forall_mem_cons.mp digits
        have nonzero : b.toNat ≠ 0x30 := fun same => zero (UInt8.toNat_inj.mp same)
        exact ⟨b :: ds, by rw [split]; rfl, .inr ⟨b.toNat, codes ds, rfl, first, nonzero, others⟩⟩

theorem leaves_of_whole {t left : List UInt8} (whole : Whole (codes t))
    (ends : Stops Cursor.isDigit left) (p : Position) :
    Leaves (skipWhole (t ++ left) p) left := by
  rcases whole with zero | ⟨d, ds, coded, first, nonzero, others⟩
  · obtain ⟨b, _, rfl, same, nothing⟩ := codes_eq_cons zero
    cases codes_eq_nil nothing
    have known : b = 0x30 := UInt8.toNat_inj.mp same
    cases left with
    | nil => simp [skipWhole, known]
    | cons c left => simp [skipWhole, known, stops_cons.mp ends]
  · obtain ⟨b, bs, rfl, rfl, rfl⟩ := codes_eq_cons coded
    have other : b ≠ 0x30 := by
      rintro rfl
      exact nonzero rfl
    simp [skipWhole, other, isDigit_iff.mpr first, skipDigitsFrom_rest,
      dropWhile_of_digits others ends]

theorem exponent_of_leaves {bs left : List UInt8} {p : Position} {letter : UInt8}
    (isLetter : letter = 0x65 ∨ letter = 0x45) (leaves : Leaves (skipExponent bs p) left) :
    ∃ t, bs = t ++ left ∧ Exponent (codes (letter :: t)) := by
  have code : letter.toNat = 0x65 ∨ letter.toNat = 0x45 := by
    rcases isLetter with rfl | rfl
    · exact .inl rfl
    · exact .inr rfl
  cases bs with
  | nil => simp [skipExponent] at leaves
  | cons b rest =>
    by_cases signed : b = 0x2b ∨ b = 0x2d
    · cases rest with
      | nil => simp [skipExponent, signed] at leaves
      | cons d more =>
        cases digit : Cursor.isDigit d with
        | false => simp [skipExponent, signed, digit] at leaves
        | true =>
          simp [skipExponent, signed, digit, skipDigitsFrom_rest] at leaves
          obtain ⟨ds, split, digits⟩ := digits_of_dropWhile digit leaves
          refine ⟨b :: d :: ds, by rw [split]; rfl, letter.toNat, [b.toNat], codes (d :: ds), rfl,
            code, .inr ?_, nofun, digits⟩
          rcases signed with rfl | rfl
          · exact .inl rfl
          · exact .inr rfl
    · cases digit : Cursor.isDigit b with
      | false => simp [skipExponent, signed, digit] at leaves
      | true =>
        simp [skipExponent, signed, digit, skipDigitsFrom_rest] at leaves
        obtain ⟨ds, split, digits⟩ := digits_of_dropWhile digit leaves
        exact ⟨b :: ds, by rw [split]; rfl, letter.toNat, [], codes (b :: ds), rfl, code, .inl rfl,
          nofun, digits⟩

theorem leaves_of_exponent {letter : UInt8} {t left : List UInt8}
    (exponent : Exponent (codes (letter :: t))) (ends : Stops Cursor.isDigit left)
    (p : Position) : Leaves (skipExponent (t ++ left) p) left := by
  obtain ⟨_, sign, ds, coded, -, isSign, some_digit, digits⟩ := exponent
  simp only [codes_cons, List.cons_append, List.cons.injEq] at coded
  obtain ⟨signs, bs, rfl, rfl, rfl⟩ := codes_eq_append coded.2
  cases bs with
  | nil => exact absurd rfl some_digit
  | cons d more =>
    obtain ⟨first, others⟩ := List.forall_mem_cons.mp digits
    have digit := isDigit_iff.mpr first
    have unsigned : ¬ (d = 0x2b ∨ d = 0x2d) := by
      rintro (rfl | rfl) <;> exact absurd digit (by decide)
    rcases isSign with none | plus | minus
    · cases codes_eq_nil none
      simp [skipExponent, unsigned, digit, skipDigitsFrom_rest, dropWhile_of_digits others ends]
    · obtain ⟨b, _, rfl, same, nothing⟩ := codes_eq_cons plus
      cases codes_eq_nil nothing
      have known : b = 0x2b := UInt8.toNat_inj.mp same
      simp [skipExponent, known, digit, skipDigitsFrom_rest, dropWhile_of_digits others ends]
    · obtain ⟨b, _, rfl, same, nothing⟩ := codes_eq_cons minus
      cases codes_eq_nil nothing
      have known : b = 0x2d := UInt8.toNat_inj.mp same
      simp [skipExponent, known, digit, skipDigitsFrom_rest, dropWhile_of_digits others ends]

theorem optionalExponent_of_leaves {c : Cursor} {left : List UInt8}
    (leaves : Leaves (skipOptionalExponent c) left) :
    ∃ t, c.rest = t ++ left ∧ (codes t = [] ∨ Exponent (codes t)) := by
  obtain ⟨bs, p⟩ := c
  cases bs with
  | nil => exact ⟨[], by simpa [skipOptionalExponent] using leaves, .inl rfl⟩
  | cons b rest =>
    by_cases letter : b = 0x65 ∨ b = 0x45
    · simp [skipOptionalExponent, letter] at leaves
      obtain ⟨t, split, exponent⟩ := exponent_of_leaves letter leaves
      exact ⟨b :: t, by rw [List.cons_append, ← split], .inr exponent⟩
    · exact ⟨[], by simpa [skipOptionalExponent, letter] using leaves, .inl rfl⟩

/-- The bytes with which a number may go on. -/
def isNumeric (b : UInt8) : Bool := Cursor.isDigit b || b = 0x2e || b = 0x65 || b = 0x45

theorem stops_isDigit {bs : List UInt8} (ends : Stops isNumeric bs) : Stops Cursor.isDigit bs := by
  cases bs with
  | nil => exact stops_nil _
  | cons b bs =>
    have other := stops_cons.mp ends
    simp only [isNumeric, Bool.or_eq_false_iff] at other
    exact stops_cons.mpr other.1.1.1

theorem leaves_of_optionalExponent {t left : List UInt8}
    (exponent : codes t = [] ∨ Exponent (codes t)) (ends : Stops isNumeric left) (p : Position) :
    Leaves (skipOptionalExponent ⟨t ++ left, p⟩) left := by
  rcases exponent with none | exponent
  · cases codes_eq_nil none
    cases left with
    | nil => simp [skipOptionalExponent]
    | cons b left =>
      have other := stops_cons.mp ends
      simp [isNumeric] at other
      simp [skipOptionalExponent, other]
  · have shape := exponent
    obtain ⟨letter, sign, ds, coded, isLetter, -⟩ := shape
    obtain ⟨b, rest, rfl, rfl, -⟩ := codes_eq_cons (by simpa using coded)
    have known : b = 0x65 ∨ b = 0x45 := by
      rcases isLetter with e | e
      · exact .inl (UInt8.toNat_inj.mp e)
      · exact .inr (UInt8.toNat_inj.mp e)
    simpa [skipOptionalExponent, known] using
      leaves_of_exponent exponent (stops_isDigit ends) (p.after b)

theorem fraction_of_leaves {c : Cursor} {left : List UInt8}
    (leaves : Leaves (skipFraction c) left) :
    ∃ t u, c.rest = t ++ u ++ left ∧ (codes t = [] ∨ Fraction (codes t)) ∧
      (codes u = [] ∨ Exponent (codes u)) := by
  unfold skipFraction at leaves
  split at leaves
  · next tail point =>
    cases tail with
    | nil => simp at leaves
    | cons d more =>
      cases digit : Cursor.isDigit d with
      | false => simp [digit] at leaves
      | true =>
        simp only [digit, if_true] at leaves
        obtain ⟨u, split, exponent⟩ := optionalExponent_of_leaves leaves
        rw [skipDigitsFrom_rest] at split
        obtain ⟨ds, split', digits⟩ := digits_of_dropWhile digit split
        refine ⟨0x2e :: d :: ds, u, ?_, .inr ⟨codes (d :: ds), rfl, nofun, digits⟩, exponent⟩
        rw [point, split']
        simp
  · obtain ⟨u, split, exponent⟩ := optionalExponent_of_leaves leaves
    exact ⟨[], u, split, .inl rfl, exponent⟩

/-- Neither a digit nor a point comes before an exponent, or where a number ends. -/
theorem stops_of_exponent {u left : List UInt8} (exponent : codes u = [] ∨ Exponent (codes u))
    (ends : Stops isNumeric left) :
    Stops (fun b => Cursor.isDigit b || b = 0x2e) (u ++ left) := by
  rcases exponent with none | ⟨letter, sign, ds, coded, isLetter, -⟩
  · cases codes_eq_nil none
    cases left with
    | nil => exact stops_nil _
    | cons b left =>
      have other := stops_cons.mp ends
      simp [isNumeric] at other
      simp [other]
  · obtain ⟨b, rest, rfl, rfl, -⟩ := codes_eq_cons coded
    have known : b = 0x65 ∨ b = 0x45 := by
      rcases isLetter with e | e
      · exact .inl (UInt8.toNat_inj.mp e)
      · exact .inr (UInt8.toNat_inj.mp e)
    rcases known with rfl | rfl <;> exact stops_cons.mpr (by decide)

theorem leaves_of_fraction {t u left : List UInt8} (fraction : codes t = [] ∨ Fraction (codes t))
    (exponent : codes u = [] ∨ Exponent (codes u)) (ends : Stops isNumeric left) (p : Position) :
    Leaves (skipFraction ⟨t ++ (u ++ left), p⟩) left := by
  have stops := stops_of_exponent exponent ends
  rcases fraction with none | ⟨ds, coded, some_digit, digits⟩
  · cases codes_eq_nil none
    have none_read : skipFraction ⟨u ++ left, p⟩ = skipOptionalExponent ⟨u ++ left, p⟩ := by
      unfold skipFraction
      split
      · next tail point =>
        rw [show u ++ left = 0x2e :: tail from point] at stops
        exact absurd stops (by simp)
      · rfl
    rw [List.nil_append, none_read]
    exact leaves_of_optionalExponent exponent ends p
  · obtain ⟨point, bs, rfl, same, rfl⟩ := codes_eq_cons coded
    have known : point = 0x2e := UInt8.toNat_inj.mp same
    cases bs with
    | nil => exact absurd rfl some_digit
    | cons d more =>
      obtain ⟨first, others⟩ := List.forall_mem_cons.mp digits
      have other : Stops Cursor.isDigit (u ++ left) := by
        intro b begins
        have neither := stops b begins
        simp only [Bool.or_eq_false_iff] at neither
        exact neither.1
      simp only [skipFraction, known, List.cons_append, isDigit_iff.mpr first, if_true]
      have dropped := skipDigitsFrom_rest (more ++ (u ++ left)) ((p.after 0x2e).after d)
      rw [dropWhile_of_digits others other] at dropped
      generalize Cursor.skipDigitsFrom (more ++ (u ++ left)) ((p.after 0x2e).after d) = c at dropped
      obtain ⟨_, q⟩ := c
      cases dropped
      exact leaves_of_optionalExponent exponent ends q

theorem unsigned_of_leaves {bs left : List UInt8} {p : Position}
    (leaves : Leaves (skipNumber bs p) left) : ∃ t, bs = t ++ left ∧ Unsigned (codes t) := by
  unfold skipNumber at leaves
  split at leaves
  · exact absurd leaves not_leaves_error
  · next c read =>
    have first : Leaves (skipWhole bs p) c.rest := by rw [read, leaves_ok]
    obtain ⟨t, rfl, whole⟩ := whole_of_leaves first
    obtain ⟨u, v, split, fraction, exponent⟩ := fraction_of_leaves leaves
    refine ⟨t ++ u ++ v, by rw [split]; simp, codes t, codes u, codes v, ?_, whole, fraction,
      exponent⟩
    simp

theorem leaves_of_unsigned {t left : List UInt8} (number : Unsigned (codes t))
    (ends : Stops isNumeric left) (p : Position) : Leaves (skipNumber (t ++ left) p) left := by
  obtain ⟨_, _, _, coded, whole, fraction, exponent⟩ := number
  obtain ⟨_, w, rfl, coded', rfl⟩ := codes_eq_append coded
  obtain ⟨u, v, rfl, rfl, rfl⟩ := codes_eq_append coded'
  have stops : Stops Cursor.isDigit (v ++ (w ++ left)) := by
    rcases fraction with none | ⟨ds, coded, -⟩
    · cases codes_eq_nil none
      intro b begins
      have neither := stops_of_exponent exponent ends b begins
      simp only [Bool.or_eq_false_iff] at neither
      exact neither.1
    · obtain ⟨point, bs, rfl, same, -⟩ := codes_eq_cons coded
      cases UInt8.toNat_inj.mp (same.trans (show _ = (0x2e : UInt8).toNat from rfl))
      exact stops_cons.mpr (by decide)
  obtain ⟨q, read⟩ := leaves_of_whole whole stops p
  rw [List.append_assoc, List.append_assoc, skipNumber, read]
  exact leaves_of_fraction fraction exponent ends q

/-! ### Strings -/

theorem hexValue?_isSome {b : UInt8} :
    (Cursor.hexValue? b).isSome = true ↔ IsHexDigit b.toNat := by
  simp only [Cursor.hexValue?, Bool.and_eq_true, decide_eq_true_eq, UInt8.le_iff_toNat_le,
    UInt8.reduceToNat, IsHexDigit, IsDigit]
  split
  · simp [*]
  · split
    · simp [*]
    · split
      · simp [*]
      · simp
        omega

theorem hexQuad?_isSome {a b c d : UInt8} :
    (Cursor.hexQuad? a b c d).isSome = true ↔
      IsHexDigit a.toNat ∧ IsHexDigit b.toNat ∧ IsHexDigit c.toNat ∧ IsHexDigit d.toNat := by
  rw [← hexValue?_isSome, ← hexValue?_isSome, ← hexValue?_isSome, ← hexValue?_isSome]
  unfold Cursor.hexQuad?
  cases Cursor.hexValue? a <;> cases Cursor.hexValue? b <;> cases Cursor.hexValue? c <;>
    cases Cursor.hexValue? d <;> simp

theorem isEscapeLetter_iff {b : UInt8} : isEscapeLetter b = true ↔ b.toNat ∈ escapes := by
  simp [isEscapeLetter, escapes, ← UInt8.toNat_inj]
  omega

theorem skipString_quote (rest : List UInt8) (p : Position) :
    skipString (0x22 :: rest) p = .ok ⟨rest, p.after 0x22⟩ := by
  rw [skipString.eq_def]
  rfl

theorem skipString_plain {b : UInt8} (quote : b ≠ 0x22) (backslash : b ≠ 0x5c) (low : ¬ b < 0x20)
    (rest : List UInt8) (p : Position) :
    skipString (b :: rest) p = skipString rest (p.after b) := by
  rw [skipString.eq_def]
  simp [quote, backslash, low]

theorem skipString_escape {e : UInt8} (letter : isEscapeLetter e = true) (tail : List UInt8)
    (p : Position) : skipString (0x5c :: e :: tail) p = skipString tail ((p.after 0x5c).after e) := by
  rw [skipString.eq_def]
  simp [letter]

theorem skipString_unicode {a b c d : UInt8} (hex : (Cursor.hexQuad? a b c d).isSome = true)
    (more : List UInt8) (p : Position) :
    skipString (0x5c :: 0x75 :: a :: b :: c :: d :: more) p =
      skipString more (((p.after 0x5c).after 0x75).afterAll [a, b, c, d]) := by
  have other : isEscapeLetter 0x75 = false := by decide
  rw [skipString.eq_def]
  simp [other, hex]

theorem chars_of_leaves {bs left : List UInt8} {p : Position}
    (leaves : Leaves (skipString bs p) left) :
    ∃ t, bs = t ++ 0x22 :: left ∧ Chars (codes t) := by
  induction bs, p using skipString.induct with
  | case2 rest p =>
    rw [skipString_quote, leaves_ok] at leaves
    exact ⟨[], by rw [← leaves]; rfl, .nil⟩
  | case4 p e tail letter _ ih =>
    rw [skipString_escape letter] at leaves
    obtain ⟨t, rfl, chars⟩ := ih leaves
    exact ⟨0x5c :: e :: t, rfl, .escape (isEscapeLetter_iff.mp letter) chars⟩
  | case5 p a b c d more hex _ _ q ih =>
    rw [skipString_unicode hex] at leaves
    obtain ⟨t, rfl, chars⟩ := ih leaves
    obtain ⟨first, second, third, fourth⟩ := hexQuad?_isSome.mp hex
    exact ⟨0x5c :: 0x75 :: a :: b :: c :: d :: t, rfl, .unicode first second third fourth chars⟩
  | case10 b rest p quote backslash low ih =>
    rw [skipString_plain quote backslash low] at leaves
    obtain ⟨t, rfl, chars⟩ := ih leaves
    refine ⟨b :: t, rfl, .plain ?_ ?_ ?_ chars⟩
    · exact UInt8.le_iff_toNat_le.mp (UInt8.not_lt.mp low)
    · exact fun same => quote (UInt8.toNat_inj.mp same)
    · exact fun same => backslash (UInt8.toNat_inj.mp same)
  | _ =>
    -- In all other cases the text ends too early or goes on with something that may not stand here.
    rw [skipString.eq_def] at leaves
    simp [*] at leaves

theorem leaves_of_chars {t : List UInt8} (chars : Chars (codes t)) (left : List UInt8)
    (p : Position) : Leaves (skipString (t ++ 0x22 :: left) p) left := by
  generalize coded : codes t = cs at chars
  induction chars generalizing t p with
  | nil =>
    cases codes_eq_nil coded
    rw [List.nil_append, skipString_quote, leaves_ok]
  | plain low quote backslash _ ih =>
    simp only [codes_eq_cons_iff] at coded
    obtain ⟨b, t, rfl, rfl, coded⟩ := coded
    rw [List.cons_append, skipString_plain]
    · exact ih _ coded
    · rintro rfl
      exact quote rfl
    · rintro rfl
      exact backslash rfl
    · exact UInt8.not_lt.mpr (UInt8.le_iff_toNat_le.mpr low)
  | escape letter _ ih =>
    simp only [codes_eq_cons_iff] at coded
    obtain ⟨b, _, rfl, first, e, t, rfl, rfl, coded⟩ := coded
    have known : b = 0x5c := UInt8.toNat_inj.mp first
    rw [known, List.cons_append, List.cons_append, skipString_escape (isEscapeLetter_iff.mpr letter)]
    exact ih _ coded
  | unicode first second third fourth _ ih =>
    simp only [codes_eq_cons_iff] at coded
    obtain ⟨x, _, rfl, backslash, y, _, rfl, letter, a, _, rfl, rfl, b, _, rfl, rfl,
      c, _, rfl, rfl, d, t, rfl, rfl, coded⟩ := coded
    have known : x = 0x5c := UInt8.toNat_inj.mp backslash
    have known' : y = 0x75 := UInt8.toNat_inj.mp letter
    have hex := hexQuad?_isSome.mpr ⟨first, second, third, fourth⟩
    simp only [known, known', List.cons_append, skipString_unicode hex]
    exact ih _ coded

/-- Reading past a string reads past its characters and the quote at its end. -/
theorem leaves_skipString {bs left : List UInt8} {p : Position} :
    Leaves (skipString bs p) left ↔ ∃ t, bs = t ++ 0x22 :: left ∧ Chars (codes t) := by
  constructor
  · exact chars_of_leaves
  · rintro ⟨t, rfl, chars⟩
    exact leaves_of_chars chars left p

/-! ### Words and names of members -/

theorem leaves_expectWord {word bs left : List UInt8} {p : Position} :
    Leaves (Cursor.expectWord word bs p) left ↔ bs = word ++ left := by
  induction word generalizing bs p with
  | nil => simp [Cursor.expectWord]
  | cons w word ih =>
    cases bs with
    | nil => simp [Cursor.expectWord]
    | cons b bs =>
      by_cases same : b = w
      · simp [Cursor.expectWord, same, ih]
      · simp [Cursor.expectWord, same]

theorem key_of_leaves {c : Cursor} {left : List UInt8} (leaves : Leaves (skipKey c) left) :
    ∃ t, c.rest = t ++ left ∧ Key (codes t) := by
  obtain ⟨w, split, before⟩ := exists_blanks c
  unfold skipKey at leaves
  simp only at leaves
  split at leaves
  · exact absurd leaves not_leaves_error
  · next b rest begins =>
    split at leaves
    · next quote =>
      split at leaves
      · exact absurd leaves not_leaves_error
      · next d read =>
        have string : Leaves (skipString rest (c.skipBlanks.position.after b)) d.rest := by
          rw [read, leaves_ok]
        obtain ⟨cs, name, chars⟩ := leaves_skipString.mp string
        obtain ⟨w', split', after⟩ := exists_blanks d
        split at leaves
        · exact absurd leaves not_leaves_error
        · next colon tail follows =>
          split at leaves
          · next known =>
            rw [leaves_ok] at leaves
            refine ⟨w ++ (0x22 :: cs ++ [0x22]) ++ w' ++ [0x3a], ?_, codes w,
              codes (0x22 :: cs ++ [0x22]), codes w', ?_, before, ⟨codes cs, ?_, chars⟩, after⟩
            · rw [split, begins, name, split', follows, quote, known, ← leaves]
              simp
            · simp
            · simp
          · exact absurd leaves not_leaves_error
    · exact absurd leaves not_leaves_error

theorem leaves_of_key {t : List UInt8} (key : Key (codes t)) (left : List UInt8)
    (p : Position) : Leaves (skipKey ⟨t ++ left, p⟩) left := by
  obtain ⟨_, _, _, coded, before, ⟨_, rfl, chars⟩, after⟩ := key
  simp only [List.append_assoc, List.cons_append, List.nil_append, codes_eq_append_iff,
    codes_eq_cons_iff] at coded
  obtain ⟨w, _, rfl, rfl, b, _, rfl, quote, cs, _, rfl, rfl, b', _, rfl, quote', w', _, rfl, rfl,
    b'', _, rfl, colon, nothing⟩ := coded
  cases codes_eq_nil nothing
  have known : b = 0x22 := UInt8.toNat_inj.mp quote
  have known' : b' = 0x22 := UInt8.toNat_inj.mp quote'
  have known'' : b'' = 0x3a := UInt8.toNat_inj.mp colon
  subst known known' known''
  -- The blanks end at the quote, the name at the next one, and the blanks after it at the colon.
  have stops : Stops Cursor.isBlank (0x22 :: (cs ++ 0x22 :: (w' ++ 0x3a :: left))) :=
    stops_cons.mpr (by decide)
  have stops' : Stops Cursor.isBlank (0x3a :: left) := stops_cons.mpr (by decide)
  obtain ⟨q, begins⟩ := skipBlanks_of_blanks before stops p
  obtain ⟨q', read⟩ := leaves_of_chars chars (w' ++ 0x3a :: left) (q.after 0x22)
  obtain ⟨q'', follows⟩ := skipBlanks_of_blanks after stops' q'
  simp [skipKey, begins, read, follows]

/-- Reading past the name of a member reads past its colon, too. -/
theorem leaves_skipKey {c : Cursor} {left : List UInt8} :
    Leaves (skipKey c) left ↔ ∃ t, c.rest = t ++ left ∧ Key (codes t) := by
  constructor
  · exact key_of_leaves
  · obtain ⟨bs, p⟩ := c
    rintro ⟨t, rfl, key⟩
    exact leaves_of_key key left p

/-! ### Values without parts -/

/-- What is read past as a value without parts is a value. -/
theorem derives_of_scalar {b : UInt8} {rest left : List UInt8} {p : Position}
    (leaves : Leaves (skipScalar b rest p) left) :
    ∃ t, b :: rest = t ++ left ∧ Derives .value (codes t) := by
  unfold skipScalar at leaves
  split at leaves
  · next known =>
    refine ⟨b :: Cursor.nullTail, by rw [leaves_expectWord.mp leaves]; rfl, .word ?_⟩
    rw [known]
    decide
  · split at leaves
    · next known =>
      refine ⟨b :: Cursor.trueTail, by rw [leaves_expectWord.mp leaves]; rfl, .word ?_⟩
      rw [known]
      decide
    · split at leaves
      · next known =>
        refine ⟨b :: Cursor.falseTail, by rw [leaves_expectWord.mp leaves]; rfl, .word ?_⟩
        rw [known]
        decide
      · split at leaves
        · next known =>
          obtain ⟨t, rfl, number⟩ := unsigned_of_leaves leaves
          exact ⟨b :: t, rfl, .number (.inr ⟨codes t, by rw [known]; rfl, number⟩)⟩
        · split at leaves
          · obtain ⟨t, split, number⟩ := unsigned_of_leaves leaves
            exact ⟨t, split, .number (.inl number)⟩
          · split at leaves
            · next known =>
              obtain ⟨cs, rfl, chars⟩ := leaves_skipString.mp leaves
              refine ⟨b :: cs ++ [0x22], by simp, .string ⟨codes cs, ?_, chars⟩⟩
              rw [known]
              simp
            · exact absurd leaves not_leaves_error

/-- Values without parts. -/
def Scalar (t : List Nat) : Prop := t ∈ words ∨ Grammar.Number t ∨ Quoted t

theorem ne_of_isDigit {b c : UInt8} (digit : Cursor.isDigit b = true)
    (other : Cursor.isDigit c = false) : b ≠ c := by
  rintro rfl
  rw [digit] at other
  cases other

/-- A value without parts is read past if nothing numeric follows. -/
theorem leaves_of_scalar {t left : List UInt8} (scalar : Scalar (codes t))
    (ends : Stops isNumeric left) :
    ∃ b rest, t = b :: rest ∧ b ≠ 0x5b ∧ b ≠ 0x7b ∧
      ∀ p, Leaves (skipScalar b (rest ++ left) p) left := by
  rcases scalar with word | (number | ⟨u, coded, number⟩) | ⟨cs, coded, chars⟩
  · simp only [words, List.mem_cons, List.not_mem_nil, or_false] at word
    rcases word with same | same | same
    · have known : t = 0x6e :: Cursor.nullTail := codes_injective same
      exact ⟨0x6e, Cursor.nullTail, known, by decide, by decide, fun p => leaves_expectWord.mpr rfl⟩
    · have known : t = 0x74 :: Cursor.trueTail := codes_injective same
      exact ⟨0x74, Cursor.trueTail, known, by decide, by decide, fun p => leaves_expectWord.mpr rfl⟩
    · have known : t = 0x66 :: Cursor.falseTail := codes_injective same
      exact ⟨0x66, Cursor.falseTail, known, by decide, by decide, fun p => leaves_expectWord.mpr rfl⟩
  · obtain ⟨d, ds, coded, first⟩ := number.head
    obtain ⟨b, bs, rfl, rfl, -⟩ := codes_eq_cons coded
    have digit := isDigit_iff.mpr first
    have other {c : UInt8} (no : Cursor.isDigit c = false) : b ≠ c := ne_of_isDigit digit no
    refine ⟨b, bs, rfl, other (by decide), other (by decide), fun p => ?_⟩
    rw [skipScalar, if_neg (other (by decide)), if_neg (other (by decide)),
      if_neg (other (by decide)), if_neg (other (by decide)), if_pos digit]
    exact leaves_of_unsigned number ends p
  · obtain ⟨b, bs, rfl, sign, rfl⟩ := codes_eq_cons coded
    have known : b = 0x2d := UInt8.toNat_inj.mp sign
    subst known
    exact ⟨0x2d, bs, rfl, by decide, by decide,
      fun p => leaves_of_unsigned number ends (p.after 0x2d)⟩
  · simp only [List.cons_append, codes_eq_cons_iff, codes_eq_append_iff] at coded
    obtain ⟨b, _, rfl, quote, bs, _, rfl, rfl, b', _, rfl, quote', nothing⟩ := coded
    cases codes_eq_nil nothing
    have known : b = 0x22 := UInt8.toNat_inj.mp quote
    have known' : b' = 0x22 := UInt8.toNat_inj.mp quote'
    subst known known'
    refine ⟨0x22, bs ++ [0x22], rfl, by decide, by decide, fun p => ?_⟩
    rw [List.append_assoc]
    exact leaves_of_chars chars left (p.after 0x22)

end Intake.Json
