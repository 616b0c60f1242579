import Intake.Json.Acceptance
import Intake.Proofs.Text.Encoding

/-!
# The grammar of JSON

The grammar of JSON text, over codes. A code is the code point of a character, or a byte, so that the
grammar can be read at two levels. They agree (`isText_encode`): a text is JSON in its characters
exactly if it is in its bytes, because the grammar tells only the first 128 codes apart.
-/
namespace Intake.Json.Grammar

/-! ### Words, numbers and strings -/

/-- The four blanks: space, tab, line feed and carriage return. -/
def IsBlank (c : Nat) : Prop := c = 0x20 ∨ c = 0x09 ∨ c = 0x0a ∨ c = 0x0d

instance (c : Nat) : Decidable (IsBlank c) := inferInstanceAs (Decidable (_ ∨ _))

def Blanks (t : List Nat) : Prop := ∀ c ∈ t, IsBlank c

def IsDigit (c : Nat) : Prop := 0x30 ≤ c ∧ c ≤ 0x39

instance (c : Nat) : Decidable (IsDigit c) := inferInstanceAs (Decidable (_ ∧ _))

/-- One digit or more. -/
def Digits (t : List Nat) : Prop := t ≠ [] ∧ ∀ c ∈ t, IsDigit c

/-- A zero, or digits of which the first is none. -/
def Whole (t : List Nat) : Prop :=
  t = [0x30] ∨ ∃ d ds, t = d :: ds ∧ IsDigit d ∧ d ≠ 0x30 ∧ ∀ c ∈ ds, IsDigit c

def Fraction (t : List Nat) : Prop := ∃ ds, t = 0x2e :: ds ∧ Digits ds

/-- The letter of an exponent, perhaps a sign, and digits. -/
def Exponent (t : List Nat) : Prop :=
  ∃ letter sign ds, t = letter :: sign ++ ds ∧ (letter = 0x65 ∨ letter = 0x45) ∧
    (sign = [] ∨ sign = [0x2b] ∨ sign = [0x2d]) ∧ Digits ds

/-- A number without its sign. -/
def Unsigned (t : List Nat) : Prop :=
  ∃ whole fraction exponent, t = whole ++ fraction ++ exponent ∧ Whole whole ∧
    (fraction = [] ∨ Fraction fraction) ∧ (exponent = [] ∨ Exponent exponent)

def Number (t : List Nat) : Prop := Unsigned t ∨ ∃ u, t = 0x2d :: u ∧ Unsigned u

def IsHexDigit (c : Nat) : Prop := IsDigit c ∨ 0x41 ≤ c ∧ c ≤ 0x46 ∨ 0x61 ≤ c ∧ c ≤ 0x66

/-- The codes that may follow a backslash, apart from the letter u. -/
def escapes : List Nat := [0x22, 0x5c, 0x2f, 0x62, 0x66, 0x6e, 0x72, 0x74]

/-- What may stand between the quotes of a string. -/
inductive Chars : List Nat → Prop where
  | nil : Chars []
  | plain {c t} : 0x20 ≤ c → c ≠ 0x22 → c ≠ 0x5c → Chars t → Chars (c :: t)
  | escape {c t} : c ∈ escapes → Chars t → Chars (0x5c :: c :: t)
  | unicode {a b c d t} : IsHexDigit a → IsHexDigit b → IsHexDigit c → IsHexDigit d → Chars t →
    Chars (0x5c :: 0x75 :: a :: b :: c :: d :: t)

def Quoted (t : List Nat) : Prop := ∃ cs, t = 0x22 :: cs ++ [0x22] ∧ Chars cs

/-- The words `null`, `true` and `false`. -/
def words : List (List Nat) :=
  [[0x6e, 0x75, 0x6c, 0x6c], [0x74, 0x72, 0x75, 0x65], [0x66, 0x61, 0x6c, 0x73, 0x65]]

/-! ### Values -/

/-- The bracket that opens a list or an object. -/
def opens : Frame → Nat
  | .list => 0x5b
  | .object => 0x7b

/-- The bracket that closes a list or an object. -/
def closes : Frame → Nat
  | .list => 0x5d
  | .object => 0x7d

/-- The name of a member and its colon, with blanks around the name. -/
def Key (t : List Nat) : Prop :=
  ∃ w name w', t = w ++ name ++ w' ++ [0x3a] ∧ Blanks w ∧ Quoted name ∧ Blanks w'

/-- What stands before a value in a list or an object. -/
def Lead : Frame → List Nat → Prop
  | .list, t => Blanks t
  | .object, t => ∃ key w, t = key ++ w ∧ Key key ∧ Blanks w

/-- What the grammar derives: a value, or the elements of a list or members of an object. -/
inductive Part where
  | value
  | parts (frame : Frame)

inductive Derives : Part → List Nat → Prop where
  | word {t} : t ∈ words → Derives .value t
  | number {t} : Number t → Derives .value t
  | string {t} : Quoted t → Derives .value t
  | empty (frame) {w} : Blanks w → Derives .value (opens frame :: w ++ [closes frame])
  | full (frame) {t} : Derives (.parts frame) t → Derives .value (opens frame :: t ++ [closes frame])
  | last {frame lead v w} : Lead frame lead → Derives .value v → Blanks w →
    Derives (.parts frame) (lead ++ v ++ w)
  | next {frame lead v w rest} : Lead frame lead → Derives .value v → Blanks w →
    Derives (.parts frame) rest → Derives (.parts frame) (lead ++ v ++ w ++ 0x2c :: rest)

/-- A JSON text: one value, with blanks around it. -/
def IsText (t : List Nat) : Prop :=
  ∃ w v w', t = w ++ v ++ w' ∧ Blanks w ∧ Derives .value v ∧ Blanks w'

/-! ### Blanks -/

theorem blanks_nil : Blanks [] := nofun

theorem Lead.append {frame : Frame} {t w : List Nat} (lead : Lead frame t) (blanks : Blanks w) :
    Lead frame (t ++ w) := by
  cases frame with
  | list => exact List.forall_mem_append.mpr ⟨lead, blanks⟩
  | object =>
    obtain ⟨key, w', rfl, isKey, blanks'⟩ := lead
    exact ⟨key, w' ++ w, by simp, isKey, List.forall_mem_append.mpr ⟨blanks', blanks⟩⟩

theorem Lead.prepend {frame : Frame} {w t : List Nat} (blanks : Blanks w) (lead : Lead frame t) :
    Lead frame (w ++ t) := by
  cases frame with
  | list => exact List.forall_mem_append.mpr ⟨blanks, lead⟩
  | object =>
    obtain ⟨_, w', rfl, ⟨before, name, after, rfl, blanks', quoted, blanks''⟩, rest⟩ := lead
    exact ⟨w ++ before ++ name ++ after ++ [0x3a], w', by simp,
      ⟨w ++ before, name, after, rfl, List.forall_mem_append.mpr ⟨blanks, blanks'⟩, quoted,
        blanks''⟩, rest⟩

/-- Blanks may stand before the parts of a frame. -/
theorem parts_of_blanks {frame : Frame} {w t : List Nat} (blanks : Blanks w)
    (parts : Derives (.parts frame) t) : Derives (.parts frame) (w ++ t) := by
  cases parts with
  | last lead value after =>
    have longer := Derives.last (lead.prepend blanks) value after
    simpa using longer
  | next lead value after others =>
    have longer := Derives.next (lead.prepend blanks) value after others
    simpa using longer

/-! ### Codes of the grammar -/

/-- The codes that the grammar names are all less than 128. -/
def Ascii (t : List Nat) : Prop := ∀ c ∈ t, c < 0x80

theorem ascii_cons {c : Nat} {t : List Nat} : Ascii (c :: t) ↔ c < 0x80 ∧ Ascii t :=
  List.forall_mem_cons

theorem Blanks.ascii {t : List Nat} (blanks : Blanks t) : Ascii t := by
  intro c member
  rcases blanks c member with rfl | rfl | rfl | rfl <;> decide

theorem IsDigit.lt {c : Nat} (digit : IsDigit c) : c < 0x80 := Nat.lt_of_le_of_lt digit.2 (by decide)

theorem Digits.ascii {t : List Nat} (digits : Digits t) : Ascii t :=
  fun c member => (digits.2 c member).lt

theorem IsHexDigit.lt {c : Nat} (digit : IsHexDigit c) : c < 0x80 := by
  rcases digit with ten | upper | lower
  · exact ten.lt
  · omega
  · omega

theorem Unsigned.ascii {t : List Nat} (number : Unsigned t) : Ascii t := by
  obtain ⟨whole, fraction, exponent, rfl, isWhole, isFraction, isExponent⟩ := number
  refine List.forall_mem_append.mpr ⟨List.forall_mem_append.mpr ⟨?_, ?_⟩, ?_⟩
  · rcases isWhole with rfl | ⟨d, ds, rfl, first, -, others⟩
    · exact ascii_cons.mpr ⟨by decide, nofun⟩
    · exact ascii_cons.mpr ⟨first.lt, fun c member => (others c member).lt⟩
  · rcases isFraction with rfl | ⟨ds, rfl, digits⟩
    · exact nofun
    · exact ascii_cons.mpr ⟨by decide, digits.ascii⟩
  · rcases isExponent with rfl | ⟨letter, sign, ds, rfl, isLetter, isSign, digits⟩
    · exact nofun
    · refine List.forall_mem_append.mpr ⟨ascii_cons.mpr ⟨?_, ?_⟩, digits.ascii⟩
      · rcases isLetter with rfl | rfl <;> decide
      · rcases isSign with rfl | rfl | rfl <;> simp [Ascii]

theorem Number.ascii {t : List Nat} (number : Number t) : Ascii t := by
  rcases number with number | ⟨u, rfl, number⟩
  · exact number.ascii
  · exact ascii_cons.mpr ⟨by decide, number.ascii⟩

theorem ascii_of_mem_words {t : List Nat} (word : t ∈ words) : Ascii t := by
  have all : ∀ t ∈ words, ∀ c ∈ t, c < 0x80 := by decide
  exact all t word

theorem opens_lt (frame : Frame) : opens frame < 0x80 ∧ closes frame < 0x80 := by
  cases frame <;> decide

/-! ### How values begin -/

/-- A number begins with a digit. -/
theorem Unsigned.head {t : List Nat} (number : Unsigned t) : ∃ d ds, t = d :: ds ∧ IsDigit d := by
  obtain ⟨whole, fraction, exponent, rfl, zero | ⟨d, ds, rfl, first, -⟩, -⟩ := number
  · exact ⟨0x30, fraction ++ exponent, by rw [zero]; rfl, by decide, by decide⟩
  · exact ⟨d, ds ++ fraction ++ exponent, rfl, first⟩

theorem not_isBlank_of_first {c : Nat}
    (first : IsDigit c ∨ c ∈ [0x2d, 0x22, 0x5b, 0x7b, 0x6e, 0x74, 0x66]) :
    ¬ IsBlank c ∧ c ≠ 0x5d ∧ c ≠ 0x7d := by
  simp only [IsDigit, IsBlank, List.mem_cons, List.not_mem_nil, or_false] at *
  omega

/-- A value begins neither with a blank nor with a closing bracket. -/
theorem first_of_value {t : List Nat} (value : Derives .value t) :
    ∃ c u, t = c :: u ∧ ¬ IsBlank c ∧ c ≠ 0x5d ∧ c ≠ 0x7d := by
  cases value with
  | word word =>
    simp only [words, List.mem_cons, List.not_mem_nil, or_false] at word
    rcases word with rfl | rfl | rfl
    all_goals exact ⟨_, _, rfl, not_isBlank_of_first (by decide)⟩
  | number number =>
    rcases number with number | ⟨u, rfl, -⟩
    · obtain ⟨d, ds, rfl, digit⟩ := number.head
      exact ⟨d, ds, rfl, not_isBlank_of_first (.inl digit)⟩
    · exact ⟨_, u, rfl, not_isBlank_of_first (by decide)⟩
  | string quoted =>
    obtain ⟨cs, rfl, -⟩ := quoted
    exact ⟨_, _, rfl, not_isBlank_of_first (by decide)⟩
  | empty frame blanks =>
    refine ⟨_, _, rfl, not_isBlank_of_first (.inr ?_)⟩
    cases frame <;> decide
  | full frame parts =>
    refine ⟨_, _, rfl, not_isBlank_of_first (.inr ?_)⟩
    cases frame <;> decide

/-- After blanks, a value with what leads to it does not begin with the bracket that closes its
frame. -/
theorem first_of_lead {frame : Frame} {lead v : List Nat} (isLead : Lead frame lead)
    (value : Derives .value v) :
    ∃ w c u, lead ++ v = w ++ c :: u ∧ Blanks w ∧ ¬ IsBlank c ∧ c ≠ closes frame := by
  cases frame with
  | list =>
    obtain ⟨c, u, rfl, solid, other, -⟩ := first_of_value value
    exact ⟨lead, c, u, rfl, isLead, solid, other⟩
  | object =>
    obtain ⟨_, w', rfl, ⟨before, _, after, rfl, blanks, ⟨cs, rfl, -⟩, -⟩, -⟩ := isLead
    obtain ⟨solid, -, other⟩ := not_isBlank_of_first (c := 0x22) (by decide)
    exact ⟨before, 0x22, cs ++ [0x22] ++ after ++ [0x3a] ++ w' ++ v, by simp, blanks, solid, other⟩

theorem first_of_parts {frame : Frame} {t : List Nat} (parts : Derives (.parts frame) t) :
    ∃ w c u, t = w ++ c :: u ∧ Blanks w ∧ ¬ IsBlank c ∧ c ≠ closes frame := by
  cases parts with
  | @last _ lead v w isLead value after =>
    obtain ⟨w', c, u, shape, first⟩ := first_of_lead isLead value
    exact ⟨w', c, u ++ w, by rw [shape]; simp, first⟩
  | @next _ lead v w rest isLead value after others =>
    obtain ⟨w', c, u, shape, first⟩ := first_of_lead isLead value
    exact ⟨w', c, u ++ w ++ 0x2c :: rest, by rw [shape]; simp, first⟩

/-! ### Changes of codes -/

/-- A change of codes: what has the code `f a` gets the codes `g a`. The codes that the grammar
names stay, and none of the others becomes one of them. -/
structure Recoding {α : Type} (f : α → Nat) (g : α → List Nat) : Prop where
  same : ∀ a, f a < 0x80 → g a = [f a]
  beyond : ∀ a, 0x80 ≤ f a → ∀ c ∈ g a, 0x80 ≤ c

section Recoding

variable {α : Type} {f : α → Nat} {g : α → List Nat} (recoding : Recoding f g)

include recoding

theorem flatMap_of_ascii {l : List α} (ascii : Ascii (l.map f)) : l.flatMap g = l.map f := by
  induction l with
  | nil => rfl
  | cons a l ih =>
    obtain ⟨small, rest⟩ := ascii_cons.mp ascii
    rw [List.flatMap_cons, recoding.same a small, ih rest]
    rfl

theorem chars_flatMap {l : List α} (chars : Chars (l.map f)) : Chars (l.flatMap g) := by
  generalize coded : l.map f = t at chars
  induction chars generalizing l with
  | nil =>
    rw [List.map_eq_nil_iff.mp coded]
    exact .nil
  | @plain c t low quote backslash _ ih =>
    obtain ⟨a, rest, rfl, rfl, tail⟩ := List.map_eq_cons_iff.mp coded
    rw [List.flatMap_cons]
    by_cases small : f a < 0x80
    · rw [recoding.same a small]
      exact .plain low quote backslash (ih tail)
    · -- Whatever takes the place of a code that the grammar does not name may stand in a string.
      have others := recoding.beyond a (Nat.le_of_not_lt small)
      generalize g a = cs at others
      induction cs with
      | nil => exact ih tail
      | cons c cs more =>
        have large := others c List.mem_cons_self
        refine .plain (by omega) (by omega) (by omega) (more ?_)
        exact fun c' member => others c' (List.mem_cons_of_mem _ member)
  | @escape c t known _ ih =>
    have small : c < 0x80 := by
      have all : ∀ c ∈ escapes, c < 0x80 := by decide
      exact all c known
    simp only [List.map_eq_cons_iff] at coded
    obtain ⟨x, _, rfl, backslash, y, rest, rfl, rfl, coded⟩ := coded
    simp only [List.flatMap_cons, recoding.same x (by omega), recoding.same y small, backslash]
    exact .escape known (ih coded)
  | unicode first second third fourth _ ih =>
    simp only [List.map_eq_cons_iff] at coded
    obtain ⟨x, _, rfl, backslash, y, _, rfl, letter, a, _, rfl, rfl, b, _, rfl, rfl,
      c, _, rfl, rfl, d, rest, rfl, rfl, coded⟩ := coded
    simp only [List.flatMap_cons, recoding.same x (by omega), recoding.same y (by omega),
      recoding.same a first.lt, recoding.same b second.lt, recoding.same c third.lt,
      recoding.same d fourth.lt, backslash, letter]
    exact .unicode first second third fourth (ih coded)

theorem quoted_flatMap {l : List α} (quoted : Quoted (l.map f)) : Quoted (l.flatMap g) := by
  obtain ⟨cs, coded, chars⟩ := quoted
  simp only [List.cons_append, List.map_eq_cons_iff, List.map_eq_append_iff,
    List.map_eq_nil_iff] at coded
  obtain ⟨x, _, rfl, first, inner, _, rfl, rfl, y, _, rfl, last, rfl⟩ := coded
  refine ⟨inner.flatMap g, ?_, chars_flatMap recoding chars⟩
  simp [recoding.same x (by omega), recoding.same y (by omega), first, last]

theorem key_flatMap {l : List α} (key : Key (l.map f)) : Key (l.flatMap g) := by
  obtain ⟨w, name, w', coded, before, quoted, after⟩ := key
  simp only [List.map_eq_append_iff, List.map_eq_singleton_iff] at coded
  obtain ⟨_, _, rfl, ⟨_, blanks', rfl, ⟨blanks, inner, rfl, rfl, rfl⟩, rfl⟩, x, rfl, colon⟩ := coded
  refine ⟨blanks.map f, inner.flatMap g, blanks'.map f, ?_, before,
    quoted_flatMap recoding quoted, after⟩
  simp only [List.flatMap_append, flatMap_of_ascii recoding before.ascii,
    flatMap_of_ascii recoding after.ascii, List.flatMap_singleton, recoding.same x (by omega), colon]

theorem lead_flatMap {frame : Frame} {l : List α} (lead : Lead frame (l.map f)) :
    Lead frame (l.flatMap g) := by
  cases frame with
  | list =>
    have blanks : Blanks (l.map f) := lead
    rw [flatMap_of_ascii recoding blanks.ascii]
    exact blanks
  | object =>
    obtain ⟨_, _, coded, key, blanks⟩ := lead
    obtain ⟨before, after, rfl, rfl, rfl⟩ := List.map_eq_append_iff.mp coded
    refine ⟨_, _, List.flatMap_append, key_flatMap recoding key, ?_⟩
    rw [flatMap_of_ascii recoding blanks.ascii]
    exact blanks

/-- **Changes of codes**: what the grammar derives it derives in other codes, too, as long as the
codes that it names stay and no others become these. -/
theorem derives_flatMap {part : Part} {l : List α} (derives : Derives part (l.map f)) :
    Derives part (l.flatMap g) := by
  generalize coded : l.map f = t at derives
  induction derives generalizing l with
  | word word =>
    subst coded
    rw [flatMap_of_ascii recoding (ascii_of_mem_words word)]
    exact .word word
  | number number =>
    subst coded
    rw [flatMap_of_ascii recoding number.ascii]
    exact .number number
  | string quoted =>
    subst coded
    exact .string (quoted_flatMap recoding quoted)
  | empty frame blanks =>
    have brackets := opens_lt frame
    simp only [List.cons_append, List.map_eq_cons_iff, List.map_eq_append_iff,
      List.map_eq_nil_iff] at coded
    obtain ⟨x, _, rfl, first, inner, _, rfl, rfl, y, _, rfl, last, rfl⟩ := coded
    simp only [List.flatMap_cons, List.flatMap_append,
      recoding.same x (by omega), recoding.same y (by omega), first, last,
      flatMap_of_ascii recoding blanks.ascii]
    exact .empty frame blanks
  | full frame _ ih =>
    have brackets := opens_lt frame
    simp only [List.cons_append, List.map_eq_cons_iff, List.map_eq_append_iff,
      List.map_eq_nil_iff] at coded
    obtain ⟨x, _, rfl, first, inner, _, rfl, middle, y, _, rfl, last, rfl⟩ := coded
    simp only [List.flatMap_cons, List.flatMap_append,
      recoding.same x (by omega), recoding.same y (by omega), first, last]
    exact .full frame (ih middle)
  | last lead _ blanks ih =>
    simp only [List.map_eq_append_iff] at coded
    obtain ⟨_, after, rfl, ⟨before, middle, rfl, rfl, value⟩, rfl⟩ := coded
    simp only [List.flatMap_append]
    refine .last (lead_flatMap recoding lead) (ih value) ?_
    rw [flatMap_of_ascii recoding blanks.ascii]
    exact blanks
  | next lead _ blanks _ ih ih' =>
    simp only [List.map_eq_append_iff, List.map_eq_cons_iff] at coded
    obtain ⟨_, _, rfl, ⟨_, after, rfl, ⟨before, middle, rfl, rfl, value⟩, rfl⟩, x, rest, rfl,
      comma, others⟩ := coded
    simp only [List.flatMap_append, List.flatMap_cons, recoding.same x (by omega), comma]
    refine .next (lead_flatMap recoding lead) (ih value) ?_ (ih' others)
    rw [flatMap_of_ascii recoding blanks.ascii]
    exact blanks

theorem isText_flatMap {l : List α} (text : IsText (l.map f)) : IsText (l.flatMap g) := by
  obtain ⟨_, _, _, coded, before, derives, after⟩ := text
  simp only [List.map_eq_append_iff] at coded
  obtain ⟨_, last, rfl, ⟨first, middle, rfl, rfl, rfl⟩, rfl⟩ := coded
  refine ⟨first.flatMap g, middle.flatMap g, last.flatMap g, ?_, ?_,
    derives_flatMap recoding derives, ?_⟩
  · simp only [List.flatMap_append]
  · rw [flatMap_of_ascii recoding before.ascii]
    exact before
  · rw [flatMap_of_ascii recoding after.ascii]
    exact after

end Recoding

/-! ### Characters and bytes -/

/-- What is left of a byte: a byte that begins a character stands for it, and the bytes that go on
with the character are dropped. -/
def lead (b : UInt8) : List Nat :=
  if b.toNat < 0x80 then [b.toNat] else if b.toNat < 0xc0 then [] else [0x80]

theorem flatMap_lead (c : Char) :
    (String.utf8EncodeChar c).flatMap lead = [min c.toNat 0x80] := by
  rcases Text.utf8EncodeChar_cases c with ⟨small, encoded⟩ | ⟨large, first, rest, encoded, begins,
    continue_it⟩
  · have same : (UInt8.ofNat c.toNat).toNat = c.toNat := by
      rw [UInt8.toNat_ofNat']
      omega
    rw [encoded, List.flatMap_singleton, lead, same, if_pos small]
    congr 1
    omega
  · have dropped : rest.flatMap lead = [] := by
      rw [List.flatMap_eq_nil_iff]
      intro b member
      have between := continue_it b member
      rw [lead, if_neg (Nat.not_lt_of_le between.1), if_pos between.2]
    rw [encoded, List.flatMap_cons, dropped, List.append_nil, lead, if_neg (by omega),
      if_neg (by omega)]
    congr 1
    omega

/-- **Characters and bytes**: a text is JSON, read by its characters, exactly if its encoding is,
read by bytes. -/
theorem isText_encode (s : String) :
    IsText ((Text.encode s).map UInt8.toNat) ↔ IsText (s.toList.map Char.toNat) := by
  rw [Text.encode_eq_flatMap]
  constructor
  · intro text
    -- The bytes are reduced to one code for each character, and this may be the character itself.
    have leads : Recoding UInt8.toNat lead := by
      constructor
      · exact fun b small => if_pos small
      · intro b large c member
        rw [lead, if_neg (Nat.not_lt_of_le large)] at member
        split at member
        · cases member
        · exact Nat.le_of_eq (List.mem_singleton.mp member).symm
    have characters : Recoding (fun c : Char => min c.toNat 0x80) fun c => [c.toNat] := by
      constructor
      · intro c small
        rw [Nat.min_eq_left (by omega)]
      · intro c large code member
        rw [List.mem_singleton.mp member]
        omega
    have reduced := isText_flatMap leads text
    simp only [List.flatMap_assoc, flatMap_lead] at reduced
    rw [← List.map_eq_flatMap] at reduced
    have back := isText_flatMap characters reduced
    rwa [← List.map_eq_flatMap] at back
  · intro text
    have bytes : Recoding Char.toNat fun c => (String.utf8EncodeChar c).map UInt8.toNat := by
      constructor
      · intro c small
        rcases Text.utf8EncodeChar_cases c with ⟨-, encoded⟩ | ⟨large, -⟩
        · rw [encoded, List.map_singleton, UInt8.toNat_ofNat']
          congr 1
          omega
        · omega
      · intro c large code member
        rcases Text.utf8EncodeChar_cases c with ⟨small, -⟩ | ⟨-, first, rest, encoded, begins,
          continue_it⟩
        · omega
        · obtain ⟨b, among, rfl⟩ := List.mem_map.mp member
          rw [encoded] at among
          rcases List.mem_cons.mp among with rfl | later
          · omega
          · exact (continue_it b later).1
    have encoded := isText_flatMap bytes text
    rwa [← List.map_flatMap] at encoded

end Intake.Json.Grammar
