import Intake.Text.Bytes

/-!
# Text and its bytes

A text is the only one with its bytes (`fromUTF8?_eq_some`). A character among the first 128 is
encoded by its code point alone, and every other by a byte that begins a character and bytes that go
on with it (`utf8EncodeChar_cases`). Bytes below 128 are the encoding of as many letters
(`encode_letters`).
-/
namespace Intake.Text

/-- A text can be read off some bytes exactly if they are its encoding. -/
theorem fromUTF8?_eq_some {b : ByteArray} {s : String} :
    String.fromUTF8? b = some s ↔ s.toUTF8 = b := by
  unfold String.fromUTF8?
  constructor
  · intro read
    split at read
    · cases read
      rfl
    · cases read
  · rintro rfl
    exact dif_pos s.isValidUTF8

theorem fromUTF8?_eq_none {b : ByteArray} :
    String.fromUTF8? b = none ↔ ∀ s : String, s.toUTF8 ≠ b := by
  rw [Option.eq_none_iff_forall_ne_some]
  exact forall_congr' fun s => not_congr fromUTF8?_eq_some

@[simp] theorem decode?_encode (s : String) : decode? (encode s) = some s := by
  rw [decode?, encode, pack_bytes, fromUTF8?_eq_some]

theorem encode_eq_flatMap (s : String) : encode s = s.toList.flatMap String.utf8EncodeChar := by
  change s.toByteArray.data.toList = _
  rw [← String.utf8Encode_toList, List.utf8Encode, List.toList_data_toByteArray]

/-- Whether a byte goes on with a character that another byte begins. -/
def Continues (b : UInt8) : Prop := 0x80 ≤ b.toNat ∧ b.toNat < 0xc0

theorem continues_ofNat (n : Nat) : Continues (UInt8.ofNat (n % 64 + 128)) := by
  rw [Continues, UInt8.toNat_ofNat']
  omega

/-- How a character is encoded. -/
theorem utf8EncodeChar_cases (c : Char) :
    (c.toNat < 0x80 ∧ String.utf8EncodeChar c = [UInt8.ofNat c.toNat]) ∨
    (0x80 ≤ c.toNat ∧ ∃ first rest, String.utf8EncodeChar c = first :: rest ∧
      0xc0 ≤ first.toNat ∧ ∀ b ∈ rest, Continues b) := by
  unfold String.utf8EncodeChar
  simp only
  split
  · next small => exact .inl ⟨Nat.lt_succ_of_le small, rfl⟩
  · next large =>
    have beyond : 0x80 ≤ c.toNat := Nat.lt_of_not_le large
    refine .inr ⟨beyond, ?_⟩
    split
    · refine ⟨_, _, rfl, ?_, ?_⟩
      · rw [UInt8.toNat_ofNat']
        omega
      · simpa only [List.forall_mem_cons, continues_ofNat, true_and] using nofun
    · split
      · refine ⟨_, _, rfl, ?_, ?_⟩
        · rw [UInt8.toNat_ofNat']
          omega
        · simpa only [List.forall_mem_cons, continues_ofNat, true_and] using nofun
      · refine ⟨_, _, rfl, ?_, ?_⟩
        · rw [UInt8.toNat_ofNat']
          omega
        · simpa only [List.forall_mem_cons, continues_ofNat, true_and] using nofun

/-! ### Letters -/

/-- The character with the code of a byte. -/
def letter (b : UInt8) : Char := Char.ofNat b.toNat

@[simp] theorem toNat_letter (b : UInt8) : (letter b).toNat = b.toNat := by
  have valid : b.toNat.isValidChar := .inl (Nat.lt_trans b.toNat_lt (by decide))
  rw [letter, Char.ofNat, dif_pos valid]
  rfl

def letters (bs : List UInt8) : List Char := bs.map letter

@[simp] theorem letters_nil : letters [] = [] := rfl

@[simp] theorem letters_cons (b : UInt8) (bs : List UInt8) :
    letters (b :: bs) = letter b :: letters bs := rfl

@[simp] theorem letters_append (bs cs : List UInt8) : letters (bs ++ cs) = letters bs ++ letters cs :=
  List.map_append

@[simp] theorem length_letters (bs : List UInt8) : (letters bs).length = bs.length :=
  List.length_map letter

theorem encode_letters {bs : List UInt8} (ascii : ∀ b ∈ bs, b.toNat < 0x80) :
    encode (String.ofList (letters bs)) = bs := by
  rw [encode_eq_flatMap, String.toList_ofList]
  induction bs with
  | nil => rfl
  | cons b bs ih =>
    obtain ⟨small, others⟩ := List.forall_mem_cons.mp ascii
    rw [letters_cons, List.flatMap_cons, ih others]
    rcases utf8EncodeChar_cases (letter b) with ⟨-, code⟩ | ⟨large, -⟩
    · simp [code]
    · rw [toNat_letter] at large
      omega

end Intake.Text
