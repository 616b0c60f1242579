import Intake.Number.Reading
import Mathlib.Algebra.Group.Nat.Defs
import Mathlib.Data.List.Basic

/-!
# Numerals

The decimal digits of a number are read as that number (`int64?_toString`), and a text that is read
as a number does not begin like a word.
-/
namespace Intake.Number

theorem digit?_of_isDigit {c : Char} (digit : c.isDigit = true) :
    digit? 10 c = some (c.toNat - '0'.toNat) := by
  have range : 0x30 ≤ c.toNat ∧ c.toNat ≤ 0x39 := by
    simpa [Char.isDigit, UInt32.le_iff_toNat_le] using digit
  have small : c.toNat - 0x30 < 10 := by omega
  simp only [digit?, range, and_self, if_true, small]
  rfl

/-- Only a digit has a value in the decimal system. -/
theorem toNat_le_of_digit? {c : Char} {value : Nat} (digit : digit? 10 c = some value) :
    c.toNat ≤ 0x39 := by
  unfold digit? at digit
  by_contra large
  rw [Nat.not_le] at large
  have no_value {n : Nat} (high : 10 ≤ n) : (if n < 10 then some n else none) ≠ some value := by
    rw [if_neg (Nat.not_lt.mpr high)]
    exact nofun
  dsimp only at digit
  split at digit
  · omega
  · split at digit
    · exact no_value (by omega) digit
    · split at digit
      · exact no_value (by omega) digit
      · exact no_value (Nat.le_refl 10) digit

theorem digitsOnto_of_digits {digits : List Char} (all : ∀ c ∈ digits, c.isDigit = true)
    (value : Nat) : digitsOnto 10 value digits = some (Nat.ofDigitChars 10 digits value) := by
  induction digits generalizing value with
  | nil => simp [digitsOnto]
  | cons c digits ih =>
    rw [digitsOnto, digit?_of_isDigit (all c List.mem_cons_self)]
    simp only
    rw [ih fun d member => all d (List.mem_cons_of_mem c member), Nat.ofDigitChars_cons,
      Nat.mul_comm]

theorem natural?_toDigits (n : Nat) : natural? 10 (Nat.toDigits 10 n) = some n := by
  have digits : ∀ c ∈ Nat.toDigits 10 n, c.isDigit = true :=
    fun c => Nat.isDigit_of_mem_toDigits (by decide) (by decide)
  have some_digit : (Nat.toDigits 10 n).isEmpty = false :=
    List.isEmpty_eq_false_iff.mpr Nat.toDigits_ne_nil
  rw [natural?, some_digit, if_neg Bool.false_ne_true, digitsOnto_of_digits digits,
    Nat.ofDigitChars_ten_toDigits]

theorem digit?_of_natural? {c : Char} {rest : List Char} {n : Nat}
    (reads : natural? 10 (c :: rest) = some n) : ∃ value, digit? 10 c = some value := by
  rw [natural?, List.isEmpty_cons, if_neg Bool.false_ne_true, digitsOnto] at reads
  cases first : digit? 10 c with
  | some value => exact ⟨value, rfl⟩
  | none =>
    rw [first] at reads
    cases reads

/-- Digits have no sign. -/
theorem splitSign_of_natural? {s : List Char} {n : Nat} (reads : natural? 10 s = some n) :
    splitSign s = (false, s) := by
  unfold splitSign
  split
  · obtain ⟨value, digit⟩ := digit?_of_natural? reads
    cases digit
  · obtain ⟨value, digit⟩ := digit?_of_natural? reads
    cases digit
  · rfl

/-- The digits of a number that fits are read as this number. -/
theorem int64?_toString {n : Nat} (small : n < 2 ^ 63) :
    int64? 10 (toString n).toList = some (Int64.ofInt n) := by
  rw [Nat.toString_eq_repr, Nat.toList_repr, int64?, splitSign_of_natural? (natural?_toDigits n)]
  simp only [natural?_toDigits, Bool.false_eq_true, if_false]
  have low : Int64.minValue.toInt ≤ n := Int.le_trans (by decide) (Int.natCast_nonneg n)
  have high : (n : Int) ≤ Int64.maxValue.toInt := by
    have top : Int64.maxValue.toInt = 2 ^ 63 - 1 := by decide
    omega
  rw [if_pos ⟨low, high⟩]

/-- A number begins with a sign or a digit. -/
theorem first_of_int64? {s : List Char} {i : Int64} (reads : int64? 10 s = some i) :
    ∃ c rest, s = c :: rest ∧ c.toNat ≤ 0x39 := by
  simp only [int64?] at reads
  split at reads
  · cases reads
  · next n digits =>
    cases s with
    | nil => cases digits
    | cons c rest =>
      refine ⟨c, rest, rfl, ?_⟩
      by_cases minus : c = '-'
      · subst minus
        decide
      · by_cases plus : c = '+'
        · subst plus
          decide
        · have unsigned : splitSign (c :: rest) = (false, c :: rest) := by
            simp [splitSign, minus, plus]
          rw [unsigned] at digits
          obtain ⟨value, digit⟩ := digit?_of_natural? digits
          exact toNat_le_of_digit? digit

end Intake.Number
