import Intake.Number.Decimal
import Intake.Json.Cursor
import Mathlib.Data.List.Induction

/-!
# Decimal digits

The digits of a natural number tell the number (`value_ofNat`), and the first of them is a zero only
if the number is zero.
-/
namespace Intake.Decimal

open Json (Cursor)

theorem digitByte_toNat {n : Nat} (digit : n < 10) : (digitByte n).toNat = 0x30 + n := by
  rw [digitByte, UInt8.toNat_add]
  simp
  omega

theorem isDigit_digitByte {n : Nat} (digit : n < 10) : Cursor.isDigit (digitByte n) = true := by
  have code := digitByte_toNat digit
  simp only [Cursor.isDigit, Bool.and_eq_true, decide_eq_true_eq, UInt8.le_iff_toNat_le, code,
    UInt8.reduceToNat]
  omega

/-! ### One digit after the other -/

theorem digitsOnto_eq_append (fuel n : Nat) (acc : List UInt8) :
    digitsOnto fuel n acc = digitsOnto fuel n [] ++ acc := by
  induction fuel generalizing n acc with
  | zero => rfl
  | succ fuel ih =>
    simp only [digitsOnto]
    split
    · rfl
    · rw [ih (n / 10) (digitByte (n % 10) :: acc), ih (n / 10) [digitByte (n % 10)]]
      simp

/-- With enough steps, more of them make no difference. -/
theorem digitsOnto_congr {fuel fuel' n : Nat} (enough : n < fuel) (enough' : n < fuel')
    (acc : List UInt8) : digitsOnto fuel n acc = digitsOnto fuel' n acc := by
  induction fuel generalizing fuel' n acc with
  | zero => omega
  | succ fuel ih =>
    obtain ⟨fuel', rfl⟩ : ∃ k, fuel' = k + 1 := ⟨fuel' - 1, by omega⟩
    simp only [digitsOnto]
    split
    · rfl
    · exact ih (by omega) (by omega) _

theorem ofNat_of_lt {n : Nat} (digit : n < 10) : ofNat n = [digitByte n] := by
  simp only [ofNat, digitsOnto, digit, if_true]
  rw [Nat.mod_eq_of_lt digit]

theorem ofNat_of_le {n : Nat} (large : 10 ≤ n) :
    ofNat n = ofNat (n / 10) ++ [digitByte (n % 10)] := by
  have not_digit : ¬ n < 10 := Nat.not_lt_of_le large
  have earlier : digitsOnto n (n / 10) [] = digitsOnto (n / 10 + 1) (n / 10) [] :=
    digitsOnto_congr (by omega) (by omega) []
  rw [ofNat, digitsOnto]
  simp only [not_digit, if_false]
  rw [digitsOnto_eq_append, earlier, ofNat]

/-! ### The value of digits -/

/-- The value of digits that follow some of which the value is known. -/
def valueOnto (value : Nat) (digits : List UInt8) : Nat :=
  digits.foldl (fun value b => value * 10 + (b.toNat - 0x30)) value

@[simp] theorem valueOnto_nil (value : Nat) : valueOnto value [] = value := rfl

@[simp] theorem valueOnto_cons (value : Nat) (b : UInt8) (digits : List UInt8) :
    valueOnto value (b :: digits) = valueOnto (value * 10 + (b.toNat - 0x30)) digits := by
  rw [valueOnto, List.foldl_cons, ← valueOnto]

@[simp] theorem valueOnto_append (value : Nat) (digits more : List UInt8) :
    valueOnto value (digits ++ more) = valueOnto (valueOnto value digits) more :=
  List.foldl_append

theorem le_valueOnto (value : Nat) (digits : List UInt8) : value ≤ valueOnto value digits := by
  induction digits generalizing value with
  | nil => exact Nat.le_refl value
  | cons b digits ih =>
    have first := ih (value * 10 + (b.toNat - 0x30))
    rw [valueOnto_cons]
    omega

/-- **Digits**: a number is the value of its digits, all of which are digits. -/
theorem value_ofNat (n : Nat) :
    valueOnto 0 (ofNat n) = n ∧ ∀ b ∈ ofNat n, Cursor.isDigit b = true := by
  induction n using Nat.strongRecOn with
  | ind n ih =>
    by_cases digit : n < 10
    · rw [ofNat_of_lt digit]
      constructor
      · rw [valueOnto_cons, valueOnto_nil, digitByte_toNat digit]
        omega
      · simpa using isDigit_digitByte digit
    · have large : 10 ≤ n := Nat.le_of_not_lt digit
      obtain ⟨value, digits⟩ := ih (n / 10) (by omega)
      have last : n % 10 < 10 := Nat.mod_lt n (by decide)
      rw [ofNat_of_le large]
      constructor
      · rw [valueOnto_append, value, valueOnto_cons, valueOnto_nil, digitByte_toNat last]
        omega
      · intro b member
        rcases List.mem_append.mp member with earlier | final
        · exact digits b earlier
        · rw [List.mem_singleton.mp final]
          exact isDigit_digitByte last

/-- Only zero begins with a zero. -/
theorem ofNat_cases (n : Nat) :
    (n = 0 ∧ ofNat n = [0x30]) ∨ (0 < n ∧ ∃ b digits, ofNat n = b :: digits ∧ b ≠ 0x30) := by
  induction n using Nat.strongRecOn with
  | ind n ih =>
    by_cases digit : n < 10
    · rw [ofNat_of_lt digit]
      by_cases zero : n = 0
      · subst zero
        exact .inl ⟨rfl, rfl⟩
      · refine .inr ⟨Nat.pos_of_ne_zero zero, _, _, rfl, ?_⟩
        intro same
        have code := digitByte_toNat digit
        rw [same] at code
        simp at code
        omega
    · have large : 10 ≤ n := Nat.le_of_not_lt digit
      rcases ih (n / 10) (by omega) with ⟨zero, -⟩ | ⟨-, b, digits, shape, other⟩
      · omega
      · refine .inr ⟨by omega, b, digits ++ [digitByte (n % 10)], ?_, other⟩
        rw [ofNat_of_le large, shape]
        rfl

theorem ofNat_ne_nil (n : Nat) : ofNat n ≠ [] := by
  rcases ofNat_cases n with ⟨-, shape⟩ | ⟨-, b, digits, shape, -⟩
  · simp [shape]
  · simp [shape]

/-- A number below a power of ten has no more digits than that. -/
theorem length_ofNat_le {n k : Nat} (positive : 0 < k) (small : n < Nat.pow 10 k) :
    (ofNat n).length ≤ k := by
  induction k generalizing n with
  | zero => omega
  | succ k ih =>
    by_cases digit : n < 10
    · simp [ofNat_of_lt digit]
    · have large : 10 ≤ n := Nat.le_of_not_lt digit
      have room : 0 < k := by
        by_contra none
        have zero : k = 0 := Nat.eq_zero_of_not_pos none
        subst zero
        have ten : Nat.pow 10 (0 + 1) = 10 := rfl
        omega
      have shorter : n / 10 < Nat.pow 10 k := by
        rw [Nat.pow_eq, Nat.pow_succ] at small
        rw [Nat.pow_eq]
        omega
      have fewer := ih room shorter
      rw [ofNat_of_le large]
      simp
      omega

end Intake.Decimal
