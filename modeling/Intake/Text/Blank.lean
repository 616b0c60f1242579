/-!
# Blank characters

The characters with the Unicode property `White_Space`, and trimming by it.
-/
namespace Intake.Text

/-- The code points with the Unicode property `White_Space`. -/
def isBlank (c : Char) : Bool :=
  let n := c.toNat
  (9 ≤ n && n ≤ 13) || n = 0x20 || n = 0x85 || n = 0xa0 || n = 0x1680 ||
    (0x2000 ≤ n && n ≤ 0x200a) || n = 0x2028 || n = 0x2029 || n = 0x202f || n = 0x205f ||
    n = 0x3000

def trimStart (s : List Char) : List Char := s.dropWhile isBlank

theorem trimStart_eq_self {s : List Char} (solid : ∀ c ∈ s.head?, isBlank c = false) :
    trimStart s = s := by
  cases s with
  | nil => rfl
  | cons c s => exact List.dropWhile_cons_of_neg (by simp [solid c rfl])

def trim (s : List Char) : List Char := (trimStart (trimStart s).reverse).reverse

/-- ASCII letters in lower case; every other character stays. -/
def asciiLower (s : List Char) : List Char := s.map Char.toLower

/-- Equality up to the case of ASCII letters. -/
def sameIgnoringCase (s t : List Char) : Bool := asciiLower s == asciiLower t

end Intake.Text
