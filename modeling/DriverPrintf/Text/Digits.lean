import DriverPrintf.Text.Utf8

/-!
# Text — digits

Numbers are written most significant digit first and without leading zeros (`0` is `0`).  A digit
of a base up to 36 is `0` to `9` or a letter in either case; `digitValue?_digitChar` says that a
digit is read as it was written.
-/

namespace DriverPrintf

/-- Case of the letters in hexadecimal output. -/
inductive LetterCase where
  | lower
  | upper
deriving DecidableEq, Repr

namespace Text

/-- `n` in decimal. -/
def decimal (n : Nat) : Text := Nat.toDigits 10 n

/-- `n` in hexadecimal, without a base mark. -/
def hex (letters : LetterCase) (n : Nat) : Text :=
  match letters with
  | .lower => Nat.toDigits 16 n
  | .upper => (Nat.toDigits 16 n).map Char.toUpper

/-- The value of a digit of the given base, if `c` is one. -/
def digitValue? (base : Nat) (c : Char) : Option Nat :=
  let value :=
    if '0' ≤ c ∧ c ≤ '9' then some (c.toNat - 48)
    else if 'a' ≤ c ∧ c ≤ 'z' then some (c.toNat - 87)
    else if 'A' ≤ c ∧ c ≤ 'Z' then some (c.toNat - 55)
    else none
  value.filter (· < base)

/-- Whether `c` is a digit of the given base. -/
def isDigit (base : Nat) (c : Char) : Bool := (digitValue? base c).isSome

theorem digitValue?_digitChar {value : Nat} (h : value < 16) :
    digitValue? 16 value.digitChar = some value := by
  have all : ∀ v ∈ List.range 16, digitValue? 16 v.digitChar = some v := by decide
  exact all value (List.mem_range.2 h)

theorem digitValue?_toUpper_digitChar {value : Nat} (h : value < 16) :
    digitValue? 16 value.digitChar.toUpper = some value := by
  have all : ∀ v ∈ List.range 16, digitValue? 16 v.digitChar.toUpper = some v := by decide
  exact all value (List.mem_range.2 h)

end Text

end DriverPrintf
