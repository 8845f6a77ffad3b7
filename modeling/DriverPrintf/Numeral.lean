import DriverPrintf.Text.Blank
import DriverPrintf.Text.Digits

/-!
# Numerals

Reading an unsigned number from the front of a text: ASCII blanks, a sign, a base mark and then
all the digits that follow.  The value wraps at 64 bits, a minus sign negates it, and what cannot
be read is not read at all: without a digit the value is 0 and the whole text is left
(`read64_of_no_digits`).
-/

namespace DriverPrintf

namespace Numeral

/-- Whether the text is negative, and what follows its sign if it has one. -/
def sign : Text → Bool × Text
  | '-' :: rest => (true, rest)
  | '+' :: rest => (false, rest)
  | text => (false, text)

/-- Whether the text begins with `0x` or `0X` and a hexadecimal digit. -/
def hasHexMark : Text → Bool
  | '0' :: mark :: digit :: _ => (mark == 'x' || mark == 'X') && Text.isDigit 16 digit
  | _ => false

/-- The base a numeral is written in and the text from its digits on.  Base 0 stands for the base
the numeral marks: 16 by `0x`, 8 by a leading `0`, else 10.  The mark `0x` may also stand where
base 16 is asked for. -/
def radix (base : Nat) (text : Text) : Nat × Text :=
  if (base = 0 ∨ base = 16) ∧ hasHexMark text then (16, text.drop 2)
  else if base = 0 then (if text.head? = some '0' then 8 else 10, text)
  else (base, text)

/-- The value of a run of digits, modulo 2^64. -/
def wrappedValue (base : Nat) (digits : Text) : UInt64 :=
  digits.foldl
    (fun value c => value * .ofNat base + .ofNat ((Text.digitValue? base c).getD 0)) 0

/-- The text from the digits on, with the sign and the base. -/
def body (text : Text) (base : Nat) : Bool × Nat × Text :=
  let signed := sign (text.dropWhile Text.isAsciiBlank)
  (signed.1, radix base signed.2)

/-- Reads a number in the given base, 0 or 2 to 36, modulo 2^64.  In any other base nothing is
read. -/
def read64 (text : Text) (base : Nat) : UInt64 × Text :=
  if base = 1 ∨ 36 < base then (0, text)
  else
    let (negative, radix, rest) := body text base
    let digits := rest.takeWhile (Text.isDigit radix)
    if digits.isEmpty then (0, text)
    else
      let value := wrappedValue radix digits
      (if negative then -value else value, rest.dropWhile (Text.isDigit radix))

/-- Reads a number modulo 2^32. -/
def read32 (text : Text) (base : Nat) : UInt32 × Text :=
  ((read64 text base).1.toUInt32, (read64 text base).2)

theorem read64_of_no_digits {text : Text} {base : Nat}
    (h : (body text base).2.2.takeWhile (Text.isDigit (body text base).2.1) = []) :
    read64 text base = (0, text) := by
  rw [read64]
  split
  · rfl
  · simp [h]

end Numeral

end DriverPrintf
