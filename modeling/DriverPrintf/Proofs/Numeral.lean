import DriverPrintf.Numeral
import DriverPrintf.Proofs.Text.Digits

/-!
# Numerals — reading what was written

The wrapped value of some digits is their value modulo 2^64 (`wrappedValue_eq`), so a number that
fits in 64 bits is read from its digits as it is.  `read64_of_body` is this for any numeral of
which the sign and the base have been found.

A numeral that marks its own base may be one in decimal, with or without a minus sign, or one in
hexadecimal behind `0x`: `read64_decimal`, `read64_minus_decimal` and `read64_hex` say that all of
it is read and what its value is.  The decimal `0` is an octal numeral, with the same value.
-/

namespace DriverPrintf.Numeral

open Text (Ends decimal hex)

theorem wrappedValue_eq (base : Nat) (digits : Text) :
    wrappedValue base digits = .ofNat (Text.value base digits) := by
  -- from any value on, the digits carry it on and add their own
  have hfrom : ∀ value : Nat, digits.foldl
      (fun value c => value * .ofNat base + .ofNat ((Text.digitValue? base c).getD 0))
        (UInt64.ofNat value) =
      .ofNat (value * base ^ digits.length + Text.value base digits) := by
    induction digits with
    | nil => simp
    | cons c digits ih =>
      intro value
      rw [List.foldl_cons, ← UInt64.ofNat_mul, ← UInt64.ofNat_add, ih, Text.value_cons,
        List.length_cons, Nat.pow_succ]
      congr 1
      ring
  rw [wrappedValue]
  simpa using hfrom 0

/-- What is read of a numeral once its sign and its base are known. -/
theorem read64_of_body {text digits rest : Text} {base radix : Nat} {negative : Bool}
    (hbase : base ≠ 1 ∧ base ≤ 36) (hbody : body text base = (negative, radix, digits ++ rest))
    (hne : digits ≠ []) (hall : ∀ c ∈ digits, Text.isDigit radix c = true)
    (hends : Ends (Text.isDigit radix) rest) :
    read64 text base =
      (if negative then -.ofNat (Text.value radix digits) else .ofNat (Text.value radix digits),
        rest) := by
  obtain ⟨hrun, hrest⟩ := Text.run_iff.mpr ⟨rfl, hall, hends⟩
  rw [read64, if_neg (by omega), hbody]
  simp only [hrun, hrest, List.isEmpty_iff, hne, if_false, wrappedValue_eq]

/-! ### The beginning of a numeral -/

/-- A digit is neither a blank nor a sign. -/
theorem body_of_digit {c : Char} (hc : Text.isDigit 10 c = true) (more : Text) (base : Nat) :
    body (c :: more) base = (false, radix base (c :: more)) := by
  have hblank : Text.isAsciiBlank c = false :=
    Text.isAsciiBlank_eq_false (Text.isBlank_of_isDigit hc)
  obtain ⟨hplus, hminus⟩ := Text.ne_sign_of_isDigit hc
  have hsign : sign (c :: more) = (false, c :: more) := by simp [sign, hminus, hplus]
  rw [body, List.dropWhile_cons_of_neg (by simp [hblank]), hsign]

theorem body_minus (text : Text) (base : Nat) :
    body ('-' :: text) base = (true, radix base text) := rfl

theorem radix_of_head?_ne {text : Text} (h : text.head? ≠ some '0') : radix 0 text = (10, text) := by
  have hmark : hasHexMark text = false := by
    fun_cases hasHexMark text with
    | case1 => exact absurd rfl h
    | case2 => rfl
  rw [radix, hmark, if_neg (by simp), if_pos rfl, if_neg h]

/-- A decimal number begins no other base, but for `0`, which is the same in base 8. -/
theorem exists_radix_decimal (n : Nat) :
    ∃ base, radix 0 (decimal n) = (base, decimal n) ∧ Text.value base (decimal n) = n ∧
      ∀ c ∈ decimal n, Text.isDigit base c = true := by
  cases n with
  | zero => exact ⟨8, rfl, rfl, List.all_eq_true.mp rfl⟩
  | succ n =>
    have hhead : (decimal (n + 1)).head? ≠ some '0' :=
      Text.head?_toDigits_ne_zero (by decide) (by decide) n.succ_pos
    exact ⟨10, radix_of_head?_ne hhead, Text.value_decimal _,
      fun c => Text.isDigit_of_mem_decimal⟩

/-- The mark of base 16 is one where any base may be marked, and where 16 is asked for. -/
theorem radix_hex {base : Nat} (hbase : base = 0 ∨ base = 16) {mark : Char}
    (hmark : mark = 'x' ∨ mark = 'X') (letters : LetterCase) (n : Nat) :
    radix base ('0' :: mark :: hex letters n) = (16, hex letters n) := by
  have hhex : hasHexMark ('0' :: mark :: hex letters n) = true := by
    obtain ⟨c, more, hcons⟩ := List.exists_cons_of_ne_nil (Text.hex_ne_nil letters n)
    have hc : Text.isDigit 16 c = true := Text.isDigit_of_mem_hex (hcons ▸ List.mem_cons_self)
    rw [hcons, hasHexMark, hc]
    rcases hmark with rfl | rfl <;> rfl
  rw [radix, if_pos ⟨hbase, hhex⟩]
  rfl

/-! ### Whole numerals -/

theorem read64_decimal (n : Nat) : read64 (decimal n) 0 = (.ofNat n, []) := by
  obtain ⟨base, hradix, hvalue, hall⟩ := exists_radix_decimal n
  obtain ⟨c, more, hcons⟩ := List.exists_cons_of_ne_nil (Text.decimal_ne_nil n)
  have hc : Text.isDigit 10 c = true := Text.isDigit_of_mem_decimal (hcons ▸ List.mem_cons_self)
  have hbody : body (decimal n) 0 = (false, base, decimal n ++ []) := by
    rw [List.append_nil, ← hradix, hcons, body_of_digit hc]
  rw [read64_of_body (by decide) hbody (Text.decimal_ne_nil n) hall (Text.ends_nil _), hvalue]
  rfl

theorem read64_minus_decimal (n : Nat) : read64 ('-' :: decimal n) 0 = (-.ofNat n, []) := by
  obtain ⟨base, hradix, hvalue, hall⟩ := exists_radix_decimal n
  have hbody : body ('-' :: decimal n) 0 = (true, base, decimal n ++ []) := by
    rw [List.append_nil, ← hradix, body_minus]
  rw [read64_of_body (by decide) hbody (Text.decimal_ne_nil n) hall (Text.ends_nil _), hvalue]
  rfl

theorem read64_hex {base : Nat} (hbase : base = 0 ∨ base = 16) {mark : Char}
    (hmark : mark = 'x' ∨ mark = 'X') (letters : LetterCase) (n : Nat) :
    read64 ('0' :: mark :: hex letters n) base = (.ofNat n, []) := by
  have hbody : body ('0' :: mark :: hex letters n) base = (false, 16, hex letters n ++ []) := by
    rw [List.append_nil, ← radix_hex hbase hmark, body_of_digit (by decide)]
  have hle : base ≠ 1 ∧ base ≤ 36 := by omega
  rw [read64_of_body hle hbody (Text.hex_ne_nil letters n)
    (fun c => Text.isDigit_of_mem_hex) (Text.ends_nil _), Text.value_hex]
  rfl

end DriverPrintf.Numeral
