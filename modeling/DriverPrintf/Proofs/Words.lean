import Mathlib.Data.Nat.Bitwise
import DriverPrintf.Template.Basic

/-!
# Words — the numbers in them

A conversion of an integer looks at the low bits of a word, and reads them as a number without a
sign (`IntegerSize.number`) or in two's complement (`IntegerSize.signedNumber`).  Truncating and
extending a word is arithmetic on these numbers (`toNat_truncate`, `toInt_signExtend`).

A number that so many bits can hold is found again in the low bits of any word that is congruent to
it (`number_eq_of_holds`), so it does not matter by which way the number came into the word.
-/

namespace DriverPrintf

namespace IntegerSize

/-- The low bits of a word, as a number. -/
def number (size : IntegerSize) (raw : UInt32) : Nat := raw.toNat % 2 ^ size.bits

/-- The low bits of a word, as a number in two's complement. -/
def signedNumber (size : IntegerSize) (raw : UInt32) : Int :=
  if 2 * size.number raw < 2 ^ size.bits then size.number raw
  else size.number raw - (2 ^ size.bits : Nat)

/-- A truncated word is the number in its low bits. -/
theorem toNat_truncate (size : IntegerSize) (raw : UInt32) :
    (size.truncate raw).toNat = size.number raw := by
  cases size with
  | word => exact (Nat.mod_eq_of_lt raw.toNat_lt).symm
  | half =>
    rw [truncate, UInt32.toNat_and]
    exact Nat.and_two_pow_sub_one_eq_mod raw.toNat 16
  | byte =>
    rw [truncate, UInt32.toNat_and]
    exact Nat.and_two_pow_sub_one_eq_mod raw.toNat 8

/-- An extended word is the signed number in the low bits. -/
theorem toInt_signExtend (size : IntegerSize) (raw : UInt32) :
    (size.signExtend raw).toInt = size.signedNumber raw := by
  have hsigned : ∀ {w : Nat} (x : BitVec w), x.toNat = raw.toNat % 2 ^ w →
      x.toInt = if 2 * (raw.toNat % 2 ^ w) < 2 ^ w then ((raw.toNat % 2 ^ w : Nat) : Int)
        else (raw.toNat % 2 ^ w : Nat) - (2 ^ w : Nat) := by
    intro w x hx
    rw [BitVec.toInt_eq_toNat_cond, hx]
  cases size with
  | word => exact hsigned raw.toBitVec (Nat.mod_eq_of_lt raw.toNat_lt).symm
  | half =>
    rw [signExtend, Int16.toInt_toInt32]
    exact hsigned raw.toUInt16.toBitVec raw.toNat_toUInt16
  | byte =>
    rw [signExtend, Int8.toInt_toInt32]
    exact hsigned raw.toUInt8.toBitVec raw.toNat_toUInt8

end IntegerSize

/-- The reading of a word as a signed number. -/
theorem toInt_toInt32 (word : UInt32) :
    word.toInt32.toInt =
      if word.toNat < 0x80000000 then (word.toNat : Int) else word.toNat - 0x100000000 := by
  have hsigned : word.toInt32.toInt =
      if 2 * word.toNat < 2 ^ 32 then (word.toNat : Int) else word.toNat - (2 ^ 32 : Nat) :=
    BitVec.toInt_eq_toNat_cond word.toBitVec
  rw [hsigned]
  split <;> split <;> omega

/-- A signed number as a word is the number modulo 2^32. -/
theorem toNat_toUInt32 (n : Int32) : (n.toUInt32.toNat : Int) = n.toInt % (UInt32.size : Nat) := by
  have hsigned : n.toInt = _ := toInt_toInt32 n.toUInt32
  have hlt := n.toUInt32.toNat_lt
  rw [UInt32.size]
  split at hsigned <;> omega

namespace IntegerStyle

/-- The number that a conversion of an integer shows: with a sign in the style that has one. -/
def number (style : IntegerStyle) (size : IntegerSize) (raw : UInt32) : Int :=
  match style with
  | .signed => size.signedNumber raw
  | .unsigned | .hex _ => size.number raw

/-- The word that holds that number. -/
def word (style : IntegerStyle) (size : IntegerSize) (raw : UInt32) : UInt32 :=
  match style with
  | .signed => (size.signExtend raw).toUInt32
  | .unsigned | .hex _ => size.truncate raw

/-- The numbers that so many bits hold in a style. -/
def Holds (style : IntegerStyle) (bits : Nat) (n : Int) : Prop :=
  match style with
  | .signed => -(2 ^ bits : Nat) ≤ 2 * n ∧ 2 * n < (2 ^ bits : Nat)
  | .unsigned | .hex _ => 0 ≤ n ∧ n < (2 ^ bits : Nat)

/-- The number is what the low bits say, and nothing else of the word is shown. -/
theorem number_congr (style : IntegerStyle) {size : IntegerSize} {raw other : UInt32}
    (h : size.number raw = size.number other) :
    style.number size raw = style.number size other := by
  cases style with
  | signed => simp only [number, IntegerSize.signedNumber, h]
  | unsigned | hex => exact congrArg Int.ofNat h

theorem toNat_word (style : IntegerStyle) (size : IntegerSize) (raw : UInt32) :
    ((style.word size raw).toNat : Int) = style.number size raw % (UInt32.size : Nat) := by
  have hunsigned : ((size.truncate raw).toNat : Int) =
      (size.number raw : Int) % (UInt32.size : Nat) := by
    rw [← IntegerSize.toNat_truncate]
    have hlt := (size.truncate raw).toNat_lt
    rw [UInt32.size]
    omega
  cases style with
  | unsigned | hex => exact hunsigned
  | signed => rw [number, ← IntegerSize.toInt_signExtend, word, toNat_toUInt32]

theorem Holds.mono {style : IntegerStyle} {bits more : Nat} {n : Int} (h : style.Holds bits n)
    (hle : bits ≤ more) : style.Holds more n := by
  have hpow : (2 : Nat) ^ bits ≤ 2 ^ more := Nat.pow_le_pow_right (by decide) hle
  cases style with
  | signed =>
    obtain ⟨hlow, hhigh⟩ := h
    exact ⟨by omega, by omega⟩
  | unsigned | hex =>
    obtain ⟨hlow, hhigh⟩ := h
    exact ⟨hlow, by omega⟩

/-- **A number that fits** is found in the low bits of each word that is congruent to it. -/
theorem number_eq_of_holds {style : IntegerStyle} {size : IntegerSize} {raw : UInt32} {n : Int}
    (h : style.Holds size.bits n) (hraw : (raw.toNat : Int) = n % (UInt32.size : Nat)) :
    style.number size raw = n := by
  have hlow : (size.number raw : Int) = n % (2 ^ size.bits : Nat) := by
    have hdvd : ((2 ^ size.bits : Nat) : Int) ∣ (UInt32.size : Nat) := by
      cases size <;> decide
    rw [IntegerSize.number, Int.natCast_emod, hraw, Int.emod_emod_of_dvd n hdvd]
  cases style with
  | unsigned | hex =>
    obtain ⟨hnonneg, hlt⟩ := h
    exact hlow.trans (Int.emod_eq_of_lt hnonneg hlt)
  | signed =>
    obtain ⟨hleast, hgreatest⟩ := h
    rw [number, IntegerSize.signedNumber]
    by_cases hn : 0 ≤ n
    · rw [Int.emod_eq_of_lt hn (by omega)] at hlow
      rw [if_pos (by omega), hlow]
    · rw [← Int.add_emod_right, Int.emod_eq_of_lt (by omega) (by omega)] at hlow
      rw [if_neg (by omega), hlow]
      omega

end IntegerStyle

end DriverPrintf
