import DriverPrintf.Proofs.Command.Writing
import DriverPrintf.Proofs.Render.Fields

/-!
# Command — addresses

A pointer or a bus address is printed as its mark `0x` and its numeral in hexadecimal, in letters of
the case that the conversion asks for.  A flag and a width have no effect on it.  Whether a base is
asked for or not, the mark is found again and all the 64 bits are read (`Numeral.read64_hex`).

* **Addresses are read back** (`addresses_read_back`): what is printed, what is read of it, and that
  no two addresses are printed alike.
-/

namespace DriverPrintf

open Text (utf8)
open Numeral (read64)

/-- The kinds of address. -/
inductive AddressKind where
  | pointer
  | busAddress

namespace AddressKind

/-- The conversion of a kind, with its letters in a case. -/
def tail : AddressKind → LetterCase → Tail
  | .pointer, letters => .pointer letters
  | .busAddress, letters => .busAddress letters

def arg : AddressKind → UInt64 → Arg
  | .pointer, address => .pointer address
  | .busAddress, address => .busAddress address

end AddressKind

/-- The layout of a conversion makes no difference to an address. -/
theorem render?_address (kind : AddressKind) (letters : LetterCase) (layout : FieldLayout)
    (address : UInt64) : ((kind.tail letters).conversion layout).render? (kind.arg address) =
      some (utf8 ('0' :: 'x' :: Text.hex letters address.toNat)) := by
  cases kind <;> rfl

/-- What is printed of an address is one of the ways to write it as an argument. -/
theorem writtenAs_address (kind : AddressKind) (letters : LetterCase) (address : UInt64) :
    WrittenAs (kind.arg address) ('0' :: 'x' :: Text.hex letters address.toNat) := by
  have hhex : IsHex address.toNat ('0' :: 'x' :: Text.hex letters address.toNat) :=
    .intro (.inl rfl) letters
  cases kind with
  | pointer => exact .pointerHex hhex
  | busAddress => exact .busAddressHex hhex

/-- An address is read back in every base in which its mark is one. -/
theorem read64_address (letters : LetterCase) (address : UInt64) {base : Nat}
    (hbase : base = 0 ∨ base = 16) :
    read64 ('0' :: 'x' :: Text.hex letters address.toNat) base = (address, []) := by
  rw [Numeral.read64_hex hbase (.inl rfl), UInt64.ofNat_toNat]

/-- **Addresses are read back.**  Whatever its flag and its width, a conversion of an address prints
`0x` and the only numeral of the address in its letters.  In base 0 and in base 16 all of that is
read as the address, and as an argument it is the one that was printed.  Another address is not
printed alike by any conversion of addresses. -/
theorem addresses_read_back (kind : AddressKind) (letters : LetterCase) (layout : FieldLayout)
    (address : UInt64) :
    (∃ digits, Text.IsHexIn letters address.toNat digits ∧
      (kind.tail letters).Prints layout (kind.arg address) ('0' :: 'x' :: digits) ∧
      read64 ('0' :: 'x' :: digits) 0 = (address, []) ∧
      read64 ('0' :: 'x' :: digits) 16 = (address, []) ∧
      Arguments.ofText (kind.arg address).kind ('0' :: 'x' :: digits) = .ok (kind.arg address)) ∧
    ∀ (kind' : AddressKind) (letters' : LetterCase) (layout' : FieldLayout) (address' : UInt64),
      address ≠ address' →
      ((kind.tail letters).conversion layout).render? (kind.arg address) ≠
        ((kind'.tail letters').conversion layout').render? (kind'.arg address') := by
  refine ⟨⟨Text.hex letters address.toNat, Text.isHexIn_iff.mpr rfl,
    Tail.prints_of_render? (render?_address kind letters layout address),
    read64_address letters address (.inl rfl), read64_address letters address (.inr rfl),
    Arguments.ofText_of_writtenAs (writtenAs_address kind letters address)⟩, ?_⟩
  intro kind' letters' layout' address' hne h
  rw [render?_address, render?_address, Option.some.injEq] at h
  -- the same bytes are the same text, of which one address is read
  have htext : '0' :: 'x' :: Text.hex letters address.toNat =
      '0' :: 'x' :: Text.hex letters' address'.toNat := by
    rw [← Text.decodeLossy_utf8 ('0' :: 'x' :: Text.hex letters address.toNat), h,
      Text.decodeLossy_utf8]
  have hread := read64_address letters address (.inl rfl)
  rw [htext, read64_address letters' address' (.inl rfl)] at hread
  exact hne (Prod.mk.inj hread).1.symm

/-- The greatest address in upper case, which has all the digits that there can be, and 0. -/
theorem addresses_read_back_greatest :
    (0xffffffffffffffff : UInt64) ≠ 0 ∧
      (Conversion.pointer .upper).render? (.pointer 0xffffffffffffffff) ≠
        (Conversion.busAddress .lower).render? (.busAddress 0) ∧
      (Tail.pointer .upper).Prints ⟨.zeros, 20⟩ (.pointer 0xffffffffffffffff)
        "0xFFFFFFFFFFFFFFFF".toList ∧
      read64 "0xFFFFFFFFFFFFFFFF".toList 16 = (0xffffffffffffffff, []) := by
  have hne : (0xffffffffffffffff : UInt64) ≠ 0 := by decide
  obtain ⟨⟨digits, hhex, hprints, -, hread, -⟩, hdistinct⟩ :=
    addresses_read_back .pointer .upper ⟨.zeros, 20⟩ 0xffffffffffffffff
  obtain rfl : digits = "FFFFFFFFFFFFFFFF".toList :=
    (Text.isHexIn_iff.mp hhex).trans (by decide +kernel)
  exact ⟨hne, hdistinct .busAddress .lower ⟨.zeros, 20⟩ 0 hne, hprints, hread⟩

end DriverPrintf
