import DriverPrintf.Arg
import DriverPrintf.Text.Digits

/-!
# Template — segments and conversions

A template is literal text with conversions in it; each conversion takes one argument.

| Conversion             | Argument           |
|------------------------|--------------------|
| `%d %u %x %X`          | 32-bit integer     |
| `%hd %hu %hx %hX`      | 16-bit integer     |
| `%bd %bu %bx %bX`      | 8-bit integer      |
| `%s`                   | string             |
| `%c`                   | single byte        |
| `%p %P`                | pointer            |
| `%a %A`                | 64-bit bus address |
| `%<...>`               | 32-bit bitset      |

Integers and strings have a minimum field width and a way of filling it.
-/

namespace DriverPrintf

/-- How a field that is shorter than its width is filled. -/
inductive Padding where
  /-- Spaces before the field. -/
  | spacesBefore
  /-- Zeros between the sign and the digits (flag `0`). -/
  | zeros
  /-- Spaces after the field (flag `-`). -/
  | spacesAfter
deriving DecidableEq, Repr

/-- The padding and the minimum width of a conversion. -/
structure FieldLayout where
  padding : Padding
  width : Nat
deriving DecidableEq, Repr

/-- How much of an integer argument a conversion looks at. -/
inductive IntegerSize where
  | word
  /-- Size letter `h`. -/
  | half
  /-- Size letter `b`. -/
  | byte
deriving DecidableEq, Repr

namespace IntegerSize

/-- The number of bits. -/
def bits : IntegerSize → Nat
  | .word => 32
  | .half => 16
  | .byte => 8

/-- The low bits of a word, read as an unsigned number. -/
def truncate : IntegerSize → UInt32 → UInt32
  | .word, raw => raw
  | .half, raw => raw &&& 0xffff
  | .byte, raw => raw &&& 0xff

/-- The low bits of a word, read as a two's complement number. -/
def signExtend : IntegerSize → UInt32 → Int32
  | .word, raw => raw.toInt32
  | .half, raw => raw.toUInt16.toInt16.toInt32
  | .byte, raw => raw.toUInt8.toInt8.toInt32

end IntegerSize

/-- The notation of an integer. -/
inductive IntegerStyle where
  | signed
  | unsigned
  | hex (letters : LetterCase)
deriving DecidableEq, Repr

/-- The style a conversion letter names. -/
def IntegerStyle.ofLetter? : Char → Option IntegerStyle
  | 'd' => some .signed
  | 'u' => some .unsigned
  | 'x' => some (.hex .lower)
  | 'X' => some (.hex .upper)
  | _ => none

/-- An entry of a bitset descriptor. -/
inductive BitField where
  /-- `N=Name`, shown when bit N is set, or `~N=Name`, shown when it is not. -/
  | flag (bit : UInt32) (inverted : Bool) (name : Text)
  /-- `S-E=Name:V=Label...`: the number in bits S to E, always shown, by the label of its value
  if it has one. -/
  | range (first last : UInt32) (name : Text) (labels : List (UInt32 × Text))
deriving DecidableEq, Repr

/-- The descriptor of a `%<...>` conversion. -/
structure Bitset where
  fields : List BitField
deriving DecidableEq, Repr

/-- How the next argument is written. -/
inductive Conversion where
  | integer (layout : FieldLayout) (size : IntegerSize) (style : IntegerStyle)
  | string (layout : FieldLayout)
  | char
  | pointer (letters : LetterCase)
  | busAddress (letters : LetterCase)
  | bitset (descriptor : Bitset)
deriving DecidableEq, Repr

/-- The kind of argument a conversion takes. -/
def Conversion.argKind : Conversion → ArgKind
  | .integer .. => .integer
  | .string _ => .string
  | .char => .char
  | .pointer _ => .pointer
  | .busAddress _ => .busAddress
  | .bitset _ => .integer

/-- A piece of a template. -/
inductive Segment where
  /-- Text that is copied to the output. -/
  | literal (text : Text)
  | conversion (conversion : Conversion)
deriving DecidableEq, Repr

/-- The conversion of a segment that is one. -/
def Segment.conversion? : Segment → Option Conversion
  | .literal _ => none
  | .conversion c => some c

end DriverPrintf
