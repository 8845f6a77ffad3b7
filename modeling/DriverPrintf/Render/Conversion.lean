import DriverPrintf.Template.Basic

/-!
# Render — one conversion

The bytes a conversion makes of its argument.  A padded field is never shorter than its width and
never cut (`length_pad`).  Addresses begin with a mark of their base, which does not depend on the
argument and is written before it is looked at (`Conversion.mark`); all else that a conversion
writes is made of its argument, and an argument that does not suit makes nothing (`body?`).
`body?_isSome` says which arguments suit.
-/

namespace DriverPrintf

open Text (utf8)

/-- A field of at least the given width; zeros go between the sign and the body. -/
def FieldLayout.pad (layout : FieldLayout) (sign body : Bytes) : Bytes :=
  let missing := layout.width - (sign.length + body.length)
  match layout.padding with
  | .spacesBefore => List.replicate missing 0x20 ++ sign ++ body
  | .zeros => sign ++ List.replicate missing 0x30 ++ body
  | .spacesAfter => sign ++ body ++ List.replicate missing 0x20

theorem FieldLayout.length_pad (layout : FieldLayout) (sign body : Bytes) :
    (layout.pad sign body).length = max layout.width (sign.length + body.length) := by
  obtain ⟨padding, width⟩ := layout
  cases padding <;> simp [FieldLayout.pad] <;> omega

/-- The sign and the digits of a word, of which the conversion looks at `size`. -/
def IntegerStyle.text (style : IntegerStyle) (size : IntegerSize) (raw : UInt32) : Text × Text :=
  match style with
  | .signed =>
    let value := size.signExtend raw
    (if value < 0 then ['-'] else [], Text.decimal value.toInt.natAbs)
  | .unsigned => ([], Text.decimal (size.truncate raw).toNat)
  | .hex letters => ([], Text.hex letters (size.truncate raw).toNat)

/-- The number in bits `first` to `last` of a word. -/
def bitRange (first last word : UInt32) : UInt32 :=
  (word >>> first) &&& (((1 : UInt64) <<< (last - first + 1).toUInt64) - 1).toUInt32

/-- What an entry of a descriptor shows of a word, if anything. -/
def BitField.shown? (word : UInt32) : BitField → Option Text
  | .flag bit inverted name =>
    if ((word >>> bit) &&& 1 == 1) != inverted then some name else none
  | .range first last name labels =>
    let value := bitRange first last word
    let label := match labels.find? (fun label => label.1 == value) with
      | some label => label.2
      | none => Text.hex .lower value.toNat
    some (name ++ '=' :: label)

/-- The entries that show something, in the order of the descriptor. -/
def Bitset.text (descriptor : Bitset) (word : UInt32) : Text :=
  '<' :: [',', ' '].intercalate (descriptor.fields.filterMap (BitField.shown? word)) ++ ['>']

namespace Conversion

/-- What a conversion writes before it takes its argument: the base mark of an address. -/
def mark : Conversion → Text
  | .pointer _ | .busAddress _ => ['0', 'x']
  | _ => []

/-- The bytes of a conversion after its mark, if the argument suits it.  `%c` also takes an integer
and writes its low byte. -/
def body? : Conversion → Arg → Option Bytes
  | .integer layout size style, .integer raw =>
    some (layout.pad (utf8 (style.text size raw).1) (utf8 (style.text size raw).2))
  | .string layout, .string bytes => some (layout.pad [] bytes)
  | .char, .char byte => some [byte]
  | .char, .integer raw => some [raw.toUInt8]
  | .pointer letters, .pointer address => some (utf8 (Text.hex letters address.toNat))
  | .busAddress letters, .busAddress address => some (utf8 (Text.hex letters address.toNat))
  | .bitset descriptor, .integer raw => some (utf8 (descriptor.text raw))
  | _, _ => none

/-- An argument suits a conversion that takes its kind; an integer also suits `%c`. -/
theorem body?_isSome (conversion : Conversion) (arg : Arg) :
    (conversion.body? arg).isSome ↔
      arg.kind = conversion.argKind ∨ conversion = .char ∧ arg.kind = .integer := by
  cases conversion <;> cases arg <;> simp [body?, argKind, Arg.kind]

/-- All the bytes of a conversion, if the argument suits it. -/
def render? (conversion : Conversion) (arg : Arg) : Option Bytes :=
  (conversion.body? arg).map (utf8 conversion.mark ++ ·)

end Conversion

end DriverPrintf
