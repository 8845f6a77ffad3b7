import DriverPrintf.Text.Utf8

/-!
# Arguments

A positional argument is a raw machine value of one of five kinds.  An integer is a 32-bit word
whatever its source: the conversion that prints it decides its size and whether it is signed.
`ToArg` says which argument a typed value becomes; a signed value keeps its two's complement.
-/

namespace DriverPrintf

/-- The kinds of value a conversion takes. -/
inductive ArgKind where
  | integer
  | string
  | char
  | pointer
  | busAddress
deriving DecidableEq, Repr

/-- The name of a kind in messages and reports. -/
def ArgKind.name : ArgKind → String
  | .integer => "integer"
  | .string => "string"
  | .char => "char"
  | .pointer => "pointer"
  | .busAddress => "bus address"

/-- An argument of a call. -/
inductive Arg where
  | integer (word : UInt32)
  | string (bytes : Bytes)
  | char (byte : UInt8)
  | pointer (address : UInt64)
  | busAddress (address : UInt64)
deriving DecidableEq, Repr

/-- The kind of an argument. -/
def Arg.kind : Arg → ArgKind
  | .integer _ => .integer
  | .string _ => .string
  | .char _ => .char
  | .pointer _ => .pointer
  | .busAddress _ => .busAddress

/-- The types whose values can be passed as they are. -/
class ToArg (α : Type) where
  /-- The argument a value becomes. -/
  toArg : α → Arg

export ToArg (toArg)

instance : ToArg UInt8 := ⟨fun value => .integer value.toUInt32⟩
instance : ToArg UInt16 := ⟨fun value => .integer value.toUInt32⟩
instance : ToArg UInt32 := ⟨.integer⟩
instance : ToArg Bool := ⟨fun value => .integer value.toUInt32⟩
instance : ToArg Int8 := ⟨fun value => .integer value.toInt32.toUInt32⟩
instance : ToArg Int16 := ⟨fun value => .integer value.toInt32.toUInt32⟩
instance : ToArg Int32 := ⟨fun value => .integer value.toUInt32⟩

/-- A 64-bit value is a bus address. -/
instance : ToArg UInt64 := ⟨.busAddress⟩

instance : ToArg Bytes := ⟨.string⟩

/-- A string is passed as its UTF-8 bytes. -/
instance : ToArg String := ⟨fun value => .string (Text.utf8 value.toList)⟩

end DriverPrintf
