import DriverPrintf.Proofs.Numeral.Parts
import DriverPrintf.Proofs.Render.Fields
import DriverPrintf.Proofs.Text.Utf8

/-!
# Reading back what was written

An integer in its field is a numeral with parts of its own: spaces in front, the sign, zeros and
then the digits, and spaces behind (`fieldParts`).  Asked for in the base it was written in, it has
no base mark: a zero that fills the field has a digit behind it, and not an `x`.  The zeros are
worth nothing, however many they are, so what is read is the number that was written.

A value of a machine type of at most 32 bits (`MachineInteger`) is passed as a word that is
congruent to it, and a conversion that is wide enough finds it there.

* **Integers are read back** (`integers_read_back`): the word that is read of every conversion of
  an integer, what is left of the text, and the value of each type that fits.
-/

namespace DriverPrintf

open Text (utf8)
open Numeral (Sign Parts read32)

/-! ### The parts of a field -/

/-- A number in a field, as a numeral in a base that is asked for. -/
def fieldParts (base before zeros after : Nat) (sign : Sign) (digits : Text) : Parts where
  blanks := List.replicate before ' '
  sign := sign
  mark := []
  radix := base
  digits := List.replicate zeros '0' ++ digits
  rest := List.replicate after ' '

/-- The base an integer is written in. -/
def IntegerStyle.base : IntegerStyle → Nat
  | .signed | .unsigned => 10
  | .hex _ => 16

theorem IntegerStyle.base_bounds (style : IntegerStyle) :
    0 < style.base ∧ style.base ≠ 1 ∧ style.base ≤ 16 := by
  cases style with
  | signed | unsigned => decide
  | hex letters => cases letters <;> decide

/-- Spaces are blank, in front of a number and behind it. -/
theorem isAsciiBlank_of_mem_spaces {n : Nat} {c : Char} (h : c ∈ List.replicate n ' ') :
    Text.isAsciiBlank c = true := by
  obtain rfl := (List.mem_replicate.mp h).2
  rfl

/-- The parts of a field end where they do in the base of its digits. -/
theorem wellFormed_fieldParts {base : Nat} (hpos : 0 < base) (hle : base ≤ 16) {digits : Text}
    (hne : digits ≠ []) (hdigit : ∀ c ∈ digits, Text.isDigit base c = true)
    (before zeros after : Nat) (sign : Sign) :
    (fieldParts base before zeros after sign digits).WellFormed base := by
  have hzero : ∀ b ∈ List.range 17, 0 < b → Text.isDigit b '0' = true := by decide
  have hall : ∀ c ∈ List.replicate zeros '0' ++ digits, Text.isDigit base c = true := by
    intro c hc
    rcases List.mem_append.mp hc with hfill | hown
    · obtain rfl := (List.mem_replicate.mp hfill).2
      exact hzero base (List.mem_range.mpr (Nat.lt_succ_of_le hle)) hpos
    · exact hdigit c hown
  have hrest : ∀ c ∈ List.replicate after ' ', Text.isBlank c = true :=
    fun c hc => Text.isBlank_of_isAsciiBlank (isAsciiBlank_of_mem_spaces hc)
  obtain ⟨c, more, hcons⟩ : ∃ c more, List.replicate zeros '0' ++ digits = c :: more :=
    List.exists_cons_of_ne_nil (List.append_ne_nil_of_right_ne_nil _ hne)
  have hunsigned : (fieldParts base before zeros after sign digits).unsigned =
      c :: (more ++ List.replicate after ' ') := by
    rw [Parts.unsigned, Parts.numeral, fieldParts, hcons, List.nil_append, List.cons_append]
  exact Parts.wellFormed_of_digits (fun c => isAsciiBlank_of_mem_spaces) hunsigned
    (hall c (hcons ▸ List.mem_cons_self))
    (.asked (Nat.ne_of_gt hpos) fun _ => Numeral.not_hexMarked_of_digits hle hall hrest) hall hrest

/-- The digits that show a number are those of a numeral of it. -/
theorem IntegerStyle.Writes.digits {style : IntegerStyle} {n : Nat} {digits : Text}
    (h : style.Writes n digits) : digits ≠ [] ∧ (∀ c ∈ digits, Text.isDigit style.base c = true) ∧
      Text.value style.base digits = n := by
  cases style with
  | signed | unsigned =>
    obtain rfl := Text.isDecimal_iff.mp h
    exact ⟨Text.decimal_ne_nil n, fun c => Text.isDigit_of_mem_decimal, Text.value_decimal n⟩
  | hex letters =>
    obtain rfl := Text.isHexIn_iff.mp h
    exact ⟨Text.hex_ne_nil letters n, fun c => Text.isDigit_of_mem_hex, Text.value_hex letters n⟩

/-- A number in a field is read as the word that holds it, and the spaces behind it are left. -/
theorem read32_fieldParts {style : IntegerStyle} {n : Int} {digits : Text} {sign : Sign}
    {word : UInt32} (hsign : sign.apply n.natAbs = n) (hdigits : style.Writes n.natAbs digits)
    (hword : (word.toNat : Int) = n % (UInt32.size : Nat)) (before zeros after : Nat) :
    read32 (fieldParts style.base before zeros after sign digits).text style.base =
      (word, List.replicate after ' ') := by
  obtain ⟨hpos, hone, hle⟩ := style.base_bounds
  obtain ⟨hne, hdigit, hvalue⟩ := hdigits.digits
  have hparts := wellFormed_fieldParts hpos hle hne hdigit before zeros after sign
  obtain ⟨hread, hrest⟩ := hparts.toNat_read64_text ⟨hone, by omega⟩
    (List.append_ne_nil_of_right_ne_nil _ hne)
  have hn : (fieldParts style.base before zeros after sign digits).value = n := by
    rw [Parts.value, fieldParts, Text.value_zeros, hvalue, hsign]
  rw [hn] at hread
  refine Prod.ext ?_ hrest
  rw [← UInt32.toNat_inj]
  exact Int.ofNat_inj.mp ((Numeral.toNat_toUInt32_of_toNat hread).trans hword.symm)

/-- A text is read as a word, and only spaces that fill its field on the right are left. -/
def ReadsBack (padding : Padding) (base : Nat) (text : Text) (word : UInt32) : Prop :=
  ∃ spaces, read32 text base = (word, List.replicate spaces ' ') ∧
    (spaces ≠ 0 → padding = .spacesAfter)

/-- A number is shown with the sign that it has. -/
theorem IntegerStyle.Shows.exists_sign {style : IntegerStyle} {n : Int} {signText digits : Text}
    (h : style.Shows n signText digits) :
    ∃ sign : Sign, signText = sign.spelling ∧ sign.apply n.natAbs = n := by
  have hsign := h.sign
  by_cases hneg : n < 0
  · rw [if_pos hneg] at hsign
    have happly : -(n.natAbs : Int) = n := by omega
    exact ⟨.minus, hsign, happly⟩
  · rw [if_neg hneg] at hsign
    exact ⟨.none, hsign, Int.natAbs_of_nonneg (Int.not_lt.mp hneg)⟩

/-- A field is the text of its parts. -/
theorem IsField.exists_fieldParts {width : Nat} {signText digits : Text} {padding : Padding}
    {field : Bytes} (h : IsField width (utf8 signText) (utf8 digits) padding field) {sign : Sign}
    (hsign : signText = sign.spelling) (base : Nat) :
    ∃ before zeros after, field = utf8 (fieldParts base before zeros after sign digits).text ∧
      (after ≠ 0 → padding = .spacesAfter) := by
  have hspaces : ∀ n, utf8 (List.replicate n ' ') = List.replicate n 0x20 :=
    @Text.utf8_replicate 0x20 (by decide)
  have hzeros : ∀ n, utf8 (List.replicate n '0') = List.replicate n 0x30 :=
    @Text.utf8_replicate 0x30 (by decide)
  have htext : ∀ before zeros after,
      utf8 (fieldParts base before zeros after sign digits).text =
        List.replicate before 0x20 ++ utf8 signText ++ List.replicate zeros 0x30 ++ utf8 digits ++
          List.replicate after 0x20 := by
    intro before zeros after
    simp only [Parts.text, Parts.signed, Parts.unsigned, Parts.numeral, fieldParts,
      Text.utf8_append, hspaces, hzeros, hsign, List.nil_append, List.append_assoc]
  cases h with
  | @spacesBefore fill => exact ⟨fill, 0, 0, by simp [htext], fun h => absurd rfl h⟩
  | @zeros fill => exact ⟨0, fill, 0, by simp [htext], fun h => absurd rfl h⟩
  | @spacesAfter fill => exact ⟨0, 0, fill, by simp [htext], fun _ => rfl⟩

/-! ### Words and values -/

/-- What a conversion of an integer prints is read back as its word. -/
theorem exists_prints_integer (layout : FieldLayout) (size : IntegerSize) (style : IntegerStyle)
    (raw : UInt32) : ∃ text, (Tail.integer size style).Prints layout (.integer raw) text ∧
      ReadsBack layout.padding style.base text (style.word size raw) := by
  have hshows : style.Shows (style.number size raw) _ _ := IntegerStyle.shows_iff.mpr ⟨rfl, rfl⟩
  obtain ⟨sign, hspelling, hnumber⟩ := hshows.exists_sign
  have hfield : IsField layout.width (utf8 (style.text size raw).1) (utf8 (style.text size raw).2)
      layout.padding (layout.pad (utf8 (style.text size raw).1) (utf8 (style.text size raw).2)) :=
    FieldLayout.isField_iff.mpr rfl
  obtain ⟨before, zeros, after, htext, hafter⟩ := hfield.exists_fieldParts hspelling style.base
  have hread := read32_fieldParts hnumber hshows.digits (style.toNat_word size raw) before zeros
    after
  exact ⟨_, Tail.prints_of_render? (congrArg some htext), after, hread, hafter⟩

/-- A value of a machine type that a word holds. -/
inductive MachineInteger where
  | int8 (value : Int8)
  | int16 (value : Int16)
  | int32 (value : Int32)
  | uint8 (value : UInt8)
  | uint16 (value : UInt16)
  | uint32 (value : UInt32)

namespace MachineInteger

/-- The argument that a value is passed as. -/
def arg : MachineInteger → Arg
  | .int8 value => toArg value
  | .int16 value => toArg value
  | .int32 value => toArg value
  | .uint8 value => toArg value
  | .uint16 value => toArg value
  | .uint32 value => toArg value

def number : MachineInteger → Int
  | .int8 value => value.toInt
  | .int16 value => value.toInt
  | .int32 value => value.toInt
  | .uint8 value => value.toNat
  | .uint16 value => value.toNat
  | .uint32 value => value.toNat

/-- The number of bits of the type. -/
def bits : MachineInteger → Nat
  | .int8 _ | .uint8 _ => 8
  | .int16 _ | .uint16 _ => 16
  | .int32 _ | .uint32 _ => 32

/-- The style of a type: signed or unsigned, in decimal. -/
def style : MachineInteger → IntegerStyle
  | .int8 _ | .int16 _ | .int32 _ => .signed
  | .uint8 _ | .uint16 _ | .uint32 _ => .unsigned

/-- The word that a value is passed as is congruent to it. -/
theorem exists_arg (value : MachineInteger) :
    ∃ raw, value.arg = .integer raw ∧ (raw.toNat : Int) = value.number % (UInt32.size : Nat) := by
  have hunsigned : ∀ n : UInt32, (n.toNat : Int) = (n.toNat : Int) % (UInt32.size : Nat) :=
    fun n => (Int.emod_eq_of_lt (Int.natCast_nonneg _) (Int.ofNat_lt.mpr n.toNat_lt)).symm
  cases value with
  | int8 value =>
    refine ⟨_, rfl, ?_⟩
    rw [toNat_toUInt32, Int8.toInt_toInt32]
    rfl
  | int16 value =>
    refine ⟨_, rfl, ?_⟩
    rw [toNat_toUInt32, Int16.toInt_toInt32]
    rfl
  | int32 value => exact ⟨_, rfl, toNat_toUInt32 value⟩
  | uint8 value => exact ⟨_, rfl, hunsigned value.toUInt32⟩
  | uint16 value => exact ⟨_, rfl, hunsigned value.toUInt32⟩
  | uint32 value => exact ⟨_, rfl, hunsigned value⟩

/-- A type holds its values. -/
theorem holds (value : MachineInteger) : value.style.Holds value.bits value.number := by
  have hsigned : ∀ {w : Nat} (x : BitVec w), IntegerStyle.signed.Holds w x.toInt := by
    intro w x
    have hlow := x.le_two_mul_toInt
    have hhigh := x.two_mul_toInt_lt
    exact ⟨by simpa using hlow, by simpa using hhigh⟩
  have hunsigned : ∀ {w : Nat} (x : BitVec w), IntegerStyle.unsigned.Holds w x.toNat :=
    fun x => ⟨Int.natCast_nonneg _, Int.ofNat_lt.mpr x.isLt⟩
  cases value with
  | int8 value => exact hsigned value.toBitVec
  | int16 value => exact hsigned value.toBitVec
  | int32 value => exact hsigned value.toBitVec
  | uint8 value => exact hunsigned value.toBitVec
  | uint16 value => exact hunsigned value.toBitVec
  | uint32 value => exact hunsigned value.toBitVec

end MachineInteger

/-- **Integers are read back.**  What a conversion of an integer prints, whatever its flag and its
width, is read in its base as the word that holds the number shown, and only spaces that fill the
field on the right are left.  A value of a machine type, printed with a size that is no less than
its own, is read as the word that it was passed as, and that word is the value. -/
theorem integers_read_back (layout : FieldLayout) (size : IntegerSize) :
    (∀ raw, ∃ text, (Tail.integer size .signed).Prints layout (.integer raw) text ∧
      ReadsBack layout.padding 10 text (size.signExtend raw).toUInt32) ∧
    (∀ raw, ∃ text, (Tail.integer size .unsigned).Prints layout (.integer raw) text ∧
      ReadsBack layout.padding 10 text (size.truncate raw)) ∧
    (∀ letters raw, ∃ text, (Tail.integer size (.hex letters)).Prints layout (.integer raw) text ∧
      ReadsBack layout.padding 16 text (size.truncate raw)) ∧
    ∀ value : MachineInteger, value.bits ≤ size.bits → ∃ text word,
      (Tail.integer size value.style).Prints layout value.arg text ∧
      ReadsBack layout.padding 10 text word ∧ value.arg = .integer word ∧
      value.style.number .word word = value.number := by
  refine ⟨exists_prints_integer layout size .signed, exists_prints_integer layout size .unsigned,
    fun letters => exists_prints_integer layout size (.hex letters), fun value hbits => ?_⟩
  obtain ⟨raw, harg, hraw⟩ := value.exists_arg
  obtain ⟨text, hprints, hreads⟩ := exists_prints_integer layout size value.style raw
  -- the conversion shows the value, and the word that holds it is the one that was passed
  have hnumber : value.style.number size raw = value.number :=
    IntegerStyle.number_eq_of_holds (value.holds.mono hbits) hraw
  have hword : value.style.word size raw = raw := by
    have hmod := value.style.toNat_word size raw
    rw [hnumber, ← hraw] at hmod
    exact UInt32.toNat_inj.mp (Int.ofNat_inj.mp hmod)
  have hbase : value.style.base = 10 := by
    cases value <;> rfl
  have hfits : value.bits ≤ IntegerSize.word.bits := by
    cases value <;> simp [MachineInteger.bits, IntegerSize.bits]
  rw [hword, hbase] at hreads
  refine ⟨text, raw, by rwa [harg], hreads, harg, ?_⟩
  exact IntegerStyle.number_eq_of_holds (value.holds.mono hfits) hraw

/-- A negative byte in the low half of a word, with zeros behind its sign. -/
theorem integers_read_back_negative_byte :
    (MachineInteger.int8 (-5)).bits ≤ IntegerSize.half.bits ∧ ∃ text,
      (Tail.integer .half .signed).Prints ⟨.zeros, 6⟩ (toArg (-5 : Int8)) text ∧
      ReadsBack .zeros 10 text 0xfffffffb ∧ IntegerSize.word.signedNumber 0xfffffffb = -5 := by
  have hbits : (MachineInteger.int8 (-5)).bits ≤ IntegerSize.half.bits := by decide
  obtain ⟨-, -, -, hvalues⟩ := integers_read_back ⟨.zeros, 6⟩ .half
  obtain ⟨text, word, hprints, hreads, harg, hnumber⟩ := hvalues (.int8 (-5)) hbits
  have hword : 0xfffffffb = word := Arg.integer.inj harg
  subst hword
  exact ⟨hbits, text, hprints, hreads, hnumber⟩

end DriverPrintf
