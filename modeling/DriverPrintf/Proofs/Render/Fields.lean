import DriverPrintf.Proofs.Render.Outcome
import DriverPrintf.Proofs.Template.Grammar
import DriverPrintf.Proofs.Text.Digits
import DriverPrintf.Proofs.Words

/-!
# Render — fields

Integers and strings are written in fields of at least a given width.  `IsField` says what a field
is without counting what is missing: the sign and the body, with as many spaces or zeros as make up
the width, on the side that the padding names.  What stands in it is the numeral of a number
(`IntegerStyle.Shows`), which is the only one without leading zeros; a string has no sign and is its
own body.

A template that is a single specification is rendered as its conversion
(`render_specification`), so what is said of conversions holds of templates.

* **Fields are padded** (`fields_are_padded`): which field each integer and each string is written
  as, how long it is, and what it depends on.
* **A character is one byte** (`character_is_one_byte`): it is not in a field, and of an integer it
  is the number in the low bits.
-/

namespace DriverPrintf

open Text (utf8)

/-! ### What stands in a field -/

/-- `digits` is the numeral of `n` in a style. -/
def IntegerStyle.Writes : IntegerStyle → Nat → Text → Prop
  | .signed | .unsigned => Text.IsDecimal
  | .hex letters => Text.IsHexIn letters

/-- The sign and the digits that a number is shown with. -/
structure IntegerStyle.Shows (style : IntegerStyle) (n : Int) (sign digits : Text) : Prop where
  sign : sign = if n < 0 then ['-'] else []
  digits : style.Writes n.natAbs digits

/-- What a conversion of an integer shows is its number. -/
theorem IntegerStyle.shows_iff {style : IntegerStyle} {size : IntegerSize} {raw : UInt32}
    {sign digits : Text} :
    style.Shows (style.number size raw) sign digits ↔
      sign = (style.text size raw).1 ∧ digits = (style.text size raw).2 := by
  have hplain : ¬ (size.number raw : Int) < 0 := by omega
  have hword := IntegerSize.toNat_truncate size raw
  have hdigits : style.Writes (style.number size raw).natAbs digits ↔
      digits = (style.text size raw).2 := by
    cases style with
    | signed =>
      rw [number, ← IntegerSize.toInt_signExtend]
      exact Text.isDecimal_iff
    | unsigned =>
      rw [number, Int.natAbs_natCast, ← hword]
      exact Text.isDecimal_iff
    | hex letters =>
      rw [number, Int.natAbs_natCast, ← hword]
      exact Text.isHexIn_iff
  have hsign : (if style.number size raw < 0 then ['-'] else []) = (style.text size raw).1 := by
    cases style with
    | signed =>
      have hneg : size.signExtend raw < 0 ↔ (size.signExtend raw).toInt < 0 :=
        Int32.lt_iff_toInt_lt
      rw [number, ← IntegerSize.toInt_signExtend]
      exact if_congr hneg.symm rfl rfl
    | unsigned | hex => exact if_neg hplain
  rw [← hsign, ← hdigits]
  constructor
  · rintro ⟨hsign, hdigits⟩
    exact ⟨hsign, hdigits⟩
  · rintro ⟨hsign, hdigits⟩
    exact ⟨hsign, hdigits⟩

/-! ### Fields -/

/-- The fields of a width with a sign and a body: nothing of these is left out, and the filling
makes up the width. -/
inductive IsField (width : Nat) (sign body : Bytes) : Padding → Bytes → Prop where
  | spacesBefore {fill : Nat}
      (h : fill + (sign ++ body).length = max width (sign ++ body).length) :
      IsField width sign body .spacesBefore (List.replicate fill 0x20 ++ sign ++ body)
  | zeros {fill : Nat} (h : fill + (sign ++ body).length = max width (sign ++ body).length) :
      IsField width sign body .zeros (sign ++ List.replicate fill 0x30 ++ body)
  | spacesAfter {fill : Nat}
      (h : fill + (sign ++ body).length = max width (sign ++ body).length) :
      IsField width sign body .spacesAfter (sign ++ body ++ List.replicate fill 0x20)

/-- A field is what padding makes. -/
theorem FieldLayout.isField_iff {layout : FieldLayout} {sign body field : Bytes} :
    IsField layout.width sign body layout.padding field ↔ field = layout.pad sign body := by
  have hfill : ∀ fill, fill + (sign ++ body).length = max layout.width (sign ++ body).length ↔
      fill = layout.width - (sign.length + body.length) := by
    intro fill
    rw [List.length_append]
    omega
  obtain ⟨padding, width⟩ := layout
  constructor
  · intro h
    cases h with
    | spacesBefore h | zeros h | spacesAfter h =>
      rw [(hfill _).mp h]
      rfl
  · rintro rfl
    cases padding with
    | spacesBefore => exact .spacesBefore ((hfill _).mpr rfl)
    | zeros => exact .zeros ((hfill _).mpr rfl)
    | spacesAfter => exact .spacesAfter ((hfill _).mpr rfl)

/-! ### Templates of one specification -/

/-- **A single specification** is rendered as its conversion. -/
theorem render_specification {layout : FieldLayout} {width : Text} {tail : Tail}
    (h : (Piece.specification layout.padding width tail).WellFormed)
    (hwidth : layout.width = Text.value 10 width) {arg : Arg} {bytes : Bytes}
    (hbytes : (tail.conversion layout).render? arg = some bytes) :
    render (Piece.specification layout.padding width tail).spelling [arg] = ⟨bytes, none⟩ := by
  obtain ⟨padding, n⟩ := layout
  subst hwidth
  obtain ⟨hsegments, herror⟩ := h.derives_alone.segmentsOf_eq
  have hwritten : Written (segmentsOf (Piece.specification padding width tail).spelling) [arg]
      [bytes] [] := by
    rw [hsegments]
    exact .conversion hbytes (.nil [])
  rw [render_of_written hwritten, herror]
  simp [Rendering.ofResults, Rendering.after]

/-- A specification prints a text for an argument: as a conversion, and by itself in a template. -/
structure Tail.Prints (tail : Tail) (layout : FieldLayout) (arg : Arg) (text : Text) : Prop where
  conversion : (tail.conversion layout).render? arg = some (utf8 text)
  template : ∀ width, (Piece.specification layout.padding width tail).WellFormed →
    layout.width = Text.value 10 width →
    render (Piece.specification layout.padding width tail).spelling [arg] = ⟨utf8 text, none⟩

theorem Tail.prints_of_render? {tail : Tail} {layout : FieldLayout} {arg : Arg} {text : Text}
    (h : (tail.conversion layout).render? arg = some (utf8 text)) :
    tail.Prints layout arg text where
  conversion := h
  template := by
    intro width hwf hwidth
    exact render_specification hwf hwidth h

/-- **Fields are padded.**  An integer is written as a field of the numeral of its number, and a
string as a field of its bytes, with no sign; each has one such field, which is as long as the width
or as what stands in it.  Words with the same number in the bits that the conversion looks at are
written alike.  All this holds for the template that is the specification alone. -/
theorem fields_are_padded (layout : FieldLayout) :
    (∀ size style raw field,
      Conversion.render? (.integer layout size style) (.integer raw) = some field ↔
        ∃ sign digits, style.Shows (style.number size raw) sign digits ∧
          IsField layout.width (utf8 sign) (utf8 digits) layout.padding field) ∧
    (∀ bytes field, Conversion.render? (.string layout) (.string bytes) = some field ↔
      IsField layout.width [] bytes layout.padding field) ∧
    (∀ (size : IntegerSize) (style : IntegerStyle) (raw : UInt32), ∃ sign digits field,
      style.Shows (style.number size raw) sign digits ∧
      Conversion.render? (.integer layout size style) (.integer raw) = some field ∧
      field.length = max layout.width (utf8 (sign ++ digits)).length) ∧
    (∀ bytes, ∃ field, Conversion.render? (.string layout) (.string bytes) = some field ∧
      field.length = max layout.width bytes.length) ∧
    (∀ (size : IntegerSize) (style : IntegerStyle) (raw other : UInt32),
      raw.toNat % 2 ^ size.bits = other.toNat % 2 ^ size.bits →
      Conversion.render? (.integer layout size style) (.integer raw) =
        Conversion.render? (.integer layout size style) (.integer other)) ∧
    ∀ width tail, (Piece.specification layout.padding width tail).WellFormed →
      layout.width = Text.value 10 width → ∀ arg field,
        (tail.conversion layout).render? arg = some field →
        render (Piece.specification layout.padding width tail).spelling [arg] = ⟨field, none⟩ := by
  have hrender : ∀ size style raw,
      Conversion.render? (.integer layout size style) (.integer raw) =
        some (layout.pad (utf8 (style.text size raw).1) (utf8 (style.text size raw).2)) :=
    fun _ _ _ => rfl
  have hstring : ∀ bytes, Conversion.render? (.string layout) (.string bytes) =
      some (layout.pad [] bytes) := fun _ => rfl
  have hinteger : ∀ size style raw field,
      Conversion.render? (.integer layout size style) (.integer raw) = some field ↔
        ∃ sign digits, style.Shows (style.number size raw) sign digits ∧
          IsField layout.width (utf8 sign) (utf8 digits) layout.padding field := by
    intro size style raw field
    rw [hrender, Option.some.injEq, eq_comm, ← FieldLayout.isField_iff]
    constructor
    · intro h
      exact ⟨_, _, IntegerStyle.shows_iff.mpr ⟨rfl, rfl⟩, h⟩
    · rintro ⟨sign, digits, hshows, h⟩
      obtain ⟨rfl, rfl⟩ := IntegerStyle.shows_iff.mp hshows
      exact h
  refine ⟨hinteger, fun bytes field => ?_, fun size style raw => ?_, fun bytes => ?_,
    fun size style raw other h => ?_, fun width tail hwf hwidth arg field h => ?_⟩
  · rw [hstring, Option.some.injEq, eq_comm, ← FieldLayout.isField_iff]
  · refine ⟨_, _, _, IntegerStyle.shows_iff.mpr ⟨rfl, rfl⟩, hrender size style raw, ?_⟩
    rw [FieldLayout.length_pad, Text.utf8_append, List.length_append]
  · refine ⟨_, hstring bytes, ?_⟩
    rw [FieldLayout.length_pad, List.length_nil, Nat.zero_add]
  · refine Option.ext fun field => ?_
    rw [hinteger, hinteger, style.number_congr h]
  · exact render_specification hwf hwidth h

/-- The least signed byte, with zeros behind its sign, and a word that has its low bits. -/
theorem fields_are_padded_least_byte :
    (0x80 : UInt32).toNat % 2 ^ 8 = (0xffffff80 : UInt32).toNat % 2 ^ 8 ∧
      (Piece.specification .zeros ['5'] (.integer .byte .signed)).WellFormed ∧
      render "%05bd".toList [.integer 0x80] = ⟨utf8 "-0128".toList, none⟩ ∧
      render "%05bd".toList [.integer 0xffffff80] = ⟨utf8 "-0128".toList, none⟩ := by
  have hbits : (0x80 : UInt32).toNat % 2 ^ 8 = (0xffffff80 : UInt32).toNat % 2 ^ 8 := by decide
  have hwf : (Piece.specification .zeros ['5'] (.integer .byte .signed)).WellFormed :=
    ⟨.inr ⟨List.cons_ne_nil _ _, List.forall_mem_singleton.mpr rfl, by decide⟩, by decide, trivial⟩
  obtain ⟨hinteger, -, -, -, hdepends, htemplate⟩ := fields_are_padded ⟨.zeros, 5⟩
  have hshows : IntegerStyle.signed.Shows (-128) ['-'] "128".toList :=
    ⟨rfl, Text.isDecimal_iff.mpr (by decide)⟩
  have hfield := (hinteger .byte .signed 0x80 (utf8 "-0128".toList)).mpr
    ⟨_, _, hshows, @IsField.zeros 5 (utf8 ['-']) (utf8 "128".toList) 1 (by decide)⟩
  refine ⟨hbits, hwf, htemplate ['5'] _ hwf (by decide) _ _ hfield, ?_⟩
  rw [hdepends .byte .signed 0x80 0xffffff80 hbits] at hfield
  exact htemplate ['5'] _ hwf (by decide) _ _ hfield

/-- **A character is one byte.**  An integer is written as the character in its low bits, of which
the other bits make no difference, and neither of them in a field: a flag and a width leave the
template that is the specification alone as it is. -/
theorem character_is_one_byte (raw : UInt32) :
    ∃ byte : UInt8, byte.toNat = IntegerSize.byte.number raw ∧
      ∀ arg ∈ [Arg.integer raw, .char byte], Conversion.char.render? arg = some [byte] ∧
        ∀ padding width, (Piece.specification padding width .char).WellFormed →
          render (Piece.specification padding width .char).spelling [arg] = ⟨[byte], none⟩ := by
  refine ⟨raw.toUInt8, raw.toNat_toUInt8, fun arg harg => ?_⟩
  have hbyte : Conversion.char.render? arg = some [raw.toUInt8] := by
    rcases List.mem_pair.mp harg with rfl | rfl <;> rfl
  refine ⟨hbyte, fun padding width hwf => ?_⟩
  exact @render_specification ⟨padding, Text.value 10 width⟩ width .char hwf rfl arg _ hbyte

example : render "%-3c".toList [.integer 0x141] = ⟨utf8 ['A'], none⟩ := by decide +kernel

end DriverPrintf
