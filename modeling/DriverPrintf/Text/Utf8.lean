/-!
# Text — UTF-8

A text is its list of characters, and the bytes of a text are its UTF-8 encoding.  Offsets into a
text are counted in those bytes: `length_utf8` says that `utf8Length` is their number, and
`utf8_append` that encoding goes character by character.  `decodeLossy` goes back and never fails:
each maximal piece of an ill-formed sequence becomes one U+FFFD.
-/

namespace DriverPrintf

/-- The characters of a template, an argument or a name, in order. -/
abbrev Text := List Char

/-- Output and string arguments are bytes, which need not be valid UTF-8. -/
abbrev Bytes := List UInt8

namespace Text

/-- The UTF-8 encoding of a text. -/
def utf8 (text : Text) : Bytes := text.flatMap String.utf8EncodeChar

/-- The number of bytes in the UTF-8 encoding of a text. -/
def utf8Length : Text → Nat
  | [] => 0
  | c :: text => c.utf8Size + utf8Length text

@[simp] theorem utf8_nil : utf8 [] = [] := rfl

@[simp] theorem utf8_cons (c : Char) (text : Text) :
    utf8 (c :: text) = String.utf8EncodeChar c ++ utf8 text := rfl

@[simp] theorem utf8_append (a b : Text) : utf8 (a ++ b) = utf8 a ++ utf8 b :=
  List.flatMap_append

@[simp] theorem utf8Length_nil : utf8Length [] = 0 := rfl

@[simp] theorem utf8Length_cons (c : Char) (text : Text) :
    utf8Length (c :: text) = c.utf8Size + utf8Length text := rfl

@[simp] theorem utf8Length_append (a b : Text) :
    utf8Length (a ++ b) = utf8Length a + utf8Length b := by
  induction a with
  | nil => simp
  | cons c a ih => simp [ih, Nat.add_assoc]

@[simp] theorem length_utf8 (text : Text) : (utf8 text).length = utf8Length text := by
  induction text with
  | nil => rfl
  | cons c text ih => simp [ih]

/-! ### The text before a place -/

/-- What stands in `whole` before `rest`, a place in it given as the text that remains. -/
def before (whole rest : Text) : Text := whole.take (whole.length - rest.length)

@[simp] theorem before_append (read rest : Text) : before (read ++ rest) rest = read := by
  simp [before]

/-- A place divides the text. -/
theorem before_append_self {whole rest : Text} (h : rest <:+ whole) :
    before whole rest ++ rest = whole := by
  obtain ⟨read, rfl⟩ := h
  rw [before_append]

/-! ### Decoding -/

/-- Stands for a piece of input that is not UTF-8. -/
def replacement : Char := '\uFFFD'

/-- A character of which some bytes have been read.  The next byte must lie in `low..high`, and
`more` continuation bytes follow it. -/
structure Unfinished where
  bits : Nat
  more : Nat
  low : UInt8
  high : UInt8

/-- The first byte of a character: the text it completes, or the character it begins.  The range
of the second byte excludes overlong forms, surrogates and values above U+10FFFF. -/
def decodeFirst (byte : UInt8) : Text × Option Unfinished :=
  let b := byte.toNat
  if b < 0x80 then ([Char.ofNat b], none)
  else if b < 0xC2 then ([replacement], none)
  else if b < 0xE0 then ([], some ⟨b - 0xC0, 0, 0x80, 0xBF⟩)
  else if b = 0xE0 then ([], some ⟨0, 1, 0xA0, 0xBF⟩)
  else if b = 0xED then ([], some ⟨0xD, 1, 0x80, 0x9F⟩)
  else if b < 0xF0 then ([], some ⟨b - 0xE0, 1, 0x80, 0xBF⟩)
  else if b = 0xF0 then ([], some ⟨0, 2, 0x90, 0xBF⟩)
  else if b < 0xF4 then ([], some ⟨b - 0xF0, 2, 0x80, 0xBF⟩)
  else if b = 0xF4 then ([], some ⟨4, 2, 0x80, 0x8F⟩)
  else ([replacement], none)

/-- One more byte.  A byte that cannot continue the unfinished character ends it as one
replacement and starts afresh. -/
def decodeByte : Option Unfinished → UInt8 → Text × Option Unfinished
  | none, byte => decodeFirst byte
  | some u, byte =>
    if u.low ≤ byte ∧ byte ≤ u.high then
      let bits := u.bits * 64 + (byte.toNat - 0x80)
      match u.more with
      | 0 => ([Char.ofNat bits], none)
      | more + 1 => ([], some ⟨bits, more, 0x80, 0xBF⟩)
    else (replacement :: (decodeFirst byte).1, (decodeFirst byte).2)

/-- Decodes the bytes that follow an unfinished character, if there is one. -/
def decodeFrom : Option Unfinished → Bytes → Text
  | none, [] => []
  | some _, [] => [replacement]
  | u, byte :: bytes => (decodeByte u byte).1 ++ decodeFrom (decodeByte u byte).2 bytes

/-- The text of a byte sequence, with U+FFFD for each maximal ill-formed piece. -/
def decodeLossy (bytes : Bytes) : Text := decodeFrom none bytes

end Text

end DriverPrintf
