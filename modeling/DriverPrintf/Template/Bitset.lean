import DriverPrintf.Template.Basic
import DriverPrintf.Template.Scan

/-!
# Template — bitset descriptors

The text between `%<` and `>` is a list of entries with commas between them; a comma may also
stand in front of the first entry and after the last.  An entry is a flag, `N=Name` or `~N=Name`,
or a range, `S-E=Name:V=Label...`.  A flag's name runs to the next comma, the names of a range
also end at a colon, and both may be empty.
-/

namespace DriverPrintf

namespace Bitset

open Scan

/-- A bit of a 32-bit word. -/
def bitIndex : Scan UInt32 :=
  number.checked fun _ bit => if bit < 32 then .ok bit else .error (.noSuchBit bit)

/-- Where a name of a range ends. -/
def endsLabel (c : Char) : Bool := c == ',' || c == ':'

/-- A value of a range and its label, `V=Label`. -/
def label : Scan (UInt32 × Text) := do
  let value ← number
  skipChar '='
  let name ← textUntil endsLabel
  return (value, name)

theorem advances_label : Advances label :=
  advances_number.bind fun _ => (advances_skipChar '=').stays.bind fun _ =>
    (stays_textUntil endsLabel).bind fun _ => stays_pure _

/-- The labels of a range, each after a colon. -/
def labels : Scan (List (UInt32 × Text)) :=
  many (skipChar? ':') label (stays_skipChar? ':') advances_label

/-- The last bit of a range that begins at `first`. -/
def lastBit (first : UInt32) : Scan UInt32 :=
  bitIndex.checked fun _ last =>
    if last < first then .error (.invertedRange first last) else .ok last

/-- The rest of a range, after the hyphen. -/
def range (first : UInt32) : Scan BitField := do
  let last ← lastBit first
  skipChar '='
  let name ← textUntil endsLabel
  return .range first last name (← labels)

/-- The rest of a flag, after the bit. -/
def flag (bit : UInt32) (inverted : Bool) : Scan BitField := do
  skipChar '='
  return .flag bit inverted (← textUntil (· == ','))

/-- An entry; a hyphen after the bit makes it a range, unless it began with a tilde. -/
def entry : Scan BitField := do
  let inverted ← skipChar? '~'
  let bit ← bitIndex
  if inverted then flag bit true
  else if ← skipChar? '-' then range bit
  else flag bit false

/-- Whether an entry follows, after a comma or not. -/
def moreEntries : Scan Bool := do
  let _ ← skipChar? ','
  return !(← isEof)

theorem advances_bitIndex : Advances bitIndex := advances_number.checked

theorem stays_range (first : UInt32) : Stays (range first) :=
  advances_bitIndex.stays.checked.bind fun _ => (advances_skipChar '=').stays.bind fun _ =>
    (stays_textUntil endsLabel).bind fun _ =>
      (stays_many (stays_skipChar? ':') advances_label).bind fun _ => stays_pure _

theorem stays_flag (bit : UInt32) (inverted : Bool) : Stays (flag bit inverted) :=
  (advances_skipChar '=').stays.bind fun _ => (stays_textUntil _).bind fun _ => stays_pure _

theorem advances_entry : Advances entry :=
  (stays_skipChar? '~').bind_advances fun inverted => advances_bitIndex.bind fun bit => by
    split
    · exact stays_flag bit true
    · refine (stays_skipChar? '-').bind fun ranged => ?_
      split
      · exact stays_range bit
      · exact stays_flag bit false

theorem stays_moreEntries : Stays moreEntries :=
  (stays_skipChar? ',').bind fun _ => stays_isEof.bind fun _ => stays_pure _

/-- A descriptor, to the end of the text. -/
def descriptor : Scan Bitset := do
  return ⟨← many moreEntries entry stays_moreEntries advances_entry⟩

theorem stays_descriptor : Stays descriptor :=
  (stays_many stays_moreEntries advances_entry).bind fun _ => stays_pure _

/-- Parses the descriptor `body`.  Offsets in errors are counted from `offset`, where the body
stands in its template. -/
def parse (body : Text) (offset : Nat) : Except ParseError Bitset :=
  match descriptor body with
  | .ok bitset _ => .ok bitset
  | .error fault _ => .error (fault.toParseError offset body)

end Bitset

end DriverPrintf
