import DriverPrintf.Template.Bitset

/-!
# Template — one segment

Scanners for the two forms of a segment: a run of text without `%`, and a specification, which
begins with `%`.  After the `%` come an optional flag, an optional width, and the conversion; only
integers and strings make use of the flag and the width.  `%%` is the literal `%`.
-/

namespace DriverPrintf

namespace Segment

open Scan

/-- The flag of a specification. A `0` that comes first is the flag, not a digit of the width. -/
def padding : Scan Padding := do
  if ← skipChar? '0' then return .zeros
  else if ← skipChar? '-' then return .spacesAfter
  else return .spacesBefore

/-- The width of a specification, 0 if there is none. -/
def width : Scan Nat := do
  if ← isAtDigit then return (← number).toNat else return 0

/-- The style letter of an integer; nothing if it is another letter. -/
def integer (layout : FieldLayout) (size : IntegerSize) : Scan (Option Conversion) := do
  return (IntegerStyle.ofLetter? (← any)).map (.integer layout size)

/-- The conversion that follows a flag and a width; nothing if its letter names none. -/
def conversionAfter (layout : FieldLayout) : Scan (Option Conversion) := do
  match ← any with
  | 'h' => integer layout .half
  | 'b' => integer layout .byte
  | 's' => return some (.string layout)
  | 'c' => return some .char
  | 'p' => return some (.pointer .lower)
  | 'P' => return some (.pointer .upper)
  | 'a' => return some (.busAddress .lower)
  | 'A' => return some (.busAddress .upper)
  | '<' => return some (.bitset (← Bitset.descriptor.enclosed '>'))
  | c => return (IntegerStyle.ofLetter? c).map (.integer layout .word)

/-- A specification, or nothing if its letter names no conversion. -/
def specification? : Scan (Option Segment) := do
  skipChar '%'
  if ← skipChar? '%' then return some (.literal ['%'])
  else
    let padding ← padding
    let width ← width
    return (← conversionAfter ⟨padding, width⟩).map .conversion

/-- A specification.  One whose letter names no conversion is a fault of the whole of it, from the
`%` to that letter. -/
def specification : Scan Segment :=
  specification?.checked fun spelling segment? =>
    match segment? with
    | some segment => .ok segment
    | none => .error (.unknownConversion spelling)

/-- A run of text without `%`. -/
def plainRun : Scan Segment := do
  return .literal (← textUntil (· == '%'))

/-- The next segment of a text that has one. -/
def scan : Scan Segment := fun text =>
  if text.head? = some '%' then specification text else plainRun text

theorem stays_padding : Stays padding :=
  (stays_skipChar? '0').bind fun zero => by
    split
    · exact stays_pure _
    · refine (stays_skipChar? '-').bind fun hyphen => ?_
      split <;> exact stays_pure _

theorem stays_width : Stays width :=
  stays_isAtDigit.bind fun digit => by
    split
    · exact advances_number.stays.bind fun _ => stays_pure _
    · exact stays_pure _

theorem stays_integer (layout : FieldLayout) (size : IntegerSize) : Stays (integer layout size) :=
  advances_any.stays.bind fun _ => stays_pure _

theorem stays_conversionAfter (layout : FieldLayout) : Stays (conversionAfter layout) :=
  advances_any.stays.bind fun c => by
    split
    iterate 2 exact stays_integer _ _
    iterate 6 exact stays_pure _
    · exact (Bitset.stays_descriptor.enclosed '>').bind fun _ => stays_pure _
    · exact stays_pure _

theorem advances_specification : Advances specification := by
  refine Advances.checked
    ((advances_skipChar '%').bind fun _ => (stays_skipChar? '%').bind fun _ => ?_)
  split
  · exact stays_pure _
  · exact stays_padding.bind fun _ => stays_width.bind fun _ =>
      (stays_conversionAfter _).bind fun _ => stays_pure _

theorem stays_plainRun : Stays plainRun := (stays_textUntil (· == '%')).bind fun _ => stays_pure _

theorem stays_scan : Stays scan := fun text => by
  rw [scan]
  split
  · exact advances_specification.stays text
  · exact stays_plainRun text

theorem scan_percent (rest : Text) : scan ('%' :: rest) = specification ('%' :: rest) := rfl

/-- A run is never empty, and ends at a `%` or at the end of the text. -/
theorem scan_literal {c : Char} (h : c ≠ '%') (rest : Text) :
    scan (c :: rest) =
      .ok (.literal (c :: rest.takeWhile (· != '%'))) (rest.dropWhile (· != '%')) := by
  have hc : (c != '%') = true := bne_iff_ne.2 h
  have hhead : ¬ (c :: rest).head? = some '%' := fun heq => h (Option.some.inj heq)
  rw [scan, if_neg hhead]
  change Result.ok (Segment.literal ((c :: rest).takeWhile (· != '%')))
    ((c :: rest).dropWhile (· != '%')) = _
  simp only [List.takeWhile_cons, List.dropWhile_cons, hc, if_true]

/-- Every segment of a text with something left has at least one character. -/
theorem length_lt_of_scan {text rest : Text} {segment : Segment}
    (h : scan text = .ok segment rest) (hne : text ≠ []) : rest.length < text.length := by
  cases text with
  | nil => exact absurd rfl hne
  | cons c more =>
    by_cases hc : c = '%'
    · subst hc
      exact advances_specification.length_lt h
    · rw [scan_literal hc] at h
      cases h
      exact Nat.lt_succ_of_le (List.dropWhile_suffix _).length_le

end Segment

end DriverPrintf
