import DriverPrintf.Text.Utf8
import DriverPrintf.Text.Ranges

/-!
# Text — blank characters

The blank characters are those with the Unicode property White_Space.  Every ASCII whitespace
character is one of them (`isBlank_of_isAsciiBlank`).
-/

namespace DriverPrintf.Text

/-- The ranges of White_Space. -/
def blankRanges : List (Nat × Nat) :=
  [(0x9, 0xD), (0x20, 0x20), (0x85, 0x85), (0xA0, 0xA0), (0x1680, 0x1680), (0x2000, 0x200A),
    (0x2028, 0x2029), (0x202F, 0x202F), (0x205F, 0x205F), (0x3000, 0x3000)]

/-- White_Space. -/
def isBlank (c : Char) : Bool := inRanges blankRanges c

/-- Space, tab, line feed, form feed and carriage return. -/
def isAsciiBlank (c : Char) : Bool :=
  c == ' ' || c == '\t' || c == '\n' || c == '\x0c' || c == '\r'

theorem isBlank_of_isAsciiBlank {c : Char} (h : isAsciiBlank c = true) : isBlank c = true := by
  simp only [isAsciiBlank, Bool.or_eq_true, beq_iff_eq] at h
  rcases h with (((rfl | rfl) | rfl) | rfl) | rfl <;> decide

theorem isAsciiBlank_eq_false {c : Char} (h : isBlank c = false) : isAsciiBlank c = false :=
  Bool.eq_false_iff.mpr fun hascii => by
    rw [isBlank_of_isAsciiBlank hascii] at h
    cases h

end DriverPrintf.Text
