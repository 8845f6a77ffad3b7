import DriverPrintf.Text.Utf8

/-!
# Text — layout

Columns and lines of reports.  Widths are counted in characters.
-/

namespace DriverPrintf.Text

/-- A text in a column of at least `width` characters, with spaces after it. -/
def column (width : Nat) (text : Text) : Text :=
  text ++ List.replicate (width - text.length) ' '

/-- Digits in a column of at least `width` characters, with spaces before it. -/
def rightColumn (width : Nat) (digits : Text) : Text :=
  List.replicate (width - digits.length) ' ' ++ digits

/-- The text with `margin` after each of its line feeds. -/
def indentLines (margin : Text) (text : Text) : Text :=
  text.flatMap fun c => if c = '\n' then c :: margin else [c]

/-- The texts, each followed by a line feed. -/
def lines (texts : List Text) : Text := texts.flatMap (· ++ ['\n'])

@[simp] theorem lines_nil : lines [] = [] := rfl

@[simp] theorem lines_cons (text : Text) (texts : List Text) :
    lines (text :: texts) = text ++ '\n' :: lines texts := by
  rw [lines, List.flatMap_cons, List.append_assoc]
  rfl

end DriverPrintf.Text
