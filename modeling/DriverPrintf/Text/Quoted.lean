import DriverPrintf.Text.Blank
import DriverPrintf.Text.Combining
import DriverPrintf.Text.Digits
import DriverPrintf.Text.Ignorable
import DriverPrintf.Text.Unprintable

/-!
# Text — quotation

How messages quote a character or a text: between quotes, on one line, and with every character
that would not show as itself written as an escape.
-/

namespace DriverPrintf.Text

/-- The halfwidth voiced and semi-voiced sound marks U+FF9E and U+FF9F.  They extend the character
before them, and are letters with a glyph and a column of their own all the same. -/
def isSoundMark (c : Char) : Bool := c == '\uff9e' || c == '\uff9f'

/-- Whether `c` shows as itself between quotes: it has a glyph, is never ignored, and is not drawn
onto its neighbour. -/
def isVisible (c : Char) : Bool :=
  (!isCombining c || isSoundMark c) && !isIgnorable c && !isUnprintable c

/-- One character between the given quotes.  The quote itself and the backslash are escaped by a
backslash, the common controls by a letter, and what does not show as itself by its code point. -/
def escape (quote c : Char) : Text :=
  match c with
  | '\x00' => ['\x5c', '0']
  | '\t' => ['\x5c', 't']
  | '\n' => ['\x5c', 'n']
  | '\r' => ['\x5c', 'r']
  | c =>
    if c = quote ∨ c = '\x5c' then ['\x5c', c]
    else if isVisible c then [c]
    else ['\x5c', 'u', '\x7b'] ++ hex .lower c.toNat ++ ['\x7d']

/-- A character in single quotes. -/
def quotedChar (c : Char) : Text := '\x27' :: escape '\x27' c ++ ['\x27']

/-- A text in double quotes. -/
def quoted (text : Text) : Text := '\x22' :: text.flatMap (escape '\x22') ++ ['\x22']

end DriverPrintf.Text
