import DriverPrintf.Text.Digits

/-!
# Text — JSON

Values as a report has them, and their layout over several lines: each member and each element on
a line of its own, two spaces deeper than what holds it.
-/

namespace DriverPrintf

/-- A JSON value.  The members of an object keep their order. -/
inductive Json where
  | number (value : Nat)
  | string (text : Text)
  | array (elements : List Json)
  | object (members : List (String × Json))

namespace Json

/-- One character of a string.  Quotes, backslashes and control characters are escaped. -/
def escape (c : Char) : Text :=
  match c with
  | '\x22' => ['\x5c', '\x22']
  | '\x5c' => ['\x5c', '\x5c']
  | '\x08' => ['\x5c', 'b']
  | '\x0c' => ['\x5c', 'f']
  | '\n' => ['\x5c', 'n']
  | '\r' => ['\x5c', 'r']
  | '\t' => ['\x5c', 't']
  | c =>
    if c.toNat < 0x10 then ['\x5c', 'u', '0', '0', '0'] ++ Text.hex .lower c.toNat
    else if c.toNat < 0x20 then ['\x5c', 'u', '0', '0'] ++ Text.hex .lower c.toNat
    else [c]

/-- A string between its quotes. -/
def quote (text : Text) : Text := '\x22' :: text.flatMap escape ++ ['\x22']

/-- A new line at the given depth. -/
def newLine (depth : Nat) : Text := '\n' :: List.replicate (2 * depth) ' '

/-- Items between brackets, each on a line of its own; brackets alone if there are none. -/
def bracketed (opening closing : Char) (depth : Nat) (items : List Text) : Text :=
  if items.isEmpty then [opening, closing]
  else
    opening :: newLine (depth + 1) ++ (',' :: newLine (depth + 1)).intercalate items
      ++ newLine depth ++ [closing]

mutual

/-- A value that begins at the given depth. -/
def layout (depth : Nat) : Json → Text
  | .number value => Text.decimal value
  | .string text => quote text
  | .array elements => bracketed '[' ']' depth (layoutElements (depth + 1) elements)
  | .object members => bracketed '\x7b' '\x7d' depth (layoutMembers (depth + 1) members)

/-- The elements of an array. -/
def layoutElements (depth : Nat) : List Json → List Text
  | [] => []
  | element :: elements => layout depth element :: layoutElements depth elements

/-- The members of an object. -/
def layoutMembers (depth : Nat) : List (String × Json) → List Text
  | [] => []
  | (key, value) :: members =>
    (quote key.toList ++ [':', ' '] ++ layout depth value) :: layoutMembers depth members

end

/-- A value over several lines. -/
def pretty (value : Json) : Text := value.layout 0

end Json

end DriverPrintf
