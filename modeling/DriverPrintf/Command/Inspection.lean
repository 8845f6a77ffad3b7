import DriverPrintf.Template.Reader
import DriverPrintf.Text.Json
import DriverPrintf.Text.Layout

/-!
# Command — inspection

What a template asks for: a row for each conversion, with its place and spelling in the template.
A report is written as a table or as JSON.
-/

namespace DriverPrintf

/-- The name of a padding. -/
def Padding.name : Padding → String
  | .spacesBefore => "right-justified"
  | .zeros => "zero-filled"
  | .spacesAfter => "left-justified"

/-- What a padding does, in words; nothing to say of a field without a width. -/
def FieldLayout.description (layout : FieldLayout) : String :=
  if layout.width = 0 then ""
  else ", " ++ layout.padding.name ++ " to " ++ toString layout.width

/-- The name of a letter case. -/
def LetterCase.name : LetterCase → String
  | .lower => "lowercase"
  | .upper => "uppercase"

/-- The name of a style. -/
def IntegerStyle.name : IntegerStyle → String
  | .signed => "signed decimal"
  | .unsigned => "unsigned decimal"
  | .hex letters => letters.name ++ " hex"

/-- A conversion in words. -/
def Conversion.description : Conversion → String
  | .integer layout size style =>
    toString size.bits ++ "-bit " ++ style.name ++ layout.description
  | .string layout => "string" ++ layout.description
  | .char => "single byte"
  | .pointer letters => "pointer, " ++ letters.name ++ " hex"
  | .busAddress letters => "64-bit bus address, " ++ letters.name ++ " hex"
  | .bitset descriptor =>
    "32-bit bitset, " ++ toString descriptor.fields.length ++ " field(s)"

namespace Inspection

/-- A conversion of a template: its number, where it begins, how it is spelled, the kind of
argument it takes, and what it does. -/
structure Row where
  index : Nat
  offset : Nat
  spelling : Text
  argument : ArgKind
  description : String
deriving DecidableEq, Repr

/-- A template and its conversions. -/
structure Report where
  template : Text
  rows : List Row
deriving DecidableEq, Repr

/-- The rows of the conversions among the items, numbered from `index`, up to the first error. -/
def rowsFrom (index : Nat) : List Item → Except ParseError (List Row)
  | [] => .ok []
  | item :: items =>
    match item.result with
    | .error error => .error error
    | .ok (.literal _) => rowsFrom index items
    | .ok (.conversion conversion) => do
      let row : Row :=
        ⟨index, item.start, item.text, conversion.argKind, conversion.description⟩
      return row :: (← rowsFrom (index + 1) items)

/-- A row of the table. -/
def Row.line (row : Row) : Text :=
  "  #".toList ++ Text.column 2 (Text.decimal row.index)
    ++ " @".toList ++ Text.column 3 (Text.decimal row.offset)
    ++ ' ' :: Text.column 12 row.spelling
    ++ ' ' :: Text.column 12 row.argument.name.toList
    ++ ' ' :: row.description.toList

/-- The report as a table. -/
def Report.table (report : Report) : Text :=
  Text.lines
    ((Text.decimal report.rows.length ++ " argument(s)".toList) :: report.rows.map Row.line)

/-- A row as a JSON object. -/
def Row.json (row : Row) : Json :=
  .object [("index", .number row.index), ("offset", .number row.offset),
    ("fragment", .string row.spelling), ("argument", .string row.argument.name.toList),
    ("description", .string row.description.toList)]

/-- The report as a JSON object. -/
def Report.json (report : Report) : Json :=
  .object [("template", .string report.template), ("arguments", .number report.rows.length),
    ("conversions", .array (report.rows.map Row.json))]

/-- Inspects a template; the error is that of the template if it is malformed. -/
def report (template : Text) : Except ParseError Report := do
  return ⟨template, ← rowsFrom 0 (itemsOf template)⟩

end Inspection

end DriverPrintf
