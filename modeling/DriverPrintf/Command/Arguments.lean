import DriverPrintf.Command.Failure
import DriverPrintf.Numeral

/-!
# Command — arguments

Texts become arguments of the kinds their template takes.  A number is read in the base it marks,
with blanks around it, and an integer must lie between the least signed and the greatest unsigned
32-bit number.  Texts beyond the last conversion become strings, and so do all texts if the
template does not parse: rendering then reports what is wrong.
-/

namespace DriverPrintf

namespace Arguments

/-- Reads a text that holds one number and nothing else but blanks. -/
def number (text : Text) : Except ArgumentFault UInt64 :=
  let (value, rest) := Numeral.read64 text 0
  if rest.length = text.length ∨ !rest.all Text.isBlank then .error .notANumber else .ok value

/-- Whether the first character that is not blank is a minus sign. -/
def isNegative (text : Text) : Bool := (text.dropWhile Text.isBlank).head? == some '-'

/-- Reads an integer.  A negative one becomes its two's complement. -/
def integer (text : Text) : Except ArgumentFault UInt32 := do
  let value ← number text
  if isNegative text then
    let magnitude := -value
    if 0x80000000 < magnitude.toNat then .error (.belowSignedRange magnitude)
    else .ok (-magnitude.toUInt32)
  else if value.toNat < UInt32.size then .ok value.toUInt32
  else .error (.tooLarge value)

/-- The argument of a kind that a text stands for. -/
def ofText (kind : ArgKind) (text : Text) : Except ArgumentFault Arg :=
  match kind with
  | .integer => return .integer (← integer text)
  | .pointer => return .pointer (← number text)
  | .busAddress => return .busAddress (← number text)
  | .string => .ok (.string (Text.utf8 text))
  | .char =>
    match Text.utf8 text with
    | [byte] => .ok (.char byte)
    | _ => .error .notOneByte

/-- Converts the texts from the one at `index` on, when `kinds` are still wanted. -/
def ofTextsFrom (index : Nat) : List ArgKind → List Text → Except CommandError (List Arg)
  | _, [] => .ok []
  | kinds, text :: texts =>
    let kind := kinds.head?.getD .string
    match ofText kind text with
    | .error fault => .error (.invalidArgument index text kind fault)
    | .ok arg => return arg :: (← ofTextsFrom (index + 1) kinds.tail texts)

/-- The kinds of argument a template takes, none if it does not parse. -/
def expectedKinds (template : Text) : List ArgKind × List Event :=
  match Template.parse template with
  | .ok parsed => (parsed.argKinds, [])
  | .error error => ([], [.unparsedTemplate error])

/-- Converts texts to the arguments of a template.  The first text that is no argument of its kind
is the error. -/
def ofTexts (template : Text) (texts : List Text) : Except CommandError (List Arg) :=
  ofTextsFrom 0 (expectedKinds template).1 texts

end Arguments

end DriverPrintf
