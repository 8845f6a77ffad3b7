import DriverPrintf.Text.Quoted

/-!
# Template — parse errors

A template or a bitset descriptor is malformed for one of seven causes, at a byte offset.
-/

namespace DriverPrintf

/-- What is wrong with a template. -/
inductive ParseError.Cause where
  | unexpectedEnd
  | notADigit (found : Char)
  | numberTooLarge
  /-- The spelling runs from the `%` through the character that names no conversion. -/
  | unknownConversion (spelling : Text)
  | unexpectedChar (expected found : Char)
  | noSuchBit (bit : UInt32)
  | invertedRange (first last : UInt32)
deriving DecidableEq, Repr

/-- What is wrong with a template, and where. -/
structure ParseError where
  offset : Nat
  cause : ParseError.Cause
deriving DecidableEq, Repr

namespace ParseError

/-- The text of a cause. -/
def Cause.message : Cause → String
  | .unexpectedEnd => "unexpected end of template"
  | .notADigit found => "expected a digit, got " ++ String.ofList (Text.quotedChar found)
  | .numberTooLarge => "number does not fit in 32 bits"
  | .unknownConversion spelling => "invalid conversion `" ++ String.ofList spelling ++ "`"
  | .unexpectedChar expected found =>
    "unexpected character " ++ String.ofList (Text.quotedChar found) ++ ", expected `"
      ++ String.ofList [expected] ++ "`"
  | .noSuchBit bit => "bit " ++ toString bit ++ " is outside a 32-bit value"
  | .invertedRange first last =>
    "bit range " ++ toString first ++ "-" ++ toString last ++ " is inverted"

/-- The text of an error. -/
def message (e : ParseError) : String := e.cause.message ++ " at offset " ++ toString e.offset

end ParseError

end DriverPrintf
