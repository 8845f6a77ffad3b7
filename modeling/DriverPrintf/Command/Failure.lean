import DriverPrintf.Event
import DriverPrintf.Text.Layout

/-!
# Command — failures

A command fails for one reason, which has a heading and the chain of its causes, the outermost
first.  `CommandError.report` is what the user reads.  A buffer that is too large to be made is not
an error that the program handles: it is broken off, with an exit code of its own.
-/

namespace DriverPrintf

/-- Why a text is not an argument of the kind that is wanted. -/
inductive ArgumentFault where
  | notANumber
  /-- The number is minus `magnitude`. -/
  | belowSignedRange (magnitude : UInt64)
  | tooLarge (value : UInt64)
  | notOneByte
deriving DecidableEq, Repr

/-- The text of an argument's fault. -/
def ArgumentFault.message : ArgumentFault → String
  | .notANumber => "expected a number"
  | .belowSignedRange magnitude =>
    "-" ++ toString magnitude ++ " is below the 32-bit signed range"
  | .tooLarge value => toString value ++ " does not fit in 32 bits"
  | .notOneByte => "expected exactly one byte"

/-- Why a command failed. -/
inductive CommandError where
  | invalidArgument (index : Nat) (text : Text) (kind : ArgKind) (fault : ArgumentFault)
  | printing (error : PrintError)
  | rendering (error : RenderError)
  | invalidTemplate (template : Text) (error : ParseError)
  /-- A buffer was to have more than `BoundedBuffer.maxSize` cells. -/
  | capacityOverflow
deriving DecidableEq, Repr

/-- A rendering error and what caused it. -/
def RenderError.chain (error : RenderError) : List String :=
  match error with
  | .malformed cause => [error.message, cause.message]
  | _ => [error.message]

/-- A printing error and what caused it.  A rendering error stands for itself. -/
def PrintError.chain (error : PrintError) : List String :=
  match error with
  | .render cause => cause.chain
  | .write fault => [error.message, fault.text]

namespace CommandError

/-- What could not be done. -/
def heading : CommandError → Text
  | .invalidArgument index text kind _ =>
    ("Argument " ++ toString index ++ " (").toList ++ Text.quoted text
      ++ (") is not a valid " ++ kind.name).toList
  | .printing _ => "Failed to print debug line".toList
  | .rendering _ => "Failed to render template".toList
  | .invalidTemplate template _ => "Invalid template ".toList ++ Text.quoted template
  | .capacityOverflow => "capacity overflow".toList

/-- Why it could not be done. -/
def causes : CommandError → List String
  | .invalidArgument _ _ _ fault => [fault.message]
  | .printing error => error.chain
  | .rendering error => error.chain
  | .invalidTemplate _ error => [error.message]
  | .capacityOverflow => []

/-- Whether the program is broken off, and not ended by a command that has failed. -/
def breaksOff : CommandError → Bool
  | .capacityOverflow => true
  | _ => false

/-- The exit code of the program. -/
def exitCode (error : CommandError) : UInt8 := if error.breaksOff then 101 else 1

/-- A cause below the heading, with its place in the chain if there are several; its further
lines stand under the first. -/
def causeLine (number? : Option Nat) (cause : String) : Text :=
  match number? with
  | none => "\n    ".toList ++ Text.indentLines "    ".toList cause.toList
  | some number =>
    '\n' :: Text.rightColumn 5 (Text.decimal number) ++ [':', ' ']
      ++ Text.indentLines "       ".toList cause.toList

/-- The causes below the heading, numbered from 0 if there are several. -/
def causeLines : List String → Text
  | [] => []
  | [cause] => "\n\nCaused by:".toList ++ causeLine none cause
  | causes =>
    "\n\nCaused by:".toList
      ++ causes.zipIdx.flatMap fun numbered => causeLine (some numbered.2) numbered.1

/-- The error as it is shown to the user.  Of a program that is broken off only the reason is
shown here, without the place in the program. -/
def report (error : CommandError) : Text :=
  (if error.breaksOff then "panicked: " else "Error: ").toList ++ error.heading
    ++ causeLines error.causes ++ ['\n']

end CommandError

end DriverPrintf
