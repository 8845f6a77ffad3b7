import DriverPrintf.Line.Destination
import DriverPrintf.Render.Rendering

/-!
# Events

What an operation reports beside its answer.  An event has a level, a message and fields;
`Event.line` is its form in a log.
-/

namespace DriverPrintf

/-- Why a line was not printed as it should be. -/
inductive PrintError where
  | render (error : RenderError)
  | write (fault : WriteFault)
deriving DecidableEq, Repr

/-- The text of a printing error. -/
def PrintError.message : PrintError → String
  | .render error => error.message
  | .write fault => "failed to write debug line: " ++ fault.text

/-- How much an event matters. -/
inductive Event.Level where
  | debug
  | warn
deriving DecidableEq, Repr

/-- The name of a level. -/
def Event.Level.name : Event.Level → String
  | .debug => "DEBUG"
  | .warn => "WARN"

/-- Something worth a line in a log. -/
inductive Event where
  /-- A rendering did not fit its buffer, which would have needed `required` bytes. -/
  | truncated (required capacity : Nat)
  /-- A line was not printed as it should be. -/
  | lineIncomplete (template : Text) (error : PrintError)
  /-- A rendering of `length` bytes, `stored` of them in a buffer of `size`. -/
  | rendered (length stored size : Nat)
  /-- A template does not parse, so nothing is known of its arguments. -/
  | unparsedTemplate (error : ParseError)
deriving DecidableEq, Repr

namespace Event

/-- The level of an event. -/
def level : Event → Level
  | .lineIncomplete .. => .warn
  | _ => .debug

/-- The message of an event. -/
def message : Event → String
  | .truncated .. => "snprintf output truncated"
  | .lineIncomplete .. => "udi_debug_printf line incomplete"
  | .rendered .. => "rendered into buffer"
  | .unparsedTemplate _ => "template does not parse; passing arguments as strings"

/-- The fields of an event, in the order of its log line. -/
def fields : Event → List (String × String)
  | .truncated required capacity =>
    [("required", toString required), ("capacity", toString capacity)]
  | .lineIncomplete template error =>
    [("template", String.ofList (Text.quoted template)), ("error", error.message)]
  | .rendered length stored size =>
    [("len", toString length), ("stored", toString stored), ("size", toString size)]
  | .unparsedTemplate error => [("error", error.message)]

/-- The event as one line: level, message, and fields as `key=value`. -/
def line (event : Event) : String :=
  " ".intercalate (event.level.name :: event.message ::
    event.fields.map fun field => field.1 ++ "=" ++ field.2)

end Event

end DriverPrintf
