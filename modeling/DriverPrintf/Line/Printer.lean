import DriverPrintf.Event
import DriverPrintf.Line.Staging

/-!
# Line — printing

A debug line is a tag, a rendered template and a newline.  A tag that cannot be written ends the
call.  After that the newline and one flush follow in any case, also when the template cannot be
rendered or its rendering cannot be written.
-/

namespace DriverPrintf

namespace Line

/-- Stands before every line. -/
def tag : Text := "udi_debug_printf: ".toList

/-- The calls made to print a line, the error if it is not as it should be, and what the
destination will answer next. -/
structure Printing where
  calls : List Call
  error? : Option PrintError
  script : Script

/-- Prints a line.  Of several errors the first fault of the destination is reported, and a
rendering error only if there is no such fault. -/
def print (script : Script) (template : Text) (args : List Arg) : Printing :=
  let opening := writeAll script (Text.utf8 tag)
  match opening.fault? with
  | some fault => ⟨opening.calls, some (.write fault), opening.script⟩
  | none =>
    let rendering := render template args
    let body := writeStaged opening.script rendering.output
    let newline := writeAll body.script [0x0a]
    let flushed := flush newline.script
    let fault? := body.fault? <|> newline.fault? <|> flushed.fault?
    ⟨opening.calls ++ body.calls ++ newline.calls ++ flushed.calls,
      fault?.map .write <|> rendering.error?.map .render, flushed.script⟩

/-- Prints a line and reports an error as an event. -/
def printLogged (script : Script) (template : Text) (args : List Arg) : Printing × List Event :=
  let printing := print script template args
  (printing, (printing.error?.map (.lineIncomplete template)).toList)

end Line

end DriverPrintf
