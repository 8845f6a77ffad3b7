import DriverPrintf.BoundedBuffer
import DriverPrintf.Command.Arguments
import DriverPrintf.Command.Inspection
import DriverPrintf.Line.Printer

/-!
# Command — running

The three commands: printing a line, rendering into a buffer of a given size, and inspecting a
template.  What a command does is an `Execution`; `Execution.outcome` is what its user sees.

A buffer is made before anything is rendered.  Memory is taken to suffice for every buffer of at
most `BoundedBuffer.maxSize` cells; a larger one breaks the program off.
-/

namespace DriverPrintf

/-- The forms of an inspection report. -/
inductive ReportForm where
  | table
  | json
deriving DecidableEq, Repr

/-- A command and its operands. -/
inductive Command where
  | print (template : Text) (args : List Text)
  | format (size : Nat) (template : Text) (args : List Text)
  | check (form : ReportForm) (template : Text)
deriving DecidableEq, Repr

/-- The bytes a command writes to its standard output, the events on its way, and the error if it
fails. -/
structure Execution where
  stdout : Bytes
  events : List Event
  error? : Option CommandError

namespace Command

/-- Prints a debug line. -/
def runPrint (template : Text) (texts : List Text) : Execution :=
  let events := (Arguments.expectedKinds template).2
  match Arguments.ofTexts template texts with
  | .error error => ⟨[], events, some error⟩
  | .ok args =>
    let printing := Line.print .obliging template args
    ⟨accepted printing.calls, events, printing.error?.map .printing⟩

/-- What a format command shows of a buffer that holds `stored` bytes of a rendering. -/
def formatText (cells : Array UInt8) (stored length : Nat) : Text :=
  Text.lines
    (Text.decodeLossy (cells.take stored).toList ::
      if stored < length then
        [("(truncated: " ++ toString stored ++ " of " ++ toString length
          ++ " bytes stored)").toList]
      else [])

/-- Renders into a buffer of `size` cells and shows what was stored.  There is no such buffer if the
size is too large. -/
def runFormat (size : Nat) (template : Text) (texts : List Text) : Execution :=
  let events := (Arguments.expectedKinds template).2
  match Arguments.ofTexts template texts with
  | .error error => ⟨[], events, some error⟩
  | .ok args =>
    if BoundedBuffer.maxSize < size then ⟨[], events, some .capacityOverflow⟩
    else
      let buffered := renderInto (Array.replicate size 0) template args
      match buffered.result with
      | .error error => ⟨[], events ++ buffered.events, some (.rendering error)⟩
      | .ok length =>
        let stored := min length (size - 1)
        ⟨Text.utf8 (formatText buffered.cells stored length),
          events ++ buffered.events ++ [.rendered length stored size], none⟩

/-- Inspects a template and shows the report. -/
def runCheck (form : ReportForm) (template : Text) : Execution :=
  match Inspection.report template with
  | .error error => ⟨[], [], some (.invalidTemplate template error)⟩
  | .ok report =>
    let text := match form with
      | .table => report.table
      | .json => Text.lines [report.json.pretty]
    ⟨Text.utf8 text, [], none⟩

/-- Runs a command. -/
def run : Command → Execution
  | .print template texts => runPrint template texts
  | .format size template texts => runFormat size template texts
  | .check form template => runCheck form template

end Command

/-- What the user of a command sees. -/
structure Outcome where
  exitCode : UInt8
  stdout : Bytes
  stderr : Text
deriving DecidableEq, Repr

/-- The outcome of an execution.  The log shows debugging events only if it is verbose, and an
error comes after the log. -/
def Execution.outcome (verbose : Bool) (execution : Execution) : Outcome where
  exitCode := (execution.error?.map CommandError.exitCode).getD 0
  stdout := execution.stdout
  stderr :=
    Text.lines
        ((execution.events.filter fun event => verbose || event.level == .warn).map
          fun event => event.line.toList)
      ++ (execution.error?.map CommandError.report).getD []

end DriverPrintf
