import DriverPrintf.Command.Run

/-!
# Command — options

The words of a command line: the name of the command, its options, and its operands, which are the
template and the arguments.  All words after `--` are operands, whatever they look like.
-/

namespace DriverPrintf

/-- The settings of a command line. -/
structure Options where
  verbose : Bool := false
  /-- The size of the buffer, with its terminator. -/
  size : UInt64 := 256
  form : ReportForm := .table

namespace Options

/-- How a command line is written. -/
def usage : String :=
  "usage: print [--verbose] [--] TEMPLATE [ARG]...\n" ++
  "       format [--verbose] [--size N] [--] TEMPLATE [ARG]...\n" ++
  "       check [--verbose] [--output text|json] [--] TEMPLATE\n"

/-- A decimal number of 64 bits, which must be all of the word but for a plus sign. -/
def number? (word : String) : Option UInt64 :=
  let digits := match word.toList with
    | '+' :: digits => digits
    | digits => digits
  if digits.all Char.isDigit then
    ((String.ofList digits).toNat?.filter (· < UInt64.size)).map UInt64.ofNat
  else none

/-- The name of a report form. -/
def form? : String → Option ReportForm
  | "text" => some .table
  | "json" => some .json
  | _ => none

/-- Reads the options that stand before the operands; nothing if a value is not what its option
takes. -/
def read (options : Options) : List String → Option (Options × List Text)
  | "--" :: operands => some (options, operands.map String.toList)
  | "-v" :: words | "--verbose" :: words => { options with verbose := true }.read words
  | "-s" :: word :: words | "--size" :: word :: words => do
    let size ← number? word
    { options with size }.read words
  | "-o" :: word :: words | "--output" :: word :: words => do
    let form ← form? word
    { options with form }.read words
  | operands => some (options, operands.map String.toList)

/-- The command that the words of a command line name. -/
def command? : List String → Option (Options × Command)
  | "print" :: words => do
    let (options, template :: texts) ← read {} words | none
    return (options, .print template texts)
  | "format" :: words => do
    let (options, template :: texts) ← read {} words | none
    return (options, .format options.size.toNat template texts)
  | "check" :: words => do
    let (options, [template]) ← read {} words | none
    return (options, .check options.form template)
  | _ => none

end Options

end DriverPrintf
