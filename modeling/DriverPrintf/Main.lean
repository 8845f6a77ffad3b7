import DriverPrintf.Command.Options

/-!
# The command line program

Prints debug lines, renders templates into buffers and inspects templates.
-/

open DriverPrintf in
/-- Runs the command that is asked for. -/
def main (words : List String) : IO UInt32 := do
  match Options.command? words with
  | none =>
    IO.eprint Options.usage
    return 2
  | some (options, command) =>
    let outcome := command.run.outcome options.verbose
    let stdout ← IO.getStdout
    stdout.write (ByteArray.mk outcome.stdout.toArray)
    stdout.flush
    IO.eprint (String.ofList outcome.stderr)
    return outcome.exitCode.toUInt32
