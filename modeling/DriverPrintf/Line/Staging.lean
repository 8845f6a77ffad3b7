import DriverPrintf.Line.Destination

/-!
# Line — staging

The body of a line reaches its destination in chunks.  Bytes are staged one at a time, and a full
stage is written when the next byte arrives; what is staged at the end is written last.  After a
fault nothing more of the body is written.
-/

namespace DriverPrintf

/-- Bytes on their way to a destination. -/
structure Stage where
  staged : Bytes
  calls : List Call
  fault? : Option WriteFault
  script : Script

namespace Stage

/-- The number of bytes a stage holds. -/
def capacity : Nat := 64

/-- Nothing has been staged. -/
def empty (script : Script) : Stage := ⟨[], [], none, script⟩

/-- Writes what is staged, unless an earlier write failed. -/
def write (stage : Stage) : Stage :=
  if stage.staged.isEmpty then stage
  else
    match stage.fault? with
    | some _ => { stage with staged := [] }
    | none =>
      let chunk := writeAll stage.script stage.staged
      ⟨[], stage.calls ++ chunk.calls, chunk.fault?, chunk.script⟩

/-- Stages a byte, after writing a full stage. -/
def push (stage : Stage) (byte : UInt8) : Stage :=
  let stage := if stage.staged.length = capacity then stage.write else stage
  { stage with staged := stage.staged ++ [byte] }

end Stage

/-- Writes `bytes` through a stage. -/
def writeStaged (script : Script) (bytes : Bytes) : Exchange :=
  let stage := (bytes.foldl Stage.push (.empty script)).write
  ⟨stage.calls, stage.fault?, stage.script⟩

end DriverPrintf
