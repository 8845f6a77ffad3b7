import DriverPrintf.Event

/-!
# Bounded buffers

Rendering into a buffer of fixed size.  The buffer keeps the bytes that fit before a terminating
zero byte and counts all of them, so that the caller learns how long the rendering is.  A buffer
of no cells is left as it is, and none has more than `BoundedBuffer.maxSize`.
-/

namespace DriverPrintf

/-- A buffer and the number of bytes that have been pushed to it. -/
structure BoundedBuffer where
  cells : Array UInt8
  length : Nat
deriving DecidableEq, Repr

namespace BoundedBuffer

/-- The most cells that a buffer can be made with: the greatest signed number of 64 bits. -/
def maxSize : Nat := 0x7fffffffffffffff

/-- Pushes a byte, which is kept if the terminator still fits after it. -/
def push (buffer : BoundedBuffer) (byte : UInt8) : BoundedBuffer where
  cells :=
    if buffer.length + 1 < buffer.cells.size then buffer.cells.setIfInBounds buffer.length byte
    else buffer.cells
  length := buffer.length + 1

/-- Puts the terminator after the bytes that were kept. -/
def terminate (buffer : BoundedBuffer) : BoundedBuffer :=
  if buffer.cells.size = 0 then buffer
  else
    { buffer with
      cells := buffer.cells.setIfInBounds (min buffer.length (buffer.cells.size - 1)) 0 }

/-- Whether some bytes did not fit. -/
def truncated (buffer : BoundedBuffer) : Bool :=
  0 < buffer.length && buffer.cells.size ≤ buffer.length

@[simp] theorem size_push (buffer : BoundedBuffer) (byte : UInt8) :
    (buffer.push byte).cells.size = buffer.cells.size := by
  rw [push]
  split <;> simp

@[simp] theorem size_terminate (buffer : BoundedBuffer) :
    buffer.terminate.cells.size = buffer.cells.size := by
  rw [terminate]
  split <;> simp

end BoundedBuffer

/-- A buffer after a rendering, the length of the full rendering or the error, and what there is
to report. -/
structure BufferedRendering where
  cells : Array UInt8
  result : Except RenderError Nat
  events : List Event

/-- Renders into the given cells.  They are terminated also when rendering fails. -/
def renderInto (cells : Array UInt8) (template : Text) (args : List Arg) : BufferedRendering :=
  let rendering := render template args
  let buffer := (rendering.output.foldl BoundedBuffer.push ⟨cells, 0⟩).terminate
  { cells := buffer.cells
    result := rendering.result
    events :=
      if buffer.truncated then [.truncated (buffer.length + 1) buffer.cells.size] else [] }

end DriverPrintf
