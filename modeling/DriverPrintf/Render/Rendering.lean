import DriverPrintf.Render.Conversion
import DriverPrintf.Template.Reader

/-!
# Render — a whole template

A template is rendered as it is read.  The first failure, of the template or of an argument, ends
the rendering, and what stands before it has been written; of the failing conversion only its
mark.  Arguments that no conversion takes are reported only at the end.
-/

namespace DriverPrintf

/-- Why a rendering is not complete.  Arguments are counted from 0. -/
inductive RenderError where
  | malformed (error : ParseError)
  | missing (index : Nat) (expected : ArgKind)
  | mismatch (index : Nat) (expected found : ArgKind)
  | surplus (expected supplied : Nat)
deriving DecidableEq, Repr

/-- The text of a rendering error. -/
def RenderError.message : RenderError → String
  | .malformed error => "malformed template: " ++ error.message
  | .missing index expected =>
    "missing argument " ++ toString index ++ " (expected " ++ expected.name ++ ")"
  | .mismatch index expected found =>
    "argument " ++ toString index ++ " is a " ++ found.name ++ ", expected " ++ expected.name
  | .surplus expected supplied =>
    "template consumes " ++ toString expected ++ " arguments but " ++ toString supplied
      ++ " were supplied"

/-- The bytes that were written, and what cut them short. -/
structure Rendering where
  output : Bytes
  error? : Option RenderError
deriving DecidableEq, Repr

namespace Rendering

/-- The number of bytes written, or the error.  Each byte is counted when it is written, wherever it
goes, so the count is the length of the output. -/
def result (rendering : Rendering) : Except RenderError Nat :=
  match rendering.error? with
  | some error => .error error
  | none => .ok rendering.output.length

/-- A rendering with some bytes before it. -/
def after (bytes : Bytes) (rendering : Rendering) : Rendering :=
  { rendering with output := bytes ++ rendering.output }

/-- Renders what is left of a template when `index` arguments have been taken and `args` have
not. -/
def ofResults (index : Nat) : List (Except ParseError Segment) → List Arg → Rendering
  | [], [] => ⟨[], none⟩
  | [], arg :: args => ⟨[], some (.surplus index (index + (arg :: args).length))⟩
  | .error error :: _, _ => ⟨[], some (.malformed error)⟩
  | .ok (.literal text) :: more, args => (ofResults index more args).after (Text.utf8 text)
  | .ok (.conversion conversion) :: _, [] =>
    ⟨Text.utf8 conversion.mark, some (.missing index conversion.argKind)⟩
  | .ok (.conversion conversion) :: more, arg :: args =>
    match conversion.render? arg with
    | none =>
      ⟨Text.utf8 conversion.mark, some (.mismatch index conversion.argKind arg.kind)⟩
    | some bytes => (ofResults (index + 1) more args).after bytes

end Rendering

/-- Renders a template with its arguments. -/
def render (template : Text) (args : List Arg) : Rendering :=
  .ofResults 0 ((itemsOf template).map Item.result) args

end DriverPrintf
