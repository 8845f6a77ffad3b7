import DriverPrintf.Proofs.BoundedBuffer
import DriverPrintf.Proofs.Command.Listing
import DriverPrintf.Proofs.Render.Pieces

/-!
# Command — printing against formatting

Printing writes the rendering as it is.  Formatting takes it out of a buffer of zero-terminated
bytes and decodes it, so it shows the same bytes only if they fit and are UTF-8.  Arguments read
from texts see to the second: strings are texts, a character is ASCII, and an integer never gets
to `%c`, which would write a byte of it (`isUtf8_output_of_ofTexts`).

Formatting also needs a buffer, so its success and its errors of rendering are those of the sizes
that a buffer can have (`BoundedBuffer.maxSize`).  For a larger one nothing is rendered.

* **Printing and formatting agree** (`print_format_agree`): they fail on the same texts and with
  the same error of rendering, and if the buffer is large enough, formatting shows exactly what
  printing writes behind the tag.
-/

namespace DriverPrintf

open Text (IsUtf8)
open BoundedBuffer (kept)

/-! ### Arguments that texts stand for -/

namespace Arguments

theorem isText_of_ofText {kind : ArgKind} {text : Text} {arg : Arg}
    (h : ofText kind text = .ok arg) : arg.IsText := by
  have hkind := kind_of_ofText h
  cases arg with
  | integer | pointer | busAddress => trivial
  | string bytes =>
    obtain rfl : ArgKind.string = kind := hkind
    cases h
    exact Text.isUtf8_utf8 text
  | char byte =>
    obtain rfl : ArgKind.char = kind := hkind
    rw [ofText] at h
    split at h
    · rename_i hbytes
      cases h
      exact Text.lt_of_utf8_eq_singleton hbytes
    · cases h

theorem Converts.isText {kinds : List ArgKind} {texts : List Text} {args : List Arg}
    (h : Converts kinds texts args) : ∀ arg ∈ args, arg.IsText := by
  induction h with
  | nil kinds => simp
  | cons h t ih => exact List.forall_mem_cons.mpr ⟨isText_of_ofText h, ih⟩

/-- An argument read from a text suits a conversion only by its kind. -/
theorem kind_eq_of_ofTexts {template : Text} {texts : List Text} {args : List Arg}
    (h : ofTexts template texts = .ok args) {i : Nat} {conversion : Conversion} {arg : Arg}
    (hconversion : (conversionsOf template)[i]? = some conversion) (harg : args[i]? = some arg)
    (hsuits : conversion.Suits arg) : arg.kind = conversion.argKind := by
  cases herror : errorOf? template with
  | none =>
    rw [ofTexts_of_complete herror] at h
    refine (ofTextsFrom_eq_ok h).kind_eq ?_ harg
    rw [List.getElem?_map, hconversion, Option.map_some]
  | some error =>
    -- without a template all arguments are strings, which suit nothing else
    rw [ofTexts_of_malformed (Template.parse_eq_error_iff.mpr herror)] at h
    obtain rfl := Except.ok.inj h
    rw [argKind_of_suits_strings harg hsuits]
    rw [getElem?_strings, Option.map_eq_some_iff] at harg
    obtain ⟨text, -, rfl⟩ := harg
    rfl

/-- **Arguments read from texts** are rendered to text. -/
theorem isUtf8_output_of_ofTexts {template : Text} {texts : List Text} {args : List Arg}
    (h : ofTexts template texts = .ok args) : IsUtf8 (render template args).output :=
  isUtf8_output (Converts.isText (ofTextsFrom_eq_ok h)) (kind_eq_of_ofTexts h)

end Arguments

/-! ### What formatting shows -/

namespace Command

/-- A rendering that fails is not shown. -/
theorem stdout_runFormat_of_error {template : Text} {texts : List Text} {args : List Arg}
    {error : RenderError} (h : Arguments.ofTexts template texts = .ok args)
    (herror : (render template args).result = .error error) (size : Nat) :
    (runFormat size template texts).stdout = [] := by
  rcases Nat.lt_or_ge BoundedBuffer.maxSize size with hlarge | hsize
  · rw [runFormat_of_maxSize_lt h hlarge]
  · have hresult : (renderInto (Array.replicate size 0) template args).result = .error error :=
      herror
    rw [runFormat, h]
    simp only [if_neg (Nat.not_lt.mpr hsize), hresult]

/-- What formatting shows of a rendering are the bytes that its buffer has kept. -/
theorem runFormat_of_ok {template : Text} {texts : List Text} {args : List Arg} {length : Nat}
    (h : Arguments.ofTexts template texts = .ok args)
    (hlength : (render template args).result = .ok length) {size : Nat}
    (hsize : size ≤ BoundedBuffer.maxSize) :
    runFormat size template texts =
      ⟨Text.utf8 (Text.lines
          (Text.decodeLossy ((render template args).output.take (kept length size)) ::
            if kept length size < length then
              [("(truncated: " ++ toString (kept length size) ++ " of " ++ toString length
                ++ " bytes stored)").toList]
            else [])),
        (Arguments.expectedKinds template).2 ++
          (renderInto (Array.replicate size 0) template args).events ++
          [.rendered length (kept length size) size],
        none⟩ := by
  have hresult : (renderInto (Array.replicate size 0) template args).result = .ok length :=
    hlength
  obtain ⟨-, rfl⟩ := Rendering.result_eq_ok_iff.mp hlength
  have hcells := take_cells_renderInto (Array.replicate size 0) template args
  rw [Array.size_replicate] at hcells
  rw [runFormat, h]
  simp only [if_neg (Nat.not_lt.mpr hsize), hresult, formatText, ← hcells]
  rfl

/-- A rendering that fits and is text is shown as it is. -/
theorem stdout_runFormat_of_fits {template : Text} {texts : List Text} {args : List Arg}
    {length : Nat} (h : Arguments.ofTexts template texts = .ok args)
    (hlength : (render template args).result = .ok length) {size : Nat} (hfits : length < size)
    (hsize : size ≤ BoundedBuffer.maxSize) :
    (runFormat size template texts).stdout = (render template args).output ++ [0x0a] := by
  have hkept : kept length size = length := Nat.min_eq_left (Nat.le_sub_one_of_lt hfits)
  rw [runFormat_of_ok h hlength hsize, hkept]
  obtain ⟨-, rfl⟩ := Rendering.result_eq_ok_iff.mp hlength
  obtain ⟨text, htext⟩ := Arguments.isUtf8_output_of_ofTexts h
  simp only [Nat.lt_irrefl, if_false, Text.lines_cons, Text.lines_nil, List.take_length]
  rw [htext, Text.decodeLossy_utf8, Text.utf8_append]
  rfl

end Command

/-- **Printing and formatting agree.**  On texts that are no arguments of the template both fail
and write nothing.  On others the output of the rendering is UTF-8, whether the rendering fails or
not; printing writes it between the tag and a newline.  Both succeed exactly if the rendering
does, and else report its error, formatting without any output.  If the buffer has more cells than
the rendering has bytes, what is printed is the tag and what formatting shows.  A size that no
buffer can have breaks formatting off, also without any output. -/
theorem print_format_agree (template : Text) (texts : List Text) :
    (∀ error, Arguments.ofTexts template texts = .error error →
      (Command.run (.print template texts)).stdout = [] ∧
      (Command.run (.print template texts)).error? = some error ∧
      ∀ size, (Command.run (.format size template texts)).stdout = [] ∧
        (Command.run (.format size template texts)).error? = some error) ∧
    ∀ args, Arguments.ofTexts template texts = .ok args →
      (∃ text, (render template args).output = Text.utf8 text) ∧
      (Command.run (.print template texts)).stdout =
        Text.utf8 Line.tag ++ (render template args).output ++ [0x0a] ∧
      ((Command.run (.print template texts)).error? = none ↔
        ∃ length, (render template args).result = .ok length) ∧
      (∀ size ≤ BoundedBuffer.maxSize, (Command.run (.format size template texts)).error? = none ↔
        ∃ length, (render template args).result = .ok length) ∧
      (∀ error, (render template args).result = .error error →
        (Command.run (.print template texts)).error? = some (.printing (.render error)) ∧
        (∀ size ≤ BoundedBuffer.maxSize,
          (Command.run (.format size template texts)).error? = some (.rendering error)) ∧
        ∀ size, (Command.run (.format size template texts)).stdout = []) ∧
      (∀ length, (render template args).result = .ok length →
        ∀ size > length, size ≤ BoundedBuffer.maxSize →
          (Command.run (.print template texts)).stdout =
            Text.utf8 Line.tag ++ (Command.run (.format size template texts)).stdout) ∧
      ∀ size > BoundedBuffer.maxSize,
        (Command.run (.format size template texts)).error? = some .capacityOverflow ∧
        (Command.run (.format size template texts)).stdout = [] := by
  refine ⟨fun error h => ?_, fun args h => ?_⟩
  · simp only [Command.run, Command.runPrint, Command.runFormat, h, implies_true, and_self]
  obtain ⟨hstdout, hprint⟩ := Command.runPrint_of_ok h
  have hok : (∃ length, (render template args).result = .ok length) ↔
      (render template args).error? = none := by
    simp only [Rendering.result_eq_ok_iff, exists_and_left, exists_eq, and_true]
  refine ⟨Arguments.isUtf8_output_of_ofTexts h, hstdout, ?_, fun size hsize => ?_,
    fun error herror => ?_, fun length hlength size hfits hsize => ?_, fun size hlarge => ?_⟩
  · rw [Command.run, hprint, Option.map_eq_none_iff, hok]
  · rw [Command.run, Command.error?_runFormat_of_ok h hsize, Option.map_eq_none_iff, hok]
  · have hsome := Rendering.result_eq_error_iff.mp herror
    refine ⟨?_, fun size hsize => ?_, Command.stdout_runFormat_of_error h herror⟩
    · rw [Command.run, hprint, hsome, Option.map_some]
    · rw [Command.run, Command.error?_runFormat_of_ok h hsize, hsome, Option.map_some]
  · rw [Command.run, hstdout, Command.run, Command.stdout_runFormat_of_fits h hlength hfits hsize,
      List.append_assoc]
  · rw [Command.run, Command.runFormat_of_maxSize_lt h hlarge]
    exact ⟨rfl, rfl⟩

/-- One byte more than a buffer may have. -/
example : ((Command.run (.format 0x8000000000000000 ['x'] [])).outcome false).exitCode = 101 := by
  decide +kernel

end DriverPrintf
