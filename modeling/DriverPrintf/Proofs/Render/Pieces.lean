import DriverPrintf.Proofs.Render.Outcome
import DriverPrintf.Proofs.Text.Utf8

/-!
# Render — what outputs are made of

Whether rendering succeeds or not, its output is made of the literals of the template, of what its
conversions make of their own arguments, and of at most one mark.  So a property of bytes that two
parts of the output have together, if each of them has it, holds of the output when it holds of
all of these (`Made`, `made_output`).

* **Text from text** (`isUtf8_output`): with arguments that are texts, of the kinds that the
  conversions take, the output is UTF-8, also where it has been cut short.
-/

namespace DriverPrintf

/-- A property of nothing, of any two parts that have it put together, and of the bytes that the
segments can contribute. -/
structure Made (p : Bytes → Prop) (segments : List Segment) (args : List Arg) : Prop where
  nil : p []
  append : ∀ {a b}, p a → p b → p (a ++ b)
  literal : ∀ {text}, .literal text ∈ segments → p (Text.utf8 text)
  mark : ∀ {conversion}, conversion ∈ conversionsIn segments → p (Text.utf8 conversion.mark)
  render : ∀ {i : Nat} {conversion arg bytes}, (conversionsIn segments)[i]? = some conversion →
    args[i]? = some arg → conversion.render? arg = some bytes → p bytes

namespace Made

variable {p : Bytes → Prop}

/-- A literal takes no argument. -/
theorem tail_literal {text : Text} {segments : List Segment} {args : List Arg}
    (h : Made p (.literal text :: segments) args) : Made p segments args where
  nil := h.nil
  append := h.append
  literal hmem := h.literal (List.mem_cons_of_mem _ hmem)
  mark := h.mark
  render := h.render

/-- A conversion takes the first argument. -/
theorem tail_conversion {conversion : Conversion} {segments : List Segment} {arg : Arg}
    {args : List Arg} (h : Made p (.conversion conversion :: segments) (arg :: args)) :
    Made p segments args where
  nil := h.nil
  append := h.append
  literal hmem := h.literal (List.mem_cons_of_mem _ hmem)
  mark hmem := h.mark (List.mem_cons_of_mem _ hmem)
  render {i _ _ _} hconversion harg := h.render (i := i + 1) hconversion harg

theorem of_append {before more : List Segment} {args : List Arg}
    (h : Made p (before ++ more) args) : Made p before args where
  nil := h.nil
  append := h.append
  literal hmem := h.literal (List.mem_append_left _ hmem)
  mark hmem := h.mark (by rw [conversionsIn_append]; exact List.mem_append_left _ hmem)
  render {i _ _ _} hconversion harg hbytes := by
    refine h.render (i := i) ?_ harg hbytes
    have hlt : i < (conversionsIn before).length := (List.getElem?_eq_some_iff.mp hconversion).1
    rw [conversionsIn_append, List.getElem?_append_left hlt, hconversion]

/-- What has been written has the property. -/
theorem flatten {segments : List Segment} {args left : List Arg} {pieces : List Bytes}
    (hwritten : Written segments args pieces left) (h : Made p segments args) :
    p pieces.flatten := by
  induction hwritten with
  | nil args => exact h.nil
  | literal text t ih => exact h.append (h.literal List.mem_cons_self) (ih h.tail_literal)
  | conversion hbytes t ih =>
    exact h.append (h.render (i := 0) rfl rfl hbytes) (ih h.tail_conversion)

end Made

/-- A field is made of its sign, its body and its filling. -/
theorem FieldLayout.pad_of {p : Bytes → Prop} (happend : ∀ {a b}, p a → p b → p (a ++ b))
    (hfilling : ∀ n, p (List.replicate n 0x20) ∧ p (List.replicate n 0x30)) (layout : FieldLayout)
    {sign body : Bytes} (hsign : p sign) (hbody : p body) : p (layout.pad sign body) := by
  rw [pad]
  cases layout.padding with
  | spacesBefore => exact happend (happend (hfilling _).1 hsign) hbody
  | zeros => exact happend (happend hsign (hfilling _).2) hbody
  | spacesAfter => exact happend (happend hsign hbody) (hfilling _).1

/-- **What an output is made of.**  It has every property that passes from its parts to the
whole. -/
theorem made_output {p : Bytes → Prop} {template : Text} {args : List Arg}
    (h : Made p (segmentsOf template) args) : p (render template args).output := by
  rcases written_or_unsuited (segmentsOf template) args with
    ⟨pieces, left, hwritten⟩ | ⟨before, conversion, more, pieces, left, hsegments, hwritten, hno⟩
  · rw [output_of_written hwritten]
    exact h.flatten hwritten
  · have hmem : conversion ∈ conversionsIn (segmentsOf template) := by simp [hsegments]
    rw [render_of_unsuited hsegments hwritten hno]
    exact h.append ((hsegments ▸ h).of_append.flatten hwritten) (h.mark hmem)

/-! ### Outputs that are text -/

open Text (IsUtf8 isUtf8_utf8 isUtf8_replicate)

/-- An argument whose bytes are those of a text. -/
def Arg.IsText : Arg → Prop
  | .string bytes => IsUtf8 bytes
  | .char byte => byte < 0x80
  | _ => True

/-- Of a text of its own kind a conversion makes a text.  An integer, of which `%c` would write the
low byte whatever it is, is not of the kind of `%c`. -/
theorem Conversion.isUtf8_render? {conversion : Conversion} {arg : Arg} {bytes : Bytes}
    (h : conversion.render? arg = some bytes) (hkind : arg.kind = conversion.argKind)
    (harg : arg.IsText) : IsUtf8 bytes := by
  obtain ⟨body, hbody, rfl⟩ := Option.map_eq_some_iff.mp h
  have hpad : ∀ (layout : FieldLayout) {sign body : Bytes}, IsUtf8 sign → IsUtf8 body →
      IsUtf8 (layout.pad sign body) := fun layout _ _ =>
    layout.pad_of IsUtf8.append fun n =>
      ⟨isUtf8_replicate (by decide) n, isUtf8_replicate (by decide) n⟩
  refine (isUtf8_utf8 conversion.mark).append ?_
  cases conversion <;> cases arg <;> cases hkind <;> cases hbody
  case integer => exact hpad _ (isUtf8_utf8 _) (isUtf8_utf8 _)
  case string => exact hpad _ (isUtf8_utf8 []) harg
  case char => exact Text.isUtf8_ascii harg
  case pointer => exact isUtf8_utf8 _
  case busAddress => exact isUtf8_utf8 _
  case bitset => exact isUtf8_utf8 _

/-- **Text from text.**  The output is UTF-8, also where a failure has cut it short. -/
theorem isUtf8_output {template : Text} {args : List Arg} (htext : ∀ arg ∈ args, arg.IsText)
    (hkind : ∀ {i : Nat} {conversion arg}, (conversionsOf template)[i]? = some conversion →
      args[i]? = some arg → conversion.Suits arg → arg.kind = conversion.argKind) :
    IsUtf8 (render template args).output :=
  made_output {
    nil := isUtf8_utf8 []
    append := IsUtf8.append
    literal := fun _ => isUtf8_utf8 _
    mark := fun _ => isUtf8_utf8 _
    render := fun hconversion harg hbytes => by
      have hsuits := (Conversion.render?_isSome _ _).mp (Option.isSome_of_eq_some hbytes)
      exact Conversion.isUtf8_render? hbytes (hkind hconversion harg hsuits)
        (htext _ (List.mem_of_getElem? harg)) }

end DriverPrintf
