import DriverPrintf.Proofs.Render.Outcome

/-!
# Render — a rendering that stops

A rendering that fails at a segment has written the segments before it.  `StopsAt` says where that
is: the bytes of the segments before, the conversion that could not be rendered if it was one, and
the error.  It speaks of the template's segments and of the arguments alone; `StopsAt.render_eq`
says what rendering makes of it, and `exists_stopsAt` that every failure but a surplus of arguments
is of this form.

The failing segment itself should write nothing.  A conversion looks at its argument before it
writes, with one exception: the mark of an address is out before the address is asked for.

* **What a failing segment has written** (`output_of_failing_segment_iff`): nothing, exactly if it
  is malformed or its conversion takes no address; otherwise `0x`.
* **The mark of a missing pointer** (`missing_pointer_leaves_mark`).
-/

namespace DriverPrintf

/-- A rendering stops at a segment.  `pieces` are the bytes of the segments before it, and
`conversion?` is what it asks for unless it is malformed. -/
inductive StopsAt (template : Text) (args : List Arg) :
    List Bytes → Option Conversion → RenderError → Prop where
  | malformed {pieces : List Bytes} {left : List Arg} {error : ParseError}
      (herror : errorOf? template = some error)
      (h : Written (segmentsOf template) args pieces left) :
      StopsAt template args pieces none (.malformed error)
  | missing {before more : List Segment} {pieces : List Bytes} {conversion : Conversion}
      (hsegments : segmentsOf template = before ++ .conversion conversion :: more)
      (h : Written before args pieces []) :
      StopsAt template args pieces (some conversion)
        (.missing (conversionsIn before).length conversion.argKind)
  | mismatch {before more : List Segment} {pieces : List Bytes} {conversion : Conversion}
      {arg : Arg} {left : List Arg}
      (hsegments : segmentsOf template = before ++ .conversion conversion :: more)
      (h : Written before args pieces (arg :: left)) (hno : ¬ conversion.Suits arg) :
      StopsAt template args pieces (some conversion)
        (.mismatch (conversionsIn before).length conversion.argKind arg.kind)

/-- The bytes of a rendering that stops: the segments before, and the mark of the conversion it
stops at. -/
theorem StopsAt.render_eq {template : Text} {args : List Arg} {pieces : List Bytes}
    {conversion? : Option Conversion} {error : RenderError}
    (h : StopsAt template args pieces conversion? error) :
    render template args =
      ⟨pieces.flatten ++ Text.utf8 (conversion?.elim [] Conversion.mark), some error⟩ := by
  cases h with
  | malformed herror h =>
    rw [render_of_written h, herror]
    simp [Rendering.ofResults, Rendering.after]
  | missing hsegments h => exact render_of_unsuited hsegments h (by simp)
  | mismatch hsegments h hno =>
    refine render_of_unsuited hsegments h fun arg harg => ?_
    obtain rfl := Option.some.inj harg
    exact hno

/-- Every error but that of a surplus is the error of a segment. -/
theorem exists_stopsAt {template : Text} {args : List Arg} {error : RenderError}
    (herror : (render template args).error? = some error)
    (hsegment : ∀ expected supplied, error ≠ .surplus expected supplied) :
    ∃ pieces conversion?, StopsAt template args pieces conversion? error := by
  have hstop : ∀ {pieces conversion? error'}, StopsAt template args pieces conversion? error' →
      ∃ pieces conversion?, StopsAt template args pieces conversion? error := by
    intro pieces conversion? error' h
    rw [h.render_eq] at herror
    obtain rfl := Option.some.inj herror
    exact ⟨pieces, conversion?, h⟩
  rcases written_or_unsuited (segmentsOf template) args with
    ⟨pieces, left, h⟩ | ⟨before, conversion, more, pieces, left, hsegments, h, hno⟩
  · cases hend : errorOf? template with
    | some parseError => exact hstop (.malformed hend h)
    | none =>
      -- the template has been rendered in full, so only a surplus is left to complain of
      rw [render_of_written h, hend] at herror
      cases left with
      | nil => cases herror
      | cons arg left => exact absurd (Option.some.inj herror).symm (hsegment _ _)
  · cases left with
    | nil => exact hstop (.missing hsegments h)
    | cons arg left => exact hstop (.mismatch hsegments h (hno arg rfl))

namespace Conversion

/-- The conversion prints an address. -/
def TakesAddress (conversion : Conversion) : Prop :=
  conversion.argKind = .pointer ∨ conversion.argKind = .busAddress

/-- Only addresses have a mark. -/
theorem mark_eq (conversion : Conversion) :
    (conversion.TakesAddress → conversion.mark = ['0', 'x']) ∧
      (¬ conversion.TakesAddress → conversion.mark = []) := by
  cases conversion <;> simp [TakesAddress, argKind, mark]

end Conversion

/-- **What a failing segment has written.**  A rendering that fails at a segment stops at one, with
the segments before it written.  That nothing else is written holds exactly if the segment is
malformed or takes no address; an address has written its mark. -/
theorem output_of_failing_segment_iff {template : Text} {args : List Arg} {error : RenderError}
    (herror : (render template args).result = .error error)
    (hsegment : ∀ expected supplied, error ≠ .surplus expected supplied) :
    (∃ pieces conversion?, StopsAt template args pieces conversion? error) ∧
    ∀ pieces conversion?, StopsAt template args pieces conversion? error →
      ((render template args).output = pieces.flatten ↔
        ∀ conversion ∈ conversion?, ¬ conversion.TakesAddress) ∧
      ((∃ conversion ∈ conversion?, conversion.TakesAddress) →
        (render template args).output = pieces.flatten ++ Text.utf8 ['0', 'x']) := by
  refine ⟨exists_stopsAt (Rendering.result_eq_error_iff.mp herror) hsegment,
    fun pieces conversion? h => ?_⟩
  rw [h.render_eq]
  cases conversion? with
  | none => simp
  | some conversion =>
    obtain ⟨hmark, hnone⟩ := conversion.mark_eq
    by_cases haddress : conversion.TakesAddress
    · simp [hmark haddress, haddress]
    · simp [hnone haddress, haddress]

/-- An integer does not suit `%s`, and nothing is written for it. -/
theorem unsuited_string_writes_nothing :
    (render "%u from %s".toList [.integer 3, .integer 4]).result =
        .error (.mismatch 1 .string .integer) ∧
      StopsAt "%u from %s".toList [.integer 3, .integer 4]
        [Text.utf8 ['3'], Text.utf8 " from ".toList] (some (.string ⟨.spacesBefore, 0⟩))
        (.mismatch 1 .string .integer) ∧
      (render "%u from %s".toList [.integer 3, .integer 4]).output =
        [Text.utf8 ['3'], Text.utf8 " from ".toList].flatten := by
  have hsegments : segmentsOf "%u from %s".toList =
      [.conversion (.integer ⟨.spacesBefore, 0⟩ .word .unsigned), .literal " from ".toList] ++
        .conversion (.string ⟨.spacesBefore, 0⟩) :: [] := by decide +kernel
  have herror : (render "%u from %s".toList [.integer 3, .integer 4]).result =
      .error (.mismatch 1 .string .integer) :=
    Rendering.result_eq_error_iff.mpr (by decide +kernel)
  have hsegment : ∀ expected supplied,
      RenderError.mismatch 1 .string .integer ≠ .surplus expected supplied := by
    intro expected supplied h
    cases h
  have hstops : StopsAt "%u from %s".toList [.integer 3, .integer 4]
      [Text.utf8 ['3'], Text.utf8 " from ".toList] (some (.string ⟨.spacesBefore, 0⟩))
      (.mismatch 1 .string .integer) :=
    .mismatch hsegments (.conversion (by decide +kernel) (.literal _ (.nil _)))
      (by simp [Conversion.Suits, Conversion.argKind, Arg.kind])
  have hwritten := ((output_of_failing_segment_iff herror hsegment).2 _ _ hstops).1
  exact ⟨herror, hstops, hwritten.mpr (by simp [Conversion.TakesAddress, Conversion.argKind])⟩

/-- **The mark of a missing pointer.**  The rendering stops behind the text, and `0x` is written
all the same. -/
theorem missing_pointer_leaves_mark :
    StopsAt "at %p".toList [] [Text.utf8 "at ".toList] (some (.pointer .lower))
        (.missing 0 .pointer) ∧
      (render "at %p".toList []).output = Text.utf8 "at 0x".toList ∧
      (render "at %p".toList []).output ≠ [Text.utf8 "at ".toList].flatten := by
  have hsegments : segmentsOf "at %p".toList =
      [.literal "at ".toList] ++ .conversion (.pointer .lower) :: [] := by decide +kernel
  have houtput : (render "at %p".toList []).output = Text.utf8 "at 0x".toList := by
    decide +kernel
  refine ⟨.missing hsegments (.literal _ (.nil _)), houtput, ?_⟩
  rw [houtput]
  decide

end DriverPrintf
