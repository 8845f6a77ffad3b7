import DriverPrintf.Proofs.Command.Agreement
import DriverPrintf.Proofs.Text.Cuts
import DriverPrintf.Proofs.Text.Digits

/-!
# Command — renderings that do not fit

Formatting shows a rendering as far as its buffer has kept it.  The buffer counts bytes, and cuts
the rendering between any two of them; what is shown are characters.  Since arguments that are read
from texts are rendered to text, everything that is shown is the rendering's own, but for one
replacement where a character has been cut (`Text.ShownAt`).

How many bytes were stored is worked out twice: by the buffer, which leaves a cell for the
terminator and reports what it has lost, and by the command, which knows only the size that it
asked for and the length of the rendering.

* **What fits is shown** (`format_shows_what_fits`): what a command that succeeds writes, what is
  said of the rest, and that this is said exactly if the buffer reports it.
-/

namespace DriverPrintf

open Text (utf8 decimal)
open BoundedBuffer (kept)

/-- What is said of a rendering that is not shown whole. -/
def truncationNote (stored length : Nat) : Text :=
  "(truncated: ".toList ++ decimal stored ++ " of ".toList ++ decimal length ++
    " bytes stored)\n".toList

theorem lines_truncated (stored length : Nat) :
    Text.lines [("(truncated: " ++ toString stored ++ " of " ++ toString length
      ++ " bytes stored)").toList] = truncationNote stored length := by
  have hline : ("(truncated: " ++ toString stored ++ " of " ++ toString length
      ++ " bytes stored)").toList = "(truncated: ".toList ++ decimal stored ++ " of ".toList ++
        decimal length ++ " bytes stored)".toList := by
    simp only [String.toList_append, Text.toList_toString]
  rw [Text.lines_cons, Text.lines_nil, hline]
  exact List.append_assoc _ _ _

/-- A template that is rendered to its end is not reported. -/
theorem expectedKinds_of_render {template : Text} {args : List Arg}
    (h : (render template args).error? = none) : (Arguments.expectedKinds template).2 = [] := by
  cases error?_eq_iff_decided.mp h with
  | complete herror =>
    rw [Arguments.expectedKinds, Template.parse_eq, herror]

/-- **What fits is shown.**  A command that succeeds has rendered its template to some text.  It
shows the whole characters of it that fit in what the buffer stores, with one replacement behind
them exactly if the cut falls inside a character, and a newline.  Exactly if some bytes are not
stored, which is when the buffer reports it, a line says how many are. -/
theorem format_shows_what_fits {size : Nat} {template : Text} {texts : List Text}
    (h : (Command.run (.format size template texts)).error? = none) :
    ∃ args out stored shown,
      Arguments.ofTexts template texts = .ok args ∧
      render template args = ⟨utf8 out, none⟩ ∧
      stored = min (utf8 out).length (max size 1 - 1) ∧
      Text.ShownAt stored out shown ∧
      (Command.run (.format size template texts)).stdout =
        utf8 (shown ++ '\n' ::
          if stored < (utf8 out).length then truncationNote stored (utf8 out).length else []) ∧
      (renderInto (Array.replicate size 0) template args).events =
        (if stored < (utf8 out).length then [.truncated ((utf8 out).length + 1) size] else []) ∧
      (Command.run (.format size template texts)).events =
        (renderInto (Array.replicate size 0) template args).events ++
          [.rendered (utf8 out).length stored size] := by
  rw [Command.run] at h ⊢
  cases hargs : Arguments.ofTexts template texts with
  | error error =>
    rw [Command.runFormat, hargs] at h
    cases h
  | ok args =>
    have hsize : size ≤ BoundedBuffer.maxSize := by
      refine Nat.le_of_not_lt fun hlarge => ?_
      rw [Command.runFormat_of_maxSize_lt hargs hlarge] at h
      cases h
    have hnone : (render template args).error? = none := by
      rwa [Command.error?_runFormat_of_ok hargs hsize, Option.map_eq_none_iff] at h
    obtain ⟨out, hout⟩ := Arguments.isUtf8_output_of_ofTexts hargs
    have hresult : (render template args).result = .ok (utf8 out).length :=
      Rendering.result_eq_ok_iff.mpr ⟨hnone, by rw [hout]⟩
    have hrun := Command.runFormat_of_ok hargs hresult hsize
    rw [hout, expectedKinds_of_render hnone, List.nil_append] at hrun
    have hstored : kept (utf8 out).length size = min (utf8 out).length (max size 1 - 1) := by
      rw [kept]
      omega
    -- the buffer compares the length with its size, and the command with what was stored
    have htruncated : max size 1 - 1 < (utf8 out).length ↔
        kept (utf8 out).length size < (utf8 out).length := by
      rw [kept]
      omega
    have hevents := events_renderInto (Array.replicate size 0) template args
    rw [hout, Array.size_replicate, if_congr htruncated rfl rfl] at hevents
    refine ⟨args, out, kept (utf8 out).length size, _, rfl, ?_, hstored,
      Text.shownAt_iff.mpr rfl, ?_, hevents, congrArg Execution.events hrun⟩
    · rw [← hout, ← hnone]
    · rw [hrun]
      split
      · rw [Text.lines_cons, lines_truncated]
      · rw [Text.lines_cons, Text.lines_nil]

/-- Three bytes of text in three cells: the last byte is half a character. -/
theorem format_shows_what_fits_of_half_a_character :
    (Command.run (.format 3 "%s".toList ["aé".toList])).error? = none ∧
      (Command.run (.format 3 "%s".toList ["aé".toList])).stdout =
        utf8 "a\uFFFD\n(truncated: 2 of 3 bytes stored)\n".toList ∧
      (Command.run (.format 3 "%s".toList ["aé".toList])).events =
        [.truncated 4 3, .rendered 3 2 3] := by
  have h : (Command.run (.format 3 "%s".toList ["aé".toList])).error? = none := by
    decide +kernel
  obtain ⟨args, out, stored, shown, hargs, hrender, rfl, hshown, hstdout, hbuffer, hevents⟩ :=
    format_shows_what_fits h
  have hread : Arguments.ofTexts "%s".toList ["aé".toList] = .ok [.string (utf8 "aé".toList)] := by
    rw [Arguments.ofTexts, Arguments.expectedKinds, Template.parse_eq]
    decide +kernel
  obtain rfl := Except.ok.inj (hread.symm.trans hargs)
  have hout : render "%s".toList [.string (utf8 "aé".toList)] = ⟨utf8 "aé".toList, none⟩ := by
    decide +kernel
  rw [hout, Rendering.mk.injEq] at hrender
  obtain rfl : "aé".toList = out := by
    rw [← Text.decodeLossy_utf8 "aé".toList, hrender.1, Text.decodeLossy_utf8]
  obtain rfl := Text.shownAt_iff.mp hshown
  rw [hbuffer] at hevents
  exact ⟨h, hstdout.trans (by decide +kernel), hevents⟩

end DriverPrintf
