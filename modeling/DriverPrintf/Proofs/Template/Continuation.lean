import DriverPrintf.Proofs.Template.Grammar

/-!
# Template — text behind a segment

A template may be cut anywhere and go on after the cut.  A run of text goes on with it, so the
segments of a whole are not those of its parts; but a segment that begins with `%` ends by itself,
and is read in the same way whatever text comes behind it.  `run_or_scan_append` is this
alternative.

What stands before a text moves the offsets in its errors and changes nothing else that is read
of it (`Reader.results_behind`).
-/

namespace DriverPrintf

/-- An error of a text with `bytes` bytes before it. -/
def ParseError.behind (bytes : Nat) (error : ParseError) : ParseError :=
  { error with offset := error.offset + bytes }

namespace Segment

/-- **A run or a segment that ends by itself.** -/
theorem run_or_scan_append {text rest : Text} {segment : Segment} (hne : text ≠ [])
    (h : scan text = .ok segment rest) :
    (∃ run, '%' ∉ run ∧ text = run ++ rest ∧ segment = .literal run) ∨
      ∀ more, scan (text ++ more) = .ok segment (rest ++ more) := by
  obtain ⟨piece, hwf, hmax, rfl, rfl⟩ := (scan_eq_ok_iff hne).mp h
  by_cases hrun : piece.IsRun
  · cases piece with
    | run text => exact .inl ⟨text, hwf.2, rfl, rfl⟩
    | percent | specification => exact hrun.elim
  · refine .inr fun more => ?_
    have hne' : piece.spelling ++ rest ++ more ≠ [] := List.append_ne_nil_of_left_ne_nil hne more
    exact (scan_eq_ok_iff hne').mpr
      ⟨piece, hwf, fun h => absurd h hrun, List.append_assoc _ _ _, rfl⟩

end Segment

/-- A conversion is read in the same way whatever text comes behind it. -/
theorem Reader.results_conversion_append {text mid : Text} {conversion : Conversion}
    (hne : text ≠ []) (h : Segment.scan text = .ok (.conversion conversion) mid) (more : Text)
    (offset : Nat) :
    results ⟨offset, text ++ more, false⟩ = .ok (.conversion conversion) ::
      results ⟨offset + Text.utf8Length (Text.before text mid), mid ++ more, false⟩ := by
  rcases Segment.run_or_scan_append hne h with ⟨run, -, -, hrun⟩ | happend
  · cases hrun
  · have hne' : text ++ more ≠ [] := List.append_ne_nil_of_left_ne_nil hne more
    rw [results_of_ok hne' (happend more),
      Text.before_append_append (Segment.stays_scan.suffix h)]

/-- What stands before a text moves its error by as much. -/
theorem Reader.results_behind (bytes offset : Nat) (text : Text) :
    results ⟨offset + bytes, text, false⟩ =
      (results ⟨offset, text, false⟩).map (Except.mapError (ParseError.behind bytes)) := by
  obtain ⟨segments, rest, hreads, hstuck⟩ := reads_total text
  have hoks : (segments.map .ok).map (Except.mapError (ParseError.behind bytes)) =
      segments.map (.ok : Segment → Except ParseError Segment) := by
    rw [List.map_map]
    rfl
  rw [results_of_reads hreads, results_of_reads hreads, List.map_append, hoks]
  rcases hstuck with rfl | ⟨fault, left, hne, hscan⟩
  · rw [results_nil, results_nil]
    rfl
  · rw [results_of_error hne hscan, results_of_error hne hscan]
    simp only [List.map_cons, List.map_nil, Except.mapError, Fault.toParseError,
      ParseError.behind]
    rw [Nat.add_right_comm offset bytes, Nat.add_right_comm _ bytes]

end DriverPrintf
