import DriverPrintf.Command.Inspection
import DriverPrintf.Proofs.Escaping

/-!
# Command — the spellings in a report

A report gives a row to each conversion of a template, with its place and its spelling there.  It
goes through the items of the reader by itself and not through the parsed template, so that the two
agree has to be shown: they fail together (`report_eq_error_iff`), and otherwise the rows and the
conversions are laid in the template side by side.

`Laid index offset text rows conversions` says how: a plain text, the spelling of the first row, and
so on, with a plain text at the end.  Each row is for its conversion (`Row.Lists`), which is also
all that its spelling means as a template.  The reader may cut a plain text into several literals,
and `Laid.behind_plain` puts them together again.

* **Rows are conversions** (`report_lays_conversions`).
-/

namespace DriverPrintf

open Text (utf8Length)

namespace Inspection

/-! ### Errors -/

/-- Rows are made of all the items or of none of them. -/
theorem rowsFrom_eq_error_iff {items : List Item} {index : Nat} {error : ParseError} :
    rowsFrom index items = .error error ↔ items.mapM Item.result = .error error := by
  induction items generalizing index with
  | nil => simp [rowsFrom, pure, Except.pure]
  | cons item items ih =>
    rw [rowsFrom, List.mapM_cons]
    cases item.result with
    | error fault => simp [bind, Except.bind]
    | ok segment =>
      have hmore : ((.ok segment : Except ParseError Segment) >>= fun first => do
          return first :: (← items.mapM Item.result)) = .error error ↔
            items.mapM Item.result = .error error := by
        cases items.mapM Item.result <;> simp [bind, Except.bind, pure, Except.pure]
      rw [hmore]
      cases segment with
      | literal text => exact ih
      | conversion conversion =>
        rw [← @ih (index + 1)]
        cases rowsFrom (index + 1) items <;> simp [bind, Except.bind, pure, Except.pure]

/-- A report fails where parsing does, with the same error. -/
theorem report_eq_error_iff {template : Text} {error : ParseError} :
    report template = .error error ↔ Template.parse template = .error error := by
  have hrows : report template = .error error ↔ rowsFrom 0 (itemsOf template) = .error error := by
    rw [report]
    cases rowsFrom 0 (itemsOf template) <;> simp [bind, Except.bind, pure, Except.pure]
  rw [hrows, rowsFrom_eq_error_iff, Template.parse]
  cases (itemsOf template).mapM Item.result <;> simp [bind, Except.bind, pure, Except.pure]

/-! ### Rows in a text -/

/-- A row is for a conversion: it says what the conversion takes and does, and its spelling, as a
template of its own, is the conversion and nothing else. -/
structure Row.Lists (row : Row) (conversion : Conversion) : Prop where
  argument : row.argument = conversion.argKind
  description : row.description = conversion.description
  spelling_ne_nil : row.spelling ≠ []
  alone : Template.parse row.spelling = .ok ⟨row.spelling, [.conversion conversion]⟩

/-- `text`, which begins at byte `offset`, consists of the spellings of the rows for some
conversions, with a plain text before, between and behind them.  The rows are numbered from
`index`. -/
inductive Laid : Nat → Nat → Text → List Row → List Conversion → Prop where
  | nil {index offset : Nat} {gap : Text} (hgap : IsPlain gap) : Laid index offset gap [] []
  | cons {index offset : Nat} {gap rest : Text} {row : Row} {rows : List Row}
      {conversion : Conversion} {conversions : List Conversion} (hgap : IsPlain gap)
      (hindex : row.index = index) (hoffset : row.offset = offset + utf8Length gap)
      (hrow : row.Lists conversion)
      (t : Laid (index + 1) (row.offset + utf8Length row.spelling) rest rows conversions) :
      Laid index offset (gap ++ row.spelling ++ rest) (row :: rows) (conversion :: conversions)

namespace Laid

variable {index offset : Nat} {text : Text} {rows : List Row} {conversions : List Conversion}

theorem length_eq (h : Laid index offset text rows conversions) :
    rows.length = conversions.length := by
  induction h with
  | nil => rfl
  | cons _ _ _ _ _ ih => rw [List.length_cons, ih, List.length_cons]

/-- Row `i` is for conversion `i`, and its spelling is a slice of the text. -/
theorem getElem? (h : Laid index offset text rows conversions) {i : Nat} {row : Row}
    (hrow : rows[i]? = some row) :
    row.index = index + i ∧
      (∃ conversion, conversions[i]? = some conversion ∧ row.Lists conversion) ∧
      ∃ before behind, text = before ++ row.spelling ++ behind ∧
        row.offset = offset + utf8Length before := by
  induction h generalizing i with
  | nil => cases hrow
  | @cons index offset gap rest first rows conversion conversions _ hindex hoffset hfirst _ ih =>
    cases i with
    | zero =>
      cases hrow
      exact ⟨hindex, ⟨conversion, rfl, hfirst⟩, gap, rest, rfl, hoffset⟩
    | succ i =>
      obtain ⟨hnumber, hlists, before, behind, rfl, hplace⟩ := ih hrow
      refine ⟨by omega, hlists, gap ++ first.spelling ++ before, behind, by simp, ?_⟩
      rw [hplace, hoffset]
      simp [Nat.add_assoc]

theorem offset_le (h : Laid index offset text rows conversions) {row : Row} (hrow : row ∈ rows) :
    offset ≤ row.offset := by
  obtain ⟨i, hi⟩ := List.mem_iff_getElem?.mp hrow
  obtain ⟨-, -, _, _, -, hplace⟩ := h.getElem? hi
  omega

/-- The spellings stand one behind the other. -/
theorem pairwise (h : Laid index offset text rows conversions) :
    rows.Pairwise fun a b => a.offset + utf8Length a.spelling ≤ b.offset := by
  induction h with
  | nil => exact .nil
  | cons _ _ _ _ t ih => exact .cons (fun _ hrow => t.offset_le hrow) ih

/-- A plain text in front joins the first gap. -/
theorem behind_plain {front : Text} (hfront : IsPlain front)
    (h : Laid index (offset + utf8Length front) text rows conversions) :
    Laid index offset (front ++ text) rows conversions := by
  generalize hplace : offset + utf8Length front = place at h
  cases h with
  | nil hgap => exact .nil (hfront.append hgap)
  | @cons _ _ gap rest row rows conversion conversions hgap hindex hoffset hrow t =>
    rw [← List.append_assoc, ← List.append_assoc]
    refine .cons (hfront.append hgap) hindex ?_ hrow t
    rw [hoffset, ← hplace, Text.utf8Length_append, Nat.add_assoc]

end Laid

/-! ### The rows of a template -/

/-- The rows of a derived text are laid in it, for the conversions among its pieces. -/
theorem exists_rowsFrom_of_derives {text : Text} {pieces : List Piece} (h : Derives text pieces)
    (index offset : Nat) :
    ∃ rows, rowsFrom index (Reader.items ⟨offset, text, false⟩) = .ok rows ∧
      Laid index offset text rows (conversionsIn (pieces.map Piece.segment)) := by
  induction h generalizing index offset with
  | nil => exact ⟨[], by rw [Reader.items_of_next_eq_none rfl]; rfl, .nil isPlain_nil⟩
  | @cons piece pieces rest hwf hmax _ ih =>
    have hne : piece.spelling ++ rest ≠ [] := by simp [Piece.spelling_ne_nil hwf]
    have hscan := (Segment.scan_eq_ok_iff hne).mpr ⟨piece, hwf, hmax, rfl, rfl⟩
    have hitems := Reader.items_of_ok hne hscan offset
    rw [Text.before_append] at hitems
    rw [hitems]
    -- a literal is part of a gap
    have hliteral : ∀ {literal : Text}, piece.segment = .literal literal →
        ∃ rows, rowsFrom index (⟨offset, piece.spelling, .ok piece.segment⟩ ::
            Reader.items ⟨offset + utf8Length piece.spelling, rest, false⟩) = .ok rows ∧
          Laid index offset (piece.spelling ++ rest) rows
            (conversionsIn ((piece :: pieces).map Piece.segment)) := fun hsegment => by
      obtain ⟨rows, hrows, hlaid⟩ := ih index (offset + utf8Length piece.spelling)
      have hplain : IsPlain piece.spelling :=
        isPlain_of_derives hwf.derives_alone (by simp [hsegment])
      refine ⟨rows, ?_, ?_⟩
      · rw [hsegment]
        exact hrows
      · rw [List.map_cons, hsegment]
        exact hlaid.behind_plain hplain
    cases piece with
    | run | percent => exact hliteral rfl
    | specification padding width tail =>
      obtain ⟨rows, hrows, hlaid⟩ := ih (index + 1)
        (offset + utf8Length (Piece.specification padding width tail).spelling)
      have hlists : Row.Lists ⟨index, offset, _, _, _⟩
          (tail.conversion ⟨padding, Text.value 10 width⟩) :=
        ⟨rfl, rfl, Piece.spelling_ne_nil hwf, hwf.derives_alone.parse_eq⟩
      exact ⟨_ :: rows, by rw [rowsFrom, hrows]; rfl, .cons isPlain_nil rfl rfl hlists hlaid⟩

/-- **Rows are conversions.**  A report fails exactly if parsing does, with the same error.
Otherwise it has one row for each conversion, in order: row `i` is numbered `i`, with the kind of
argument `i` and the description of conversion `i`.  Its spelling is not empty and stands in the
template at its offset; the spellings come one behind the other, and what stands before, between and
behind them are templates without conversions (`Laid`).  Each spelling, parsed alone, is its
conversion and nothing else. -/
theorem report_lays_conversions (template : Text) :
    (∀ error, report template = .error error ↔ Template.parse template = .error error) ∧
    ∀ listed, report template = .ok listed →
      ∃ parsed, Template.parse template = .ok parsed ∧ listed.template = template ∧
        listed.rows.length = parsed.conversions.length ∧
        (∀ (i : Nat) (row : Row), listed.rows[i]? = some row → ∃ conversion,
          parsed.conversions[i]? = some conversion ∧ row.index = i ∧
          parsed.argKinds[i]? = some row.argument ∧ row.description = conversion.description ∧
          row.spelling ≠ [] ∧
          (∃ before behind, template = before ++ row.spelling ++ behind ∧
            row.offset = utf8Length before) ∧
          Template.parse row.spelling = .ok ⟨row.spelling, [.conversion conversion]⟩) ∧
        listed.rows.Pairwise (fun a b => a.offset + utf8Length a.spelling ≤ b.offset) ∧
        Laid 0 0 template listed.rows parsed.conversions := by
  refine ⟨fun error => report_eq_error_iff, fun listed hlisted => ?_⟩
  cases hparse : Template.parse template with
  | error error =>
    rw [report_eq_error_iff.mpr hparse] at hlisted
    cases hlisted
  | ok parsed =>
    obtain ⟨hsource, hreads⟩ := Template.parse_eq_ok_iff.mp hparse
    obtain ⟨pieces, hderives, hsegments⟩ := reads_iff_derives.mp hreads
    obtain ⟨rows, hrows, hlaid⟩ := exists_rowsFrom_of_derives hderives 0 0
    have hreport : report template = .ok ⟨template, rows⟩ := by
      rw [report, itemsOf, Reader.ofTemplate, hrows]
      rfl
    obtain rfl := Except.ok.inj (hreport.symm.trans hlisted)
    rw [← hsegments] at hlaid
    refine ⟨parsed, rfl, rfl, hlaid.length_eq, fun i row hrow => ?_, hlaid.pairwise, hlaid⟩
    obtain ⟨hindex, ⟨conversion, hconversion, hlists⟩, before, behind, htext, hplace⟩ :=
      hlaid.getElem? hrow
    have hkind : parsed.argKinds[i]? = some row.argument := by
      rw [Template.argKinds, List.getElem?_map, Template.conversions, ← conversionsIn,
        hconversion, hlists.argument]
      rfl
    rw [Nat.zero_add] at hindex hplace
    exact ⟨conversion, hconversion, hindex, hkind, hlists.description, hlists.spelling_ne_nil,
      ⟨before, behind, htext, hplace⟩, hlists.alone⟩

end Inspection

end DriverPrintf
