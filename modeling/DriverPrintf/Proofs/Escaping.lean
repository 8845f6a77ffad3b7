import DriverPrintf.Proofs.Line.Delivery
import DriverPrintf.Proofs.Render.Outcome
import DriverPrintf.Proofs.Template.Grammar

/-!
# Escaping

A template without conversions is a text written down with every `%` doubled (`Text.escaped`).  A
reader takes it apart at the doubled `%`, into runs and single `%`, and what these say one after the
other (`literalText`) is the text again; so there is only one text that a template stands for, and
this text is what it renders to.

* `isPlain_iff`: a template is plain, that is, it parses and has no conversions, exactly if it is an
  escaped text.  Plain templates can be put together (`IsPlain.append`).
* **Escaping is exact** (`escaped_texts_render_as_themselves`): from any text to the template and
  back, as a rendering and as a line of any destination that does not fail.
-/

namespace DriverPrintf

open Text (Ends)

/-! ### Texts with every `%` doubled -/

namespace Text

/-- A text with every `%` doubled. -/
def escaped (text : Text) : Text := text.flatMap fun c => if c = '%' then ['%', '%'] else [c]

@[simp] theorem escaped_nil : escaped [] = [] := rfl

@[simp] theorem escaped_percent (text : Text) :
    escaped ('%' :: text) = '%' :: '%' :: escaped text := rfl

@[simp] theorem escaped_append (a b : Text) : escaped (a ++ b) = escaped a ++ escaped b :=
  List.flatMap_append

theorem escaped_run {run : Text} (h : '%' ∉ run) : escaped run = run := by
  induction run with
  | nil => rfl
  | cons c run ih =>
    obtain ⟨hc, hrun⟩ := not_or.mp (List.mem_cons.not.mp h)
    have hcons : escaped (c :: run) = c :: escaped run := by
      simp [escaped, Ne.symm hc]
    rw [hcons, ih hrun]

/-- An escaped text begins with a `%` if the text does. -/
theorem ends_escaped {text : Text} (h : Ends (· != '%') text) : Ends (· != '%') (escaped text) := by
  cases text with
  | nil => exact ends_nil _
  | cons c text =>
    obtain rfl : c = '%' := by simpa using h
    exact (ends_cons _ _ _).mpr rfl

end Text

/-! ### Plain templates -/

open Text (utf8 utf8Length escaped)

/-- What literals say, one after the other. -/
def literalText (segments : List Segment) : Text :=
  segments.flatMap fun segment =>
    match segment with
    | .literal text => text
    | .conversion _ => []

@[simp] theorem literalText_nil : literalText [] = [] := rfl

@[simp] theorem literalText_literal (text : Text) (segments : List Segment) :
    literalText (.literal text :: segments) = text ++ literalText segments := rfl

/-- A template that parses and has no conversions. -/
def IsPlain (template : Text) : Prop :=
  ∃ parsed, Template.parse template = .ok parsed ∧ parsed.conversions = []

theorem isPlain_of_derives {template : Text} {pieces : List Piece} (h : Derives template pieces)
    (hnone : conversionsIn (pieces.map Piece.segment) = []) : IsPlain template :=
  ⟨_, h.parse_eq, hnone⟩

theorem isPlain_nil : IsPlain [] := isPlain_of_derives .nil rfl

theorem IsPlain.exists_derives {template : Text} (h : IsPlain template) :
    ∃ pieces, Derives template pieces ∧ conversionsIn (pieces.map Piece.segment) = [] := by
  obtain ⟨parsed, hparsed, hnone⟩ := h
  obtain ⟨-, hreads⟩ := Template.parse_eq_ok_iff.mp hparsed
  obtain ⟨pieces, hderives, hsegments⟩ := reads_iff_derives.mp hreads
  exact ⟨pieces, hderives, hsegments ▸ hnone⟩

/-- Pieces without conversions spell what they say, escaped. -/
theorem Derives.eq_escaped {template : Text} {pieces : List Piece} (h : Derives template pieces)
    (hnone : conversionsIn (pieces.map Piece.segment) = []) :
    template = escaped (literalText (pieces.map Piece.segment)) := by
  induction h with
  | nil => rfl
  | @cons piece pieces rest hwf _ _ ih =>
    cases piece with
    | run run =>
      have hrest := ih hnone
      simp only [List.map_cons, Piece.segment, literalText_literal, Text.escaped_append,
        Text.escaped_run hwf.2, ← hrest]
      rfl
    | percent =>
      have hrest := ih hnone
      simp only [List.map_cons, Piece.segment, literalText_literal, List.singleton_append,
        Text.escaped_percent, ← hrest]
      rfl
    | specification => cases hnone

/-- **Every text can be written down.**  Its escaped form is derived from pieces that say it. -/
theorem exists_derives_escaped (text : Text) :
    ∃ pieces, Derives (escaped text) pieces ∧ conversionsIn (pieces.map Piece.segment) = [] ∧
      literalText (pieces.map Piece.segment) = text := by
  induction hn : text.length using Nat.strongRecOn generalizing text with
  | ind n ih =>
    obtain ⟨htext, hall, hends⟩ := Text.run_split (· != '%') text
    cases text with
    | nil => exact ⟨[], .nil, rfl, rfl⟩
    | cons c more =>
      by_cases hc : c = '%'
      · subst hc
        obtain ⟨pieces, hderives, hnone, hmore⟩ := ih _ (hn ▸ Nat.lt_succ_self _) more rfl
        refine ⟨.percent :: pieces, ?_, hnone, ?_⟩
        · have hwf : Piece.percent.WellFormed := trivial
          exact .cons hwf (fun hrun => hrun.elim) hderives
        · exact congrArg ('%' :: ·) hmore
      · -- a run goes on up to the next `%`
        obtain ⟨run, hrun, hmore⟩ := Text.run_cons (p := (· != '%')) htext (bne_iff_ne.mpr hc) hends
        generalize (c :: more).takeWhile (· != '%') = taken at *
        generalize (c :: more).dropWhile (· != '%') = rest at *
        have hpercent : '%' ∉ taken := fun hmem => by simpa using hall _ hmem
        have hlt : rest.length < n := by
          rw [← hn, List.length_cons, hmore, List.length_append]
          omega
        obtain ⟨pieces, hderives, hnone, hrest⟩ := ih _ hlt rest rfl
        have hne : taken ≠ [] := hrun ▸ List.cons_ne_nil c run
        refine ⟨.run taken :: pieces, ?_, hnone, ?_⟩
        · rw [htext, Text.escaped_append, Text.escaped_run hpercent]
          have hwf : (Piece.run taken).WellFormed := ⟨hne, hpercent⟩
          exact .cons hwf (fun _ => Text.ends_escaped hends) hderives
        · rw [htext, ← hrest]
          rfl

/-- **Plain templates** are the escaped texts. -/
theorem isPlain_iff {template : Text} : IsPlain template ↔ ∃ text, template = escaped text := by
  constructor
  · intro h
    obtain ⟨pieces, hderives, hnone⟩ := h.exists_derives
    exact ⟨_, hderives.eq_escaped hnone⟩
  · rintro ⟨text, rfl⟩
    obtain ⟨pieces, hderives, hnone, -⟩ := exists_derives_escaped text
    exact isPlain_of_derives hderives hnone

theorem IsPlain.append {a b : Text} (h : IsPlain a) (h' : IsPlain b) : IsPlain (a ++ b) := by
  obtain ⟨text, rfl⟩ := isPlain_iff.mp h
  obtain ⟨more, rfl⟩ := isPlain_iff.mp h'
  exact isPlain_iff.mpr ⟨text ++ more, (Text.escaped_append text more).symm⟩

/-- A text can be told from its escaped form: it is what the segments say. -/
theorem escaped_injective {text other : Text} (h : escaped text = escaped other) :
    text = other := by
  obtain ⟨pieces, hderives, -, rfl⟩ := exists_derives_escaped text
  obtain ⟨pieces', hderives', -, rfl⟩ := exists_derives_escaped other
  rw [h] at hderives
  rw [hderives.unique hderives']

/-! ### Rendering and printing -/

/-- Literals are written as what they say, and take no arguments. -/
theorem exists_written_literals {segments : List Segment} (h : conversionsIn segments = [])
    (args : List Arg) :
    ∃ pieces, Written segments args pieces args ∧ pieces.flatten = utf8 (literalText segments) := by
  induction segments with
  | nil => exact ⟨[], .nil args, rfl⟩
  | cons segment segments ih =>
    cases segment with
    | literal text =>
      obtain ⟨pieces, hwritten, hpieces⟩ := ih h
      refine ⟨utf8 text :: pieces, .literal text hwritten, ?_⟩
      rw [List.flatten_cons, hpieces, literalText_literal, Text.utf8_append]
    | conversion conversion => cases h

/-- **An escaped text renders as the text.** -/
theorem render_escaped (text : Text) : render (escaped text) [] = ⟨utf8 text, none⟩ := by
  obtain ⟨pieces, hderives, hnone, htext⟩ := exists_derives_escaped text
  obtain ⟨hsegments, herror⟩ := hderives.segmentsOf_eq
  obtain ⟨bytes, hwritten, hbytes⟩ := exists_written_literals hnone []
  rw [← hsegments] at hwritten
  rw [render_of_written hwritten, herror, hbytes, htext]
  simp [Rendering.ofResults, Rendering.after]

/-- **Escaping is exact.**  A template parses without conversions exactly if it is an escaped text,
and no two texts have the same escaped form.  Without arguments the template renders as the text, to
its last byte.  The line that it is printed as, on any destination that takes all bytes in its own
time, is the tag, the text and a newline, and is as it should be if the flush is. -/
theorem escaped_texts_render_as_themselves :
    (∀ template, (∃ parsed, Template.parse template = .ok parsed ∧ parsed.conversions = []) ↔
      ∃ text, template = escaped text) ∧
    (∀ text other, escaped text = escaped other → text = other) ∧
    ∀ text, (render (escaped text) []).output = utf8 text ∧
      (render (escaped text) []).result = .ok (utf8Length text) ∧
      ∀ script, Line.Reliable script →
        accepted (Line.print script (escaped text) []).calls =
          utf8 Line.tag ++ utf8 text ++ utf8 ['\n'] ∧
        ((∀ reply ∈ script.flushes, reply = .done) →
          (Line.print script (escaped text) []).error? = none) := by
  refine ⟨fun template => isPlain_iff, fun _ _ => escaped_injective, fun text => ?_⟩
  have hrender := render_escaped text
  refine ⟨congrArg Rendering.output hrender, ?_, fun script hreliable => ?_⟩
  · rw [hrender, Rendering.result, Text.length_utf8]
  · have hline := (Line.print_of_reliable hreliable (escaped text) []).1
    rw [hrender] at hline
    refine ⟨hline, fun hdone => ?_⟩
    rw [Line.error?_print_of_done hreliable hdone, hrender]
    rfl

end DriverPrintf
