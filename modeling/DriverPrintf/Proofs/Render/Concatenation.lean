import DriverPrintf.Proofs.Render.Outcome
import DriverPrintf.Proofs.Template.Continuation

/-!
# Render — concatenation

A template and its arguments may be cut in two and rendered one part after the other.  Two runs
are compared: that of a part, and that of the whole, which goes on behind it.  `Reader.rendering`
is a rendering from any place in a template on, so that both are runs of one function from
different places.

The runs cannot be compared segment by segment, because text at the cut is one segment of the
whole and two of the parts.  It is the same bytes, however it is cut (`rendering_run`).  All other
segments end by themselves, so what a part has read and written the whole has read and written too
(`rendering_append`), and what comes behind it is rendered as at the start of a template but for
the offsets and the numbers of the arguments in its error (`rendering_behind`).

* **Concatenation** (`render_append`): behind a template that parses and its arguments, a template
  is rendered as on its own.
* **Nothing is taken back** (`output_of_longer_call`): what a call has written is an initial part of
  what any longer call writes, whether or not either of them succeeds.
-/

namespace DriverPrintf

/-- An error of a rendering with `bytes` bytes of template and `count` conversions before it. -/
def RenderError.behind (bytes count : Nat) : RenderError → RenderError
  | .malformed error => .malformed (error.behind bytes)
  | .missing index expected => .missing (index + count) expected
  | .mismatch index expected found => .mismatch (index + count) expected found
  | .surplus expected supplied => .surplus (expected + count) (supplied + count)

/-- A rendering with `bytes` bytes of template and `count` conversions before it. -/
def Rendering.behind (bytes count : Nat) (rendering : Rendering) : Rendering :=
  { rendering with error? := rendering.error?.map (RenderError.behind bytes count) }

/-- What is written from a place in a template on, when `index` arguments have been taken and
`args` have not. -/
def Reader.rendering (reader : Reader) (index : Nat) (args : List Arg) : Rendering :=
  .ofResults index reader.results args

theorem render_eq_rendering (template : Text) (args : List Arg) :
    render template args = Reader.rendering ⟨0, template, false⟩ 0 args := rfl

theorem Rendering.after_after (bytes more : Bytes) (rendering : Rendering) :
    (rendering.after more).after bytes = rendering.after (bytes ++ more) := by
  simp [after]

/-! ### Behind a part -/

theorem Rendering.ofResults_behind (bytes count index : Nat)
    (results : List (Except ParseError Segment)) (args : List Arg) :
    ofResults (index + count) (results.map (Except.mapError (ParseError.behind bytes))) args =
      (ofResults index results args).behind bytes count := by
  fun_induction ofResults index results args with
  | case1 => rfl
  | case2 index arg args =>
    simp only [List.map_nil, ofResults, behind, RenderError.behind, Option.map_some]
    rw [Nat.add_right_comm]
  | case3 => rfl
  | case4 index text more args ih =>
    simp only [List.map_cons, Except.mapError, ofResults, ih]
    rfl
  | case5 => rfl
  | case6 index conversion more arg args hnone =>
    simp only [List.map_cons, Except.mapError, ofResults, hnone]
    rfl
  | case7 index conversion more arg args bytes hsome ih =>
    simp only [List.map_cons, Except.mapError, ofResults, hsome, Nat.add_right_comm index count, ih]
    rfl

/-- **Behind a part.**  A text is rendered in the same way wherever it stands; only its error tells
where. -/
theorem Reader.rendering_behind (bytes count offset index : Nat) (text : Text) (args : List Arg) :
    rendering ⟨offset + bytes, text, false⟩ (index + count) args =
      (rendering ⟨offset, text, false⟩ index args).behind bytes count := by
  rw [rendering, results_behind, Rendering.ofResults_behind]
  rfl

/-! ### Runs of text -/

/-- Up to its first `%` a text is written as it stands. -/
theorem Reader.rendering_eq_after (offset index : Nat) (text : Text) (args : List Arg) :
    rendering ⟨offset, text, false⟩ index args =
      (rendering ⟨offset + Text.utf8Length (text.takeWhile (· != '%')),
        text.dropWhile (· != '%'), false⟩ index args).after
          (Text.utf8 (text.takeWhile (· != '%'))) := by
  cases text with
  | nil => rfl
  | cons c more =>
    by_cases hc : c = '%'
    · subst hc
      rfl
    · have hscan := Segment.scan_literal hc more
      have hkeep : (c != '%') = true := bne_iff_ne.mpr hc
      have hread : Text.before (c :: more) (more.dropWhile (· != '%')) =
          c :: more.takeWhile (· != '%') := by
        have hsplit := Text.before_append (c :: more.takeWhile (· != '%'))
          (more.dropWhile (· != '%'))
        rwa [List.cons_append, List.takeWhile_append_dropWhile] at hsplit
      rw [rendering, results_of_ok (List.cons_ne_nil c more) hscan, hread]
      simp only [List.takeWhile_cons, List.dropWhile_cons, hkeep, if_true, Rendering.ofResults]
      rfl

/-- A run of text is the same bytes, whether or not more text follows it. -/
theorem Reader.rendering_run {run : Text} (h : '%' ∉ run) (rest : Text) (offset index : Nat)
    (args : List Arg) :
    rendering ⟨offset, run ++ rest, false⟩ index args =
      (rendering ⟨offset + Text.utf8Length run, rest, false⟩ index args).after
        (Text.utf8 run) := by
  have hrun : ∀ c ∈ run, (c != '%') = true := fun c hc => bne_iff_ne.mpr fun e => h (e ▸ hc)
  rw [rendering_eq_after, List.takeWhile_append_of_pos hrun, List.dropWhile_append_of_pos hrun,
    rendering_eq_after _ _ rest, Rendering.after_after, Text.utf8_append, Text.utf8Length_append,
    Nat.add_assoc]

/-- A literal is written and reading goes on behind it, whatever text that is. -/
theorem Reader.rendering_literal_append {text mid literal : Text} (hne : text ≠ [])
    (h : Segment.scan text = .ok (.literal literal) mid) (more : Text) (offset index : Nat)
    (args : List Arg) :
    rendering ⟨offset, text ++ more, false⟩ index args =
      (rendering ⟨offset + Text.utf8Length (Text.before text mid), mid ++ more, false⟩ index
        args).after (Text.utf8 literal) := by
  rcases Segment.run_or_scan_append hne h with ⟨run, hrun, rfl, hliteral⟩ | happend
  · cases hliteral
    rw [List.append_assoc, rendering_run hrun, Text.before_append]
  · have hne' : text ++ more ≠ [] := List.append_ne_nil_of_left_ne_nil hne more
    rw [rendering, results_of_ok hne' (happend more),
      Text.before_append_append (Segment.stays_scan.suffix h), Rendering.ofResults]
    rfl

/-- A conversion with an argument that suits it is written and takes the argument, whatever text
comes behind it. -/
theorem Reader.rendering_conversion_append {text mid : Text} {conversion : Conversion}
    {arg : Arg} {bytes : Bytes} (hne : text ≠ [])
    (h : Segment.scan text = .ok (.conversion conversion) mid)
    (hbytes : conversion.render? arg = some bytes) (more : Text) (offset index : Nat)
    (args : List Arg) :
    rendering ⟨offset, text ++ more, false⟩ index (arg :: args) =
      (rendering ⟨offset + Text.utf8Length (Text.before text mid), mid ++ more, false⟩ (index + 1)
        args).after bytes := by
  rw [rendering, results_conversion_append hne h, Rendering.ofResults, hbytes]
  rfl

/-! ### A part and the whole -/

/-- **What has been read and written of a part** has been read and written of the whole, with any
text behind the part and any arguments behind those it has taken. -/
theorem Reader.rendering_append {text rest : Text} {segments : List Segment}
    (hreads : Reads text segments rest) {args left : List Arg} {pieces : List Bytes}
    (h : Written segments args pieces left) (more : Text) (extra : List Arg)
    (offset index : Nat) :
    rendering ⟨offset, text ++ more, false⟩ index (args ++ extra) =
      (rendering ⟨offset + Text.utf8Length (Text.before text rest), rest ++ more, false⟩
        (index + (conversionsIn segments).length) (left ++ extra)).after pieces.flatten := by
  induction hreads generalizing args pieces offset index with
  | refl text =>
    cases h
    rw [Text.before_self]
    rfl
  | @more text mid rest segment segments hne hscan hreads ih =>
    have hoffset : ∀ offset, offset + Text.utf8Length (Text.before text mid) +
        Text.utf8Length (Text.before mid rest) =
          offset + Text.utf8Length (Text.before text rest) := fun offset => by
      rw [Text.before_trans (Segment.stays_scan.suffix hscan) hreads.suffix,
        Text.utf8Length_append, Nat.add_assoc]
    -- a segment read off the part is read off the whole, but for text that goes on
    cases h with
    | literal literal h =>
      rw [rendering_literal_append hne hscan, ih h, Rendering.after_after, hoffset]
      rfl
    | conversion hbytes h =>
      rw [List.cons_append, rendering_conversion_append hne hscan hbytes, ih h,
        Rendering.after_after, hoffset, conversionsIn_conversion, List.length_cons, Nat.add_assoc,
        Nat.add_comm 1]
      rfl

/-! ### Concatenation -/

/-- A template that parses, and is written with all its arguments, is rendered without an error. -/
theorem render_of_written_all {template : Text} {args : List Arg} {pieces : List Bytes}
    (herror : errorOf? template = none) (h : Written (segmentsOf template) args pieces []) :
    render template args = ⟨pieces.flatten, none⟩ := by
  rw [render_of_written h, herror]
  simp [Rendering.ofResults, Rendering.after]

/-- **Concatenation.**  Let a template parse, and let the arguments suit its conversions one by
one.  With any template behind it and any arguments behind those, the output is that of the two
parts one after the other.  The result is that of the second part: the length of the first output
is added to a length; to an error, the bytes of the first template or its number of conversions. -/
theorem render_append {template : Text} {parsed : Template} {args : List Arg}
    (hparsed : Template.parse template = .ok parsed)
    (hargs : List.Forall₂ Conversion.Suits parsed.conversions args) (more : Text)
    (extra : List Arg) :
    (render (template ++ more) (args ++ extra)).output =
        (render template args).output ++ (render more extra).output ∧
      (render (template ++ more) (args ++ extra)).result =
        match (render more extra).result with
        | .ok length => .ok ((render template args).output.length + length)
        | .error error =>
          .error (error.behind (Text.utf8Length template) parsed.conversions.length) := by
  obtain ⟨rfl, hreads⟩ := Template.parse_eq_ok_iff.mp hparsed
  obtain ⟨hsegments, herror⟩ := segmentsOf_errorOf?_of_reads hreads
  obtain ⟨pieces, hwritten⟩ := exists_written_of_forall₂ hargs
  have hwhole : render (parsed.source ++ more) (args ++ extra) =
      ((render more extra).behind (Text.utf8Length parsed.source)
        parsed.conversions.length).after pieces.flatten := by
    rw [render_eq_rendering, Reader.rendering_append hreads hwritten, Text.before_nil,
      List.nil_append, List.nil_append, Reader.rendering_behind]
    rfl
  rw [hwhole, render_of_written_all herror (hsegments ▸ hwritten)]
  refine ⟨rfl, ?_⟩
  cases herror : (render more extra).error? with
  | none => simp [Rendering.result, Rendering.behind, herror]
  | some error => simp [Rendering.result, Rendering.behind, herror]

/-- The text at the cut, `: port `, is one run of the whole.  What is wrong is found four bytes
further on. -/
theorem render_append_across_text :
    Template.parse "%s: ".toList =
        .ok ⟨"%s: ".toList, [.conversion (.string ⟨.spacesBefore, 0⟩), .literal ": ".toList]⟩ ∧
      List.Forall₂ Conversion.Suits [.string ⟨.spacesBefore, 0⟩]
        [.string (Text.utf8 "eth0".toList)] ∧
      (render ("%s: ".toList ++ "port %u of %q".toList)
          ([.string (Text.utf8 "eth0".toList)] ++ [.integer 80])).output =
        Text.utf8 "eth0: port 80 of ".toList ∧
      (render ("%s: ".toList ++ "port %u of %q".toList)
          ([.string (Text.utf8 "eth0".toList)] ++ [.integer 80])).result =
        .error (.malformed ⟨15, .unknownConversion "%q".toList⟩) := by
  have hparsed : Template.parse "%s: ".toList =
      .ok ⟨"%s: ".toList, [.conversion (.string ⟨.spacesBefore, 0⟩), .literal ": ".toList]⟩ := by
    rw [Template.parse_eq]
    decide +kernel
  have hsuits : List.Forall₂ Conversion.Suits [.string ⟨.spacesBefore, 0⟩]
      [.string (Text.utf8 "eth0".toList)] := .cons (.inl rfl) .nil
  obtain ⟨houtput, hresult⟩ :=
    render_append hparsed hsuits "port %u of %q".toList [.integer 80]
  have hmore : (render "port %u of %q".toList [.integer 80]).result =
      .error (.malformed ⟨11, .unknownConversion "%q".toList⟩) :=
    Rendering.result_eq_error_iff.mpr (by decide +kernel)
  rw [hmore] at hresult
  exact ⟨hparsed, hsuits, houtput.trans (by decide +kernel), hresult⟩

/-! ### Longer calls -/

/-- What is written of a conversion begins with its mark, whatever its argument is. -/
theorem Reader.mark_prefix_rendering {text mid : Text} {conversion : Conversion} (hne : text ≠ [])
    (h : Segment.scan text = .ok (.conversion conversion) mid) (more : Text) (offset index : Nat)
    (args : List Arg) :
    Text.utf8 conversion.mark <+:
      (rendering ⟨offset, text ++ more, false⟩ index args).output := by
  rw [rendering, results_conversion_append hne h]
  cases args with
  | nil => exact List.prefix_refl _
  | cons arg args =>
    rw [Rendering.ofResults]
    cases hbytes : conversion.render? arg with
    | none => exact List.prefix_refl _
    | some bytes =>
      obtain ⟨body, -, rfl⟩ := Option.map_eq_some_iff.mp hbytes
      exact (List.prefix_append _ body).trans (List.prefix_append _ _)

/-- A call that is over behind its written part: the template has ended or is malformed there. -/
theorem output_prefix_of_written {template : Text} {args left : List Arg} {pieces : List Bytes}
    (h : Written (segmentsOf template) args pieces left) (more : Text) (extra : List Arg) :
    (render template args).output <+: (render (template ++ more) (args ++ extra)).output := by
  obtain ⟨rest, hreads, -⟩ := exists_reads_segmentsOf template
  rw [output_of_written h, render_eq_rendering, Reader.rendering_append hreads h]
  exact List.prefix_append _ _

/-- A call that stops at a conversion, for which a longer call may have an argument. -/
theorem output_prefix_of_unsuited {template : Text} {before after : List Segment}
    {args left : List Arg} {pieces : List Bytes} {conversion : Conversion}
    (hsegments : segmentsOf template = before ++ .conversion conversion :: after)
    (h : Written before args pieces left)
    (hno : ∀ arg, left.head? = some arg → ¬ conversion.Suits arg) (more : Text)
    (extra : List Arg) :
    (render template args).output <+: (render (template ++ more) (args ++ extra)).output := by
  obtain ⟨rest, hreads, -⟩ := exists_reads_segmentsOf template
  rw [hsegments] at hreads
  obtain ⟨mid, hbefore, hafter⟩ := hreads.exists_of_append
  rw [render_of_unsuited hsegments h hno, render_eq_rendering, Reader.rendering_append hbefore h]
  cases hafter with
  | more hne hscan _ =>
    exact (List.prefix_append_right_inj _).mpr
      (Reader.mark_prefix_rendering hne hscan more _ _ _)

/-- **Nothing is taken back.**  What a call has written, also when it fails, is an initial part of
what a call writes whose template and arguments go on behind it.  In particular, a template cut at
any character and arguments cut at any place make a call that writes only what the whole call
writes too. -/
theorem output_of_longer_call :
    (∀ template more args extra,
      (render template args).output <+: (render (template ++ more) (args ++ extra)).output) ∧
    ∀ template args i j,
      (render (template.take i) (args.take j)).output <+: (render template args).output := by
  have happend : ∀ template more args extra,
      (render template args).output <+: (render (template ++ more) (args ++ extra)).output := by
    intro template more args extra
    rcases written_or_unsuited (segmentsOf template) args with
      ⟨pieces, left, h⟩ | ⟨before, conversion, after, pieces, left, hsegments, h, hno⟩
    · exact output_prefix_of_written h more extra
    · exact output_prefix_of_unsuited hsegments h hno more extra
  refine ⟨happend, fun template args i j => ?_⟩
  have hcut := happend (template.take i) (template.drop i) (args.take j) (args.drop j)
  rwa [List.take_append_drop, List.take_append_drop] at hcut

end DriverPrintf
