import DriverPrintf.Template.Reader

/-!
# Template — a whole reading

A reader takes segments off the front of a template until nothing is left or a segment is
malformed.  `Reads text segments rest` is the part of such a run that succeeds, as a relation
between texts alone; `reads_total` says that every text has one that goes as far as it can.

The results a reader yields are then the segments of that run, followed by at most one error:
`results_itemsOf` splits them into `segmentsOf` and `errorOf?`, and `parse_eq` says that parsing
the whole template is the same reading.
-/

namespace DriverPrintf

/-- The segments a reader yields of a template, before its end or the first error. -/
def segmentsOf (template : Text) : List Segment :=
  ((itemsOf template).map Item.result).filterMap Except.toOption

/-- The error a reader of a template ends in, if it does. -/
def errorOf? (template : Text) : Option ParseError :=
  ((itemsOf template).map Item.result).getLast?.bind fun result =>
    match result with
    | .ok _ => none
    | .error error => some error

/-- The conversions among some segments. -/
def conversionsIn (segments : List Segment) : List Conversion :=
  segments.filterMap Segment.conversion?

@[simp] theorem conversionsIn_nil : conversionsIn [] = [] := rfl

@[simp] theorem conversionsIn_literal (text : Text) (segments : List Segment) :
    conversionsIn (.literal text :: segments) = conversionsIn segments := rfl

@[simp] theorem conversionsIn_conversion (conversion : Conversion) (segments : List Segment) :
    conversionsIn (.conversion conversion :: segments) = conversion :: conversionsIn segments :=
  rfl

@[simp] theorem conversionsIn_append (segments more : List Segment) :
    conversionsIn (segments ++ more) = conversionsIn segments ++ conversionsIn more :=
  List.filterMap_append

/-- The conversions a reader yields of a template, numbered from 0 in its order. -/
def conversionsOf (template : Text) : List Conversion := conversionsIn (segmentsOf template)

/-- `text` is read into `segments`, one after the other, and `rest` is left. -/
inductive Reads : Text → List Segment → Text → Prop where
  | refl (text : Text) : Reads text [] text
  | more {text mid rest : Text} {segment : Segment} {segments : List Segment} (hne : text ≠ [])
      (h : Segment.scan text = .ok segment mid) (t : Reads mid segments rest) :
      Reads text (segment :: segments) rest

/-- Nothing more can be read of `rest`: it is at its end, or begins with a malformed segment. -/
def Stuck (rest : Text) : Prop :=
  rest = [] ∨ ∃ fault left, rest ≠ [] ∧ Segment.scan rest = .error fault left

/-- Every text is read as far as it can be. -/
theorem reads_total (text : Text) : ∃ segments rest, Reads text segments rest ∧ Stuck rest := by
  induction hn : text.length using Nat.strongRecOn generalizing text with
  | ind n ih =>
    by_cases hne : text = []
    · exact ⟨[], text, .refl text, .inl hne⟩
    · cases hs : Segment.scan text with
      | error fault left => exact ⟨[], text, .refl text, .inr ⟨fault, left, hne, hs⟩⟩
      | ok segment mid =>
        have hlt : mid.length < n := hn ▸ Segment.length_lt_of_scan hs hne
        obtain ⟨segments, rest, hreads, hstuck⟩ := ih _ hlt mid rfl
        exact ⟨segment :: segments, rest, .more hne hs hreads, hstuck⟩

namespace Text

@[simp] theorem before_self (text : Text) : before text text = [] := before_append [] text

@[simp] theorem before_nil (text : Text) : before text [] = text := by simp [before]

/-- A text is divided at one place and then at a later one. -/
theorem before_trans {whole mid rest : Text} (h : mid <:+ whole) (t : rest <:+ mid) :
    before whole rest = before whole mid ++ before mid rest := by
  have hsplit : before whole mid ++ before mid rest ++ rest = whole := by
    rw [List.append_assoc, before_append_self t, before_append_self h]
  have hcut := before_append (before whole mid ++ before mid rest) rest
  rwa [hsplit] at hcut

/-- A place in a text is a place in any text that goes on. -/
theorem before_append_append {text rest : Text} (h : rest <:+ text) (more : Text) :
    before (text ++ more) (rest ++ more) = before text rest := by
  obtain ⟨read, rfl⟩ := h
  rw [List.append_assoc, before_append, before_append]

end Text

namespace Reads

theorem suffix {text rest : Text} {segments : List Segment} (h : Reads text segments rest) :
    rest <:+ text := by
  induction h with
  | refl text => exact List.suffix_refl text
  | more _ h _ ih => exact ih.trans (Segment.stays_scan.suffix h)

/-- The first of the segments are read up to some place, and the others from there. -/
theorem exists_of_append {text rest : Text} {before more : List Segment}
    (h : Reads text (before ++ more) rest) :
    ∃ mid, Reads text before mid ∧ Reads mid more rest := by
  induction before generalizing text with
  | nil => exact ⟨text, .refl text, h⟩
  | cons segment before ih =>
    cases h with
    | more hne hscan h =>
      obtain ⟨mid, hbefore, hmore⟩ := ih h
      exact ⟨mid, .more hne hscan hbefore, hmore⟩

end Reads

/-! ### The results of a reader -/

namespace Reader

/-- What the items still to come are, without their places. -/
def results (reader : Reader) : List (Except ParseError Segment) := reader.items.map Item.result

theorem results_nil (offset : Nat) (failed : Bool) : results ⟨offset, [], failed⟩ = [] := by
  rw [results, items_of_next_eq_none (by simp [next])]
  rfl

theorem items_of_ok {text rest : Text} {segment : Segment} (hne : text ≠ [])
    (h : Segment.scan text = .ok segment rest) (offset : Nat) :
    items ⟨offset, text, false⟩ = ⟨offset, Text.before text rest, .ok segment⟩ ::
      items ⟨offset + Text.utf8Length (Text.before text rest), rest, false⟩ := by
  refine items_of_next_eq_some ?_
  simp [next, hne, h, Item.stop]

theorem items_of_error {text rest : Text} {fault : Fault} (hne : text ≠ [])
    (h : Segment.scan text = .error fault rest) (offset : Nat) :
    items ⟨offset, text, false⟩ =
      [⟨offset, Text.before text rest, .error (fault.toParseError offset text)⟩] := by
  have hnext : next ⟨offset, text, false⟩ =
      some (⟨offset, Text.before text rest, .error (fault.toParseError offset text)⟩,
        ⟨offset + Text.utf8Length (Text.before text rest), rest, true⟩) := by
    simp [next, hne, h, Item.stop]
  rw [items_of_next_eq_some hnext, items_of_next_eq_none (by simp [next])]

theorem results_of_ok {text rest : Text} {segment : Segment} (hne : text ≠ [])
    (h : Segment.scan text = .ok segment rest) (offset : Nat) :
    results ⟨offset, text, false⟩ =
      .ok segment :: results ⟨offset + Text.utf8Length (Text.before text rest), rest, false⟩ := by
  rw [results, items_of_ok hne h]
  rfl

theorem results_of_error {text rest : Text} {fault : Fault} (hne : text ≠ [])
    (h : Segment.scan text = .error fault rest) (offset : Nat) :
    results ⟨offset, text, false⟩ = [.error (fault.toParseError offset text)] := by
  rw [results, items_of_error hne h]
  rfl

/-- What has been read comes first, and the rest is read from where it stands. -/
theorem exists_items_of_reads {text rest : Text} {segments : List Segment}
    (h : Reads text segments rest) (offset : Nat) :
    ∃ earlier, earlier.map Item.result = segments.map .ok ∧
      items ⟨offset, text, false⟩ =
        earlier ++ items ⟨offset + Text.utf8Length (Text.before text rest), rest, false⟩ := by
  induction h generalizing offset with
  | refl text => exact ⟨[], rfl, by simp⟩
  | @more text mid rest segment segments hne hscan t ih =>
    obtain ⟨earlier, hresults, hitems⟩ := ih (offset + Text.utf8Length (Text.before text mid))
    refine ⟨⟨offset, Text.before text mid, .ok segment⟩ :: earlier, ?_, ?_⟩
    · rw [List.map_cons, hresults, List.map_cons]
    · rw [items_of_ok hne hscan, hitems,
        Text.before_trans (Segment.stays_scan.suffix hscan) t.suffix, Text.utf8Length_append,
        Nat.add_assoc]
      rfl

theorem results_of_reads {text rest : Text} {segments : List Segment}
    (h : Reads text segments rest) (offset : Nat) :
    results ⟨offset, text, false⟩ = segments.map .ok ++
      results ⟨offset + Text.utf8Length (Text.before text rest), rest, false⟩ := by
  obtain ⟨earlier, hresults, hitems⟩ := exists_items_of_reads h offset
  rw [results, hitems, List.map_append, hresults]
  rfl

end Reader

/-- The segments and the error of a template, read off its results. -/
theorem segmentsOf_errorOf?_of_results {template : Text} {segments : List Segment}
    {error? : Option ParseError}
    (h : (itemsOf template).map Item.result = segments.map .ok ++ error?.toList.map .error) :
    segmentsOf template = segments ∧ errorOf? template = error? := by
  constructor
  · rw [segmentsOf, h, List.filterMap_append, List.filterMap_map, List.filterMap_map]
    cases error? <;> simp [Except.toOption, Function.comp_def]
  · rw [errorOf?, h]
    cases error? with
    | none => cases hlast : segments.getLast? <;> simp [hlast]
    | some error => simp

/-- A template that is read to its end has no error. -/
theorem segmentsOf_errorOf?_of_reads {template : Text} {segments : List Segment}
    (h : Reads template segments []) :
    segmentsOf template = segments ∧ errorOf? template = none := by
  refine segmentsOf_errorOf?_of_results ((Reader.results_of_reads h 0).trans ?_)
  rw [Reader.results_nil]
  rfl

/-- A template that is read up to a malformed segment ends in the error of that segment. -/
theorem segmentsOf_errorOf?_of_fault {template rest left : Text} {segments : List Segment}
    {fault : Fault} (h : Reads template segments rest) (hne : rest ≠ [])
    (hscan : Segment.scan rest = .error fault left) :
    segmentsOf template = segments ∧
      errorOf? template =
        some (fault.toParseError (Text.utf8Length (Text.before template rest)) rest) := by
  refine segmentsOf_errorOf?_of_results ((Reader.results_of_reads h 0).trans ?_)
  rw [Reader.results_of_error hne hscan, Nat.zero_add]
  rfl

/-- A template is read into its segments, to its end or to a malformed one. -/
theorem exists_reads_segmentsOf (template : Text) :
    ∃ rest, Reads template (segmentsOf template) rest ∧ Stuck rest := by
  obtain ⟨segments, rest, hreads, hstuck⟩ := reads_total template
  have hsegments : segmentsOf template = segments := by
    rcases hstuck with rfl | ⟨fault, left, hne, hscan⟩
    · exact (segmentsOf_errorOf?_of_reads hreads).1
    · exact (segmentsOf_errorOf?_of_fault hreads hne hscan).1
  exact ⟨rest, hsegments ▸ hreads, hstuck⟩

/-- **A reading in full.**  A reader yields segments, then at most one error. -/
theorem results_itemsOf (template : Text) :
    (itemsOf template).map Item.result =
      (segmentsOf template).map .ok ++ (errorOf? template).toList.map .error := by
  obtain ⟨segments, rest, hreads, hstuck⟩ := reads_total template
  have hall : (itemsOf template).map Item.result = _ := Reader.results_of_reads hreads 0
  obtain ⟨error?, h⟩ : ∃ error? : Option ParseError, (itemsOf template).map Item.result =
      segments.map .ok ++ error?.toList.map .error := by
    rcases hstuck with rfl | ⟨fault, left, hne, hscan⟩
    · exact ⟨none, by rw [hall, Reader.results_nil]; rfl⟩
    · exact ⟨some _, by rw [hall, Reader.results_of_error hne hscan]; rfl⟩
  obtain ⟨hsegments, herror⟩ := segmentsOf_errorOf?_of_results h
  rw [h, hsegments, herror]

/-- Parsing a whole template is reading it: it fails with the error the reader ends in. -/
theorem Template.parse_eq (source : Text) :
    Template.parse source =
      match errorOf? source with
      | none => .ok ⟨source, segmentsOf source⟩
      | some error => .error error := by
  have hmap : (itemsOf source).mapM Item.result =
      ((itemsOf source).map Item.result).mapM id := by
    rw [List.mapM_map]
    rfl
  have hoks : ((segmentsOf source).map (.ok : Segment → Except ParseError Segment)).mapM id =
      .ok (segmentsOf source) := by
    rw [List.mapM_map]
    exact (List.mapM_pure (f := id)).trans (by rw [List.map_id]; rfl)
  rw [parse, hmap, results_itemsOf, List.mapM_append, hoks]
  cases errorOf? source with
  | none => simp [bind, Except.bind, pure, Except.pure]
  | some error => rfl

/-- A template does not parse when its reader ends in an error. -/
theorem Template.parse_eq_error_iff {source : Text} {error : ParseError} :
    Template.parse source = .error error ↔ errorOf? source = some error := by
  rw [parse_eq]
  cases errorOf? source <;> simp

/-- A template parses when its reader ends in no error. -/
theorem Template.exists_parse_iff {source : Text} {p : Template → Prop} :
    (∃ template, Template.parse source = .ok template ∧ p template) ↔
      errorOf? source = none ∧ p ⟨source, segmentsOf source⟩ := by
  rw [parse_eq]
  cases errorOf? source with
  | none => simp
  | some error => simp

/-- A template parses when all of it can be read. -/
theorem Template.parse_eq_ok_iff {source : Text} {template : Template} :
    Template.parse source = .ok template ↔
      template.source = source ∧ Reads source template.segments [] := by
  rw [parse_eq]
  constructor
  · intro h
    obtain ⟨segments, rest, hreads, rfl | ⟨fault, left, hne, hscan⟩⟩ := reads_total source
    · obtain ⟨hsegments, herror⟩ := segmentsOf_errorOf?_of_reads hreads
      rw [herror, hsegments] at h
      cases h
      exact ⟨rfl, hreads⟩
    · rw [(segmentsOf_errorOf?_of_fault hreads hne hscan).2] at h
      cases h
  · rintro ⟨rfl, hreads⟩
    obtain ⟨hsegments, herror⟩ := segmentsOf_errorOf?_of_reads hreads
    rw [herror, hsegments]

end DriverPrintf
