import DriverPrintf.Command.Inspection
import DriverPrintf.Proofs.Command.Reporting

/-!
# Command — the arguments a report lists

Three passes over a template deal with its arguments.  An inspection lists them, the texts of a
command line are converted each to the kind that is wanted at its place, and a rendering takes the
arguments one after the other.  Nothing but the template ties the three together.

What a report lists are the kinds of the reader's conversions (`Inspection.report_eq_ok`).
`Converts kinds texts args` says that the texts stand for the arguments, and conversion ends in it
or at the first text that is not valid for its kind (`exists_converts_or_firstInvalid`).  With
arguments that have been converted, a rendering can only run out of them or have some left over
(`error?_render_of_converts`).

* **A report decides** (`report_decides_arguments`): which texts are refused, and what becomes of
  a rendering with the others.
-/

namespace DriverPrintf

/-! ### What is listed -/

namespace Inspection

/-- The kinds of the arguments that a report lists, in order. -/
def Report.argKinds (report : Report) : List ArgKind := report.rows.map Row.argument

theorem length_argKinds (report : Report) : report.argKinds.length = report.rows.length :=
  List.length_map _

/-- Rows are made of items that are all segments, one for each conversion among them. -/
theorem rowsFrom_eq_ok {items : List Item} {index : Nat} {rows : List Row}
    (h : rowsFrom index items = .ok rows) :
    ∃ segments, items.map Item.result = segments.map .ok ∧
      rows.map Row.argument = (conversionsIn segments).map Conversion.argKind := by
  induction items generalizing index rows with
  | nil =>
    cases h
    exact ⟨[], rfl, rfl⟩
  | cons item items ih =>
    rw [rowsFrom] at h
    cases hresult : item.result with
    | error error =>
      rw [hresult] at h
      cases h
    | ok segment =>
      rw [hresult] at h
      cases segment with
      | literal text =>
        obtain ⟨segments, hitems, hrows⟩ := ih h
        exact ⟨.literal text :: segments, by simp [hresult, hitems], hrows⟩
      | conversion conversion =>
        cases hmore : rowsFrom (index + 1) items with
        | error error =>
          rw [hmore] at h
          cases h
        | ok more =>
          rw [hmore] at h
          cases h
          obtain ⟨segments, hitems, hrows⟩ := ih hmore
          exact ⟨.conversion conversion :: segments, by simp [hresult, hitems], by simp [hrows]⟩

/-- A report is made of a template that can be read to its end, and lists the kinds of its
conversions. -/
theorem report_eq_ok {template : Text} {report : Report}
    (h : Inspection.report template = .ok report) :
    errorOf? template = none ∧
      report.argKinds = (conversionsOf template).map Conversion.argKind := by
  cases hrows : rowsFrom 0 (itemsOf template) with
  | error error =>
    rw [Inspection.report, hrows] at h
    cases h
  | ok rows =>
    rw [Inspection.report, hrows] at h
    cases h
    obtain ⟨segments, hitems, hkinds⟩ := rowsFrom_eq_ok hrows
    have hresults : (itemsOf template).map Item.result =
        segments.map .ok ++ (none : Option ParseError).toList.map .error := by
      simp [hitems]
    obtain ⟨hsegments, herror⟩ := segmentsOf_errorOf?_of_results hresults
    exact ⟨herror, by rw [Report.argKinds, conversionsOf, hsegments, hkinds]⟩

end Inspection

/-! ### What is converted -/

namespace Arguments

/-- The texts stand for the arguments, each for one of its own kind.  Texts beyond the kinds that
are wanted stand for strings. -/
inductive Converts : List ArgKind → List Text → List Arg → Prop where
  | nil (kinds : List ArgKind) : Converts kinds [] []
  | cons {kinds : List ArgKind} {text : Text} {texts : List Text} {arg : Arg} {args : List Arg}
      (h : ofText (kinds.head?.getD .string) text = .ok arg)
      (t : Converts kinds.tail texts args) : Converts kinds (text :: texts) (arg :: args)

/-- Text `i` is wanted as an argument of a kind that it is not valid for. -/
def Invalid (kinds : List ArgKind) (texts : List Text) (i : Nat) : Prop :=
  ∃ kind text fault, kinds[i]? = some kind ∧ texts[i]? = some text ∧
    ofText kind text = .error fault

/-- Text `i` is the first that is not valid for its kind. -/
structure FirstInvalid (kinds : List ArgKind) (texts : List Text) (i : Nat) (kind : ArgKind)
    (text : Text) (fault : ArgumentFault) : Prop where
  wanted : kinds[i]? = some kind
  given : texts[i]? = some text
  refused : ofText kind text = .error fault
  before : ∀ j < i, ¬ Invalid kinds texts j

theorem FirstInvalid.invalid {kinds : List ArgKind} {texts : List Text} {i : Nat} {kind : ArgKind}
    {text : Text} {fault : ArgumentFault} (h : FirstInvalid kinds texts i kind text fault) :
    Invalid kinds texts i := ⟨kind, text, fault, h.wanted, h.given, h.refused⟩

theorem FirstInvalid.unique {kinds : List ArgKind} {texts : List Text} {i j : Nat}
    {kind kind' : ArgKind} {text text' : Text} {fault fault' : ArgumentFault}
    (h : FirstInvalid kinds texts i kind text fault)
    (h' : FirstInvalid kinds texts j kind' text' fault') :
    i = j ∧ kind = kind' ∧ text = text' ∧ fault = fault' := by
  obtain rfl := first_unique (not_not_intro h.invalid) h.before (not_not_intro h'.invalid) h'.before
  obtain rfl : kind = kind' := Option.some.inj (h.wanted.symm.trans h'.wanted)
  obtain rfl : text = text' := Option.some.inj (h.given.symm.trans h'.given)
  exact ⟨rfl, rfl, rfl, Except.error.inj (h.refused.symm.trans h'.refused)⟩

/-- Every text is a string, so a text that is refused is one of which another kind is wanted. -/
theorem head?_of_ofText_eq_error {kinds : List ArgKind} {text : Text} {fault : ArgumentFault}
    (h : ofText (kinds.head?.getD .string) text = .error fault) :
    kinds[0]? = some (kinds.head?.getD .string) := by
  cases kinds with
  | nil => cases h
  | cons kind kinds => rfl

theorem invalid_succ_iff {kinds : List ArgKind} {text : Text} {texts : List Text} {i : Nat} :
    Invalid kinds (text :: texts) (i + 1) ↔ Invalid kinds.tail texts i := by
  simp only [Invalid, List.getElem?_cons_succ, List.getElem?_tail]

/-- A text that is converted is valid. -/
theorem not_invalid_zero {kinds : List ArgKind} {text : Text} {texts : List Text} {arg : Arg}
    (h : ofText (kinds.head?.getD .string) text = .ok arg) : ¬ Invalid kinds (text :: texts) 0 := by
  rintro ⟨kind, text', fault, hkind, htext, hfault⟩
  obtain rfl := Option.some.inj htext
  rw [List.head?_eq_getElem?, hkind, Option.getD_some, hfault] at h
  cases h

theorem Converts.not_invalid {kinds : List ArgKind} {texts : List Text} {args : List Arg}
    (h : Converts kinds texts args) (i : Nat) : ¬ Invalid kinds texts i := by
  induction h generalizing i with
  | nil kinds =>
    rintro ⟨kind, text, fault, -, htext, -⟩
    cases htext
  | cons h t ih =>
    cases i with
    | zero => exact not_invalid_zero h
    | succ i => exact fun hinvalid => ih i (invalid_succ_iff.mp hinvalid)

theorem Converts.length_eq {kinds : List ArgKind} {texts : List Text} {args : List Arg}
    (h : Converts kinds texts args) : args.length = texts.length := by
  induction h with
  | nil kinds => rfl
  | cons h t ih => rw [List.length_cons, ih, List.length_cons]

/-- An argument has the kind that is wanted at its place. -/
theorem Converts.kind_eq {kinds : List ArgKind} {texts : List Text} {args : List Arg}
    (h : Converts kinds texts args) {i : Nat} {kind : ArgKind} {arg : Arg}
    (hkind : kinds[i]? = some kind) (harg : args[i]? = some arg) : arg.kind = kind := by
  induction h generalizing i with
  | nil kinds => cases harg
  | cons h t ih =>
    cases i with
    | zero =>
      obtain rfl := Option.some.inj harg
      rw [kind_of_ofText h, List.head?_eq_getElem?, hkind, Option.getD_some]
    | succ i => exact ih (by rwa [List.getElem?_tail]) harg

/-- Texts are converted up to the first that is not valid. -/
theorem exists_converts_or_firstInvalid (index : Nat) (kinds : List ArgKind)
    (texts : List Text) :
    (∃ args, ofTextsFrom index kinds texts = .ok args ∧ Converts kinds texts args) ∨
      ∃ i kind text fault, FirstInvalid kinds texts i kind text fault ∧
        ofTextsFrom index kinds texts =
          .error (.invalidArgument (index + i) text kind fault) := by
  induction texts generalizing index kinds with
  | nil => exact .inl ⟨[], rfl, .nil kinds⟩
  | cons text texts ih =>
    rw [ofTextsFrom]
    cases hfirst : ofText (kinds.head?.getD .string) text with
    | error fault =>
      refine .inr ⟨0, _, text, fault,
        ⟨head?_of_ofText_eq_error hfirst, rfl, hfirst, fun j hj => absurd hj j.not_lt_zero⟩, ?_⟩
      simp only [Nat.add_zero]
    | ok arg =>
      dsimp only
      rcases ih (index + 1) kinds.tail with
        ⟨args, hargs, hconverts⟩ | ⟨i, kind, text', fault, hinvalid, herror⟩
      · exact .inl ⟨arg :: args, by rw [hargs]; rfl, .cons hfirst hconverts⟩
      · -- what is first invalid among the other texts is so among all, one place further on
        refine .inr ⟨i + 1, kind, text', fault, ⟨?_, hinvalid.given, hinvalid.refused, ?_⟩, ?_⟩
        · rw [← List.getElem?_tail]
          exact hinvalid.wanted
        · intro j hj
          cases j with
          | zero => exact not_invalid_zero hfirst
          | succ j =>
            exact fun h => hinvalid.before j (Nat.lt_of_succ_lt_succ hj) (invalid_succ_iff.mp h)
        · rw [herror, Nat.add_right_comm, Nat.add_assoc]
          rfl

theorem ofTextsFrom_eq_ok {index : Nat} {kinds : List ArgKind} {texts : List Text}
    {args : List Arg} (h : ofTextsFrom index kinds texts = .ok args) :
    Converts kinds texts args := by
  rcases exists_converts_or_firstInvalid index kinds texts with
    ⟨args', hargs, hconverts⟩ | ⟨i, kind, text, fault, -, herror⟩
  · rw [h] at hargs
    cases hargs
    exact hconverts
  · rw [h] at herror
    cases herror

/-- Conversion fails at the first text that is not valid. -/
theorem ofTextsFrom_eq_error_iff {index : Nat} {kinds : List ArgKind} {texts : List Text}
    {error : CommandError} :
    ofTextsFrom index kinds texts = .error error ↔
      ∃ i kind text fault, FirstInvalid kinds texts i kind text fault ∧
        error = .invalidArgument (index + i) text kind fault := by
  constructor
  · intro h
    rcases exists_converts_or_firstInvalid index kinds texts with
      ⟨args, hargs, -⟩ | ⟨i, kind, text, fault, hfirst, herror⟩
    · rw [h] at hargs
      cases hargs
    · rw [h] at herror
      exact ⟨i, kind, text, fault, hfirst, Except.error.inj herror⟩
  · rintro ⟨i, kind, text, fault, hfirst, rfl⟩
    rcases exists_converts_or_firstInvalid index kinds texts with
      ⟨args, -, hconverts⟩ | ⟨j, kind', text', fault', hfirst', herror⟩
    · exact absurd hfirst.invalid (hconverts.not_invalid i)
    · obtain ⟨rfl, rfl, rfl, rfl⟩ := hfirst.unique hfirst'
      exact herror

/-- Conversion fails exactly if there is a text that is not valid. -/
theorem exists_ofTextsFrom_eq_error_iff {index : Nat} {kinds : List ArgKind}
    {texts : List Text} :
    (∃ error, ofTextsFrom index kinds texts = .error error) ↔ ∃ i, Invalid kinds texts i := by
  constructor
  · rintro ⟨error, h⟩
    obtain ⟨i, kind, text, fault, hfirst, -⟩ := ofTextsFrom_eq_error_iff.mp h
    exact ⟨i, hfirst.invalid⟩
  · rintro ⟨i, hinvalid⟩
    rcases exists_converts_or_firstInvalid index kinds texts with
      ⟨args, -, hconverts⟩ | ⟨j, kind, text, fault, -, herror⟩
    · exact absurd hinvalid (hconverts.not_invalid i)
    · exact ⟨_, herror⟩

/-- The kinds that texts are converted to are those of the conversions. -/
theorem ofTexts_of_complete {template : Text} (h : errorOf? template = none) (texts : List Text) :
    ofTexts template texts =
      ofTextsFrom 0 ((conversionsOf template).map Conversion.argKind) texts := by
  rw [ofTexts, expectedKinds, Template.parse_eq, h]
  rfl

end Arguments

/-! ### What is rendered -/

open Arguments (Converts FirstInvalid Invalid)

/-- A conversion has an argument that suits it if there is a text for it. -/
theorem supplied_of_converts {conversions : List Conversion} {texts : List Text} {args : List Arg}
    (h : Converts (conversions.map Conversion.argKind) texts args) {i : Nat}
    (hi : i < conversions.length) (htext : i < texts.length) : Supplied conversions args i := by
  have hconversion : conversions[i]? = some conversions[i] := List.getElem?_eq_getElem hi
  have harg := List.getElem?_eq_getElem (h.length_eq.symm ▸ htext : i < args.length)
  refine ⟨_, _, hconversion, harg, .inl (h.kind_eq ?_ harg)⟩
  rw [List.getElem?_map, hconversion, Option.map_some]

/-- **Converted arguments** suit the conversions as far as they go.  All that a rendering can find
wrong with them is their number. -/
theorem error?_render_of_converts {template : Text} (herror : errorOf? template = none)
    {texts : List Text} {args : List Arg}
    (h : Converts ((conversionsOf template).map Conversion.argKind) texts args) :
    (render template args).error? =
      if (conversionsOf template).length < texts.length then
        some (.surplus (conversionsOf template).length texts.length)
      else (conversionsOf template)[texts.length]?.map fun conversion =>
        .missing texts.length conversion.argKind := by
  by_cases hle : (conversionsOf template).length ≤ texts.length
  · have hall : AllSupplied (conversionsOf template) args := fun i hi =>
      supplied_of_converts h hi (Nat.lt_of_lt_of_le hi hle)
    rw [(error?_of_allSupplied hall).2, herror, h.length_eq, List.getElem?_eq_none hle,
      Option.map_none]
  · have hlt : texts.length < (conversionsOf template).length := Nat.lt_of_not_le hle
    have hfound := List.getElem?_eq_getElem hlt
    have hnone : args[texts.length]? = none := List.getElem?_eq_none (Nat.le_of_eq h.length_eq)
    -- all texts there are have been converted, so the first thing wrong is that one is missing
    have hfirst : FirstUnsuited (conversionsOf template) args texts.length
        (conversionsOf template)[texts.length] :=
      { found := hfound
        unsuited := fun arg harg => by
          rw [hnone] at harg
          cases harg
        before := fun j hj => supplied_of_converts h (Nat.lt_trans hj hlt) hj }
    rw [error?_of_firstUnsuited hfirst, hnone, hfound, if_neg (fun hgt => hle (Nat.le_of_lt hgt)),
      Option.map_some]

/-- **A report decides.**  Texts are refused exactly if one of them is not valid for the kind that
the report lists for it, and the first such text is reported.  Texts that are accepted make
arguments with which no rendering finds the template malformed or an argument mismatched: it
succeeds if there are as many texts as the report lists arguments, misses the argument behind the
last text if there are fewer, and has arguments left over if there are more. -/
theorem report_decides_arguments {template : Text} {report : Inspection.Report}
    (h : Inspection.report template = .ok report) (texts : List Text) :
    ((∃ error, Arguments.ofTexts template texts = .error error) ↔
      ∃ i, Invalid report.argKinds texts i) ∧
    (∀ error, Arguments.ofTexts template texts = .error error ↔
      ∃ i kind text fault, FirstInvalid report.argKinds texts i kind text fault ∧
        error = .invalidArgument i text kind fault) ∧
    ∀ args, Arguments.ofTexts template texts = .ok args →
      (∀ error, (render template args).result ≠ .error (.malformed error)) ∧
      (∀ i expected found, (render template args).result ≠ .error (.mismatch i expected found)) ∧
      ((∃ length, (render template args).result = .ok length) ↔
        texts.length = report.rows.length) ∧
      (∀ i expected, (render template args).result = .error (.missing i expected) ↔
        texts.length < report.rows.length ∧ i = texts.length ∧
          report.argKinds[i]? = some expected) ∧
      ∀ expected supplied, (render template args).result = .error (.surplus expected supplied) ↔
        report.rows.length < texts.length ∧ expected = report.rows.length ∧
          supplied = texts.length := by
  obtain ⟨herror, hkinds⟩ := Inspection.report_eq_ok h
  have hlength : report.rows.length = (conversionsOf template).length := by
    rw [← Inspection.length_argKinds, hkinds, List.length_map]
  rw [Arguments.ofTexts_of_complete herror, ← hkinds]
  refine ⟨Arguments.exists_ofTextsFrom_eq_error_iff, fun error => ?_, fun args hargs => ?_⟩
  · rw [Arguments.ofTextsFrom_eq_error_iff]
    simp only [Nat.zero_add]
  · have hrender := error?_render_of_converts herror
      (hkinds ▸ Arguments.ofTextsFrom_eq_ok hargs)
    simp only [Rendering.result_eq_error_iff, Rendering.result_eq_ok_iff, ne_eq, hlength, hkinds,
      List.getElem?_map]
    rcases Nat.lt_trichotomy texts.length (conversionsOf template).length with hlt | heq | hgt
    · have hfound := List.getElem?_eq_getElem hlt
      rw [if_neg (Nat.not_lt_of_lt hlt), hfound, Option.map_some] at hrender
      rw [hrender]
      refine ⟨by simp, by simp, by simp [Nat.ne_of_lt hlt], fun i expected => ?_,
        by simp [Nat.not_lt_of_lt hlt]⟩
      constructor
      · rintro ⟨⟩
        exact ⟨hlt, rfl, by rw [hfound, Option.map_some]⟩
      · rintro ⟨-, rfl, hexpected⟩
        rw [hfound, Option.map_some] at hexpected
        rw [Option.some.inj hexpected]
    · rw [if_neg (by simp [heq]), List.getElem?_eq_none (Nat.le_of_eq heq.symm),
        Option.map_none] at hrender
      rw [hrender]
      simp [heq]
    · rw [if_pos hgt] at hrender
      rw [hrender]
      refine ⟨by simp, by simp, by simp [(Nat.ne_of_lt hgt).symm], by simp [Nat.not_lt_of_lt hgt],
        fun expected supplied => ?_⟩
      constructor
      · rintro ⟨⟩
        exact ⟨hgt, rfl, rfl⟩
      · rintro ⟨-, rfl, rfl⟩
        rfl

/-- A report of three arguments and two texts: the pointer is missing, and the literal `%` is not
counted.  A second text that is no number is refused in its place. -/
theorem report_decides_missing_pointer :
    Inspection.report "%s: 100%% of %bd at %p".toList =
        .ok ⟨"%s: 100%% of %bd at %p".toList,
          [⟨0, 0, "%s".toList, .string, "string"⟩,
            ⟨1, 13, "%bd".toList, .integer, "8-bit signed decimal"⟩,
            ⟨2, 20, "%p".toList, .pointer, "pointer, lowercase hex"⟩]⟩ ∧
      Arguments.ofTexts "%s: 100%% of %bd at %p".toList ["rx".toList, "-5".toList] =
        .ok [.string (Text.utf8 "rx".toList), .integer 0xfffffffb] ∧
      (render "%s: 100%% of %bd at %p".toList
          [.string (Text.utf8 "rx".toList), .integer 0xfffffffb]).result =
        .error (.missing 2 .pointer) ∧
      Arguments.ofTexts "%s: 100%% of %bd at %p".toList ["rx".toList, "five".toList] =
        .error (.invalidArgument 1 "five".toList .integer .notANumber) := by
  have hreport : Inspection.report "%s: 100%% of %bd at %p".toList =
      .ok ⟨"%s: 100%% of %bd at %p".toList,
        [⟨0, 0, "%s".toList, .string, "string"⟩,
          ⟨1, 13, "%bd".toList, .integer, "8-bit signed decimal"⟩,
          ⟨2, 20, "%p".toList, .pointer, "pointer, lowercase hex"⟩]⟩ := by decide +kernel
  have hargs : Arguments.ofTexts "%s: 100%% of %bd at %p".toList ["rx".toList, "-5".toList] =
      .ok [.string (Text.utf8 "rx".toList), .integer 0xfffffffb] := by
    rw [Arguments.ofTexts, Arguments.expectedKinds, Template.parse_eq]
    decide +kernel
  obtain ⟨-, -, hrender⟩ := report_decides_arguments hreport ["rx".toList, "-5".toList]
  obtain ⟨-, -, -, hmissing, -⟩ := hrender _ hargs
  obtain ⟨-, hrefused, -⟩ := report_decides_arguments hreport ["rx".toList, "five".toList]
  refine ⟨hreport, hargs, (hmissing 2 .pointer).mpr ⟨by decide, rfl, rfl⟩,
    (hrefused _).mpr ⟨1, .integer, _, .notANumber, ⟨rfl, rfl, by decide, fun j hj => ?_⟩, rfl⟩⟩
  have hfirst : Arguments.ofText .string "rx".toList = .ok (.string (Text.utf8 "rx".toList)) := rfl
  obtain rfl : j = 0 := by omega
  exact Arguments.not_invalid_zero hfirst

end DriverPrintf
