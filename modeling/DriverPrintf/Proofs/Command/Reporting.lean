import DriverPrintf.Command.Run
import DriverPrintf.Proofs.Line.Delivery
import DriverPrintf.Proofs.Render.Outcome

/-!
# Command — what is reported

Printing and formatting convert their texts by the kinds of argument the template takes, and then
render it.  Both report the error of the rendering (`runPrint_of_ok`, `error?_runFormat_of_ok`),
formatting only if there can be a buffer of the size that is asked for.

Nothing is known of the arguments of a template that does not parse.  Its texts are passed as
strings, so that rendering comes to the malformed segment and reports it.  It does so only if no
conversion before that segment minds a string.  `ValidTexts` says that the texts are valid for
those conversions, each for its own kind, and `MalformedReported` what the user of a malformed
template should then be told.

* **When a malformed template is reported** (`malformed_reported_iff`): exactly if every
  conversion before the malformed segment takes a string; otherwise the first that does not is
  reported as a mismatch.
* **A mismatch in its place** (`not_malformed_reported_behind_integer`).
-/

namespace DriverPrintf

/-! ### Texts and the arguments they stand for -/

/-- Each conversion is supplied with a text that is valid for its kind; `args` are the arguments
these texts stand for. -/
inductive ValidTexts : List Conversion → List Text → List Arg → Prop where
  | nil (extra : List Text) : ValidTexts [] extra []
  | cons {conversion : Conversion} {conversions : List Conversion} {text : Text}
      {texts : List Text} {arg : Arg} {args : List Arg}
      (h : Arguments.ofText conversion.argKind text = .ok arg)
      (t : ValidTexts conversions texts args) :
      ValidTexts (conversion :: conversions) (text :: texts) (arg :: args)

namespace Arguments

/-- The arguments that texts become when no kinds are known. -/
def strings (texts : List Text) : List Arg := texts.map fun text => .string (Text.utf8 text)

theorem ofTextsFrom_nil (index : Nat) (texts : List Text) :
    ofTextsFrom index [] texts = .ok (strings texts) := by
  induction texts generalizing index with
  | nil => rfl
  | cons text texts ih =>
    rw [ofTextsFrom, List.tail_nil, ih]
    rfl

/-- The texts of a template that does not parse are strings. -/
theorem ofTexts_of_malformed {template : Text} {error : ParseError}
    (h : Template.parse template = .error error) (texts : List Text) :
    ofTexts template texts = .ok (strings texts) := by
  rw [ofTexts, expectedKinds, h]
  exact ofTextsFrom_nil 0 texts

/-- A text becomes an argument of the kind that is asked for. -/
theorem kind_of_ofText {kind : ArgKind} {text : Text} {arg : Arg}
    (h : ofText kind text = .ok arg) : arg.kind = kind := by
  cases kind with
  | integer =>
    cases hvalue : integer text <;> rw [ofText, hvalue] at h <;> cases h
    rfl
  | pointer =>
    cases hvalue : number text <;> rw [ofText, hvalue] at h <;> cases h
    rfl
  | busAddress =>
    cases hvalue : number text <;> rw [ofText, hvalue] at h <;> cases h
    rfl
  | string => cases h; rfl
  | char =>
    rw [ofText] at h
    split at h <;> cases h
    rfl

end Arguments

open Arguments (strings kind_of_ofText)

/-- Only conversions of the string kind take a string. -/
theorem Conversion.suits_string_iff {conversion : Conversion} {bytes : Bytes} :
    conversion.Suits (.string bytes) ↔ conversion.argKind = .string := by
  cases conversion <;> simp [Suits, argKind, Arg.kind]

namespace ValidTexts

variable {conversions : List Conversion} {texts : List Text} {args : List Arg}

theorem length_le (h : ValidTexts conversions texts args) :
    conversions.length ≤ texts.length := by
  induction h with
  | nil extra => exact Nat.zero_le _
  | cons h t ih => exact Nat.succ_le_succ ih

theorem forall₂_suits (h : ValidTexts conversions texts args) :
    List.Forall₂ Conversion.Suits conversions args := by
  induction h with
  | nil extra => exact .nil
  | cons h t ih => exact .cons (.inl (kind_of_ofText h)) ih

/-- Texts that are valid for strings stand for themselves. -/
theorem strings_eq_append (h : ValidTexts conversions texts args)
    (hall : ∀ conversion ∈ conversions, conversion.argKind = .string) :
    ∃ extra, strings texts = args ++ extra := by
  induction h with
  | nil extra => exact ⟨strings extra, rfl⟩
  | @cons conversion _ text texts arg args h t ih =>
    obtain ⟨hkind, hall⟩ := List.forall_mem_cons.mp hall
    obtain ⟨extra, hextra⟩ := ih hall
    rw [hkind] at h
    cases h
    exact ⟨extra, congrArg (Arg.string (Text.utf8 text) :: ·) hextra⟩

end ValidTexts

/-! ### Strings for all arguments -/

theorem Arguments.getElem?_strings (texts : List Text) (i : Nat) :
    (strings texts)[i]? = texts[i]?.map fun text => Arg.string (Text.utf8 text) :=
  List.getElem?_map

/-- A conversion that one of the strings suits takes strings. -/
theorem argKind_of_suits_strings {texts : List Text} {i : Nat} {conversion : Conversion}
    {arg : Arg} (harg : (strings texts)[i]? = some arg) (h : conversion.Suits arg) :
    conversion.argKind = .string := by
  rw [Arguments.getElem?_strings] at harg
  obtain ⟨text, -, rfl⟩ := Option.map_eq_some_iff.mp harg
  exact Conversion.suits_string_iff.mp h

/-- The first conversion that takes no string is the first that is unsuited, if there are texts
enough. -/
theorem firstUnsuited_strings {conversions : List Conversion} {texts : List Text} {i : Nat}
    {conversion : Conversion} (hlength : conversions.length ≤ texts.length)
    (hfound : conversions[i]? = some conversion) (hkind : conversion.argKind ≠ .string)
    (hbefore : ∀ c ∈ conversions.take i, c.argKind = .string) :
    FirstUnsuited conversions (strings texts) i conversion where
  found := hfound
  unsuited arg harg hsuits := hkind (argKind_of_suits_strings harg hsuits)
  before j hj := by
    obtain ⟨hi, -⟩ := List.getElem?_eq_some_iff.mp hfound
    have hjlen : j < conversions.length := Nat.lt_trans hj hi
    have hjtext : j < texts.length := Nat.lt_of_lt_of_le hjlen hlength
    refine ⟨conversions[j], .string (Text.utf8 texts[j]), List.getElem?_eq_getElem hjlen, ?_,
      Conversion.suits_string_iff.mpr (hbefore _ ?_)⟩
    · rw [Arguments.getElem?_strings, List.getElem?_eq_getElem hjtext, Option.map_some]
    · exact List.mem_take_iff_getElem.mpr ⟨j, by omega, rfl⟩

/-! ### Running the commands -/

namespace Command

/-- A line is printed whole, and the error is that of its rendering. -/
theorem runPrint_of_ok {template : Text} {texts : List Text} {args : List Arg}
    (h : Arguments.ofTexts template texts = .ok args) :
    (runPrint template texts).stdout =
        Text.utf8 Line.tag ++ (render template args).output ++ [0x0a] ∧
      (runPrint template texts).error? =
        (render template args).error?.map fun error => .printing (.render error) := by
  obtain ⟨hstdout, herror⟩ := Line.print_obliging template args
  rw [runPrint, h]
  refine ⟨hstdout, ?_⟩
  simp only [herror, Option.map_map]
  rfl

/-- The size of a buffer that can be made does not matter to what is reported. -/
theorem error?_runFormat_of_ok {template : Text} {texts : List Text} {args : List Arg}
    (h : Arguments.ofTexts template texts = .ok args) {size : Nat}
    (hsize : size ≤ BoundedBuffer.maxSize) :
    (runFormat size template texts).error? = (render template args).error?.map .rendering := by
  have hresult : (renderInto (Array.replicate size 0) template args).result =
      (render template args).result := rfl
  rw [runFormat, h]
  simp only [if_neg (Nat.not_lt.mpr hsize), hresult, Rendering.result]
  cases (render template args).error? <;> rfl

/-- A buffer that is too large is asked for before anything is rendered. -/
theorem runFormat_of_maxSize_lt {template : Text} {texts : List Text} {args : List Arg}
    (h : Arguments.ofTexts template texts = .ok args) {size : Nat}
    (hsize : BoundedBuffer.maxSize < size) :
    runFormat size template texts =
      ⟨[], (Arguments.expectedKinds template).2, some .capacityOverflow⟩ := by
  rw [runFormat, h]
  exact if_pos hsize

end Command

/-- What both commands should report of a malformed template, for any buffer that can be made: its
own error, and before it everything that stands before the malformed segment. -/
structure MalformedReported (template : Text) (texts : List Text) (args : List Arg)
    (error : ParseError) : Prop where
  print : (Command.run (.print template texts)).error? =
    some (.printing (.render (.malformed error)))
  format : ∀ size ≤ BoundedBuffer.maxSize,
    (Command.run (.format size template texts)).error? = some (.rendering (.malformed error))
  stdout : ∃ pieces, Written (segmentsOf template) args pieces [] ∧
    (Command.run (.print template texts)).stdout =
      Text.utf8 Line.tag ++ pieces.flatten ++ [0x0a]

/-- **When a malformed template is reported.**  Its texts are valid for the conversions before the
malformed segment.  Its own error is reported, with everything before it written, exactly if all
those conversions take strings; the first that does not is reported instead, whatever stands
behind it. -/
theorem malformed_reported_iff {template : Text} {texts : List Text} {args : List Arg}
    {error : ParseError} (hparse : Template.parse template = .error error)
    (hvalid : ValidTexts (conversionsOf template) texts args) :
    (MalformedReported template texts args error ↔
      ∀ conversion ∈ conversionsOf template, conversion.argKind = .string) ∧
    ∀ i conversion, (conversionsOf template)[i]? = some conversion →
      conversion.argKind ≠ .string →
      (∀ before ∈ (conversionsOf template).take i, before.argKind = .string) →
      (Command.run (.print template texts)).error? =
          some (.printing (.render (.mismatch i conversion.argKind .string))) ∧
        ∀ size ≤ BoundedBuffer.maxSize,
          (Command.run (.format size template texts)).error? =
            some (.rendering (.mismatch i conversion.argKind .string)) := by
  have hargs := Arguments.ofTexts_of_malformed hparse texts
  have herror := Template.parse_eq_error_iff.mp hparse
  obtain ⟨hstdout, hprint⟩ := Command.runPrint_of_ok hargs
  have hformat := fun size (hsize : size ≤ BoundedBuffer.maxSize) =>
    Command.error?_runFormat_of_ok hargs hsize
  refine ⟨⟨fun h conversion hmem => ?_, fun hall => ?_⟩,
    fun i conversion hfound hkind hbefore => ?_⟩
  · have hrendered := h.print
    rw [Command.run, hprint, Option.map_eq_some_iff] at hrendered
    obtain ⟨renderError, hrender, hinj⟩ := hrendered
    cases hinj
    obtain ⟨i, hi, rfl⟩ := List.mem_iff_getElem.mp hmem
    cases error?_eq_iff_decided.mp hrender with
    | malformed _ hall =>
      obtain ⟨arg, harg, hsuits⟩ := (hall i hi).exists_suits (List.getElem?_eq_getElem hi)
      exact argKind_of_suits_strings harg hsuits
  · obtain ⟨pieces, hwritten⟩ := exists_written_of_forall₂ hvalid.forall₂_suits
    obtain ⟨extra, hextra⟩ := hvalid.strings_eq_append hall
    have hrender : render template (strings texts) = ⟨pieces.flatten, some (.malformed error)⟩ := by
      rw [hextra, render_of_written (hwritten.append extra), herror]
      simp [Rendering.ofResults, Rendering.after]
    rw [hrender] at hstdout hprint hformat
    exact ⟨hprint, hformat, pieces, hwritten, hstdout⟩
  · have hfirst := firstUnsuited_strings hvalid.length_le hfound hkind hbefore
    have hmismatch : (render template (strings texts)).error? =
        some (.mismatch i conversion.argKind .string) := by
      obtain ⟨hi, -⟩ := List.getElem?_eq_some_iff.mp hfound
      rw [error?_of_firstUnsuited hfirst, Arguments.getElem?_strings,
        List.getElem?_eq_getElem (Nat.lt_of_lt_of_le hi hvalid.length_le)]
      rfl
    rw [hmismatch] at hprint hformat
    exact ⟨hprint, hformat⟩

/-- A text for `%s`, and then a conversion that there is none of. -/
theorem malformed_reported_behind_string :
    Template.parse "%s: %q".toList = .error ⟨4, .unknownConversion "%q".toList⟩ ∧
      ValidTexts (conversionsOf "%s: %q".toList) ["key".toList]
        [.string (Text.utf8 "key".toList)] ∧
      MalformedReported "%s: %q".toList ["key".toList] [.string (Text.utf8 "key".toList)]
        ⟨4, .unknownConversion "%q".toList⟩ := by
  have hparse : Template.parse "%s: %q".toList = .error ⟨4, .unknownConversion "%q".toList⟩ :=
    Template.parse_eq_error_iff.mpr (by decide +kernel)
  have hconversions : conversionsOf "%s: %q".toList = [.string ⟨.spacesBefore, 0⟩] := by
    decide +kernel
  have hvalid : ValidTexts (conversionsOf "%s: %q".toList) ["key".toList]
      [.string (Text.utf8 "key".toList)] := hconversions ▸ .cons rfl (.nil [])
  refine ⟨hparse, hvalid, (malformed_reported_iff hparse hvalid).1.mpr ?_⟩
  rw [hconversions]
  simp [Conversion.argKind]

/-- **A mismatch in its place.**  The text is a number, which is what `%d` takes, and the
conversion behind it is malformed; what is reported is that the number is a string. -/
theorem not_malformed_reported_behind_integer :
    Template.parse "%d%q".toList = .error ⟨2, .unknownConversion "%q".toList⟩ ∧
      ValidTexts (conversionsOf "%d%q".toList) [['5']] [.integer 5] ∧
      (Command.run (.print "%d%q".toList [['5']])).error? =
        some (.printing (.render (.mismatch 0 .integer .string))) ∧
      ¬ MalformedReported "%d%q".toList [['5']] [.integer 5]
        ⟨2, .unknownConversion "%q".toList⟩ := by
  have hparse : Template.parse "%d%q".toList = .error ⟨2, .unknownConversion "%q".toList⟩ :=
    Template.parse_eq_error_iff.mpr (by decide +kernel)
  have hconversions : conversionsOf "%d%q".toList =
      [.integer ⟨.spacesBefore, 0⟩ .word .signed] := by decide +kernel
  have hvalid : ValidTexts (conversionsOf "%d%q".toList) [['5']] [.integer 5] :=
    hconversions ▸ .cons rfl (.nil [])
  have hreported : (Command.run (.print "%d%q".toList [['5']])).error? =
      some (.printing (.render (.mismatch 0 .integer .string))) := by decide +kernel
  refine ⟨hparse, hvalid, hreported, fun h => ?_⟩
  have hprint := h.print
  rw [hreported] at hprint
  cases hprint

end DriverPrintf
