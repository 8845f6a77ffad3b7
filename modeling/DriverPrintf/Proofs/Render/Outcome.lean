import DriverPrintf.Proofs.Template.Reading
import DriverPrintf.Render.Rendering
import Mathlib.Data.List.Forall2

/-!
# Render — what decides the outcome

A rendering reads, takes arguments and writes in turn, so failures of the template and of the
arguments compete.  The first one in the order of the segments decides.  `Written segments args
pieces left` is the part of a run before it: the segments, the bytes each of them becomes, and
the arguments that none of them has taken.  A run with a written part goes on as the rest of the
template does with the arguments left (`ofResults_of_written`), and `written_or_unsuited` finds
how far the written part goes.

* **The first failure** (`render_decided_by_first_failure`): which result a rendering has, for
  each kind of result, in terms of the conversions of the template by number, the arguments by
  number and the error the reader ends in; and what has been written when the template has been
  rendered in full.
-/

namespace DriverPrintf

/-- An argument suits a conversion that takes its kind; an integer also suits `%c`. -/
def Conversion.Suits (conversion : Conversion) (arg : Arg) : Prop :=
  arg.kind = conversion.argKind ∨ conversion = .char ∧ arg.kind = .integer

theorem Conversion.render?_isSome (conversion : Conversion) (arg : Arg) :
    (conversion.render? arg).isSome ↔ conversion.Suits arg := by
  rw [render?, Option.isSome_map, body?_isSome]
  rfl

theorem Conversion.render?_eq_none_iff {conversion : Conversion} {arg : Arg} :
    conversion.render? arg = none ↔ ¬ conversion.Suits arg := by
  rw [← render?_isSome, Option.not_isSome_iff_eq_none]

/-! ### Written segments -/

/-- `segments` are written as `pieces`, one each, and `left` are the arguments none of them has
taken. -/
inductive Written : List Segment → List Arg → List Bytes → List Arg → Prop where
  | nil (args : List Arg) : Written [] args [] args
  | literal {segments : List Segment} {args left : List Arg} {pieces : List Bytes} (text : Text)
      (t : Written segments args pieces left) :
      Written (.literal text :: segments) args (Text.utf8 text :: pieces) left
  | conversion {segments : List Segment} {args left : List Arg} {pieces : List Bytes}
      {conversion : Conversion} {arg : Arg} {bytes : Bytes}
      (h : conversion.render? arg = some bytes) (t : Written segments args pieces left) :
      Written (.conversion conversion :: segments) (arg :: args) (bytes :: pieces) left

@[simp] theorem Rendering.after_error? (bytes : Bytes) (rendering : Rendering) :
    (rendering.after bytes).error? = rendering.error? := rfl

@[simp] theorem Rendering.after_output (bytes : Bytes) (rendering : Rendering) :
    (rendering.after bytes).output = bytes ++ rendering.output := rfl

/-- **A run past its written part** is what the rest of the template makes of the arguments left. -/
theorem Rendering.ofResults_of_written {segments : List Segment} {args left : List Arg}
    {pieces : List Bytes} (h : Written segments args pieces left) (index : Nat)
    (more : List (Except ParseError Segment)) :
    ofResults index (segments.map .ok ++ more) args =
      (ofResults (index + (conversionsIn segments).length) more left).after pieces.flatten := by
  induction h generalizing index with
  | nil args => rfl
  | literal text t ih =>
    simp only [List.map_cons, List.cons_append, ofResults, ih]
    simp [after]
  | conversion h t ih =>
    simp only [List.map_cons, List.cons_append, ofResults, h, ih]
    simp [after, Nat.add_assoc, Nat.add_comm 1]

/-- A written part takes one argument for each of its conversions, in order. -/
theorem Written.take_drop {segments : List Segment} {args left : List Arg} {pieces : List Bytes}
    (h : Written segments args pieces left) :
    ∃ taken, args = taken ++ left ∧
      List.Forall₂ Conversion.Suits (conversionsIn segments) taken := by
  induction h with
  | nil args => exact ⟨[], rfl, .nil⟩
  | literal text t ih => exact ih
  | @conversion _ _ _ _ conversion arg bytes h t ih =>
    obtain ⟨taken, rfl, hsuits⟩ := ih
    have hsuit : conversion.Suits arg := (conversion.render?_isSome arg).mp (by simp [h])
    exact ⟨arg :: taken, rfl, .cons hsuit hsuits⟩

/-- Arguments that suit the conversions one by one are just enough to write all segments. -/
theorem exists_written_of_forall₂ {segments : List Segment} {args : List Arg}
    (h : List.Forall₂ Conversion.Suits (conversionsIn segments) args) :
    ∃ pieces, Written segments args pieces [] := by
  induction segments generalizing args with
  | nil =>
    cases h
    exact ⟨[], .nil []⟩
  | cons segment segments ih =>
    cases segment with
    | literal text =>
      obtain ⟨pieces, t⟩ := ih h
      exact ⟨_, .literal text t⟩
    | conversion conversion =>
      cases h with
      | cons hsuits h =>
        obtain ⟨bytes, hbytes⟩ :=
          Option.isSome_iff_exists.mp ((conversion.render?_isSome _).mpr hsuits)
        obtain ⟨pieces, t⟩ := ih h
        exact ⟨_, .conversion hbytes t⟩

/-- Arguments behind those that are taken change nothing. -/
theorem Written.append {segments : List Segment} {args left : List Arg} {pieces : List Bytes}
    (h : Written segments args pieces left) (extra : List Arg) :
    Written segments (args ++ extra) pieces (left ++ extra) := by
  induction h with
  | nil args => exact .nil (args ++ extra)
  | literal text t ih => exact .literal text ih
  | conversion h t ih => exact .conversion h ih

/-- The segments are all written, or a first conversion among them has no suitable argument. -/
theorem written_or_unsuited (segments : List Segment) (args : List Arg) :
    (∃ pieces left, Written segments args pieces left) ∨
      ∃ before conversion more pieces left, segments = before ++ .conversion conversion :: more ∧
        Written before args pieces left ∧
        ∀ arg, left.head? = some arg → ¬ conversion.Suits arg := by
  induction segments generalizing args with
  | nil => exact .inl ⟨[], args, .nil args⟩
  | cons segment segments ih =>
    cases segment with
    | literal text =>
      rcases ih args with ⟨pieces, left, t⟩ | ⟨before, c, more, pieces, left, rfl, t, hno⟩
      · exact .inl ⟨_, left, .literal text t⟩
      · exact .inr ⟨.literal text :: before, c, more, _, left, rfl, .literal text t, hno⟩
    | conversion conversion =>
      have hstop : (∀ arg, args.head? = some arg → ¬ conversion.Suits arg) →
          ∃ before c more pieces left, Segment.conversion conversion :: segments =
            before ++ .conversion c :: more ∧ Written before args pieces left ∧
              ∀ arg, left.head? = some arg → ¬ c.Suits arg :=
        fun hno => ⟨[], conversion, segments, [], args, rfl, .nil args, hno⟩
      cases args with
      | nil => exact .inr (hstop (by simp))
      | cons arg args =>
        cases hbytes : conversion.render? arg with
        | none =>
          exact .inr (hstop (by simpa using Conversion.render?_eq_none_iff.mp hbytes))
        | some bytes =>
          rcases ih args with ⟨pieces, left, t⟩ | ⟨before, c, more, pieces, left, rfl, t, hno⟩
          · exact .inl ⟨_, left, .conversion hbytes t⟩
          · exact .inr ⟨.conversion conversion :: before, c, more, _, left, rfl,
              .conversion hbytes t, hno⟩

/-- A rendering past its written part, up to the error its template ends in. -/
theorem render_of_written {template : Text} {args left : List Arg} {pieces : List Bytes}
    (h : Written (segmentsOf template) args pieces left) :
    render template args =
      (Rendering.ofResults (conversionsOf template).length
        ((errorOf? template).toList.map .error) left).after pieces.flatten := by
  rw [render, results_itemsOf, Rendering.ofResults_of_written h, Nat.zero_add]
  rfl

/-- Past its written part a template writes nothing. -/
theorem output_of_written {template : Text} {args left : List Arg} {pieces : List Bytes}
    (h : Written (segmentsOf template) args pieces left) :
    (render template args).output = pieces.flatten := by
  rw [render_of_written h]
  cases errorOf? template <;> cases left <;> simp [Rendering.ofResults]

/-- A rendering that gets no further than a conversion without a suitable argument. -/
theorem render_of_unsuited {template : Text} {before more : List Segment} {args left : List Arg}
    {pieces : List Bytes} {conversion : Conversion}
    (hsegments : segmentsOf template = before ++ .conversion conversion :: more)
    (h : Written before args pieces left)
    (hno : ∀ arg, left.head? = some arg → ¬ conversion.Suits arg) :
    render template args =
      ⟨pieces.flatten ++ Text.utf8 conversion.mark,
        some (match left.head? with
          | none => .missing (conversionsIn before).length conversion.argKind
          | some arg => .mismatch (conversionsIn before).length conversion.argKind arg.kind)⟩ := by
  rw [render, results_itemsOf, hsegments, List.map_append, List.append_assoc,
    Rendering.ofResults_of_written h, Nat.zero_add]
  cases left with
  | nil => rfl
  | cons arg left =>
    have hnone : conversion.render? arg = none :=
      Conversion.render?_eq_none_iff.mpr (hno arg rfl)
    simp [Rendering.ofResults, Rendering.after, hnone]

/-! ### Conversions and arguments by number -/

/-- Conversion `i` has an argument that suits it. -/
def Supplied (conversions : List Conversion) (args : List Arg) (i : Nat) : Prop :=
  ∃ conversion arg, conversions[i]? = some conversion ∧ args[i]? = some arg ∧
    conversion.Suits arg

theorem Supplied.exists_suits {conversions : List Conversion} {args : List Arg} {i : Nat}
    {conversion : Conversion} (h : Supplied conversions args i)
    (hfound : conversions[i]? = some conversion) :
    ∃ arg, args[i]? = some arg ∧ conversion.Suits arg := by
  obtain ⟨c, arg, hc, harg, hsuits⟩ := h
  obtain rfl : conversion = c := Option.some.inj (hfound.symm.trans hc)
  exact ⟨arg, harg, hsuits⟩

/-- Every conversion has an argument that suits it. -/
def AllSupplied (conversions : List Conversion) (args : List Arg) : Prop :=
  ∀ i < conversions.length, Supplied conversions args i

/-- Conversion `i` is the first without an argument that suits it. -/
structure FirstUnsuited (conversions : List Conversion) (args : List Arg) (i : Nat)
    (conversion : Conversion) : Prop where
  found : conversions[i]? = some conversion
  unsuited : ∀ arg, args[i]? = some arg → ¬ conversion.Suits arg
  before : ∀ j < i, Supplied conversions args j

theorem FirstUnsuited.not_supplied {conversions : List Conversion} {args : List Arg} {i : Nat}
    {conversion : Conversion} (h : FirstUnsuited conversions args i conversion) :
    ¬ Supplied conversions args i := by
  intro hsupplied
  obtain ⟨arg, harg, hsuits⟩ := hsupplied.exists_suits h.found
  exact h.unsuited arg harg hsuits

theorem FirstUnsuited.not_allSupplied {conversions : List Conversion} {args : List Arg} {i : Nat}
    {conversion : Conversion} (h : FirstUnsuited conversions args i conversion) :
    ¬ AllSupplied conversions args := fun hall =>
  h.not_supplied (hall i (List.getElem?_eq_some_iff.mp h.found).1)

/-- Two numbers that are each the first without a property are one. -/
theorem first_unique {p : Nat → Prop} {i j : Nat} (hi : ¬ p i) (hbefore : ∀ k < i, p k)
    (hj : ¬ p j) (hbefore' : ∀ k < j, p k) : i = j := by
  rcases Nat.lt_trichotomy i j with hlt | heq | hlt
  · exact absurd (hbefore' i hlt) hi
  · exact heq
  · exact absurd (hbefore j hlt) hj

theorem FirstUnsuited.unique {conversions : List Conversion} {args : List Arg} {i j : Nat}
    {c d : Conversion} (h : FirstUnsuited conversions args i c)
    (h' : FirstUnsuited conversions args j d) : i = j ∧ c = d := by
  obtain rfl := first_unique h.not_supplied h.before h'.not_supplied h'.before
  exact ⟨rfl, Option.some.inj (h.found.symm.trans h'.found)⟩

/-- The arguments after those taken are the arguments from that number on. -/
theorem Written.getElem?_left {segments : List Segment} {args left : List Arg}
    {pieces : List Bytes} (h : Written segments args pieces left) (j : Nat) :
    args[(conversionsIn segments).length + j]? = left[j]? := by
  obtain ⟨taken, rfl, hsuits⟩ := h.take_drop
  rw [hsuits.length_eq, List.getElem?_append_right (Nat.le_add_right _ _), Nat.add_sub_cancel_left]

/-- Each conversion of a written part is supplied, whatever conversions come after it. -/
theorem Written.supplied {segments : List Segment} {args left : List Arg} {pieces : List Bytes}
    (h : Written segments args pieces left) (more : List Conversion) {i : Nat}
    (hi : i < (conversionsIn segments).length) :
    Supplied (conversionsIn segments ++ more) args i := by
  obtain ⟨taken, rfl, hsuits⟩ := h.take_drop
  have hi' : i < taken.length := hsuits.length_eq ▸ hi
  refine ⟨(conversionsIn segments)[i], taken[i], ?_, ?_, ?_⟩
  · rw [List.getElem?_append_left hi, List.getElem?_eq_getElem hi]
  · rw [List.getElem?_append_left hi', List.getElem?_eq_getElem hi']
  · exact List.Forall₂.get hsuits hi hi'

theorem firstUnsuited_of_written {before more : List Segment} {args left : List Arg}
    {pieces : List Bytes} {conversion : Conversion} (h : Written before args pieces left)
    (hno : ∀ arg, left.head? = some arg → ¬ conversion.Suits arg) :
    FirstUnsuited (conversionsIn (before ++ .conversion conversion :: more)) args
      (conversionsIn before).length conversion where
  found := by simp
  unsuited arg harg := by
    have hleft := h.getElem?_left 0
    rw [Nat.add_zero] at hleft
    exact hno arg (by rw [List.head?_eq_getElem?, ← hleft, harg])
  before j hj := by
    rw [conversionsIn_append]
    exact h.supplied _ hj

/-- All conversions are supplied exactly when all segments can be written. -/
theorem allSupplied_iff_written {segments : List Segment} {args : List Arg} :
    AllSupplied (conversionsIn segments) args ↔
      ∃ pieces left, Written segments args pieces left := by
  constructor
  · intro hall
    rcases written_or_unsuited segments args with hwritten | ⟨b, c, more, _, _, rfl, h, hno⟩
    · exact hwritten
    · exact absurd hall (firstUnsuited_of_written h hno).not_allSupplied
  · rintro ⟨pieces, left, h⟩ i hi
    have hsupplied := h.supplied [] hi
    rwa [List.append_nil] at hsupplied

/-- The first conversion without a suitable argument is the one after the written part. -/
theorem FirstUnsuited.written {segments : List Segment} {args : List Arg} {i : Nat}
    {conversion : Conversion} (h : FirstUnsuited (conversionsIn segments) args i conversion) :
    ∃ before more pieces left, segments = before ++ .conversion conversion :: more ∧
      Written before args pieces left ∧ i = (conversionsIn before).length ∧
      left.head? = args[i]? := by
  rcases written_or_unsuited segments args with hwritten | ⟨b, c, more, pieces, left, rfl, t, hno⟩
  · exact absurd (allSupplied_iff_written.mpr hwritten) h.not_allSupplied
  · obtain ⟨rfl, rfl⟩ := h.unique (firstUnsuited_of_written t hno)
    refine ⟨b, more, pieces, left, rfl, t, rfl, ?_⟩
    rw [List.head?_eq_getElem?, ← t.getElem?_left 0, Nat.add_zero]

theorem allSupplied_or_firstUnsuited (template : Text) (args : List Arg) :
    AllSupplied (conversionsOf template) args ∨
      ∃ i conversion, FirstUnsuited (conversionsOf template) args i conversion := by
  rcases written_or_unsuited (segmentsOf template) args with
    hwritten | ⟨before, c, more, _, _, hsegments, h, hno⟩
  · exact .inl (allSupplied_iff_written.mpr hwritten)
  · refine .inr ⟨(conversionsIn before).length, c, ?_⟩
    rw [conversionsOf, hsegments]
    exact firstUnsuited_of_written h hno

/-! ### The error of a rendering -/

/-- With every conversion supplied, the template decides, and then the number of arguments. -/
theorem error?_of_allSupplied {template : Text} {args : List Arg}
    (h : AllSupplied (conversionsOf template) args) :
    (conversionsOf template).length ≤ args.length ∧
      (render template args).error? =
        match errorOf? template with
        | some error => some (.malformed error)
        | none =>
          if (conversionsOf template).length < args.length then
            some (.surplus (conversionsOf template).length args.length)
          else none := by
  obtain ⟨pieces, left, hwritten⟩ := allSupplied_iff_written.mp h
  obtain ⟨taken, hargs, hsuits⟩ := hwritten.take_drop
  have hlength : args.length = (conversionsOf template).length + left.length := by
    rw [hargs, List.length_append, ← hsuits.length_eq]
    rfl
  refine ⟨by omega, ?_⟩
  rw [render_of_written hwritten, Rendering.after_error?, hlength]
  cases errorOf? template with
  | some error => rfl
  | none => cases left <;> simp [Rendering.ofResults]

/-- A conversion without a suitable argument decides if it is the first one. -/
theorem error?_of_firstUnsuited {template : Text} {args : List Arg} {i : Nat}
    {conversion : Conversion} (h : FirstUnsuited (conversionsOf template) args i conversion) :
    (render template args).error? = some (match args[i]? with
      | none => .missing i conversion.argKind
      | some arg => .mismatch i conversion.argKind arg.kind) := by
  obtain ⟨before, more, pieces, left, hsegments, hwritten, rfl, hhead⟩ := h.written
  have hno : ∀ arg, left.head? = some arg → ¬ conversion.Suits arg :=
    fun arg harg => h.unsuited arg (hhead ▸ harg)
  rw [render_of_unsuited hsegments hwritten hno, hhead]

/-- What decides a rendering: the failure that comes first, or that there is none. -/
inductive Decided (template : Text) (args : List Arg) : Option RenderError → Prop where
  | malformed {error : ParseError} (herror : errorOf? template = some error)
      (hall : AllSupplied (conversionsOf template) args) :
      Decided template args (some (.malformed error))
  | missing {i : Nat} {conversion : Conversion}
      (hfirst : FirstUnsuited (conversionsOf template) args i conversion)
      (hargs : args[i]? = none) : Decided template args (some (.missing i conversion.argKind))
  | mismatch {i : Nat} {conversion : Conversion} {arg : Arg}
      (hfirst : FirstUnsuited (conversionsOf template) args i conversion)
      (hargs : args[i]? = some arg) :
      Decided template args (some (.mismatch i conversion.argKind arg.kind))
  | surplus (herror : errorOf? template = none) (hall : AllSupplied (conversionsOf template) args)
      (hlt : (conversionsOf template).length < args.length) :
      Decided template args (some (.surplus (conversionsOf template).length args.length))
  | complete (herror : errorOf? template = none)
      (hall : AllSupplied (conversionsOf template) args)
      (hlength : args.length = (conversionsOf template).length) : Decided template args none

/-- **A rendering fails with what decides it.** -/
theorem error?_eq_iff_decided {template : Text} {args : List Arg} {error? : Option RenderError} :
    (render template args).error? = error? ↔ Decided template args error? := by
  constructor
  · rintro rfl
    rcases allSupplied_or_firstUnsuited template args with hall | ⟨i, c, hfirst⟩
    · obtain ⟨hle, herror?⟩ := error?_of_allSupplied hall
      rw [herror?]
      cases herror : errorOf? template with
      | some error => exact .malformed herror hall
      | none =>
        by_cases hlt : (conversionsOf template).length < args.length
        · rw [if_pos hlt]
          exact .surplus herror hall hlt
        · rw [if_neg hlt]
          exact .complete herror hall (by omega)
    · rw [error?_of_firstUnsuited hfirst]
      cases hargs : args[i]? with
      | none => exact .missing hfirst hargs
      | some arg => exact .mismatch hfirst hargs
  · intro h
    cases h with
    | malformed herror hall => rw [(error?_of_allSupplied hall).2, herror]
    | missing hfirst hargs => rw [error?_of_firstUnsuited hfirst, hargs]
    | mismatch hfirst hargs => rw [error?_of_firstUnsuited hfirst, hargs]
    | surplus herror hall hlt =>
      rw [(error?_of_allSupplied hall).2, herror]
      exact if_pos hlt
    | complete herror hall hlength =>
      rw [(error?_of_allSupplied hall).2, herror]
      exact if_neg (by omega)

/-! ### The bytes of a full rendering -/

/-- The number of the argument that segment `k` takes if it is a conversion: how many conversions
stand before it. -/
def argumentIndex (segments : List Segment) (k : Nat) : Nat :=
  (conversionsIn (segments.take k)).length

/-- The bytes of a segment: a literal's own, or a conversion's of the argument it takes. -/
def Segment.bytes? (arg? : Option Arg) : Segment → Option Bytes
  | .literal text => some (Text.utf8 text)
  | .conversion c => arg?.bind c.render?

/-- Piece `k` of a written part is what segment `k` makes of its own argument. -/
theorem Written.piece {segments : List Segment} {args left : List Arg} {pieces : List Bytes}
    (h : Written segments args pieces left) (k : Nat) :
    pieces[k]? = segments[k]?.bind (Segment.bytes? args[argumentIndex segments k]?) := by
  induction h generalizing k with
  | nil args => rfl
  | literal text t ih =>
    cases k with
    | zero => rfl
    | succ k => exact ih k
  | conversion h t ih =>
    cases k with
    | zero => exact h.symm
    | succ k =>
      have hindex := ih k
      simpa [argumentIndex] using hindex

theorem Written.length_pieces {segments : List Segment} {args left : List Arg}
    {pieces : List Bytes} (h : Written segments args pieces left) :
    pieces.length = segments.length := by
  induction h with
  | nil args => rfl
  | literal text t ih => simp [ih]
  | conversion h t ih => simp [ih]

/-- The result is the error, or else the number of bytes written. -/
theorem Rendering.result_eq_error_iff {rendering : Rendering} {error : RenderError} :
    rendering.result = .error error ↔ rendering.error? = some error := by
  rw [result]
  cases rendering.error? <;> simp

theorem Rendering.result_eq_ok_iff {rendering : Rendering} {length : Nat} :
    rendering.result = .ok length ↔
      rendering.error? = none ∧ length = rendering.output.length := by
  rw [result]
  cases rendering.error? <;> simp [eq_comm]

/-- A template that parses and is supplied has been written in full, whether or not there are
arguments left. -/
theorem output_of_allSupplied {template : Text} {args : List Arg} {parsed : Template}
    (hparsed : Template.parse template = .ok parsed)
    (hall : AllSupplied parsed.conversions args) :
    ∃ pieces : List Bytes, (render template args).output = pieces.flatten ∧
      pieces.length = parsed.segments.length ∧
      ∀ k < pieces.length, ∃ segment, parsed.segments[k]? = some segment ∧
        segment.bytes? args[argumentIndex parsed.segments k]? = pieces[k]? := by
  obtain ⟨herror, rfl⟩ : errorOf? template = none ∧ ⟨template, segmentsOf template⟩ = parsed := by
    rw [Template.parse_eq] at hparsed
    cases herror : errorOf? template with
    | none => simpa [herror] using hparsed
    | some error => simp [herror] at hparsed
  obtain ⟨pieces, left, hwritten⟩ := allSupplied_iff_written.mp hall
  refine ⟨pieces, output_of_written hwritten, hwritten.length_pieces, fun k hk => ?_⟩
  have hk' : k < (segmentsOf template).length := hwritten.length_pieces ▸ hk
  refine ⟨(segmentsOf template)[k], List.getElem?_eq_getElem hk', ?_⟩
  rw [hwritten.piece k, List.getElem?_eq_getElem hk', Option.bind_some]

/-- **The first failure decides.**  A rendering fails with the error its reader ends in if every
conversion before it is supplied, with the first conversion that is not supplied whether or not
the template is malformed further on, and with a surplus of arguments only if the whole template
parses and is supplied; otherwise it gives the number of bytes written.  What a template that is
rendered in full has written is the bytes of its segments, each made of its own argument. -/
theorem render_decided_by_first_failure (template : Text) (args : List Arg) :
    (∀ error, (render template args).result = .error (.malformed error) ↔
      errorOf? template = some error ∧ AllSupplied (conversionsOf template) args) ∧
    (∀ i expected, (render template args).result = .error (.missing i expected) ↔
      ∃ conversion, FirstUnsuited (conversionsOf template) args i conversion ∧
        args[i]? = none ∧ conversion.argKind = expected) ∧
    (∀ i expected found, (render template args).result = .error (.mismatch i expected found) ↔
      ∃ conversion arg, FirstUnsuited (conversionsOf template) args i conversion ∧
        args[i]? = some arg ∧ conversion.argKind = expected ∧ arg.kind = found) ∧
    (∀ expected supplied, (render template args).result = .error (.surplus expected supplied) ↔
      ∃ parsed, Template.parse template = .ok parsed ∧ AllSupplied parsed.conversions args ∧
        parsed.conversions.length = expected ∧ args.length = supplied ∧ expected < supplied) ∧
    (∀ length, (render template args).result = .ok length ↔
      (∃ parsed, Template.parse template = .ok parsed ∧ AllSupplied parsed.conversions args ∧
        args.length = parsed.conversions.length) ∧
      length = (render template args).output.length) ∧
    (((∃ length, (render template args).result = .ok length) ∨
        ∃ expected supplied,
          (render template args).result = .error (.surplus expected supplied)) →
      ∃ (parsed : Template) (pieces : List Bytes), Template.parse template = .ok parsed ∧
        (render template args).output = pieces.flatten ∧
        pieces.length = parsed.segments.length ∧
        ∀ k < pieces.length, ∃ segment, parsed.segments[k]? = some segment ∧
          segment.bytes? args[argumentIndex parsed.segments k]? = pieces[k]?) := by
  have hconversions : (⟨template, segmentsOf template⟩ : Template).conversions =
      conversionsOf template := rfl
  have hsurplus : ∀ expected supplied,
      (render template args).result = .error (.surplus expected supplied) ↔
      ∃ parsed, Template.parse template = .ok parsed ∧ AllSupplied parsed.conversions args ∧
        parsed.conversions.length = expected ∧ args.length = supplied ∧
        expected < supplied := fun expected supplied => by
    rw [Rendering.result_eq_error_iff, error?_eq_iff_decided, Template.exists_parse_iff,
      hconversions]
    constructor
    · intro h
      cases h with
      | surplus herror hall hlt => exact ⟨herror, hall, rfl, rfl, hlt⟩
    · rintro ⟨herror, hall, rfl, rfl, hlt⟩
      exact .surplus herror hall hlt
  have hok : ∀ length, (render template args).result = .ok length ↔
      (∃ parsed, Template.parse template = .ok parsed ∧ AllSupplied parsed.conversions args ∧
        args.length = parsed.conversions.length) ∧
      length = (render template args).output.length := fun length => by
    rw [Rendering.result_eq_ok_iff, error?_eq_iff_decided, Template.exists_parse_iff,
      hconversions]
    refine and_congr_left fun _ => ?_
    constructor
    · intro h
      cases h with
      | complete herror hall hlength => exact ⟨herror, hall, hlength⟩
    · rintro ⟨herror, hall, hlength⟩
      exact .complete herror hall hlength
  refine ⟨fun error => ?_, fun i expected => ?_, fun i expected found => ?_, hsurplus, hok,
    fun hfull => ?_⟩
  · rw [Rendering.result_eq_error_iff, error?_eq_iff_decided]
    constructor
    · intro h
      cases h with
      | malformed herror hall => exact ⟨herror, hall⟩
    · rintro ⟨herror, hall⟩
      exact .malformed herror hall
  · rw [Rendering.result_eq_error_iff, error?_eq_iff_decided]
    constructor
    · intro h
      cases h with
      | missing hfirst hargs => exact ⟨_, hfirst, hargs, rfl⟩
    · rintro ⟨conversion, hfirst, hargs, rfl⟩
      exact .missing hfirst hargs
  · rw [Rendering.result_eq_error_iff, error?_eq_iff_decided]
    constructor
    · intro h
      cases h with
      | mismatch hfirst hargs => exact ⟨_, _, hfirst, hargs, rfl, rfl⟩
    · rintro ⟨conversion, arg, hfirst, hargs, rfl, rfl⟩
      exact .mismatch hfirst hargs
  · obtain ⟨parsed, hparsed, hall⟩ : ∃ parsed, Template.parse template = .ok parsed ∧
        AllSupplied parsed.conversions args := by
      rcases hfull with ⟨length, h⟩ | ⟨expected, supplied, h⟩
      · obtain ⟨⟨parsed, hparsed, hall, -⟩, -⟩ := (hok length).mp h
        exact ⟨parsed, hparsed, hall⟩
      · obtain ⟨parsed, hparsed, hall, -⟩ := (hsurplus expected supplied).mp h
        exact ⟨parsed, hparsed, hall⟩
    obtain ⟨pieces, hpieces⟩ := output_of_allSupplied hparsed hall
    exact ⟨parsed, pieces, hparsed, hpieces⟩

end DriverPrintf
