import DriverPrintf.Proofs.Template.Accepts
import DriverPrintf.Proofs.Template.Reading

/-!
# Template — the grammar

A template is a sequence of pieces: runs of text without `%`, the escape `%%`, and
specifications.  A specification is `%`, a flag if there is one, the digits of a width if there is
one, and a tail that names the conversion.  A `Piece` is a piece as it is written, with
`Piece.spelling` its text and `Piece.segment` what it stands for; `Piece.WellFormed` states what
the grammar asks of it beyond its form.  `Derives text pieces` says that `text` is spelled by
well-formed pieces of which each run is maximal.

* **The scanner accepts the grammar** (`scan_eq_ok_iff`): the next segment of a text is that of the
  piece its front spells.
* **Parsing is deriving** (`parse_eq_ok_iff_derives`): a template parses exactly when it can be
  derived, into the segments of the pieces, and in one way only.

The proof of uniqueness reads the spelling back: where two pieces spell one text, each scanner
finds the same flag, the same digits and the same tail in both.
-/

namespace DriverPrintf

open Text (Ends)

/-! ### Pieces and their spelling -/

/-- The flag that chooses a padding; none stands for spaces before. -/
def Padding.flag : Padding → Text
  | .spacesBefore => []
  | .zeros => ['0']
  | .spacesAfter => ['-']

/-- The letter of a size; a word has none. -/
def IntegerSize.letter : IntegerSize → Text
  | .word => []
  | .half => ['h']
  | .byte => ['b']

/-- The letter of a style. -/
def IntegerStyle.letter : IntegerStyle → Char
  | .signed => 'd'
  | .unsigned => 'u'
  | .hex .lower => 'x'
  | .hex .upper => 'X'

/-- The end of a specification, which names its conversion. -/
inductive Tail where
  | integer (size : IntegerSize) (style : IntegerStyle)
  | string
  | char
  | pointer (letters : LetterCase)
  | busAddress (letters : LetterCase)
  | bitset (body : Text) (descriptor : Bitset)

namespace Tail

def spelling : Tail → Text
  | .integer size style => size.letter ++ [style.letter]
  | .string => ['s']
  | .char => ['c']
  | .pointer .lower => ['p']
  | .pointer .upper => ['P']
  | .busAddress .lower => ['a']
  | .busAddress .upper => ['A']
  | .bitset body _ => '<' :: body ++ ['>']

/-- The conversion a tail names.  Only integers and strings make use of the layout. -/
def conversion (layout : FieldLayout) : Tail → Conversion
  | .integer size style => .integer layout size style
  | .string => .string layout
  | .char => .char
  | .pointer letters => .pointer letters
  | .busAddress letters => .busAddress letters
  | .bitset _ descriptor => .bitset descriptor

/-- The body of a bitset has no `>` and parses to its descriptor. -/
def WellFormed : Tail → Prop
  | .bitset body descriptor => '>' ∉ body ∧ Bitset.parse body 0 = .ok descriptor
  | _ => True

end Tail

/-- A piece of a template as it is written.  A specification without a width has no digits in its
place. -/
inductive Piece where
  | run (text : Text)
  | percent
  | specification (padding : Padding) (width : Text) (tail : Tail)

namespace Piece

def spelling : Piece → Text
  | .run text => text
  | .percent => ['%', '%']
  | .specification padding width tail => '%' :: padding.flag ++ width ++ tail.spelling

/-- The segment a piece stands for. -/
def segment : Piece → Segment
  | .run text => .literal text
  | .percent => .literal ['%']
  | .specification padding width tail =>
    .conversion (tail.conversion ⟨padding, Text.value 10 width⟩)

/-- A run is not empty and has no `%`.  A width is a number, and does not begin with a `0` right
after the `%`, where a `0` is the flag. -/
def WellFormed : Piece → Prop
  | .run text => text ≠ [] ∧ '%' ∉ text
  | .percent => True
  | .specification padding width tail =>
    (width = [] ∨ Text.IsNumber width) ∧
      (padding = .spacesBefore → width.head? ≠ some '0') ∧ tail.WellFormed

def IsRun : Piece → Prop
  | .run _ => True
  | _ => False

end Piece

/-- `text` is spelled by well-formed pieces, and each run among them is maximal. -/
inductive Derives : Text → List Piece → Prop where
  | nil : Derives [] []
  | cons {piece : Piece} {pieces : List Piece} {rest : Text} (h : piece.WellFormed)
      (hmax : piece.IsRun → Ends (· != '%') rest) (t : Derives rest pieces) :
      Derives (piece.spelling ++ rest) (piece :: pieces)

/-! ### What the scanners of a segment accept -/

open Scan

theorem Bitset.parse_eq_ok_iff {body : Text} {offset : Nat} {bitset : Bitset} :
    Bitset.parse body offset = .ok bitset ↔
      ∃ left, Bitset.descriptor body = .ok bitset left := by
  rw [parse]
  cases descriptor body <;> simp

theorem IntegerStyle.ofLetter?_eq_some_iff {c : Char} {style : IntegerStyle} :
    ofLetter? c = some style ↔ c = style.letter := by
  constructor
  · intro h
    unfold ofLetter? at h
    split at h <;> cases h <;> rfl
  · rintro rfl
    cases style with
    | signed | unsigned => rfl
    | hex letters => cases letters <;> rfl

/-- A tail begins with a character that cannot be part of what stands before it. -/
theorem Tail.exists_cons (tail : Tail) :
    ∃ c more, tail.spelling = c :: more ∧ Text.isDigit 10 c = false ∧ c ≠ '-' ∧ c ≠ '%' := by
  cases tail with
  | integer size style =>
    cases size with
    | half | byte => exact ⟨_, _, rfl, by decide, by decide, by decide⟩
    | word =>
      refine ⟨style.letter, [], rfl, ?_⟩
      cases style with
      | signed | unsigned => decide
      | hex letters => cases letters <;> decide
  | string | char | bitset => exact ⟨_, _, rfl, by decide, by decide, by decide⟩
  | pointer letters | busAddress letters =>
    cases letters <;> exact ⟨_, _, rfl, by decide, by decide, by decide⟩

namespace Segment

theorem padding_eq_ok_iff {text rest : Text} {p : Padding} :
    padding text = .ok p rest ↔
      text = p.flag ++ rest ∧
        (p = .spacesBefore → Ends (· == '0') rest ∧ Ends (· == '-') rest) := by
  rw [padding, bind_eq_ok_iff]
  constructor
  · rintro ⟨zero, mid, hzero, h⟩
    cases zero with
    | true =>
      obtain rfl := skipChar?_eq_true_iff.mp hzero
      obtain ⟨rfl, rfl⟩ := pure_eq_ok_iff.mp h
      exact ⟨rfl, by simp⟩
    | false =>
      obtain ⟨rfl, hzero⟩ := skipChar?_eq_false_iff.mp hzero
      obtain ⟨hyphen, mid, hhyphen, h⟩ := bind_eq_ok_iff.mp h
      cases hyphen with
      | true =>
        obtain rfl := skipChar?_eq_true_iff.mp hhyphen
        obtain ⟨rfl, rfl⟩ := pure_eq_ok_iff.mp h
        exact ⟨rfl, by simp⟩
      | false =>
        obtain ⟨rfl, hhyphen⟩ := skipChar?_eq_false_iff.mp hhyphen
        obtain ⟨rfl, rfl⟩ := pure_eq_ok_iff.mp h
        exact ⟨rfl, fun _ => ⟨hzero, hhyphen⟩⟩
  · rintro ⟨rfl, hends⟩
    cases p with
    | zeros => exact ⟨true, rest, skipChar?_eq_true_iff.mpr rfl, rfl⟩
    | spacesAfter =>
      exact ⟨false, _, skipChar?_eq_false_iff.mpr ⟨rfl, by simp [Padding.flag]⟩,
        bind_eq_ok_iff.mpr ⟨true, rest, skipChar?_eq_true_iff.mpr rfl, rfl⟩⟩
    | spacesBefore =>
      obtain ⟨hzero, hhyphen⟩ := hends rfl
      exact ⟨false, rest, skipChar?_eq_false_iff.mpr ⟨rfl, hzero⟩,
        bind_eq_ok_iff.mpr ⟨false, rest, skipChar?_eq_false_iff.mpr ⟨rfl, hhyphen⟩, rfl⟩⟩

theorem width_eq_ok_iff {text rest : Text} {w : Nat} :
    width text = .ok w rest ↔
      ∃ digits, (digits = [] ∨ Text.IsNumber digits) ∧ text = digits ++ rest ∧
        Ends (Text.isDigit 10) rest ∧ w = Text.value 10 digits := by
  have htoNat : ∀ {digits : Text}, Text.IsNumber digits →
      (UInt32.ofNat (Text.value 10 digits)).toNat = Text.value 10 digits :=
    fun h => UInt32.toNat_ofNat_of_lt' h.fits
  rw [width, bind_eq_ok_iff]
  constructor
  · rintro ⟨digit, mid, hdigit, h⟩
    obtain ⟨rfl, rfl⟩ := isAtDigit_eq_ok_iff.mp hdigit
    cases hhead : text.head?.any (Text.isDigit 10) with
    | true =>
      rw [hhead] at h
      obtain ⟨n, mid, hn, h⟩ := bind_eq_ok_iff.mp h
      obtain ⟨rfl, rfl⟩ := pure_eq_ok_iff.mp h
      obtain ⟨digits, htext, hdigits, hends, rfl⟩ := number_eq_ok_iff.mp hn
      exact ⟨digits, .inr hdigits, htext, hends, htoNat hdigits⟩
    | false =>
      rw [hhead] at h
      obtain ⟨rfl, rfl⟩ := pure_eq_ok_iff.mp h
      refine ⟨[], .inl rfl, rfl, fun c hc => ?_, rfl⟩
      simpa [hc] using hhead
  · rintro ⟨digits, hdigits, rfl, hends, rfl⟩
    refine ⟨_, _, isAtDigit_eq_ok_iff.mpr ⟨rfl, rfl⟩, ?_⟩
    -- whether there is a width shows in the first character
    cases digits with
    | nil =>
      have hhead : rest.head?.any (Text.isDigit 10) = false := by
        cases rest with
        | nil => rfl
        | cons c rest => simpa using hends
      rw [List.nil_append, hhead]
      rfl
    | cons d digits =>
      have hnumber : Text.IsNumber (d :: digits) := hdigits.resolve_left (by simp)
      have hhead : ((d :: digits) ++ rest).head?.any (Text.isDigit 10) = true :=
        hnumber.digit d List.mem_cons_self
      rw [hhead]
      exact bind_eq_ok_iff.mpr ⟨_, _, number_eq_ok_iff.mpr ⟨_, rfl, hnumber, hends, rfl⟩,
        pure_eq_ok_iff.mpr ⟨(htoNat hnumber).symm, rfl⟩⟩

theorem integer_eq_ok_iff {layout : FieldLayout} {size : IntegerSize} {text rest : Text}
    {c : Conversion} :
    integer layout size text = .ok (some c) rest ↔
      ∃ style : IntegerStyle, text = style.letter :: rest ∧ c = .integer layout size style := by
  rw [integer, bind_eq_ok_iff]
  constructor
  · rintro ⟨letter, mid, hany, h⟩
    obtain rfl := any_eq_ok_iff.mp hany
    obtain ⟨hc, rfl⟩ := pure_eq_ok_iff.mp h
    obtain ⟨style, hstyle, rfl⟩ := Option.map_eq_some_iff.mp hc.symm
    exact ⟨style, by rw [IntegerStyle.ofLetter?_eq_some_iff.mp hstyle], rfl⟩
  · rintro ⟨style, rfl, rfl⟩
    refine ⟨_, _, any_eq_ok_iff.mpr rfl, pure_eq_ok_iff.mpr ⟨?_, rfl⟩⟩
    rw [IntegerStyle.ofLetter?_eq_some_iff.mpr rfl]
    rfl

theorem conversionAfter_eq_ok_iff {layout : FieldLayout} {text rest : Text} {c : Conversion} :
    conversionAfter layout text = .ok (some c) rest ↔
      ∃ tail : Tail, tail.WellFormed ∧ text = tail.spelling ++ rest ∧
        c = tail.conversion layout := by
  rw [conversionAfter, bind_eq_ok_iff]
  constructor
  · rintro ⟨letter, mid, hany, h⟩
    obtain rfl := any_eq_ok_iff.mp hany
    -- a tail of one letter is read with the letter
    have hletter : ∀ {letter : Char} (tail : Tail), tail.WellFormed → tail.spelling = [letter] →
        (pure (some (tail.conversion layout)) : Scan (Option Conversion)) mid =
          .ok (some c) rest →
        ∃ tail : Tail, tail.WellFormed ∧ letter :: mid = tail.spelling ++ rest ∧
          c = tail.conversion layout := fun tail hwf hspelling hpure => by
      obtain ⟨hc, rfl⟩ := pure_eq_ok_iff.mp hpure
      exact ⟨tail, hwf, by rw [hspelling]; rfl, Option.some.inj hc⟩
    split at h
    · obtain ⟨style, rfl, rfl⟩ := integer_eq_ok_iff.mp h
      exact ⟨.integer .half style, trivial, rfl, rfl⟩
    · obtain ⟨style, rfl, rfl⟩ := integer_eq_ok_iff.mp h
      exact ⟨.integer .byte style, trivial, rfl, rfl⟩
    · exact hletter .string trivial rfl h
    · exact hletter .char trivial rfl h
    · exact hletter (.pointer .lower) trivial rfl h
    · exact hletter (.pointer .upper) trivial rfl h
    · exact hletter (.busAddress .lower) trivial rfl h
    · exact hletter (.busAddress .upper) trivial rfl h
    · obtain ⟨descriptor, mid, hbody, h⟩ := bind_eq_ok_iff.mp h
      obtain ⟨hc, rfl⟩ := pure_eq_ok_iff.mp h
      obtain ⟨body, left, rfl, hclose, hparse⟩ := enclosed_eq_ok_iff.mp hbody
      refine ⟨.bitset body descriptor, ⟨hclose, Bitset.parse_eq_ok_iff.mpr ⟨left, hparse⟩⟩, ?_,
        Option.some.inj hc⟩
      simp [Tail.spelling]
    · obtain ⟨hc, rfl⟩ := pure_eq_ok_iff.mp h
      obtain ⟨style, hstyle, rfl⟩ := Option.map_eq_some_iff.mp hc.symm
      refine ⟨.integer .word style, trivial, ?_, rfl⟩
      rw [IntegerStyle.ofLetter?_eq_some_iff.mp hstyle]
      rfl
  · rintro ⟨tail, hwf, rfl, rfl⟩
    cases tail with
    | integer size style =>
      cases size with
      | word =>
        refine ⟨_, _, any_eq_ok_iff.mpr rfl, ?_⟩
        cases style with
        | signed | unsigned => rfl
        | hex letters => cases letters <;> rfl
      | half | byte =>
        exact ⟨_, _, any_eq_ok_iff.mpr rfl, integer_eq_ok_iff.mpr ⟨style, rfl, rfl⟩⟩
    | string | char => exact ⟨_, _, any_eq_ok_iff.mpr rfl, rfl⟩
    | pointer letters | busAddress letters =>
      cases letters <;> exact ⟨_, _, any_eq_ok_iff.mpr rfl, rfl⟩
    | bitset body descriptor =>
      obtain ⟨hclose, hparse⟩ := hwf
      obtain ⟨left, hparse⟩ := Bitset.parse_eq_ok_iff.mp hparse
      refine ⟨'<', body ++ '>' :: rest, any_eq_ok_iff.mpr (by simp [Tail.spelling]), ?_⟩
      exact bind_eq_ok_iff.mpr ⟨descriptor, rest,
        enclosed_eq_ok_iff.mpr ⟨body, left, rfl, hclose, hparse⟩, rfl⟩

/-- No tail extends a run of digits before it. -/
theorem ends_digit_tail (tail : Tail) (rest : Text) :
    Ends (Text.isDigit 10) (tail.spelling ++ rest) := by
  obtain ⟨c, more, hspelling, hdigit, -⟩ := tail.exists_cons
  rw [hspelling]
  exact (Text.ends_cons _ _ _).mpr hdigit

/-- What a width and a tail begin with, once it is known what neither of them can. -/
theorem ends_width_tail {width : Text} (hwidth : width = [] ∨ Text.IsNumber width) (tail : Tail)
    (rest : Text) {c : Char} (hhead : width.head? ≠ some c)
    (htail : Text.isDigit 10 c = true ∨ c = '-' ∨ c = '%') :
    Ends (· == c) (width ++ (tail.spelling ++ rest)) := by
  cases width with
  | nil =>
    obtain ⟨d, more, hspelling, hdigit, hhyphen, hpercent⟩ := tail.exists_cons
    rw [hspelling, List.nil_append, List.cons_append, Text.ends_cons]
    rcases htail with hc | rfl | rfl
    · exact beq_eq_false_iff_ne.mpr fun e => by simp [← e, hdigit] at hc
    · exact beq_eq_false_iff_ne.mpr hhyphen
    · exact beq_eq_false_iff_ne.mpr hpercent
  | cons d width =>
    rw [List.cons_append, Text.ends_cons]
    exact beq_eq_false_iff_ne.mpr fun e => hhead (by rw [List.head?_cons, e])

theorem digit_of_mem_width {width : Text} (hwidth : width = [] ∨ Text.IsNumber width) {c : Char}
    (hc : c ∈ width) : Text.isDigit 10 c = true := by
  rcases hwidth with rfl | hnumber
  · cases hc
  · exact hnumber.digit c hc

/-- A width begins with a digit if it begins at all. -/
theorem width_head?_ne {width : Text} (hwidth : width = [] ∨ Text.IsNumber width) {c : Char}
    (hc : Text.isDigit 10 c = false) : width.head? ≠ some c := fun hhead => by
  rw [digit_of_mem_width hwidth (List.mem_of_head? hhead)] at hc
  cases hc

/-- After the `%` of a specification there is no second one. -/
theorem ends_percent {padding : Padding} {width : Text}
    (hwidth : width = [] ∨ Text.IsNumber width) (tail : Tail) (rest : Text) :
    Ends (· == '%') (padding.flag ++ (width ++ (tail.spelling ++ rest))) := by
  cases padding with
  | zeros | spacesAfter => exact (Text.ends_cons _ _ _).mpr (by decide)
  | spacesBefore =>
    exact ends_width_tail hwidth tail rest (width_head?_ne hwidth (by decide)) (by simp)

/-- The flag, the width and the tail of a specification are found in its spelling. -/
theorem padding_width_eq_ok {padding : Padding} {width : Text} {tail : Tail}
    (h : (Piece.specification padding width tail).WellFormed) (rest : Text) :
    Segment.padding (padding.flag ++ (width ++ (tail.spelling ++ rest))) =
        .ok padding (width ++ (tail.spelling ++ rest)) ∧
      Segment.width (width ++ (tail.spelling ++ rest)) =
        .ok (Text.value 10 width) (tail.spelling ++ rest) := by
  obtain ⟨hwidth, hzero, htail⟩ := h
  refine ⟨padding_eq_ok_iff.mpr ⟨rfl, fun hnone => ⟨?_, ?_⟩⟩,
    width_eq_ok_iff.mpr ⟨width, hwidth, rfl, ends_digit_tail tail rest, rfl⟩⟩
  · exact ends_width_tail hwidth tail rest (hzero hnone) (.inl (by decide))
  · exact ends_width_tail hwidth tail rest (width_head?_ne hwidth (by decide)) (by simp)

theorem specification?_eq_ok_iff {text rest : Text} {segment : Segment} :
    specification? text = .ok (some segment) rest ↔
      ∃ piece : Piece, piece.WellFormed ∧ ¬ piece.IsRun ∧ text = piece.spelling ++ rest ∧
        segment = piece.segment := by
  rw [specification?, bind_eq_ok_iff]
  constructor
  · rintro ⟨⟨⟩, mid, hpercent, h⟩
    obtain rfl := skipChar_eq_ok_iff.mp hpercent
    obtain ⟨second, after, hsecond, h⟩ := bind_eq_ok_iff.mp h
    cases second with
    | true =>
      obtain rfl := skipChar?_eq_true_iff.mp hsecond
      obtain ⟨hsegment, rfl⟩ := pure_eq_ok_iff.mp h
      exact ⟨.percent, trivial, not_false, rfl, Option.some.inj hsegment⟩
    | false =>
      obtain ⟨rfl, -⟩ := skipChar?_eq_false_iff.mp hsecond
      obtain ⟨padding, afterFlag, hpadding, h⟩ := bind_eq_ok_iff.mp h
      obtain ⟨w, afterWidth, hw, h⟩ := bind_eq_ok_iff.mp h
      obtain ⟨c?, last, hc, h⟩ := bind_eq_ok_iff.mp h
      obtain ⟨hsegment, rfl⟩ := pure_eq_ok_iff.mp h
      obtain ⟨c, rfl, rfl⟩ := Option.map_eq_some_iff.mp hsegment.symm
      obtain ⟨rfl, hnone⟩ := padding_eq_ok_iff.mp hpadding
      obtain ⟨width, hwidth, rfl, -, rfl⟩ := width_eq_ok_iff.mp hw
      obtain ⟨tail, htail, rfl, rfl⟩ := conversionAfter_eq_ok_iff.mp hc
      refine ⟨.specification padding width tail, ⟨hwidth, fun hpad hhead => ?_, htail⟩, not_false,
        by simp [Piece.spelling], rfl⟩
      -- without a flag, the scanner has seen that no `0` follows the `%`
      obtain ⟨d, rfl⟩ : ∃ d, width = '0' :: d := by
        cases width with
        | nil => simp at hhead
        | cons c d => exact ⟨d, by simpa using hhead⟩
      have hzero := (hnone hpad).1
      simp at hzero
  · rintro ⟨piece, hwf, hrun, rfl, rfl⟩
    cases piece with
    | run text => exact absurd trivial hrun
    | percent =>
      exact ⟨(), _, skipChar_eq_ok_iff.mpr rfl,
        bind_eq_ok_iff.mpr ⟨true, rest, skipChar?_eq_true_iff.mpr rfl, rfl⟩⟩
    | specification padding width tail =>
      obtain ⟨hpadding, hwidth⟩ := padding_width_eq_ok hwf rest
      have hspelling : (Piece.specification padding width tail).spelling ++ rest =
          '%' :: (padding.flag ++ (width ++ (tail.spelling ++ rest))) := by
        simp [Piece.spelling]
      rw [hspelling]
      refine ⟨(), _, skipChar_eq_ok_iff.mpr rfl, bind_eq_ok_iff.mpr ⟨false, _,
        skipChar?_eq_false_iff.mpr ⟨rfl, ends_percent hwf.1 tail rest⟩, ?_⟩⟩
      refine bind_eq_ok_iff.mpr ⟨_, _, hpadding, bind_eq_ok_iff.mpr ⟨_, _, hwidth, ?_⟩⟩
      exact bind_eq_ok_iff.mpr
        ⟨_, rest, conversionAfter_eq_ok_iff.mpr ⟨tail, hwf.2.2, rfl, rfl⟩, rfl⟩

theorem specification_eq_ok_iff {text rest : Text} {segment : Segment} :
    specification text = .ok segment rest ↔
      ∃ piece : Piece, piece.WellFormed ∧ ¬ piece.IsRun ∧ text = piece.spelling ++ rest ∧
        segment = piece.segment := by
  rw [specification, checked_eq_ok_iff, ← specification?_eq_ok_iff]
  constructor
  · rintro ⟨segment?, hscan, hverdict⟩
    cases segment? with
    | none => cases hverdict
    | some s =>
      cases hverdict
      exact hscan
  · exact fun h => ⟨some segment, h, rfl⟩

/-- **The scanner accepts the grammar.**  The next segment of a text is that of a well-formed
piece that the text begins with, maximal if it is a run. -/
theorem scan_eq_ok_iff {text rest : Text} {segment : Segment} (hne : text ≠ []) :
    scan text = .ok segment rest ↔
      ∃ piece : Piece, piece.WellFormed ∧ (piece.IsRun → Ends (· != '%') rest) ∧
        text = piece.spelling ++ rest ∧ segment = piece.segment := by
  obtain ⟨c, more, rfl⟩ := List.exists_cons_of_ne_nil hne
  by_cases hc : c = '%'
  · subst hc
    rw [scan_percent, specification_eq_ok_iff]
    constructor
    · rintro ⟨piece, hwf, hrun, htext, hsegment⟩
      exact ⟨piece, hwf, fun h => absurd h hrun, htext, hsegment⟩
    · rintro ⟨piece, hwf, -, htext, hsegment⟩
      refine ⟨piece, hwf, fun hrun => ?_, htext, hsegment⟩
      -- a run has no `%`, and this text begins with one
      cases piece with
      | run text =>
        obtain ⟨d, text, rfl⟩ := List.exists_cons_of_ne_nil hwf.1
        obtain ⟨rfl, -⟩ := List.cons_eq_cons.mp htext
        exact hwf.2 List.mem_cons_self
      | percent | specification => exact hrun
  · rw [scan, if_neg (by simpa using hc), plainRun, bind_eq_ok_iff]
    constructor
    · rintro ⟨run, mid, hrun, h⟩
      obtain ⟨rfl, rfl⟩ := pure_eq_ok_iff.mp h
      obtain ⟨htext, hall, hends⟩ := textUntil_eq_ok_iff.mp hrun
      refine ⟨.run run, ⟨?_, fun hmem => by simpa using hall '%' hmem⟩, fun _ => ?_, htext, rfl⟩
      · rintro rfl
        obtain rfl : c :: more = mid := htext
        exact hc (by simpa using hends)
      · simpa [bne] using hends
    · rintro ⟨piece, hwf, hmax, htext, rfl⟩
      cases piece with
      | run run =>
        refine ⟨run, rest, textUntil_eq_ok_iff.mpr ⟨htext, fun d hd => ?_, ?_⟩, rfl⟩
        · exact beq_eq_false_iff_ne.mpr fun e => hwf.2 (e ▸ hd)
        · simpa [bne] using hmax trivial
      | percent => exact absurd (List.cons_eq_cons.mp htext).1 hc
      | specification padding width tail => exact absurd (List.cons_eq_cons.mp htext).1 hc

end Segment

/-! ### Derivations -/

theorem Piece.spelling_ne_nil {piece : Piece} (h : piece.WellFormed) : piece.spelling ≠ [] := by
  cases piece with
  | run text => exact h.1
  | percent => simp [spelling]
  | specification padding width tail => simp [spelling]

/-- What has been read of a text is a template on its own, with the same segments. -/
theorem Reads.exists_derives {text rest : Text} {segments : List Segment}
    (h : Reads text segments rest) :
    ∃ front pieces, text = front ++ rest ∧ Derives front pieces ∧
      segments = pieces.map Piece.segment := by
  induction h with
  | refl => exact ⟨[], [], rfl, .nil, rfl⟩
  | more hne hscan _ ih =>
    obtain ⟨piece, hwf, hmax, rfl, rfl⟩ := (Segment.scan_eq_ok_iff hne).mp hscan
    obtain ⟨front, pieces, rfl, hderives, rfl⟩ := ih
    refine ⟨piece.spelling ++ front, piece :: pieces, (List.append_assoc _ _ _).symm,
      .cons hwf (fun hrun => ?_) hderives, rfl⟩
    cases front with
    | nil => exact Text.ends_nil _
    | cons c front => exact (Text.ends_append_iff (by simp) rest).mp (hmax hrun)

/-- A template is read to its end exactly when it can be derived, into the segments derived. -/
theorem reads_iff_derives {text : Text} {segments : List Segment} :
    Reads text segments [] ↔
      ∃ pieces, Derives text pieces ∧ segments = pieces.map Piece.segment := by
  constructor
  · intro h
    obtain ⟨front, pieces, rfl, hderives, hsegments⟩ := h.exists_derives
    rw [List.append_nil]
    exact ⟨pieces, hderives, hsegments⟩
  · rintro ⟨pieces, h, rfl⟩
    induction h with
    | nil => exact .refl []
    | @cons piece pieces rest hwf hmax _ ih =>
      have hne : piece.spelling ++ rest ≠ [] := by simp [Piece.spelling_ne_nil hwf]
      exact .more hne ((Segment.scan_eq_ok_iff hne).mpr ⟨piece, hwf, hmax, rfl, rfl⟩) ih

/-- A piece is a template on its own. -/
theorem Piece.WellFormed.derives_alone {piece : Piece} (h : piece.WellFormed) :
    Derives piece.spelling [piece] := by
  have hcons := Derives.cons h (fun _ => Text.ends_nil _) .nil
  rwa [List.append_nil] at hcons

/-- What a text is derived from is what it parses to. -/
theorem Derives.parse_eq {text : Text} {pieces : List Piece} (h : Derives text pieces) :
    Template.parse text = .ok ⟨text, pieces.map Piece.segment⟩ :=
  Template.parse_eq_ok_iff.mpr ⟨rfl, reads_iff_derives.mpr ⟨pieces, h, rfl⟩⟩

/-- A derived text is read to its end. -/
theorem Derives.segmentsOf_eq {text : Text} {pieces : List Piece} (h : Derives text pieces) :
    segmentsOf text = pieces.map Piece.segment ∧ errorOf? text = none :=
  segmentsOf_errorOf?_of_reads (reads_iff_derives.mpr ⟨pieces, h, rfl⟩)

theorem Tail.eq_of_spelling {tail other : Tail} (h : tail.WellFormed) (h' : other.WellFormed)
    (heq : tail.spelling = other.spelling) : tail = other := by
  -- the scanner finds one conversion, which is that of both
  have hscan : ∀ {t : Tail}, t.WellFormed → t.spelling = tail.spelling →
      Segment.conversionAfter ⟨.zeros, 0⟩ tail.spelling =
        .ok (some (t.conversion ⟨.zeros, 0⟩)) [] := fun ht hspelling =>
    Segment.conversionAfter_eq_ok_iff.mpr ⟨_, ht, by rw [hspelling, List.append_nil], rfl⟩
  have hconversion := (hscan h rfl).symm.trans (hscan h' heq.symm)
  simp only [Result.ok.injEq, Option.some.injEq, and_true] at hconversion
  -- a conversion determines its tail, up to the body of a bitset, which the spelling gives
  cases tail <;> cases other <;> simp_all [conversion, spelling]

theorem Piece.specification_eq_of_spelling {padding padding' : Padding} {width width' : Text}
    {tail tail' : Tail} (h : (specification padding width tail).WellFormed)
    (h' : (specification padding' width' tail').WellFormed)
    (heq : (specification padding width tail).spelling =
      (specification padding' width' tail').spelling) :
    specification padding width tail = specification padding' width' tail' := by
  have hafter : padding.flag ++ (width ++ tail.spelling) =
      padding'.flag ++ (width' ++ tail'.spelling) := by
    simpa [spelling] using heq
  have hpadding := (Segment.padding_width_eq_ok h []).1
  have hpadding' := (Segment.padding_width_eq_ok h' []).1
  rw [List.append_nil] at hpadding hpadding'
  rw [hafter, hpadding', Result.ok.injEq] at hpadding
  obtain ⟨rfl, hwidth⟩ := hpadding
  have hends : ∀ t : Tail, Ends (Text.isDigit 10) t.spelling := fun t => by
    have hdigit := Segment.ends_digit_tail t []
    rwa [List.append_nil] at hdigit
  obtain ⟨rfl, htail⟩ := Text.run_unique hwidth
    (fun _ => Segment.digit_of_mem_width h'.1) (hends tail')
    (fun _ => Segment.digit_of_mem_width h.1) (hends tail)
  rw [Tail.eq_of_spelling h.2.2 h'.2.2 htail.symm]

theorem Piece.eq_of_spelling {piece other : Piece} (h : piece.WellFormed) (h' : other.WellFormed)
    (heq : piece.spelling = other.spelling) : piece = other := by
  have hrun : ∀ {text more : Text}, (Piece.run text).WellFormed → text ≠ '%' :: more :=
    fun hwf e => hwf.2 (e ▸ List.mem_cons_self)
  have hescape : ∀ {padding : Padding} {width : Text} {tail : Tail},
      (Piece.specification padding width tail).WellFormed →
        ['%', '%'] ≠ '%' :: padding.flag ++ width ++ tail.spelling :=
    fun {padding _ tail} hwf e => by
      have hends := @Segment.ends_percent padding _ hwf.1 tail []
      simp only [List.cons_append, List.cons.injEq, true_and, List.append_assoc] at e
      rw [List.append_nil, ← e] at hends
      simp at hends
  cases piece with
  | run text =>
    cases other with
    | run text' => exact congrArg Piece.run heq
    | percent => exact absurd heq (hrun h)
    | specification => exact absurd heq (hrun h)
  | percent =>
    cases other with
    | run text' => exact absurd heq.symm (hrun h')
    | percent => rfl
    | specification => exact absurd heq (hescape h')
  | specification padding width tail =>
    cases other with
    | run text' => exact absurd heq.symm (hrun h')
    | percent => exact absurd heq.symm (hescape h)
    | specification => exact specification_eq_of_spelling h h' heq

/-- **Unambiguity.**  A text is derived in one way only. -/
theorem Derives.unique {text : Text} {pieces others : List Piece} (h : Derives text pieces)
    (h' : Derives text others) : pieces = others := by
  induction h generalizing others with
  | nil =>
    generalize hend : ([] : Text) = text at h'
    cases h' with
    | nil => rfl
    | cons hwf _ _ =>
      exact absurd (List.append_eq_nil_iff.mp hend.symm).1 (Piece.spelling_ne_nil hwf)
  | @cons piece pieces rest hwf hmax _ ih =>
    generalize htext : piece.spelling ++ rest = text at h'
    have hne : piece.spelling ++ rest ≠ [] := by simp [Piece.spelling_ne_nil hwf]
    cases h' with
    | nil => exact absurd htext hne
    | @cons other others rest' hwf' hmax' t' =>
      -- both pieces are scanned off the same text, so they leave the same rest
      have hscan := (Segment.scan_eq_ok_iff hne).mpr ⟨piece, hwf, hmax, rfl, rfl⟩
      have hscan' := (Segment.scan_eq_ok_iff hne).mpr ⟨other, hwf', hmax', htext, rfl⟩
      rw [hscan, Result.ok.injEq] at hscan'
      obtain ⟨-, rfl⟩ := hscan'
      rw [Piece.eq_of_spelling hwf hwf' (List.append_cancel_right htext), ih t']

/-- **Parsing is deriving.**  A template parses exactly when it can be derived from the grammar;
it can be derived in one way only, and its segments are those of the pieces, in order. -/
theorem parse_eq_ok_iff_derives (source : Text) :
    (∀ template, Template.parse source = .ok template ↔
      ∃ pieces, Derives source pieces ∧ template = ⟨source, pieces.map Piece.segment⟩) ∧
    ∀ pieces others, Derives source pieces → Derives source others → pieces = others := by
  refine ⟨fun template => ?_, fun pieces others h h' => h.unique h'⟩
  rw [Template.parse_eq_ok_iff, reads_iff_derives]
  constructor
  · rintro ⟨rfl, pieces, hderives, hsegments⟩
    exact ⟨pieces, hderives, by rw [← hsegments]⟩
  · rintro ⟨pieces, hderives, rfl⟩
    exact ⟨rfl, pieces, hderives, rfl⟩

end DriverPrintf
