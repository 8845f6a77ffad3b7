import DriverPrintf.Proofs.Template.Descriptor
import DriverPrintf.Proofs.Template.Faults

/-!
# Template — what an error says

A malformed template is reported with an offset and a cause.  What the cause says is mostly about
the text from the offset on (`Fits`), but three errors also speak of what stands before it:

* in the body of a bitset the text ends at the `>`, which is where the missing text is reported
  although the template goes on;
* a range that runs backwards is reported at its second bit, and tells the first one too
  (`Backward`);
* a conversion that does not exist is reported at its `%`, with the text up to the character that
  no specification has there (`Begins`).

`Describes` puts them together.  A fault in a body is first found in the body on its own
(`descriptor_eq_error`) and then moved to where the body stands.

* **An error describes its template** (`error_describes_template`): what stands before the
  malformed segment parses, the offset is that of a place in the segment, and what the cause says
  about this place is true.
-/

namespace DriverPrintf

open Text (Ends)
open Scan

/-! ### Faults of a descriptor -/

namespace Bitset

theorem honest_bitIndex : Honest bitIndex := by
  refine honest_number.checked fun {text bit rest cause} hnumber hverdict => ?_
  obtain ⟨digits, rfl, hdigits, hends, rfl⟩ := number_eq_ok_iff.mp hnumber
  split at hverdict
  · cases hverdict
  · rename_i hbit
    obtain rfl := Except.error.inj hverdict
    rw [UInt32.lt_iff_toNat_lt, Nat.not_lt] at hbit
    exact .noSuchBit hdigits hends (UInt32.toNat_ofNat_of_lt' hdigits.fits) hbit

theorem honest_labels : Honest labels :=
  Honest.many (honest_skipChar? ':') <|
    honest_number.bind fun _ => honest_skipChar_sign.bind fun _ =>
      (honest_textUntil endsLabel).bind fun _ => honest_pure _

theorem honest_flag (bit : UInt32) (inverted : Bool) : Honest (flag bit inverted) :=
  honest_skipChar_sign.bind fun _ => (honest_textUntil _).bind fun _ => honest_pure _

theorem honest_moreEntries : Honest moreEntries :=
  (honest_skipChar? ',').bind fun _ => honest_isEof.bind fun _ => honest_pure _

/-- A range that runs backwards: `lead` ends with its first bit and the hyphen, and the second
bit, which is the lower one, follows. -/
inductive Backward : Text → Text → ParseError.Cause → Prop where
  | intro {front first last rest : Text} {bit lower : UInt32}
      (hfront : ∀ c, front.getLast? = some c → Text.isDigit 10 c = false) (hfirst : IsBit first)
      (hbit : bit.toNat = Text.value 10 first) (hlast : IsBit last)
      (hlower : lower.toNat = Text.value 10 last) (hends : Ends (Text.isDigit 10) rest)
      (hlt : lower < bit) :
      Backward (front ++ first ++ ['-']) (last ++ rest) (.invertedRange bit lower)

/-- More text may stand in front, if what it ends with is not a digit. -/
theorem Backward.behind {lead place : Text} {cause : ParseError.Cause}
    (h : Backward lead place cause) (front : Text) {c : Char} (hc : Text.isDigit 10 c = false) :
    Backward (front ++ c :: lead) place cause := by
  obtain ⟨hinner, hfirst, hbit, hlast, hlower, hends, hlt⟩ := h
  rw [List.append_cons, ← List.append_assoc, ← List.append_assoc]
  refine .intro (fun d hd => ?_) hfirst hbit hlast hlower hends hlt
  rw [List.getLast?_append, List.getLast?_concat, Option.or_eq_some_iff] at hd
  rcases hd with hd | ⟨-, hd⟩
  · exact hinner d hd
  · exact Option.some.inj hd ▸ hc

theorem Backward.append {lead place : Text} {cause : ParseError.Cause}
    (h : Backward lead place cause) {more : Text} (hmore : Ends (Text.isDigit 10) more) :
    Backward lead (place ++ more) cause := by
  cases h with
  | @intro front first last rest bit lower hfront hfirst hbit hlast hlower hends hlt =>
    rw [List.append_assoc last]
    exact .intro hfront hfirst hbit hlast hlower (hends.append hmore) hlt

/-- A range is at fault for its second bit, or the fault fits its place. -/
theorem range_eq_error {first : UInt32} {text left : Text} {fault : Fault}
    (h : range first text = .error fault left) :
    Fits fault.place fault.cause ∨
      ∃ last rest, ∃ lower : UInt32, text = last ++ rest ∧ IsBit last ∧
        lower.toNat = Text.value 10 last ∧ Ends (Text.isDigit 10) rest ∧ lower < first ∧
        fault = ⟨text, .invertedRange first lower⟩ := by
  rcases bind_eq_error_iff.mp h with hlast | ⟨_, mid, -, hname⟩
  · rcases checked_eq_error hlast with hbit | ⟨lower, cause, hbit, hverdict, rfl⟩
    · exact .inl (honest_bitIndex hbit)
    · obtain ⟨last, rfl, hdigits, hends, rfl⟩ := bitIndex_eq_ok_iff.mp hbit
      split at hverdict
      · rename_i hlt
        obtain rfl := Except.error.inj hverdict
        exact .inr ⟨last, left, _, rfl, hdigits, hdigits.toNat, hends, hlt, rfl⟩
      · cases hverdict
  · have hhonest : ∀ last : UInt32, Honest (do
        skipChar '='
        let name ← textUntil endsLabel
        return BitField.range first last name (← labels)) := fun last =>
      honest_skipChar_sign.bind fun _ => (honest_textUntil _).bind fun _ =>
        honest_labels.bind fun _ => honest_pure _
    exact .inl (hhonest _ hname)

theorem entry_eq_error {text left : Text} {fault : Fault} (h : entry text = .error fault left) :
    Fits fault.place fault.cause ∨
      ∃ lead, text = lead ++ fault.place ∧ Backward lead fault.place fault.cause := by
  rcases bind_eq_error_iff.mp h with htilde | ⟨inverted, afterTilde, htilde, hfollow⟩
  · exact .inl (honest_skipChar? '~' htilde)
  rcases bind_eq_error_iff.mp hfollow with hbit | ⟨bit, afterBit, hbit, hfollow⟩
  · exact .inl (honest_bitIndex hbit)
  cases inverted with
  | true => exact .inl (honest_flag bit true hfollow)
  | false =>
    rcases bind_eq_error_iff.mp hfollow with hhyphen | ⟨ranged, afterHyphen, hhyphen, hfollow⟩
    · exact .inl (honest_skipChar? '-' hhyphen)
    cases ranged with
    | false => exact .inl (honest_flag bit false hfollow)
    | true =>
      refine (range_eq_error hfollow).imp_right ?_
      rintro ⟨last, rest, lower, rfl, hlast, hlower, hends, hlt, rfl⟩
      obtain ⟨rfl, -⟩ := skipChar?_eq_false_iff.mp htilde
      obtain ⟨first, rfl, hfirst, -, rfl⟩ := bitIndex_eq_ok_iff.mp hbit
      obtain rfl := skipChar?_eq_true_iff.mp hhyphen
      have hbackward : Backward ([] ++ first ++ ['-']) (last ++ rest) _ :=
        .intro (by simp) hfirst hfirst.toNat hlast hlower hends hlt
      exact ⟨first ++ ['-'], by simp, hbackward⟩

/-- Behind an entry, a range stands after a comma. -/
theorem breaks_entries {text left : Text} {fault : Fault}
    (h : Breaks moreEntries entry text fault left) (htext : Ends (· != ',') text) :
    Fits fault.place fault.cause ∨
      ∃ front lead, text = front ++ ',' :: (lead ++ fault.place) ∧
        Backward lead fault.place fault.cause := by
  induction h with
  | asking hmore => exact .inl (honest_moreEntries hmore)
  | @item text mid left fault hmore hentry =>
    refine (entry_eq_error hentry).imp_right ?_
    rintro ⟨lead, rfl, hbackward⟩
    obtain ⟨comma, rfl, hends, hmid⟩ := moreEntries_eq_ok_iff.mp hmore
    cases comma with
    | true => exact ⟨[], lead, rfl, hbackward⟩
    | false =>
      -- no comma and no end of the text either: nothing can stand here
      have hnone : Ends (· == ',') (lead ++ fault.place) := hends rfl
      cases hwhole : lead ++ fault.place with
      | nil => simp [hwhole] at hmid
      | cons c more =>
        obtain rfl : c = ',' := by simpa [optional, hwhole] using htext
        simp [hwhole] at hnone
  | @again text mid rest left field fault hmore hentry _ ih =>
    obtain ⟨form, -, rfl, hrest, -⟩ := entry_eq_ok_iff.mp hentry
    obtain ⟨comma, rfl, -, -⟩ := moreEntries_eq_ok_iff.mp hmore
    refine (ih hrest).imp_right ?_
    rintro ⟨front, lead, rfl, hbackward⟩
    exact ⟨optional ',' comma ++ form.spelling ++ front, lead, by simp, hbackward⟩

/-- A fault of a descriptor fits its place, or is a range that runs backwards. -/
theorem descriptor_eq_error {body left : Text} {fault : Fault}
    (h : descriptor body = .error fault left) :
    Fits fault.place fault.cause ∨
      ∃ lead, body = lead ++ fault.place ∧ Backward lead fault.place fault.cause := by
  rcases bind_eq_error_iff.mp h with hmany | ⟨fields, mid, -, hpure⟩
  · cases breaks_of_many_eq_error hmany with
    | asking hmore => exact .inl (honest_moreEntries hmore)
    | item hmore hentry =>
      refine (entry_eq_error hentry).imp_right ?_
      rintro ⟨lead, rfl, hbackward⟩
      obtain ⟨comma, rfl, -, -⟩ := moreEntries_eq_ok_iff.mp hmore
      cases comma with
      | true => exact ⟨',' :: lead, rfl, hbackward.behind [] (by decide)⟩
      | false => exact ⟨lead, rfl, hbackward⟩
    | again hmore hentry hbreaks =>
      obtain ⟨form, -, rfl, hrest, -⟩ := entry_eq_ok_iff.mp hentry
      obtain ⟨comma, rfl, -, -⟩ := moreEntries_eq_ok_iff.mp hmore
      refine (breaks_entries hbreaks hrest).imp_right ?_
      rintro ⟨front, lead, rfl, hbackward⟩
      exact ⟨optional ',' comma ++ form.spelling ++ front ++ ',' :: lead, by simp,
        hbackward.behind _ (by decide)⟩
  · cases hpure

end Bitset

/-! ### Faults of a specification -/

/-- `text` is the whole or the beginning of a piece that begins with `%`. -/
def Begins (text : Text) : Prop :=
  ∃ piece : Piece, piece.WellFormed ∧ ¬ piece.IsRun ∧ text <+: piece.spelling

/-- A flag and the digits of a width, as they may stand after a `%`. -/
structure IsOpening (padding : Padding) (width : Text) : Prop where
  number : width = [] ∨ Text.IsNumber width
  flag : padding = .spacesBefore → width.head? ≠ some '0'

/-- What a cause says of its place in a malformed segment, when `lead` stands in the segment before
the place and `read` has been read of it. -/
inductive Describes (read : Text) : Text → Text → ParseError.Cause → Prop where
  | fits {lead place : Text} {cause : ParseError.Cause} (h : Fits place cause) :
      Describes read lead place cause
  | endOfBody {padding : Padding} {width body rest : Text} (hopening : IsOpening padding width)
      (hclose : '>' ∉ body)
      (hbody : Bitset.parse body 0 = .error ⟨Text.utf8Length body, .unexpectedEnd⟩) :
      Describes read ('%' :: padding.flag ++ width ++ '<' :: body) ('>' :: rest) .unexpectedEnd
  | backward {lead place : Text} {cause : ParseError.Cause}
      (h : Bitset.Backward lead place cause) : Describes read lead place cause
  | unknownConversion {begun rest : Text} {c : Char} (hbegun : Begins begun)
      (hoffending : ¬ Begins (begun ++ [c])) (hread : read = begun ++ [c]) :
      Describes read [] (begun ++ c :: rest) (.unknownConversion (begun ++ [c]))

namespace Segment

theorem honest_padding : Honest padding :=
  (honest_skipChar? '0').bind fun zero => by
    split
    · exact honest_pure _
    · refine (honest_skipChar? '-').bind fun hyphen => ?_
      split <;> exact honest_pure _

theorem honest_width : Honest width :=
  honest_isAtDigit.bind fun digit => by
    split
    · exact honest_number.bind fun _ => honest_pure _
    · exact honest_pure _

theorem honest_integer (layout : FieldLayout) (size : IntegerSize) :
    Honest (integer layout size) :=
  honest_any.bind fun _ => honest_pure _

/-- Without a flag the scanner has seen that no `0` follows the `%`. -/
theorem isOpening {p : Padding} {digits rest : Text}
    (hdigits : digits = [] ∨ Text.IsNumber digits)
    (hflag : p = .spacesBefore → Ends (· == '0') (digits ++ rest)) : IsOpening p digits where
  number := hdigits
  flag := by
    intro hp hhead
    have hzero := hflag hp '0' (by rw [List.head?_append, hhead]; rfl)
    simp at hzero

/-- Only in the body of a bitset is there more to a fault than the text from its place on. -/
theorem conversionAfter_eq_error {layout : FieldLayout} {text left : Text} {fault : Fault}
    (h : conversionAfter layout text = .error fault left) :
    Fits fault.place fault.cause ∨
      ∃ mid, text = '<' :: mid ∧ Bitset.descriptor.enclosed '>' mid = .error fault left := by
  rcases bind_eq_error_iff.mp h with hany | ⟨c, mid, hany, hfollow⟩
  · exact .inl (honest_any hany)
  · obtain rfl := any_eq_ok_iff.mp hany
    split at hfollow
    iterate 2 exact .inl (honest_integer _ _ hfollow)
    iterate 6 cases hfollow
    · rcases bind_eq_error_iff.mp hfollow with henclosed | ⟨_, _, -, hpure⟩
      · exact .inr ⟨mid, rfl, henclosed⟩
      · cases hpure
    · cases hfollow

theorem specification?_eq_error {text left : Text} {fault : Fault}
    (h : specification? ('%' :: text) = .error fault left) :
    Fits fault.place fault.cause ∨
      ∃ p digits mid, IsOpening p digits ∧
        '%' :: text = '%' :: p.flag ++ digits ++ '<' :: mid ∧
        Bitset.descriptor.enclosed '>' mid = .error fault left := by
  rcases bind_eq_error_iff.mp h with hpercent | ⟨⟨⟩, after, hpercent, h⟩
  · cases hpercent
  obtain rfl := (List.cons_eq_cons.mp (skipChar_eq_ok_iff.mp hpercent)).2
  rcases bind_eq_error_iff.mp h with hsecond | ⟨second, after, hsecond, h⟩
  · exact .inl (honest_skipChar? '%' hsecond)
  cases second with
  | true => cases h
  | false =>
    obtain ⟨rfl, -⟩ := skipChar?_eq_false_iff.mp hsecond
    rcases bind_eq_error_iff.mp h with hpadding | ⟨p, afterFlag, hpadding, h⟩
    · exact .inl (honest_padding hpadding)
    rcases bind_eq_error_iff.mp h with hwidth | ⟨w, afterWidth, hwidth, h⟩
    · exact .inl (honest_width hwidth)
    rcases bind_eq_error_iff.mp h with hconversion | ⟨_, _, -, hpure⟩
    · refine (conversionAfter_eq_error hconversion).imp_right ?_
      rintro ⟨mid, rfl, henclosed⟩
      obtain ⟨rfl, hflag⟩ := padding_eq_ok_iff.mp hpadding
      obtain ⟨digits, hdigits, rfl, -, -⟩ := width_eq_ok_iff.mp hwidth
      exact ⟨p, digits, mid, isOpening hdigits fun hp => (hflag hp).1, by simp, henclosed⟩
    · cases hpure

/-! ### Specifications without a name -/

theorem ofLetter?_eq_none_iff {c : Char} :
    IntegerStyle.ofLetter? c = none ↔ ∀ style : IntegerStyle, c ≠ style.letter := by
  simp only [Option.eq_none_iff_forall_ne_some, ne_eq, IntegerStyle.ofLetter?_eq_some_iff]

theorem integer_eq_none_iff {layout : FieldLayout} {size : IntegerSize} {text rest : Text} :
    integer layout size text = .ok none rest ↔
      ∃ c, text = c :: rest ∧ ∀ style : IntegerStyle, c ≠ style.letter := by
  rw [integer, bind_eq_ok_iff]
  constructor
  · rintro ⟨c, mid, hany, h⟩
    obtain rfl := any_eq_ok_iff.mp hany
    obtain ⟨hc, rfl⟩ := pure_eq_ok_iff.mp h
    exact ⟨c, rfl, ofLetter?_eq_none_iff.mp (Option.map_eq_none_iff.mp hc.symm)⟩
  · rintro ⟨c, rfl, hc⟩
    refine ⟨c, rest, rfl, ?_⟩
    rw [ofLetter?_eq_none_iff.mpr hc]
    rfl

/-- After a size only the letter of a style goes on to a tail. -/
theorem not_prefix_tail {size : IntegerSize} {c : Char} (hsize : size ≠ .word)
    (hc : ∀ style : IntegerStyle, c ≠ style.letter) (tail : Tail) :
    ¬ size.letter ++ [c] <+: tail.spelling := by
  cases tail with
  | integer other style =>
    cases size <;> cases other <;> simp [IntegerSize.letter, Tail.spelling, hc] at hsize ⊢
  | pointer letters | busAddress letters =>
    cases size <;> cases letters <;> simp [IntegerSize.letter, Tail.spelling] at hsize ⊢
  | string | char | bitset =>
    cases size <;> simp [IntegerSize.letter, Tail.spelling] at hsize ⊢

/-- A conversion without a name: the letter of a size, if there is one, and a character with which
no tail begins. -/
theorem conversionAfter_eq_none_iff {layout : FieldLayout} {text rest : Text} :
    conversionAfter layout text = .ok none rest ↔
      ∃ (size : IntegerSize) (c : Char), text = size.letter ++ [c] ++ rest ∧
        ∀ tail : Tail, ¬ size.letter ++ [c] <+: tail.spelling := by
  rw [conversionAfter, bind_eq_ok_iff]
  constructor
  · rintro ⟨c, mid, hany, h⟩
    obtain rfl := any_eq_ok_iff.mp hany
    split at h
    · obtain ⟨letter, rfl, hletter⟩ := integer_eq_none_iff.mp h
      exact ⟨.half, letter, rfl, not_prefix_tail (by decide) hletter⟩
    · obtain ⟨letter, rfl, hletter⟩ := integer_eq_none_iff.mp h
      exact ⟨.byte, letter, rfl, not_prefix_tail (by decide) hletter⟩
    iterate 6 cases h
    · obtain ⟨_, _, -, hpure⟩ := bind_eq_ok_iff.mp h
      cases hpure
    · -- none of the letters above, and of no style either
      obtain ⟨hnone, rfl⟩ := pure_eq_ok_iff.mp h
      have hc := ofLetter?_eq_none_iff.mp (Option.map_eq_none_iff.mp hnone.symm)
      refine ⟨.word, c, rfl, fun tail => ?_⟩
      cases tail with
      | integer size style =>
        cases size <;> simp [IntegerSize.letter, Tail.spelling, hc] <;> assumption
      | pointer letters | busAddress letters =>
        cases letters <;> simp [IntegerSize.letter, Tail.spelling] <;> assumption
      | string | char | bitset =>
        simp [IntegerSize.letter, Tail.spelling]
        assumption
  · rintro ⟨size, c, rfl, hnone⟩
    have hc : ∀ style : IntegerStyle, c ≠ style.letter := by
      intro style heq
      exact hnone (.integer size style) (heq ▸ List.prefix_refl _)
    cases size with
    | half => exact ⟨'h', c :: rest, rfl, integer_eq_none_iff.mpr ⟨c, rfl, hc⟩⟩
    | byte => exact ⟨'b', c :: rest, rfl, integer_eq_none_iff.mpr ⟨c, rfl, hc⟩⟩
    | word =>
      refine ⟨c, rest, rfl, ?_⟩
      split
      · exact absurd (List.prefix_append ['h'] ['d']) (hnone (.integer .half .signed))
      · exact absurd (List.prefix_append ['b'] ['d']) (hnone (.integer .byte .signed))
      · exact absurd (List.prefix_refl _) (hnone .string)
      · exact absurd (List.prefix_refl _) (hnone .char)
      · exact absurd (List.prefix_refl _) (hnone (.pointer .lower))
      · exact absurd (List.prefix_refl _) (hnone (.pointer .upper))
      · exact absurd (List.prefix_refl _) (hnone (.busAddress .lower))
      · exact absurd (List.prefix_refl _) (hnone (.busAddress .upper))
      · exact absurd (List.prefix_append ['<'] ['>']) (hnone (.bitset [] ⟨[]⟩))
      · rw [ofLetter?_eq_none_iff.mpr hc]
        rfl

/-- A specification without a name is read in the same way whatever comes behind it. -/
theorem specification?_eq_none {text rest : Text}
    (h : specification? ('%' :: text) = .ok none rest) :
    ∃ begun c, '%' :: text = begun ++ [c] ++ rest ∧ Begins begun ∧
      ∀ more, specification? (begun ++ [c] ++ more) = .ok none more := by
  obtain ⟨⟨⟩, after, hpercent, h⟩ := bind_eq_ok_iff.mp h
  obtain rfl := (List.cons_eq_cons.mp (skipChar_eq_ok_iff.mp hpercent)).2
  obtain ⟨second, after, hsecond, h⟩ := bind_eq_ok_iff.mp h
  cases second with
  | true => cases h
  | false =>
    obtain ⟨rfl, hsecond⟩ := skipChar?_eq_false_iff.mp hsecond
    obtain ⟨p, afterFlag, hpadding, h⟩ := bind_eq_ok_iff.mp h
    obtain ⟨w, afterWidth, hwidth, h⟩ := bind_eq_ok_iff.mp h
    obtain ⟨c?, last, hconversion, h⟩ := bind_eq_ok_iff.mp h
    obtain ⟨hnone, rfl⟩ := pure_eq_ok_iff.mp h
    obtain rfl := Option.map_eq_none_iff.mp hnone.symm
    obtain ⟨rfl, hflag⟩ := padding_eq_ok_iff.mp hpadding
    obtain ⟨digits, hdigits, rfl, hends, rfl⟩ := width_eq_ok_iff.mp hwidth
    obtain ⟨size, c, rfl, htail⟩ := conversionAfter_eq_none_iff.mp hconversion
    have hopening : IsOpening p digits := isOpening hdigits fun hp => (hflag hp).1
    refine ⟨'%' :: p.flag ++ digits ++ size.letter, c, by simp, ?_, fun more => ?_⟩
    · exact ⟨.specification p digits (.integer size .signed),
        ⟨hopening.number, hopening.flag, trivial⟩, not_false, by simp [Piece.spelling, Tail.spelling]⟩
    · -- what each scanner has seen of the text shows in the part that is read
      have hmove : ∀ {q : Char → Bool} {front : Text},
          Ends q (front ++ (size.letter ++ [c] ++ last)) →
            Ends q (front ++ (size.letter ++ [c] ++ more)) := by
        intro q front hq
        rw [← List.append_assoc, Text.ends_append_iff (by simp)] at hq ⊢
        exact hq
      have hspelling : '%' :: p.flag ++ digits ++ size.letter ++ [c] ++ more =
          '%' :: (p.flag ++ (digits ++ (size.letter ++ [c] ++ more))) := by simp
      rw [hspelling]
      refine bind_eq_ok_iff.mpr ⟨(), _, skipChar_eq_ok_iff.mpr rfl, bind_eq_ok_iff.mpr ⟨false, _,
        skipChar?_eq_false_iff.mpr ⟨rfl, ?_⟩, ?_⟩⟩
      · rw [← List.append_assoc] at hsecond ⊢
        exact hmove hsecond
      · refine bind_eq_ok_iff.mpr ⟨p, _, padding_eq_ok_iff.mpr ⟨rfl, fun hp => ?_⟩, ?_⟩
        · exact ⟨hmove (hflag hp).1, hmove (hflag hp).2⟩
        · refine bind_eq_ok_iff.mpr ⟨_, _, width_eq_ok_iff.mpr
            ⟨digits, hdigits, rfl, @hmove _ [] hends, rfl⟩, ?_⟩
          exact bind_eq_ok_iff.mpr
            ⟨none, more, conversionAfter_eq_none_iff.mpr ⟨size, c, rfl, htail⟩, rfl⟩

/-- The character that names nothing is the first with which the text begins no piece. -/
theorem exists_begins_of_none {text rest : Text}
    (h : specification? ('%' :: text) = .ok none rest) :
    ∃ begun c, '%' :: text = begun ++ [c] ++ rest ∧ Begins begun ∧ ¬ Begins (begun ++ [c]) := by
  obtain ⟨begun, c, htext, hbegun, hnone⟩ := specification?_eq_none h
  refine ⟨begun, c, htext, hbegun, ?_⟩
  rintro ⟨piece, hwf, hrun, more, hspelling⟩
  have hsome : specification? (begun ++ [c] ++ more) = .ok (some piece.segment) [] :=
    specification?_eq_ok_iff.mpr ⟨piece, hwf, hrun, by rw [hspelling, List.append_nil], rfl⟩
  rw [hnone more] at hsome
  cases hsome

/-- What stands in a body stands in the specification too, behind its `<`. -/
theorem describes_of_enclosed {padding : Padding} {width mid left : Text} {fault : Fault}
    (hopening : IsOpening padding width)
    (h : Bitset.descriptor.enclosed '>' mid = .error fault left) (read : Text) :
    ∃ lead, '%' :: padding.flag ++ width ++ '<' :: mid = lead ++ fault.place ∧
      Describes read lead fault.place fault.cause := by
  rcases enclosed_eq_error h with rfl | ⟨body, rest, ⟨place, cause⟩, last, hclose, rfl, hbody, rfl⟩
  · exact ⟨_, (List.append_nil _).symm, .fits .unexpectedEnd⟩
  have hends : Ends (Text.isDigit 10) ('>' :: rest) := (Text.ends_cons _ _ _).mpr (by decide)
  obtain ⟨front, hfront⟩ : place <:+ body := by
    have hstays := Bitset.stays_descriptor body
    rw [hbody] at hstays
    exact hstays.1
  rcases Bitset.descriptor_eq_error hbody with hfits | ⟨lead, rfl, hbackward⟩
  · rcases hfits.append hends with ⟨rfl, rfl⟩ | hmoved
    · exact ⟨'%' :: padding.flag ++ width ++ '<' :: body, by simp, .endOfBody hopening hclose
        (by simp [Bitset.parse, hbody, Fault.toParseError])⟩
    · exact ⟨'%' :: padding.flag ++ width ++ '<' :: front, by simp [← hfront], .fits hmoved⟩
  · exact ⟨'%' :: padding.flag ++ width ++ '<' :: lead, by simp,
      .backward ((hbackward.append hends).behind _ (by decide))⟩

/-- A malformed segment begins with `%`, and its fault describes it. -/
theorem scan_eq_error {text left : Text} {fault : Fault} (h : scan text = .error fault left) :
    text.head? = some '%' ∧ ∃ lead, text = lead ++ fault.place ∧
      Describes (Text.before text left) lead fault.place fault.cause := by
  have hstays := stays_scan text
  rw [h] at hstays
  obtain ⟨⟨lead, hlead⟩, hleft⟩ := hstays
  rw [scan] at h
  split at h
  case isFalse => cases h
  case isTrue hhead =>
  refine ⟨hhead, ?_⟩
  obtain ⟨more, rfl⟩ := List.head?_eq_some_iff.mp hhead
  rcases checked_eq_error h with hspec | ⟨segment?, cause, hspec, hverdict, rfl⟩
  · rcases specification?_eq_error hspec with hfits | ⟨p, digits, mid, hopening, htext, henclosed⟩
    · exact ⟨lead, hlead.symm, .fits hfits⟩
    · rw [htext]
      exact describes_of_enclosed hopening henclosed _
  · cases segment? with
    | some segment => cases hverdict
    | none =>
      obtain rfl := Except.error.inj hverdict
      obtain ⟨begun, c, htext, hbegun, hoffending⟩ := exists_begins_of_none hspec
      refine ⟨[], rfl, ?_⟩
      rw [htext, Text.before_append, List.append_assoc]
      exact .unknownConversion hbegun hoffending rfl

end Segment

/-! ### The error of a template -/

/-- The error of a template in terms of its text: `front` is what stands before the malformed
segment, which is the last item of a reading, and `lead` what stands in it before the place of the
error. -/
structure MalformedAt (template : Text) (error : ParseError) (item : Item)
    (front lead place : Text) : Prop where
  last : ∃ items, itemsOf template = items ++ [item]
  result : item.result = .error error
  text : template = front ++ (lead ++ place)
  start : item.start = Text.utf8Length front
  parses : ∃ parsed, Template.parse front = .ok parsed
  percent : (lead ++ place).head? = some '%'
  offset : error.offset = Text.utf8Length (front ++ lead)
  start_le : item.start ≤ error.offset
  le_length : error.offset ≤ Text.utf8Length template
  describes : Describes item.text lead place error.cause

/-- **An error describes its template.**  What stands before the malformed segment parses on its
own.  The offset is the number of bytes before some place in that segment, so it lies on a
character, and what the cause says of the place is true. -/
theorem error_describes_template {template : Text} {error : ParseError}
    (h : Template.parse template = .error error) :
    ∃ item front lead place, MalformedAt template error item front lead place := by
  obtain ⟨segments, rest, hreads, hstuck⟩ := reads_total template
  rcases hstuck with rfl | ⟨fault, left, hne, hscan⟩
  · rw [Template.parse_eq_error_iff, (segmentsOf_errorOf?_of_reads hreads).2] at h
    cases h
  · rw [Template.parse_eq_error_iff, (segmentsOf_errorOf?_of_fault hreads hne hscan).2] at h
    obtain ⟨items, -, hitems⟩ := Reader.exists_items_of_reads hreads 0
    rw [Reader.items_of_error hne hscan, Nat.zero_add, Option.some.inj h] at hitems
    obtain ⟨front, pieces, rfl, hderives, -⟩ := hreads.exists_derives
    obtain ⟨hhead, lead, rfl, hdescribes⟩ := Segment.scan_eq_error hscan
    rw [Text.before_append] at h hitems
    obtain rfl := Option.some.inj h
    have hoffset : Text.utf8Length front + Text.utf8Length (Text.before (lead ++ fault.place)
        fault.place) = Text.utf8Length (front ++ lead) := by
      rw [Text.before_append, Text.utf8Length_append]
    exact ⟨_, front, lead, fault.place, {
      last := ⟨items, hitems⟩
      result := rfl
      text := rfl
      start := rfl
      parses := ⟨⟨front, pieces.map Piece.segment⟩,
        Template.parse_eq_ok_iff.mpr ⟨rfl, reads_iff_derives.mpr ⟨pieces, hderives, rfl⟩⟩⟩
      percent := hhead
      offset := hoffset
      start_le := Nat.le_add_right _ _
      le_length := by
        rw [← List.append_assoc, Text.utf8Length_append (front ++ lead), ← hoffset]
        exact Nat.le_add_right _ _
      describes := hdescribes }⟩

/-- A range that runs backwards, behind a character of two bytes. -/
theorem error_describes_backward_range :
    Template.parse "é%<5-3=x>".toList = .error ⟨6, .invertedRange 5 3⟩ ∧
      ∃ item front lead place,
        MalformedAt "é%<5-3=x>".toList ⟨6, .invertedRange 5 3⟩ item front lead place := by
  have hparse : Template.parse "é%<5-3=x>".toList = .error ⟨6, .invertedRange 5 3⟩ :=
    Template.parse_eq_error_iff.mpr (by decide +kernel)
  exact ⟨hparse, error_describes_template hparse⟩

end DriverPrintf
