import DriverPrintf.Command.Arguments
import DriverPrintf.Proofs.Numeral.Parts

/-!
# Command — the texts that are integers

`Spells text sign magnitude` says that a text is one numeral, in the base it marks, with a sign in
front of it and blanks around both; before the sign the blanks are ASCII.  The magnitude has no
bound.  These are exactly the texts that are read as a number (`number_eq_ok_iff_spells`), but the
number is known only modulo 2^64 when its range is checked.

* **Which texts are accepted** (`integer_exact_iff`): those of which the magnitude modulo 2^64 is
  in range, with that value.  For a text this is what its number asks for unless the magnitude
  has wrapped around into the range.  The least magnitude that does is 2^64, and
  `wrapped_integer_accepted` is about the one above it.
-/

namespace DriverPrintf

open Text (Ends)
open Numeral (Sign Parts InRadix HexMarked)

/-- A numeral that marks its base, and its value. -/
inductive IsNumeral : Text → Nat → Prop where
  | hex {letter : Char} {digits : Text} (hletter : letter = 'x' ∨ letter = 'X')
      (hne : digits ≠ []) (hall : ∀ c ∈ digits, Text.isDigit 16 c = true) :
      IsNumeral ('0' :: letter :: digits) (Text.value 16 digits)
  | octal {digits : Text} (hall : ∀ c ∈ digits, Text.isDigit 8 c = true) :
      IsNumeral ('0' :: digits) (Text.value 8 digits)
  | decimal {digits : Text} (hne : digits ≠ []) (hzero : digits.head? ≠ some '0')
      (hall : ∀ c ∈ digits, Text.isDigit 10 c = true) : IsNumeral digits (Text.value 10 digits)

/-- One numeral with a sign and blanks, and its magnitude. -/
inductive Spells : Text → Sign → Nat → Prop where
  | intro {blanks numeral trailing : Text} {magnitude : Nat} (sign : Sign)
      (hblanks : ∀ c ∈ blanks, Text.isAsciiBlank c = true) (h : IsNumeral numeral magnitude)
      (htrailing : ∀ c ∈ trailing, Text.isBlank c = true) :
      Spells (blanks ++ (sign.spelling ++ (numeral ++ trailing))) sign magnitude

/-- The numbers that a word holds, signed or not. -/
def InRange (n : Int) : Prop := -0x80000000 ≤ n ∧ n ≤ 0xffffffff

/-- The parts of a text that is a number: there are digits, and only blanks behind them. -/
structure Numeral.Parts.IsWhole (parts : Parts) : Prop where
  ne_nil : parts.digits ≠ []
  blank : ∀ c ∈ parts.rest, Text.isBlank c = true

/-! ### Numerals and parts -/

namespace IsNumeral

variable {numeral : Text} {magnitude : Nat}

/-- A numeral begins with a decimal digit. -/
theorem exists_cons (h : IsNumeral numeral magnitude) :
    ∃ c more, numeral = c :: more ∧ Text.isDigit 10 c = true := by
  cases h with
  | hex => exact ⟨'0', _, rfl, by decide⟩
  | octal => exact ⟨'0', _, rfl, by decide⟩
  | decimal hne _ hall =>
    obtain ⟨c, more, rfl⟩ := List.exists_cons_of_ne_nil hne
    exact ⟨c, more, rfl, hall c List.mem_cons_self⟩

/-- The base that a numeral marks, if only blanks come behind it. -/
theorem exists_inRadix (h : IsNumeral numeral magnitude) {trailing : Text}
    (htrailing : ∀ c ∈ trailing, Text.isBlank c = true) :
    ∃ mark radix digits, numeral = mark ++ digits ∧ digits ≠ [] ∧
      (∀ c ∈ digits, Text.isDigit radix c = true) ∧ InRadix 0 mark radix (digits ++ trailing) ∧
      Text.value radix digits = magnitude := by
  cases h with
  | @hex letter digits hletter hne hall =>
    obtain ⟨d, more, rfl⟩ := List.exists_cons_of_ne_nil hne
    exact ⟨['0', letter], 16, d :: more, rfl, hne, hall,
      .marked (.inl rfl) hletter (hall d List.mem_cons_self), rfl⟩
  | @octal digits hall =>
    have hdigit : ∀ c ∈ '0' :: digits, Text.isDigit 8 c = true :=
      List.forall_mem_cons.mpr ⟨by decide, hall⟩
    refine ⟨[], 8, '0' :: digits, rfl, List.cons_ne_nil _ _, hdigit,
      .octal rfl (Numeral.not_hexMarked_of_digits (by decide) hdigit htrailing), ?_⟩
    exact Text.value_zeros 8 1 digits
  | decimal hne hzero hall =>
    obtain ⟨c, more, rfl⟩ := List.exists_cons_of_ne_nil hne
    exact ⟨[], 10, c :: more, rfl, hne, hall, .decimal rfl hzero, rfl⟩

/-- Digits behind the mark of their base are a numeral. -/
theorem of_inRadix {mark digits rest : Text} {radix : Nat}
    (h : InRadix 0 mark radix (digits ++ rest)) (hne : digits ≠ [])
    (hall : ∀ c ∈ digits, Text.isDigit radix c = true) :
    IsNumeral (mark ++ digits) (Text.value radix digits) := by
  obtain ⟨d, more, rfl⟩ := List.exists_cons_of_ne_nil hne
  cases h with
  | marked _ hletter => exact .hex hletter hne hall
  | octal =>
    have hvalue : Text.value 8 ('0' :: more) = Text.value 8 more := Text.value_zeros 8 1 more
    rw [hvalue]
    exact .octal fun c hc => hall c (List.mem_cons_of_mem _ hc)
  | decimal _ hzero => exact .decimal hne hzero hall
  | asked hbase => exact absurd rfl hbase

end IsNumeral

/-! ### Texts that are numbers -/

/-- A text that is a number has its numeral in its parts. -/
theorem Spells.exists_parts {text : Text} {sign : Sign} {magnitude : Nat}
    (h : Spells text sign magnitude) :
    ∃ parts : Parts, parts.WellFormed 0 ∧ parts.IsWhole ∧ text = parts.text ∧
      parts.sign = sign ∧ Text.value parts.radix parts.digits = magnitude := by
  obtain ⟨sign, hblanks, hnumeral, htrailing⟩ := h
  rename_i blanks numeral trailing
  obtain ⟨c, more, hcons, hc⟩ := hnumeral.exists_cons
  obtain ⟨mark, radix, digits, rfl, hne, hall, hradix, hvalue⟩ :=
    hnumeral.exists_inRadix htrailing
  have hunsigned : mark ++ (digits ++ trailing) = c :: (more ++ trailing) := by
    rw [← List.append_assoc, hcons, List.cons_append]
  refine ⟨⟨blanks, sign, mark, radix, digits, trailing⟩,
    Parts.wellFormed_of_digits hblanks hunsigned hc hradix hall htrailing, ⟨hne, htrailing⟩, ?_,
    rfl, hvalue⟩
  simp [Parts.text, Parts.signed, Parts.unsigned, Parts.numeral]

/-- The parts of a number make it up again. -/
theorem spells_text {parts : Parts} (h : parts.WellFormed 0) (hwhole : parts.IsWhole) :
    Spells parts.text parts.sign (Text.value parts.radix parts.digits) := by
  have hnumeral := IsNumeral.of_inRadix h.radix hwhole.ne_nil h.digit
  have htext : parts.text = parts.blanks ++
      (parts.sign.spelling ++ (parts.mark ++ parts.digits ++ parts.rest)) := by
    simp [Parts.text, Parts.signed, Parts.unsigned, Parts.numeral]
  rw [htext]
  exact .intro parts.sign h.blank hnumeral hwhole.blank

/-- A text is at most one number. -/
theorem Spells.unique {text : Text} {sign other : Sign} {magnitude magnitude' : Nat}
    (h : Spells text sign magnitude) (h' : Spells text other magnitude') :
    sign = other ∧ magnitude = magnitude' := by
  obtain ⟨parts, hparts, -, rfl, rfl, rfl⟩ := h.exists_parts
  obtain ⟨parts', hparts', -, heq, rfl, rfl⟩ := h'.exists_parts
  obtain rfl := hparts.unique hparts' heq
  exact ⟨rfl, rfl⟩

namespace Arguments

/-- What is read of a text as a number, by its parts: it needs digits, and blanks alone behind
them. -/
theorem number_text {parts : Parts} (h : parts.WellFormed 0) {value : UInt64} :
    number parts.text = .ok value ↔ parts.IsWhole ∧
      value = if parts.sign = .minus then -.ofNat (Text.value parts.radix parts.digits)
        else .ofNat (Text.value parts.radix parts.digits) := by
  by_cases hne : parts.digits = []
  · rw [number, h.read64_text_of_nil hne]
    simp only [true_or, if_true, reduceCtorEq, false_iff]
    exact fun hwhole => hwhole.1.ne_nil hne
  · have hlength := parts.length_rest_lt hne
    rw [number, h.read64_text (by decide) hne]
    by_cases hblank : ∀ c ∈ parts.rest, Text.isBlank c = true
    · have hall : parts.rest.all Text.isBlank = true := List.all_eq_true.mpr hblank
      have hwhole : parts.IsWhole := ⟨hne, hblank⟩
      simp [hall, hwhole, Nat.ne_of_lt hlength, eq_comm]
    · have hall : parts.rest.all Text.isBlank = false := by
        rwa [← Bool.not_eq_true, List.all_eq_true]
      simp only [hall, Bool.not_false, or_true, if_true, reduceCtorEq, false_iff]
      exact fun hwhole => hblank hwhole.1.blank

/-- **The texts that are numbers** are those that spell one. -/
theorem number_eq_ok_iff_spells {text : Text} {value : UInt64} :
    number text = .ok value ↔ ∃ sign magnitude, Spells text sign magnitude ∧
      value = if sign = .minus then -.ofNat magnitude else .ofNat magnitude := by
  constructor
  · intro h
    obtain ⟨parts, hparts, rfl⟩ := Numeral.exists_parts text 0
    obtain ⟨hwhole, hvalue⟩ := (number_text hparts).mp h
    exact ⟨_, _, spells_text hparts hwhole, hvalue⟩
  · rintro ⟨sign, magnitude, hspells, hvalue⟩
    obtain ⟨parts, hparts, hwhole, rfl, rfl, rfl⟩ := hspells.exists_parts
    exact (number_text hparts).mpr ⟨hwhole, hvalue⟩

/-- The sign of a number is found behind any blanks, as it is behind ASCII ones. -/
theorem isNegative_of_spells {text : Text} {sign : Sign} {magnitude : Nat}
    (h : Spells text sign magnitude) : isNegative text = decide (sign = .minus) := by
  obtain ⟨sign, hblanks, hnumeral, -⟩ := h
  rename_i blanks numeral trailing
  obtain ⟨c, more, rfl, hc⟩ := hnumeral.exists_cons
  have hends : Ends Text.isBlank (sign.spelling ++ c :: (more ++ trailing)) :=
    Numeral.ends_isBlank_signed sign hc
  obtain ⟨-, hdrop⟩ := Text.run_iff.mpr
    ⟨rfl, fun d hd => Text.isBlank_of_isAsciiBlank (hblanks d hd), hends⟩
  rw [isNegative, List.cons_append, hdrop]
  cases sign with
  | none =>
    obtain ⟨-, hminus⟩ := Text.ne_sign_of_isDigit hc
    simp [Sign.spelling, hminus]
  | plus | minus => rfl

/-- A word is the answer if it is the number modulo 2^32. -/
theorem ok_eq_ok_iff_toNat {answer word : UInt32} {n : Int}
    (h : (answer.toNat : Int) = n % (UInt32.size : Nat)) :
    (.ok answer : Except ArgumentFault UInt32) = .ok word ↔
      (word.toNat : Int) = n % (UInt32.size : Nat) := by
  rw [Except.ok.injEq, ← UInt32.toNat_inj, ← h]
  omega

section

variable {text : Text} {magnitude : Nat} {word : UInt32}

/-- A number with a minus sign is accepted up to the magnitude of the least signed word. -/
theorem integer_minus_eq_ok_iff (hnumber : number text = .ok (-.ofNat magnitude))
    (hsign : isNegative text = true) :
    integer text = .ok word ↔ magnitude % UInt64.size ≤ 0x80000000 ∧
      (word.toNat : Int) = -magnitude % (UInt32.size : Nat) := by
  have hword : (UInt64.ofNat magnitude).toNat = magnitude % UInt64.size := UInt64.toNat_ofNat'
  have hanswer : ((-(UInt64.ofNat magnitude).toUInt32).toNat : Int) =
      -magnitude % (UInt32.size : Nat) := by
    rw [UInt32.toNat_neg, UInt64.toNat_toUInt32, hword, UInt64.size, UInt32.size]
    omega
  rw [integer, hnumber]
  simp only [bind, Except.bind, hsign, if_true, UInt64.neg_neg, hword]
  split
  · rename_i hbelow
    simp only [reduceCtorEq, Nat.not_le_of_lt hbelow, false_and]
  · rename_i hfits
    rw [ok_eq_ok_iff_toNat hanswer]
    simp only [Nat.le_of_not_lt hfits, true_and]

/-- A number without one is accepted if it is a word. -/
theorem integer_plus_eq_ok_iff (hnumber : number text = .ok (.ofNat magnitude))
    (hsign : isNegative text = false) :
    integer text = .ok word ↔ magnitude % UInt64.size < UInt32.size ∧
      (word.toNat : Int) = magnitude % (UInt32.size : Nat) := by
  have hword : (UInt64.ofNat magnitude).toNat = magnitude % UInt64.size := UInt64.toNat_ofNat'
  have hanswer : ((UInt64.ofNat magnitude).toUInt32.toNat : Int) =
      magnitude % (UInt32.size : Nat) := by
    rw [UInt64.toNat_toUInt32, hword, UInt64.size, UInt32.size]
    omega
  rw [integer, hnumber]
  simp only [bind, Except.bind, hsign, Bool.false_eq_true, if_false, hword]
  split
  · rename_i hfits
    rw [ok_eq_ok_iff_toNat hanswer]
    simp only [hfits, true_and]
  · rename_i hlarge
    simp only [reduceCtorEq, hlarge, false_and]

/-- What the check of the range comes to: it sees the magnitude modulo 2^64. -/
theorem integer_eq_ok_iff_of_spells {sign : Sign} (h : Spells text sign magnitude) :
    integer text = .ok word ↔ InRange (sign.apply (magnitude % UInt64.size)) ∧
      (word.toNat : Int) = sign.apply magnitude % (UInt32.size : Nat) := by
  have hnumber := number_eq_ok_iff_spells.mpr ⟨sign, magnitude, h, rfl⟩
  have hsign := isNegative_of_spells h
  cases sign with
  | minus =>
    rw [integer_minus_eq_ok_iff hnumber hsign]
    refine and_congr_left fun _ => ?_
    simp only [InRange, Sign.apply]
    omega
  | none | plus =>
    rw [integer_plus_eq_ok_iff hnumber hsign]
    refine and_congr_left fun _ => ?_
    simp only [InRange, Sign.apply, UInt32.size]
    omega

end

/-- What is accepted as an integer is a number. -/
theorem exists_spells_of_integer {text : Text} {word : UInt32} (h : integer text = .ok word) :
    ∃ sign magnitude, Spells text sign magnitude := by
  cases hnumber : number text with
  | error fault =>
    rw [integer, hnumber] at h
    cases h
  | ok value =>
    obtain ⟨sign, magnitude, hspells, -⟩ := number_eq_ok_iff_spells.mp hnumber
    exact ⟨sign, magnitude, hspells⟩

theorem exists_word_toNat (n : Int) :
    ∃ word : UInt32, (word.toNat : Int) = n % (UInt32.size : Nat) := by
  refine ⟨.ofNat (n % (UInt32.size : Nat)).toNat, ?_⟩
  rw [UInt32.toNat_ofNat', UInt32.size]
  omega

/-- A number in range has not wrapped around. -/
theorem lt_of_inRange {sign : Sign} {magnitude : Nat} (h : InRange (sign.apply magnitude)) :
    magnitude < UInt64.size := by
  rw [UInt64.size]
  cases sign <;> simp only [InRange, Sign.apply] at h <;> omega

/-- What a text should be read as: the number that it spells, if a word holds it, and nothing
else. -/
def Exact (text : Text) : Prop :=
  ∀ word, integer text = .ok word ↔ ∃ sign magnitude, Spells text sign magnitude ∧
    InRange (sign.apply magnitude) ∧
    (word.toNat : Int) = sign.apply magnitude % (UInt32.size : Nat)

/-- **Which texts are accepted.**  A text is accepted if it spells a number of which the magnitude
modulo 2^64 is in range.  This is what its number asks for exactly if the number has not wrapped
around into the range: an out-of-range magnitude below 2^64 is always rejected. -/
theorem integer_exact_iff (text : Text) :
    (∀ word, integer text = .ok word ↔ ∃ sign magnitude, Spells text sign magnitude ∧
      InRange (sign.apply (magnitude % UInt64.size)) ∧
      (word.toNat : Int) = sign.apply magnitude % (UInt32.size : Nat)) ∧
    (Exact text ↔ ∀ sign magnitude, Spells text sign magnitude → UInt64.size ≤ magnitude →
      ¬ InRange (sign.apply (magnitude % UInt64.size))) := by
  have haccepted : ∀ word, integer text = .ok word ↔ ∃ sign magnitude,
      Spells text sign magnitude ∧ InRange (sign.apply (magnitude % UInt64.size)) ∧
      (word.toNat : Int) = sign.apply magnitude % (UInt32.size : Nat) := by
    intro word
    constructor
    · intro h
      obtain ⟨sign, magnitude, hspells⟩ := exists_spells_of_integer h
      exact ⟨sign, magnitude, hspells, (integer_eq_ok_iff_of_spells hspells).mp h⟩
    · rintro ⟨sign, magnitude, hspells, hword⟩
      exact (integer_eq_ok_iff_of_spells hspells).mpr hword
  refine ⟨haccepted, fun hexact sign magnitude hspells hlarge hrange => ?_, fun hwrapped word => ?_⟩
  · obtain ⟨word, hword⟩ := exists_word_toNat (sign.apply magnitude)
    obtain ⟨other, magnitude', hspells', hrange', -⟩ :=
      (hexact word).mp ((haccepted word).mpr ⟨sign, magnitude, hspells, hrange, hword⟩)
    obtain ⟨rfl, rfl⟩ := hspells.unique hspells'
    exact Nat.not_lt_of_le hlarge (lt_of_inRange hrange')
  · rw [haccepted]
    constructor
    · rintro ⟨sign, magnitude, hspells, hrange, hword⟩
      have hsmall : magnitude < UInt64.size := Nat.lt_of_not_le fun hlarge =>
        hwrapped sign magnitude hspells hlarge hrange
      rw [Nat.mod_eq_of_lt hsmall] at hrange
      exact ⟨sign, magnitude, hspells, hrange, hword⟩
    · rintro ⟨sign, magnitude, hspells, hrange, hword⟩
      refine ⟨sign, magnitude, hspells, ?_, hword⟩
      rwa [Nat.mod_eq_of_lt (lt_of_inRange hrange)]

/-- **A number that has wrapped around.**  The number is far out of range, and the text is accepted
as 1. -/
theorem wrapped_integer_accepted :
    Spells "18446744073709551617".toList .none 18446744073709551617 ∧
      ¬ InRange (Sign.none.apply 18446744073709551617) ∧
      integer "18446744073709551617".toList = .ok 1 ∧
      ¬ Exact "18446744073709551617".toList := by
  have hspells : Spells "18446744073709551617".toList .none 18446744073709551617 := by
    have hnumeral : IsNumeral "18446744073709551617".toList 18446744073709551617 :=
      .decimal (by decide) (by decide) (List.all_eq_true.mp (by decide))
    have htext := @Spells.intro [] _ [] _ .none (by simp) hnumeral (by simp)
    simpa [Sign.spelling] using htext
  have hinteger : integer "18446744073709551617".toList = .ok 1 := by decide +kernel
  have hrange : ¬ InRange (Sign.none.apply 18446744073709551617) := by
    simp [InRange, Sign.apply]
  refine ⟨hspells, hrange, hinteger, fun hexact => ?_⟩
  obtain ⟨sign, magnitude, hspells', hrange', -⟩ := (hexact 1).mp hinteger
  obtain ⟨rfl, rfl⟩ := hspells.unique hspells'
  exact hrange hrange'

end Arguments

end DriverPrintf
