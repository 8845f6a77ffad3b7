import DriverPrintf.Proofs.Numeral

/-!
# Numerals — the parts of a text

A text from which a number is read falls into five parts, each of which may be empty: blanks, a
sign, a base mark, digits, and what is left.  `Parts` are these parts as they are written, and
`Parts.WellFormed` says where each of them ends when a number is asked for in some base: the
blanks, the sign and the digits go as far as they can, and a base mark is one only if a digit
comes behind it.  The digits stand for a number, positional in their base, with the sign in front
of it (`Parts.value`), however long they are.

* **A text has its parts** in one way (`exists_parts`, `Parts.WellFormed.unique`).
* **Reading is by parts** (`read64_by_parts`): without digits nothing is read, not even a blank;
  otherwise the value is that of the parts modulo 2^64, and what is left is the last of them.
-/

namespace DriverPrintf.Numeral

open Text (Ends)

/-! ### Signs and base marks -/

/-- A sign as it is written. -/
inductive Sign where
  | none
  | plus
  | minus
deriving DecidableEq

namespace Sign

def spelling : Sign → Text
  | .none => []
  | .plus => ['+']
  | .minus => ['-']

/-- A number with the sign in front of it. -/
def apply : Sign → Nat → Int
  | .minus, n => -n
  | _, n => n

end Sign

/-- A text that begins with a mark of base 16, `0x` or `0X`, and a digit of it. -/
def HexMarked (text : Text) : Prop :=
  ∃ letter digit rest, text = '0' :: letter :: digit :: rest ∧ (letter = 'x' ∨ letter = 'X') ∧
    Text.isDigit 16 digit = true

theorem hasHexMark_iff {text : Text} : hasHexMark text = true ↔ HexMarked text := by
  constructor
  · intro h
    unfold hasHexMark at h
    split at h
    · rename_i letter digit rest
      rw [Bool.and_eq_true, Bool.or_eq_true, beq_iff_eq, beq_iff_eq] at h
      exact ⟨letter, digit, rest, rfl, h⟩
    · cases h
  · rintro ⟨letter, digit, rest, rfl, hletter, hdigit⟩
    rw [hasHexMark, hdigit]
    rcases hletter with rfl | rfl <;> rfl

/-- Digits of a base up to 16 hold no letter of such a mark, and nor do the blanks behind them. -/
theorem not_hexMarked_of_digits {base : Nat} (hle : base ≤ 16) {digits rest : Text}
    (hdigit : ∀ c ∈ digits, Text.isDigit base c = true)
    (hrest : ∀ c ∈ rest, Text.isBlank c = true) : ¬ HexMarked (digits ++ rest) := by
  rintro ⟨letter, digit, more, heq, hletter, -⟩
  have hmem : letter ∈ digits ++ rest := by
    rw [heq]
    exact List.mem_cons_of_mem _ List.mem_cons_self
  rcases List.mem_append.mp hmem with hown | hblank
  · have hall : ∀ b ∈ List.range 17, Text.isDigit b 'x' ≠ true ∧ Text.isDigit b 'X' ≠ true := by
      decide
    obtain ⟨hlower, hupper⟩ := hall base (List.mem_range.mpr (Nat.lt_succ_of_le hle))
    rcases hletter with rfl | rfl
    · exact hlower (hdigit _ hown)
    · exact hupper (hdigit _ hown)
  · have hwhite := hrest letter hblank
    rcases hletter with rfl | rfl <;> revert hwhite <;> decide

/-- The mark in front of a numeral and the base it is in, when a number is asked for in `base`;
0 asks for the base that the numeral marks. -/
inductive InRadix (base : Nat) : Text → Nat → Text → Prop where
  | marked {letter digit : Char} {rest : Text} (hbase : base = 0 ∨ base = 16)
      (hletter : letter = 'x' ∨ letter = 'X') (hdigit : Text.isDigit 16 digit = true) :
      InRadix base ['0', letter] 16 (digit :: rest)
  | octal {rest : Text} (hbase : base = 0) (hmark : ¬ HexMarked ('0' :: rest)) :
      InRadix base [] 8 ('0' :: rest)
  | decimal {text : Text} (hbase : base = 0) (hzero : text.head? ≠ some '0') :
      InRadix base [] 10 text
  | asked {text : Text} (hbase : base ≠ 0) (hmark : base = 16 → ¬ HexMarked text) :
      InRadix base [] base text

/-- The base mark that is found is the one that stands there. -/
theorem radix_of_inRadix {base radix : Nat} {mark numeral : Text}
    (h : InRadix base mark radix numeral) :
    Numeral.radix base (mark ++ numeral) = (radix, numeral) := by
  cases h with
  | @marked letter digit rest hbase hletter hdigit =>
    have hmark : hasHexMark ('0' :: letter :: digit :: rest) = true :=
      hasHexMark_iff.mpr ⟨letter, digit, rest, rfl, hletter, hdigit⟩
    exact if_pos ⟨hbase, hmark⟩
  | @octal rest hbase hmark =>
    subst hbase
    have hno : ¬ ((0 = 0 ∨ 0 = 16) ∧ hasHexMark ('0' :: rest) = true) := fun h =>
      hmark (hasHexMark_iff.mp h.2)
    exact if_neg hno
  | decimal hbase hzero =>
    subst hbase
    exact radix_of_head?_ne hzero
  | asked hbase hmark =>
    have hno : ¬ ((base = 0 ∨ base = 16) ∧ hasHexMark numeral = true) := fun h =>
      hmark (h.1.resolve_left hbase) (hasHexMark_iff.mp h.2)
    rw [List.nil_append, Numeral.radix, if_neg hno, if_neg hbase]

/-- Every text has such a mark, which may be empty, and such a base. -/
theorem exists_inRadix (base : Nat) (text : Text) :
    ∃ mark radix numeral, InRadix base mark radix numeral ∧ text = mark ++ numeral := by
  by_cases hmarked : (base = 0 ∨ base = 16) ∧ HexMarked text
  · obtain ⟨hbase, letter, digit, rest, rfl, hletter, hdigit⟩ := hmarked
    exact ⟨_, _, _, .marked hbase hletter hdigit, rfl⟩
  by_cases hbase : base = 0
  · have hmark : ¬ HexMarked text := fun h => hmarked ⟨.inl hbase, h⟩
    by_cases hzero : text.head? = some '0'
    · obtain ⟨rest, rfl⟩ := List.head?_eq_some_iff.mp hzero
      exact ⟨_, _, _, .octal hbase hmark, rfl⟩
    · exact ⟨_, _, _, .decimal hbase hzero, rfl⟩
  · exact ⟨_, _, _, .asked hbase fun h hmark => hmarked ⟨.inr h, hmark⟩, rfl⟩

/-- A text has one mark and is in one base. -/
theorem InRadix.unique {base radix radix' : Nat} {mark mark' numeral numeral' : Text}
    (h : InRadix base mark radix numeral) (h' : InRadix base mark' radix' numeral')
    (heq : mark ++ numeral = mark' ++ numeral') :
    mark = mark' ∧ radix = radix' ∧ numeral = numeral' := by
  have hradix := radix_of_inRadix h
  rw [heq, radix_of_inRadix h', Prod.mk.injEq] at hradix
  obtain ⟨rfl, rfl⟩ := hradix
  exact ⟨List.append_cancel_right heq, rfl, rfl⟩

/-! ### Parts -/

/-- The parts of a text, with the base that the digits are in. -/
@[ext]
structure Parts where
  blanks : Text
  sign : Sign
  mark : Text
  radix : Nat
  digits : Text
  rest : Text

namespace Parts

/-- The text from the digits on. -/
def numeral (parts : Parts) : Text := parts.digits ++ parts.rest

/-- The text behind the sign. -/
def unsigned (parts : Parts) : Text := parts.mark ++ parts.numeral

/-- The text behind the blanks. -/
def signed (parts : Parts) : Text := parts.sign.spelling ++ parts.unsigned

def text (parts : Parts) : Text := parts.blanks ++ parts.signed

/-- The number that sign and digits stand for. -/
def value (parts : Parts) : Int := parts.sign.apply (Text.value parts.radix parts.digits)

theorem rest_suffix (parts : Parts) : parts.rest <:+ parts.text :=
  (((List.suffix_append parts.digits parts.rest).trans (List.suffix_append parts.mark _)).trans
    (List.suffix_append parts.sign.spelling _)).trans (List.suffix_append parts.blanks _)

/-- Behind digits there is less left than the whole text. -/
theorem length_rest_lt (parts : Parts) (h : parts.digits ≠ []) :
    parts.rest.length < parts.text.length := by
  have hpos := List.length_pos_iff.mpr h
  simp only [text, signed, unsigned, numeral, List.length_append]
  omega

/-- Where the parts end when a number is asked for in `base`. -/
structure WellFormed (parts : Parts) (base : Nat) : Prop where
  blank : ∀ c ∈ parts.blanks, Text.isAsciiBlank c = true
  blanks_end : Ends Text.isAsciiBlank parts.signed
  sign : parts.sign = .none → Ends (fun c => c == '+' || c == '-') parts.unsigned
  radix : InRadix base parts.mark parts.radix parts.numeral
  digit : ∀ c ∈ parts.digits, Text.isDigit parts.radix c = true
  digits_end : Ends (Text.isDigit parts.radix) parts.rest

end Parts

/-- The sign of a text is the one it begins with. -/
theorem sign_of_ends {sign : Sign} {unsigned : Text}
    (h : sign = .none → Ends (fun c => c == '+' || c == '-') unsigned) :
    Numeral.sign (sign.spelling ++ unsigned) = (decide (sign = .minus), unsigned) := by
  cases sign with
  | plus | minus => rfl
  | none =>
    cases unsigned with
    | nil => rfl
    | cons c rest =>
      obtain ⟨hplus, hminus⟩ : c ≠ '+' ∧ c ≠ '-' := by simpa using h rfl
      simp [Numeral.sign, Sign.spelling, hplus, hminus]

/-- Neither a sign nor a digit is blank. -/
theorem ends_isBlank_signed (sign : Sign) {base : Nat} {c : Char} {more : Text}
    (hc : Text.isDigit base c = true) : Ends Text.isBlank (sign.spelling ++ c :: more) := by
  cases sign with
  | none => exact (Text.ends_cons _ _ _).mpr (Text.isBlank_of_isDigit hc)
  | plus | minus => exact (Text.ends_cons _ _ _).mpr (by decide)

theorem exists_sign (text : Text) : ∃ (sign : Sign) (unsigned : Text),
    text = sign.spelling ++ unsigned ∧
      (sign = .none → Ends (fun c => c == '+' || c == '-') unsigned) := by
  cases text with
  | nil => exact ⟨.none, [], rfl, fun _ => Text.ends_nil _⟩
  | cons c rest =>
    by_cases hplus : c = '+'
    · exact ⟨.plus, rest, by rw [hplus]; rfl, by simp⟩
    by_cases hminus : c = '-'
    · exact ⟨.minus, rest, by rw [hminus]; rfl, by simp⟩
    · exact ⟨.none, c :: rest, rfl, fun _ => (Text.ends_cons _ _ _).mpr (by simp [hplus, hminus])⟩

theorem Sign.eq_of_spelling {sign other : Sign} (h : sign.spelling = other.spelling) :
    sign = other := by
  cases sign <;> cases other <;> simp_all [spelling]

/-- A text has one sign. -/
theorem sign_unique {sign other : Sign} {unsigned unsigned' : Text}
    (h : sign = .none → Ends (fun c => c == '+' || c == '-') unsigned)
    (h' : other = .none → Ends (fun c => c == '+' || c == '-') unsigned')
    (heq : sign.spelling ++ unsigned = other.spelling ++ unsigned') :
    sign = other ∧ unsigned = unsigned' := by
  have hsign := sign_of_ends h
  rw [heq, sign_of_ends h', Prod.mk.injEq] at hsign
  obtain ⟨-, rfl⟩ := hsign
  exact ⟨Sign.eq_of_spelling (List.append_cancel_right heq), rfl⟩

/-- Digits with only blanks behind them are all the digits, wherever they begin. -/
theorem Parts.wellFormed_of_digits {parts : Parts} {base first : Nat} {c : Char} {more : Text}
    (hblank : ∀ c ∈ parts.blanks, Text.isAsciiBlank c = true)
    (hunsigned : parts.unsigned = c :: more) (hc : Text.isDigit first c = true)
    (hradix : InRadix base parts.mark parts.radix parts.numeral)
    (hdigit : ∀ c ∈ parts.digits, Text.isDigit parts.radix c = true)
    (hrest : ∀ c ∈ parts.rest, Text.isBlank c = true) : parts.WellFormed base where
  blank := hblank
  blanks_end := by
    rw [signed, hunsigned]
    exact (ends_isBlank_signed parts.sign hc).mono fun _ => Text.isAsciiBlank_eq_false
  sign := by
    intro _
    obtain ⟨hplus, hminus⟩ := Text.ne_sign_of_isDigit hc
    rw [hunsigned, Text.ends_cons]
    simp [hplus, hminus]
  radix := hradix
  digit := hdigit
  digits_end := Text.ends_isDigit_of_blank hrest

/-! ### A text and its parts -/

/-- Every text falls into parts. -/
theorem exists_parts (text : Text) (base : Nat) :
    ∃ parts : Parts, parts.WellFormed base ∧ text = parts.text := by
  obtain ⟨htext, hblank, hblanks⟩ := Text.run_split Text.isAsciiBlank text
  obtain ⟨sign, unsigned, hsigned, hsign⟩ := exists_sign (text.dropWhile Text.isAsciiBlank)
  obtain ⟨mark, radix, numeral, hradix, rfl⟩ := exists_inRadix base unsigned
  obtain ⟨hnumeral, hdigit, hdigits⟩ := Text.run_split (Text.isDigit radix) numeral
  rw [hsigned] at htext hblanks
  rw [hnumeral] at htext hblanks hsign hradix
  exact ⟨⟨_, sign, mark, radix, _, _⟩, ⟨hblank, hblanks, hsign, hradix, hdigit, hdigits⟩, htext⟩

namespace Parts.WellFormed

variable {parts : Parts} {base : Nat}

/-- The sign, the base and the digits that are found in a text are those of its parts. -/
theorem body_text (h : parts.WellFormed base) :
    body parts.text base =
      (decide (parts.sign = .minus), parts.radix, parts.digits ++ parts.rest) := by
  obtain ⟨-, hsigned⟩ := Text.run_iff.mpr ⟨rfl, h.blank, h.blanks_end⟩
  have hradix : Numeral.radix base parts.unsigned = (parts.radix, parts.numeral) :=
    radix_of_inRadix h.radix
  rw [body, Parts.text, hsigned, Parts.signed, sign_of_ends h.sign]
  simp only [hradix]
  rfl

/-- A text falls into parts in one way. -/
theorem unique {other : Parts} (h : parts.WellFormed base) (h' : other.WellFormed base)
    (heq : parts.text = other.text) : parts = other := by
  obtain ⟨hblanks, hsigned⟩ := Text.run_unique heq h.blank h.blanks_end h'.blank h'.blanks_end
  obtain ⟨hsign, hunsigned⟩ := sign_unique h.sign h'.sign hsigned
  obtain ⟨hmark, hradix, hnumeral⟩ := h.radix.unique h'.radix hunsigned
  obtain ⟨hdigits, hrest⟩ := Text.run_unique hnumeral h.digit h.digits_end
    (hradix ▸ h'.digit) (hradix ▸ h'.digits_end)
  exact Parts.ext hblanks hsign hmark hradix hdigits hrest

/-- With digits in it, a text is read to the end of them. -/
theorem read64_text (h : parts.WellFormed base) (hbase : base ≠ 1 ∧ base ≤ 36)
    (hne : parts.digits ≠ []) :
    read64 parts.text base =
      (if parts.sign = .minus then -.ofNat (Text.value parts.radix parts.digits)
        else .ofNat (Text.value parts.radix parts.digits), parts.rest) := by
  rw [read64_of_body hbase h.body_text hne h.digit h.digits_end]
  simp

/-- Without digits, nothing of a text is read. -/
theorem read64_text_of_nil (h : parts.WellFormed base) (hnil : parts.digits = []) :
    read64 parts.text base = (0, parts.text) := by
  refine read64_of_no_digits ?_
  obtain ⟨hrun, -⟩ := Text.run_iff.mpr ⟨rfl, h.digit, h.digits_end⟩
  rw [h.body_text, hrun, hnil]

end Parts.WellFormed

/-! ### Values that wrap -/

/-- A number with its sign, as 64 bits hold it. -/
theorem toNat_signed (sign : Sign) (n : Nat) :
    ((if sign = .minus then -UInt64.ofNat n else UInt64.ofNat n).toNat : Int) =
      sign.apply n % (UInt64.size : Nat) := by
  have hn : (UInt64.ofNat n).toNat = n % 18446744073709551616 := UInt64.toNat_ofNat'
  rw [UInt64.size]
  cases sign with
  | none | plus =>
    simp only [Sign.apply, reduceCtorEq, if_false, hn]
    omega
  | minus =>
    simp only [Sign.apply, if_true, UInt64.toNat_neg, hn, UInt64.size]
    omega

/-- The low half of 64 bits holds as much of it as 32 bits would. -/
theorem toNat_toUInt32_of_toNat {word : UInt64} {n : Int}
    (h : (word.toNat : Int) = n % (UInt64.size : Nat)) :
    (word.toUInt32.toNat : Int) = n % (UInt32.size : Nat) := by
  rw [UInt64.size] at h
  rw [UInt32.size, UInt64.toNat_toUInt32]
  omega

/-- The value of the parts is read from a text, as 64 bits hold it. -/
theorem Parts.WellFormed.toNat_read64_text {parts : Parts} {base : Nat}
    (h : parts.WellFormed base) (hbase : base ≠ 1 ∧ base ≤ 36) (hne : parts.digits ≠ []) :
    ((read64 parts.text base).1.toNat : Int) = parts.value % (UInt64.size : Nat) ∧
      (read64 parts.text base).2 = parts.rest := by
  rw [h.read64_text hbase hne]
  exact ⟨toNat_signed _ _, rfl⟩

/-- **Reading is by parts.**  In a base that there is none of nothing is read.  In any other a text
falls into parts in one way; without digits nothing of it is read, and otherwise all of it up to
the last part is, with the value of the parts modulo 2^64 or, where 32 bits are read, 2^32. -/
theorem read64_by_parts (text : Text) (base : Nat) :
    (base = 1 ∨ 36 < base → read64 text base = (0, text) ∧ read32 text base = (0, text)) ∧
    (base ≠ 1 ∧ base ≤ 36 → ∃ parts : Parts,
      (∀ other : Parts, other.WellFormed base ∧ text = other.text ↔ other = parts) ∧
      (parts.digits = [] → read64 text base = (0, text) ∧ read32 text base = (0, text)) ∧
      (parts.digits ≠ [] →
        ((read64 text base).1.toNat : Int) = parts.value % (UInt64.size : Nat) ∧
        ((read32 text base).1.toNat : Int) = parts.value % (UInt32.size : Nat) ∧
        (read64 text base).2 = parts.rest ∧ (read32 text base).2 = parts.rest ∧
        parts.rest <:+ text ∧ parts.rest.length < text.length)) := by
  have hzero : read64 text base = (0, text) →
      read64 text base = (0, text) ∧ read32 text base = (0, text) := fun h =>
    ⟨h, by rw [read32, h]; rfl⟩
  refine ⟨fun hbase => hzero (if_pos hbase), fun hbase => ?_⟩
  obtain ⟨parts, hparts, rfl⟩ := exists_parts text base
  refine ⟨parts, fun other => ⟨?_, ?_⟩, fun hnil => hzero (hparts.read64_text_of_nil hnil),
    fun hne => ?_⟩
  · rintro ⟨hother, htext⟩
    exact hother.unique hparts htext.symm
  · rintro rfl
    exact ⟨hparts, rfl⟩
  · obtain ⟨hvalue, hrest⟩ := hparts.toNat_read64_text hbase hne
    exact ⟨hvalue, toNat_toUInt32_of_toNat hvalue, hrest, hrest, parts.rest_suffix,
      parts.length_rest_lt hne⟩

/-- Minus 31; without a digit of base 16 behind it, `0x` is the octal 0 and a letter. -/
example : read64 " -0x1Fg".toList 0 = (18446744073709551585, ['g']) ∧
    read64 " -0xg".toList 0 = (0, "xg".toList) := by
  decide

end DriverPrintf.Numeral
