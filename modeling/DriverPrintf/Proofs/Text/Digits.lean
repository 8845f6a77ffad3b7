import DriverPrintf.Proofs.Text.Runs
import DriverPrintf.Text.Blank

/-!
# Text — numbers written in digits

A number is written with its last digit behind the digits of the number without it, so what holds
of its digits follows by taking the last one off.  Every digit of `decimal n` and of `hex letters n`
is one of its base (`isDigit_of_mem_decimal`, `isDigit_of_mem_hex`), and their value is `n`
(`value_decimal`, `value_hex`).

`Writes` says the same without a way to find the digits: some characters of a set, the first of them
not a zero that could be left out, and their value.  If the set has one character for each digit of
the base (`IsDigitSet`), a number has one such numeral (`Writes.unique`), which is the one that is
written (`isDecimal_iff`, `isHexIn_iff`).
-/

namespace DriverPrintf.Text

/-! ### The digits of a base -/

theorem digitValue?_digitChar_of_lt {base digit : Nat} (hbase : base ≤ 16) (h : digit < base) :
    digitValue? base digit.digitChar = some digit := by
  have hall : ∀ b ∈ List.range 17, ∀ d ∈ List.range b, digitValue? b d.digitChar = some d := by
    decide
  exact hall base (List.mem_range.mpr (Nat.lt_succ_of_le hbase)) digit (List.mem_range.mpr h)

/-- Every character of a number is a digit of its base. -/
theorem exists_of_mem_toDigits {base n : Nat} (hbase : 1 < base) {c : Char}
    (h : c ∈ Nat.toDigits base n) : ∃ digit < base, c = digit.digitChar := by
  induction n using Nat.strongRecOn with
  | ind n ih =>
    rw [Nat.toDigits_eq_if hbase] at h
    split at h
    · rename_i hlt
      exact ⟨n, hlt, List.mem_singleton.mp h⟩
    · rename_i hge
      rcases List.mem_append.mp h with hfront | hlast
      · exact ih _ (Nat.div_lt_self (by omega) hbase) hfront
      · exact ⟨n % base, Nat.mod_lt _ (by omega), List.mem_singleton.mp hlast⟩

/-- A number other than 0 does not begin with the digit 0. -/
theorem head?_toDigits_ne_zero {base n : Nat} (hbase : 1 < base) (hle : base ≤ 16) (h : 0 < n) :
    (Nat.toDigits base n).head? ≠ some '0' := by
  have hdigit : ∀ d ∈ List.range 16, d ≠ 0 → [d.digitChar].head? ≠ some '0' := by decide
  induction n using Nat.strongRecOn with
  | ind n ih =>
    rw [Nat.toDigits_eq_if hbase]
    split
    · rename_i hlt
      exact hdigit n (List.mem_range.mpr (Nat.lt_of_lt_of_le hlt hle)) (Nat.ne_of_gt h)
    · rename_i hge
      have hpos : 0 < n / base := Nat.div_pos (Nat.le_of_not_lt hge) (by omega)
      obtain ⟨c, more, hcons⟩ := List.exists_cons_of_ne_nil (@Nat.toDigits_ne_nil (n / base) base)
      have hfirst := ih _ (Nat.div_lt_self h hbase) hpos
      rw [hcons] at hfirst ⊢
      exact hfirst

/-- A digit of any base is a decimal digit or a letter. -/
theorem toNat_of_isDigit {base : Nat} {c : Char} (h : isDigit base c = true) :
    48 ≤ c.toNat ∧ c.toNat ≤ 57 ∨ 65 ≤ c.toNat ∧ c.toNat ≤ 90 ∨ 97 ≤ c.toNat ∧ c.toNat ≤ 122 := by
  obtain ⟨digit, hdigit⟩ := Option.isSome_iff_exists.mp h
  obtain ⟨hvalue, -⟩ := Option.filter_eq_some_iff.mp hdigit
  split at hvalue
  · rename_i hrange
    exact .inl hrange
  split at hvalue
  · rename_i hrange
    exact .inr (.inr hrange)
  split at hvalue
  · rename_i hrange
    exact .inr (.inl hrange)
  · cases hvalue

theorem isBlank_of_isDigit {base : Nat} {c : Char} (h : isDigit base c = true) :
    isBlank c = false := by
  have hc := toNat_of_isDigit h
  simp [isBlank, inRanges, blankRanges]
  omega

theorem ne_sign_of_isDigit {base : Nat} {c : Char} (h : isDigit base c = true) :
    c ≠ '+' ∧ c ≠ '-' := by
  have hc := toNat_of_isDigit h
  constructor
  · rintro rfl
    revert hc
    decide
  · rintro rfl
    revert hc
    decide

/-- Blanks end every run of digits. -/
theorem ends_isDigit_of_blank {base : Nat} {text : Text}
    (h : ∀ c ∈ text, isBlank c = true) : Ends (isDigit base) text := by
  intro c hc
  cases hdigit : isDigit base c with
  | false => rfl
  | true =>
    have hblank := h c (List.mem_of_head? hc)
    rw [isBlank_of_isDigit hdigit] at hblank
    cases hblank

/-! ### Their value -/

theorem value_concat (base : Nat) (digits : Text) (c : Char) :
    value base (digits ++ [c]) = value base digits * base + (digitValue? base c).getD 0 := by
  rw [value, List.reverse_append, List.reverse_singleton, List.singleton_append, List.map_cons,
    Nat.ofDigits_cons, Nat.mul_comm, Nat.add_comm]
  rfl

theorem value_map {base : Nat} {f : Char → Char} {digits : Text}
    (h : ∀ c ∈ digits, digitValue? base (f c) = digitValue? base c) :
    value base (digits.map f) = value base digits := by
  rw [value, ← List.map_reverse, List.map_map, value]
  refine congrArg _ (List.map_congr_left fun c hc => ?_)
  rw [Function.comp_apply, h c (List.mem_reverse.mp hc)]

/-- Writing a number and reading its digits gives the number back. -/
theorem value_toDigits {base : Nat} (hbase : 1 < base) (hle : base ≤ 16) (n : Nat) :
    value base (Nat.toDigits base n) = n := by
  induction n using Nat.strongRecOn with
  | ind n ih =>
    rw [Nat.toDigits_eq_if hbase]
    split
    · rename_i hlt
      simp [value, digitValue?_digitChar_of_lt hle hlt]
    · rename_i hge
      have hlt : n % base < base := Nat.mod_lt _ (by omega)
      rw [value_concat, ih _ (Nat.div_lt_self (by omega) hbase),
        digitValue?_digitChar_of_lt hle hlt, Option.getD_some, Nat.div_add_mod']

/-! ### Decimal and hexadecimal -/

theorem decimal_ne_nil (n : Nat) : decimal n ≠ [] := Nat.toDigits_ne_nil

theorem value_decimal (n : Nat) : value 10 (decimal n) = n :=
  value_toDigits (by decide) (by decide) n

theorem decimal_injective {m n : Nat} (h : decimal m = decimal n) : m = n := by
  rw [← value_decimal m, h, value_decimal]

theorem toList_toString (n : Nat) : (toString n).toList = decimal n := String.toList_ofList

theorem isDigit_of_mem_decimal {n : Nat} {c : Char} (h : c ∈ decimal n) :
    isDigit 10 c = true := by
  obtain ⟨digit, hlt, rfl⟩ := exists_of_mem_toDigits (by decide) h
  rw [isDigit, digitValue?_digitChar_of_lt (by decide) hlt]
  rfl

/-- Upper case changes no digit. -/
theorem digitValue?_toUpper {n : Nat} {c : Char} (h : c ∈ Nat.toDigits 16 n) :
    digitValue? 16 c.toUpper = digitValue? 16 c := by
  obtain ⟨digit, hlt, rfl⟩ := exists_of_mem_toDigits (by decide) h
  rw [digitValue?_toUpper_digitChar hlt, digitValue?_digitChar hlt]

theorem hex_ne_nil (letters : LetterCase) (n : Nat) : hex letters n ≠ [] := by
  cases letters with
  | lower => exact Nat.toDigits_ne_nil
  | upper => exact fun h => Nat.toDigits_ne_nil (List.map_eq_nil_iff.mp h)

theorem value_hex (letters : LetterCase) (n : Nat) : value 16 (hex letters n) = n := by
  cases letters with
  | lower => exact value_toDigits (by decide) (by decide) n
  | upper =>
    rw [hex, value_map fun c hc => digitValue?_toUpper hc]
    exact value_toDigits (by decide) (by decide) n

theorem isDigit_of_mem_hex {letters : LetterCase} {n : Nat} {c : Char} (h : c ∈ hex letters n) :
    isDigit 16 c = true := by
  have hlower : ∀ {c}, c ∈ Nat.toDigits 16 n → isDigit 16 c = true := by
    intro c hc
    obtain ⟨digit, hlt, rfl⟩ := exists_of_mem_toDigits (by decide) hc
    rw [isDigit, digitValue?_digitChar hlt]
    rfl
  cases letters with
  | lower => exact hlower h
  | upper =>
    obtain ⟨d, hd, rfl⟩ := List.mem_map.mp h
    rw [isDigit, digitValue?_toUpper hd]
    exact hlower hd

/-! ### The only numeral of a number -/

/-- The characters of `own` are the digits of a base, `digit d` the one worth `d`. -/
structure IsDigitSet (base : Nat) (own : Char → Prop) (digit : Nat → Char) : Prop where
  own_iff : ∀ c, own c ↔ ∃ d < base, c = digit d
  value : ∀ d < base, digitValue? base (digit d) = some d
  zero : digit 0 = '0'

/-- `text` is `n` in a base, in characters of `own` and without leading zeros. -/
structure Writes (base : Nat) (own : Char → Prop) (n : Nat) (text : Text) : Prop where
  ne_nil : text ≠ []
  digit : ∀ c ∈ text, own c
  value : Text.value base text = n
  leading : text.head? = some '0' → text = ['0']

section

variable {base n : Nat} {own : Char → Prop} {digit : Nat → Char} (hown : IsDigitSet base own digit)

include hown

theorem IsDigitSet.inj {d e : Nat} (hd : d < base) (he : e < base) (h : digit d = digit e) :
    d = e := by
  have hvalue := hown.value d hd
  rw [h, hown.value e he] at hvalue
  exact (Option.some.inj hvalue).symm

/-- Digits that do not begin with a 0 are not worth 0. -/
theorem Writes.pos {text : Text} (h : Writes base own n text) (hzero : text.head? ≠ some '0') :
    0 < n := by
  obtain ⟨c, more, rfl⟩ := List.exists_cons_of_ne_nil h.ne_nil
  obtain ⟨d, hlt, rfl⟩ := (hown.own_iff c).mp (h.digit c List.mem_cons_self)
  have hpos : 0 < d := Nat.pos_of_ne_zero fun hd => hzero (by rw [hd, hown.zero]; rfl)
  rw [← h.value, value_cons, hown.value d hlt]
  exact Nat.add_pos_left (Nat.mul_pos hpos (Nat.pow_pos (Nat.zero_lt_of_lt hlt))) _

/-- The last digit of a numeral is the remainder, and what is before it is nothing, or a numeral of
the quotient that is not 0. -/
theorem Writes.exists_concat {text : Text} (h : Writes base own n text) :
    ∃ front, text = front ++ [digit (n % base)] ∧
      (front = [] ∧ n / base = 0 ∨ Writes base own (n / base) front ∧ 0 < n / base) := by
  obtain ⟨front, last, rfl⟩ : ∃ front last, text = front ++ [last] :=
    ⟨_, _, (List.dropLast_concat_getLast h.ne_nil).symm⟩
  obtain ⟨d, hlt, rfl⟩ := (hown.own_iff last).mp (h.digit last (by simp))
  have hvalue : Text.value base front * base + d = n := by
    rw [← h.value, value_concat, hown.value d hlt, Option.getD_some]
  have hpos : 0 < base := Nat.zero_lt_of_lt hlt
  have hmod : n % base = d := by rw [← hvalue, Nat.mul_add_mod', Nat.mod_eq_of_lt hlt]
  have hdiv : n / base = Text.value base front := by
    rw [← hvalue, Nat.add_comm, Nat.add_mul_div_right _ _ hpos, Nat.div_eq_of_lt hlt, Nat.zero_add]
  rw [hmod, hdiv]
  refine ⟨front, rfl, ?_⟩
  by_cases hfront : front = []
  · exact .inl ⟨hfront, by rw [hfront]; rfl⟩
  · have hhead : front.head? ≠ some '0' := by
      intro hzero
      have hone := congrArg List.length (h.leading (by rw [List.head?_append, hzero]; rfl))
      exact hfront (by simpa using hone)
    have hquotient : Writes base own (Text.value base front) front :=
      ⟨hfront, fun c hc => h.digit c (List.mem_append_left _ hc), rfl, fun e => absurd e hhead⟩
    exact .inr ⟨hquotient, hquotient.pos hown hhead⟩

/-- **A number has one numeral** in a set of digits. -/
theorem Writes.unique (hbase : 1 < base) {text other : Text} (h : Writes base own n text)
    (h' : Writes base own n other) : text = other := by
  induction n using Nat.strongRecOn generalizing text other with
  | ind n ih =>
    obtain ⟨front, rfl, hfront⟩ := h.exists_concat hown
    obtain ⟨front', rfl, hfront'⟩ := h'.exists_concat hown
    rcases hfront with ⟨rfl, hzero⟩ | ⟨hfront, hpos⟩
    · rcases hfront' with ⟨rfl, -⟩ | ⟨-, hpos⟩
      · rfl
      · exact absurd hzero (Nat.ne_of_gt hpos)
    · rcases hfront' with ⟨rfl, hzero⟩ | ⟨hfront', -⟩
      · exact absurd hzero (Nat.ne_of_gt hpos)
      · have hn : n ≠ 0 := fun hn => by simp [hn] at hpos
        have hlt : n / base < n := Nat.div_lt_self (Nat.pos_of_ne_zero hn) hbase
        rw [ih _ hlt hfront hfront']

/-- The digits of a number written out are a numeral of it, if `f` takes them to those of the
set. -/
theorem IsDigitSet.writes_toDigits (hbase : 1 < base) (hle : base ≤ 16) {f : Char → Char}
    (hf : ∀ d < base, f d.digitChar = digit d) (n : Nat) :
    Writes base own n ((Nat.toDigits base n).map f) where
  ne_nil h := Nat.toDigits_ne_nil (List.map_eq_nil_iff.mp h)
  digit := by
    intro c hc
    obtain ⟨e, he, rfl⟩ := List.mem_map.mp hc
    obtain ⟨d, hlt, rfl⟩ := exists_of_mem_toDigits hbase he
    exact (hown.own_iff _).mpr ⟨d, hlt, hf d hlt⟩
  value := by
    rw [value_map, value_toDigits hbase hle]
    intro c hc
    obtain ⟨d, hlt, rfl⟩ := exists_of_mem_toDigits hbase hc
    rw [hf d hlt, hown.value d hlt, digitValue?_digitChar_of_lt hle hlt]
  leading := by
    intro hhead
    have hzero : 0 < base := Nat.zero_lt_of_lt hbase
    by_cases hn : n = 0
    · have hfirst : f '0' = '0' := (hf 0 hzero).trans hown.zero
      rw [hn, Nat.toDigits_zero, List.map_singleton, hfirst]
    · -- the first digit is not 0, and `f` takes no other to the character of 0
      rw [List.head?_map] at hhead
      obtain ⟨c, hfirst, hc⟩ := Option.map_eq_some_iff.mp hhead
      obtain ⟨d, hlt, rfl⟩ := exists_of_mem_toDigits hbase (List.mem_of_head? hfirst)
      rw [hf d hlt, ← hown.zero] at hc
      rw [hown.inj hlt hzero hc] at hfirst
      exact absurd hfirst (head?_toDigits_ne_zero hbase hle (Nat.pos_of_ne_zero hn))

/-- **The numeral of a number** is its digits written out. -/
theorem IsDigitSet.writes_iff (hbase : 1 < base) (hle : base ≤ 16) {f : Char → Char}
    (hf : ∀ d < base, f d.digitChar = digit d) {text : Text} :
    Writes base own n text ↔ text = (Nat.toDigits base n).map f := by
  have hdigits := hown.writes_toDigits hbase hle hf n
  constructor
  · intro h
    exact h.unique hown hbase hdigits
  · rintro rfl
    exact hdigits

end

/-! ### Decimal and hexadecimal numerals -/

/-- The characters of a block are consecutive digits. -/
theorem exists_digit_of_block {first last : Char} {digit : Nat → Char} {value : Nat}
    (hblock : ∀ d ∈ List.range (last.toNat + 1 - first.toNat),
      Char.ofNat (first.toNat + d) = digit (value + d)) {c : Char} (h : first ≤ c ∧ c ≤ last) :
    ∃ d < value + (last.toNat + 1 - first.toNat), c = digit d := by
  have hlow : first.toNat ≤ c.toNat := h.1
  have hhigh : c.toNat ≤ last.toNat := h.2
  refine ⟨value + (c.toNat - first.toNat), by omega, ?_⟩
  rw [← hblock _ (List.mem_range.mpr (by omega)), Nat.add_sub_cancel' hlow, Char.ofNat_toNat]

theorem isDigitSet_decimal : IsDigitSet 10 (fun c => '0' ≤ c ∧ c ≤ '9') Nat.digitChar where
  own_iff c := by
    constructor
    · intro h
      have hblock : ∀ d ∈ List.range 10, Char.ofNat (48 + d) = (0 + d).digitChar := by decide
      exact @exists_digit_of_block '0' '9' _ 0 hblock c h
    · rintro ⟨d, hlt, rfl⟩
      have hall : ∀ d ∈ List.range 10, '0' ≤ d.digitChar ∧ d.digitChar ≤ '9' := by decide
      exact hall d (List.mem_range.mpr hlt)
  value d := digitValue?_digitChar_of_lt (by decide)
  zero := rfl

/-- The decimal digits and a block of six letters. -/
theorem isDigitSet_hex {first last : Char} {digit : Nat → Char}
    (hdecimal : ∀ d ∈ List.range 10, Char.ofNat (48 + d) = digit (0 + d))
    (hletter : ∀ d ∈ List.range (last.toNat + 1 - first.toNat),
      Char.ofNat (first.toNat + d) = digit (10 + d)) (hsize : last.toNat = first.toNat + 5)
    (hall : ∀ d ∈ List.range 16, ('0' ≤ digit d ∧ digit d ≤ '9' ∨
      first ≤ digit d ∧ digit d ≤ last) ∧ digitValue? 16 (digit d) = some d) :
    IsDigitSet 16 (fun c => '0' ≤ c ∧ c ≤ '9' ∨ first ≤ c ∧ c ≤ last) digit where
  own_iff c := by
    constructor
    · rintro (h | h)
      · obtain ⟨d, hlt, hd⟩ := @exists_digit_of_block '0' '9' digit 0 hdecimal c h
        exact ⟨d, Nat.lt_trans hlt (by decide), hd⟩
      · obtain ⟨d, hlt, hd⟩ := exists_digit_of_block hletter h
        exact ⟨d, by omega, hd⟩
    · rintro ⟨d, hlt, rfl⟩
      exact (hall d (List.mem_range.mpr hlt)).1
  value d hlt := (hall d (List.mem_range.mpr hlt)).2
  zero := (hdecimal 0 (by decide)).symm

theorem isDigitSet_lowerHex :
    IsDigitSet 16 (fun c => '0' ≤ c ∧ c ≤ '9' ∨ 'a' ≤ c ∧ c ≤ 'f') Nat.digitChar :=
  isDigitSet_hex (by decide) (by decide) (by decide) (by decide)

theorem isDigitSet_upperHex :
    IsDigitSet 16 (fun c => '0' ≤ c ∧ c ≤ '9' ∨ 'A' ≤ c ∧ c ≤ 'F') (·.digitChar.toUpper) :=
  isDigitSet_hex (by decide) (by decide) (by decide) (by decide)

/-- `text` is `n` in decimal, without leading zeros. -/
def IsDecimal (n : Nat) (text : Text) : Prop := Writes 10 (fun c => '0' ≤ c ∧ c ≤ '9') n text

theorem isDecimal_iff {n : Nat} {text : Text} : IsDecimal n text ↔ text = decimal n := by
  have hiff : IsDecimal n text ↔ text = (Nat.toDigits 10 n).map id :=
    isDigitSet_decimal.writes_iff (by decide) (by decide) fun _ _ => rfl
  rwa [List.map_id] at hiff

/-- `text` is `n` in lowercase hexadecimal, without leading zeros. -/
structure IsLowerHex (n : Nat) (text : Text) : Prop where
  ne_nil : text ≠ []
  digit : ∀ c ∈ text, '0' ≤ c ∧ c ≤ '9' ∨ 'a' ≤ c ∧ c ≤ 'f'
  value : Text.value 16 text = n
  leading : text.head? = some '0' → text = ['0']

theorem isLowerHex_iff {n : Nat} {text : Text} : IsLowerHex n text ↔ text = hex .lower n := by
  have hiff : Writes 16 _ n text ↔ text = (Nat.toDigits 16 n).map id :=
    isDigitSet_lowerHex.writes_iff (by decide) (by decide) fun _ _ => rfl
  rw [List.map_id] at hiff
  rw [hex, ← hiff]
  constructor
  · rintro ⟨hne, hdigit, hvalue, hleading⟩
    exact ⟨hne, hdigit, hvalue, hleading⟩
  · rintro ⟨hne, hdigit, hvalue, hleading⟩
    exact ⟨hne, hdigit, hvalue, hleading⟩

/-- `text` is `n` in hexadecimal, with letters of one case and without leading zeros. -/
def IsHexIn : LetterCase → Nat → Text → Prop
  | .lower => IsLowerHex
  | .upper => Writes 16 fun c => '0' ≤ c ∧ c ≤ '9' ∨ 'A' ≤ c ∧ c ≤ 'F'

theorem isHexIn_iff {letters : LetterCase} {n : Nat} {text : Text} :
    IsHexIn letters n text ↔ text = hex letters n := by
  cases letters with
  | lower => exact isLowerHex_iff
  | upper => exact isDigitSet_upperHex.writes_iff (by decide) (by decide) fun _ _ => rfl

end DriverPrintf.Text
