import DriverPrintf.Proofs.Command.Integers

/-!
# Command — the sign of a number

A text is looked over three times before it is an integer.  The numeral in it is read behind ASCII
blanks, with its sign, modulo 2^64.  Whether there was one shows in how much text is left.  And when
the range is checked, a minus sign is looked for once more, behind any blanks.  None of the three is
told what the others have found.

They agree on the parts of the text: other blanks than ASCII ones in front of a numeral leave no
numeral to be read, so wherever there is a number, both scans have stopped at the same place.  What
has been negated to 64 bits is then negated back, and the range is checked of the magnitude itself.

* **The scans agree** (`scans_agree`): on every text, about its digits and its sign; and so each
  integer is that of its sign and its magnitude modulo 2^64.
-/

namespace DriverPrintf

open Numeral (Parts)

/-- The number in the digits, as 64 bits hold it. -/
def Numeral.Parts.magnitude (parts : Parts) : Nat :=
  Text.value parts.radix parts.digits % UInt64.size

namespace Arguments

/-- The integer of a sign and a magnitude: the two's complement of a negative one down to -2^31, and
what is below 2^32 of the others. -/
def ofMagnitude (negative : Bool) (magnitude : Nat) : Except ArgumentFault UInt32 :=
  if negative then
    if magnitude ≤ 0x80000000 then .ok (.ofNat ((UInt32.size - magnitude) % UInt32.size))
    else .error (.belowSignedRange (.ofNat magnitude))
  else if magnitude < UInt32.size then .ok (.ofNat magnitude)
  else .error (.tooLarge (.ofNat magnitude))

/-- The low half of a word negates as the word does. -/
theorem neg_toUInt32_eq {word : UInt64} {n : Nat} (h : word.toNat = n) (hle : n ≤ 0x80000000) :
    -word.toUInt32 = .ofNat ((UInt32.size - n) % UInt32.size) := by
  rw [← UInt32.toNat_inj, UInt32.toNat_neg, UInt64.toNat_toUInt32, UInt32.toNat_ofNat', h,
    UInt32.size]
  omega

/-- **A negation undone.**  The check of the range sees the magnitude, not what 64 bits have made
of the number. -/
theorem integer_eq_ofMagnitude {text : Text} {negative : Bool} {n : Nat}
    (hnumber : number text = .ok (if negative then -.ofNat n else .ofNat n))
    (hsign : isNegative text = negative) :
    integer text = ofMagnitude negative (n % UInt64.size) := by
  have hword : (UInt64.ofNat n).toNat = n % UInt64.size := UInt64.toNat_ofNat'
  have hbits : .ofNat (n % UInt64.size) = UInt64.ofNat n := by
    rw [← hword, UInt64.ofNat_toNat]
  rw [integer, hnumber, ofMagnitude, hbits]
  simp only [bind, Except.bind, hsign]
  cases negative with
  | true =>
    simp only [if_true, UInt64.neg_neg, hword]
    by_cases hbelow : 0x80000000 < n % UInt64.size
    · rw [if_pos hbelow, if_neg (Nat.not_le_of_lt hbelow)]
    · rw [if_neg hbelow, if_pos (Nat.le_of_not_lt hbelow),
        neg_toUInt32_eq hword (Nat.le_of_not_lt hbelow)]
  | false =>
    simp only [Bool.false_eq_true, if_false, hword]
    refine if_congr Iff.rfl (congrArg Except.ok ?_) rfl
    rw [← UInt32.toNat_inj, UInt64.toNat_toUInt32, UInt32.toNat_ofNat', hword]

variable {parts : Parts}

/-- Whether less is left than there was tells whether there was a digit. -/
theorem length_read64_eq_iff (h : parts.WellFormed 0) :
    (Numeral.read64 parts.text 0).2.length = parts.text.length ↔ parts.digits = [] := by
  constructor
  · intro hlength
    by_contra hne
    rw [h.read64_text (by decide) hne] at hlength
    exact Nat.ne_of_lt (parts.length_rest_lt hne) hlength
  · intro hnil
    rw [h.read64_text_of_nil hnil]

/-- A text is a number if there are digits in it and only blanks behind them. -/
theorem exists_number_text_iff (h : parts.WellFormed 0) :
    (∃ value, number parts.text = .ok value) ↔ parts.IsWhole := by
  constructor
  · rintro ⟨value, hvalue⟩
    exact ((number_text h).mp hvalue).1
  · intro hwhole
    exact ⟨_, (number_text h).mpr ⟨hwhole, rfl⟩⟩

/-- What is not a number is reported as such, whatever sign it has. -/
theorem integer_of_not_whole (h : parts.WellFormed 0) (hnot : ¬ parts.IsWhole) :
    integer parts.text = .error .notANumber := by
  cases hnumber : number parts.text with
  | ok value => exact absurd ((exists_number_text_iff h).mp ⟨value, hnumber⟩) hnot
  | error fault =>
    have hfault : fault = .notANumber := by
      rw [number] at hnumber
      dsimp only at hnumber
      split at hnumber
      · exact (Except.error.inj hnumber).symm
      · cases hnumber
    rw [integer, hnumber, hfault]
    rfl

/-- **The scans agree.**  Every text has its parts, in one way.  A digit was read exactly if less is
left than there was, and the text is a number exactly if only blanks come behind the digits; then
the two scans find the same sign, and the integer is that of this sign and of the magnitude of the
digits modulo 2^64. -/
theorem scans_agree (text : Text) :
    ∃ parts : Parts, (∀ other : Parts, other.WellFormed 0 ∧ text = other.text ↔ other = parts) ∧
      ((Numeral.read64 text 0).2.length = text.length ↔ parts.digits = []) ∧
      (parts.digits ≠ [] → (Numeral.read64 text 0).2 = parts.rest) ∧
      ((∃ value, number text = .ok value) ↔
        parts.digits ≠ [] ∧ ∀ c ∈ parts.rest, Text.isBlank c = true) ∧
      ((∃ value, number text = .ok value) →
        isNegative text = (Numeral.body text 0).1 ∧
        (isNegative text = true ↔ parts.sign = .minus) ∧
        integer text = ofMagnitude (isNegative text) parts.magnitude) ∧
      ((¬ ∃ value, number text = .ok value) → integer text = .error .notANumber) := by
  obtain ⟨parts, hparts, rfl⟩ := Numeral.exists_parts text 0
  have hnumber := exists_number_text_iff hparts
  refine ⟨parts, fun other => ⟨?unique, ?parts⟩, length_read64_eq_iff hparts, fun hne => ?rest,
    ?whole, fun hvalue => ?sign, fun hnot => integer_of_not_whole hparts (hnumber.not.mp hnot)⟩
  case unique =>
    rintro ⟨hother, htext⟩
    exact hother.unique hparts htext.symm
  case parts =>
    rintro rfl
    exact ⟨hparts, rfl⟩
  case rest => rw [hparts.read64_text (by decide) hne]
  case whole =>
    rw [hnumber]
    exact ⟨fun hwhole => ⟨hwhole.ne_nil, hwhole.blank⟩, fun h => ⟨h.1, h.2⟩⟩
  case sign =>
    have hwhole := hnumber.mp hvalue
    have hsign := isNegative_of_spells (spells_text hparts hwhole)
    have hread := (number_text hparts).mpr ⟨hwhole, rfl⟩
    refine ⟨by rw [hsign, hparts.body_text], by rw [hsign, decide_eq_true_iff], ?_⟩
    refine integer_eq_ofMagnitude ?_ rfl
    rw [hread, hsign]
    simp only [decide_eq_true_eq]

/-- Behind a blank that is not an ASCII one the two scans do not agree, but there is no number. -/
example : isNegative "\u00a0-5".toList = true ∧ (Numeral.body "\u00a0-5".toList 0).1 = false ∧
    number "\u00a0-5".toList = .error .notANumber := by
  decide

end Arguments

end DriverPrintf
