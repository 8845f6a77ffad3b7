import DriverPrintf.Proofs.Command.Agreement
import DriverPrintf.Proofs.Numeral
import DriverPrintf.Proofs.Words

/-!
# Command — writing arguments

`WrittenAs arg text` lists the ways to write an argument as a text: an integer without a sign, as
a signed number, or in hexadecimal; an address in decimal or hexadecimal; a string as itself; and
a character as a text of its own.  Each of them is read back to the same argument
(`ofText_of_writtenAs`), although a text is read without knowing which way it was written.

* **Every call can be written** (`ofTexts_of_writtenAs`): whatever the arguments that the
  conversions of a template take, the command reads them back from texts they are written as, and
  there are such texts if the strings and characters among them are texts at all.
-/

namespace DriverPrintf

open Text (decimal hex IsUtf8)

/-- A number in decimal with a minus sign if it is negative. -/
def signedDecimal : Int → Text
  | .ofNat n => decimal n
  | .negSucc n => '-' :: decimal (n + 1)

/-- A number in hexadecimal, with a base mark and letters in either case. -/
inductive IsHex (n : Nat) : Text → Prop where
  | intro {mark : Char} (h : mark = 'x' ∨ mark = 'X') (letters : LetterCase) :
      IsHex n ('0' :: mark :: hex letters n)

/-- The ways to write an argument. -/
inductive WrittenAs : Arg → Text → Prop where
  | unsigned (word : UInt32) : WrittenAs (.integer word) (decimal word.toNat)
  | signed (word : UInt32) : WrittenAs (.integer word) (signedDecimal word.toInt32.toInt)
  | hex {word : UInt32} {text : Text} (h : IsHex word.toNat text) : WrittenAs (.integer word) text
  | pointer (address : UInt64) : WrittenAs (.pointer address) (decimal address.toNat)
  | pointerHex {address : UInt64} {text : Text} (h : IsHex address.toNat text) :
      WrittenAs (.pointer address) text
  | busAddress (address : UInt64) : WrittenAs (.busAddress address) (decimal address.toNat)
  | busAddressHex {address : UInt64} {text : Text} (h : IsHex address.toNat text) :
      WrittenAs (.busAddress address) text
  | string (text : Text) : WrittenAs (.string (Text.utf8 text)) text
  | char {byte : UInt8} (h : byte < 0x80) : WrittenAs (.char byte) [Char.ofNat byte.toNat]

/-- An argument that is text can be written. -/
theorem exists_writtenAs {arg : Arg} (h : arg.IsText) : ∃ text, WrittenAs arg text := by
  cases arg with
  | integer word => exact ⟨_, .unsigned word⟩
  | pointer address => exact ⟨_, .pointer address⟩
  | busAddress address => exact ⟨_, .busAddress address⟩
  | char byte => exact ⟨_, .char h⟩
  | string bytes =>
    obtain ⟨text, rfl⟩ := h
    exact ⟨text, .string text⟩

theorem exists_forall₂_writtenAs {args : List Arg} (h : ∀ arg ∈ args, arg.IsText) :
    ∃ texts, List.Forall₂ WrittenAs args texts := by
  induction args with
  | nil => exact ⟨[], .nil⟩
  | cons arg args ih =>
    obtain ⟨harg, hargs⟩ := List.forall_mem_cons.mp h
    obtain ⟨text, htext⟩ := exists_writtenAs harg
    obtain ⟨texts, htexts⟩ := ih hargs
    exact ⟨text :: texts, .cons htext htexts⟩

namespace Arguments

/-! ### Numbers -/

/-- A text that is read to its end is a number. -/
theorem number_of_read64 {text : Text} {value : UInt64} (hne : text ≠ [])
    (h : Numeral.read64 text 0 = (value, [])) : number text = .ok value := by
  have hlength : ¬ 0 = text.length := fun heq => hne (List.length_eq_zero_iff.mp heq.symm)
  rw [number, h]
  simp [hlength]

theorem number_decimal (n : Nat) : number (decimal n) = .ok (.ofNat n) :=
  number_of_read64 (Text.decimal_ne_nil n) (Numeral.read64_decimal n)

theorem number_minus_decimal (n : Nat) : number ('-' :: decimal n) = .ok (-.ofNat n) :=
  number_of_read64 (List.cons_ne_nil _ _) (Numeral.read64_minus_decimal n)

theorem number_hex {n : Nat} {text : Text} (h : IsHex n text) : number text = .ok (.ofNat n) := by
  obtain ⟨hmark, letters⟩ := h
  exact number_of_read64 (List.cons_ne_nil _ _) (Numeral.read64_hex (.inl rfl) hmark letters n)

/-! ### Integers -/

theorem isNegative_of_digit {c : Char} (hc : Text.isDigit 10 c = true) (more : Text) :
    isNegative (c :: more) = false := by
  obtain ⟨-, hminus⟩ := Text.ne_sign_of_isDigit hc
  rw [isNegative, List.dropWhile_cons_of_neg (by simp [Text.isBlank_of_isDigit hc])]
  simp [hminus]

theorem isNegative_decimal (n : Nat) : isNegative (decimal n) = false := by
  obtain ⟨c, more, hcons⟩ := List.exists_cons_of_ne_nil (Text.decimal_ne_nil n)
  rw [hcons]
  exact isNegative_of_digit (Text.isDigit_of_mem_decimal (hcons ▸ List.mem_cons_self)) more

/-- A number without a sign that fits in a word is that word. -/
theorem integer_of_number {text : Text} {n : Nat} (hnumber : number text = .ok (.ofNat n))
    (hsign : isNegative text = false) (hn : n < UInt32.size) :
    integer text = .ok (.ofNat n) := by
  have hvalue : (UInt64.ofNat n).toNat = n :=
    UInt64.toNat_ofNat_of_lt' (Nat.lt_trans hn (by decide))
  rw [integer, hnumber]
  simp only [bind, Except.bind, hsign, Bool.false_eq_true, if_false, hvalue, hn, if_true,
    UInt64.toUInt32_ofNat']

/-- A number with a minus sign that is not below the least signed word is its two's complement. -/
theorem integer_of_minus {text : Text} {n : Nat} (hnumber : number text = .ok (-.ofNat n))
    (hsign : isNegative text = true) (hn : n ≤ 0x80000000) :
    integer text = .ok (-.ofNat n) := by
  have hvalue : (UInt64.ofNat n).toNat = n :=
    UInt64.toNat_ofNat_of_lt' (Nat.lt_of_le_of_lt hn (by decide))
  rw [integer, hnumber]
  simp only [bind, Except.bind, hsign, if_true, UInt64.neg_neg, hvalue, Nat.not_lt_of_le hn,
    if_false, UInt64.toUInt32_ofNat']

theorem integer_signedDecimal (word : UInt32) :
    integer (signedDecimal word.toInt32.toInt) = .ok word := by
  have hsigned := toInt_toInt32 word
  have hlt : word.toNat < UInt32.size := word.toNat_lt
  have hsize : UInt32.size = 0x100000000 := rfl
  cases hvalue : word.toInt32.toInt with
  | ofNat n =>
    have hn : word.toNat = n := by
      rw [hvalue, Int.ofNat_eq_natCast] at hsigned
      split at hsigned <;> omega
    rw [signedDecimal, integer_of_number (number_decimal n) (isNegative_decimal n) (hn ▸ hlt), ← hn,
      UInt32.ofNat_toNat]
  | negSucc n =>
    obtain ⟨hn, hword⟩ : n + 1 ≤ 0x80000000 ∧ word.toNat = UInt32.size - (n + 1) := by
      rw [hvalue, Int.negSucc_eq] at hsigned
      split at hsigned <;> omega
    have hneg : -UInt32.ofNat (n + 1) = word := by
      rw [← UInt32.toNat_inj, UInt32.toNat_neg, UInt32.toNat_ofNat_of_lt' (by omega), ← hword,
        Nat.mod_eq_of_lt hlt]
    rw [signedDecimal, integer_of_minus (number_minus_decimal _) rfl hn, hneg]

/-! ### Arguments -/

/-- **Each way of writing** an argument is read back to it. -/
theorem ofText_of_writtenAs {arg : Arg} {text : Text} (h : WrittenAs arg text) :
    ofText arg.kind text = .ok arg := by
  have hinteger : ∀ {word : UInt32} {text : Text}, integer text = .ok word →
      ofText .integer text = .ok (.integer word) := fun h => by rw [ofText, h]; rfl
  have hpointer : ∀ {address : UInt64} {text : Text}, number text = .ok address →
      ofText .pointer text = .ok (.pointer address) := fun h => by rw [ofText, h]; rfl
  have hbusAddress : ∀ {address : UInt64} {text : Text}, number text = .ok address →
      ofText .busAddress text = .ok (.busAddress address) := fun h => by rw [ofText, h]; rfl
  have hword : ∀ {word : UInt32} {text : Text}, number text = .ok (.ofNat word.toNat) →
      isNegative text = false → integer text = .ok word := fun {word _} hnumber hsign => by
    rw [integer_of_number hnumber hsign word.toNat_lt, UInt32.ofNat_toNat]
  cases h with
  | unsigned word => exact hinteger (hword (number_decimal _) (isNegative_decimal _))
  | signed word => exact hinteger (integer_signedDecimal word)
  | hex h =>
    obtain ⟨hmark, letters⟩ := h
    exact hinteger (hword (number_hex (.intro hmark letters)) (isNegative_of_digit (by decide) _))
  | pointer address => exact hpointer (by rw [number_decimal, UInt64.ofNat_toNat])
  | pointerHex h => exact hpointer (by rw [number_hex h, UInt64.ofNat_toNat])
  | busAddress address => exact hbusAddress (by rw [number_decimal, UInt64.ofNat_toNat])
  | busAddressHex h => exact hbusAddress (by rw [number_hex h, UInt64.ofNat_toNat])
  | string text => rfl
  | char h =>
    rw [Arg.kind, ofText, Text.utf8_ascii h]

theorem ofTextsFrom_of_writtenAs {args : List Arg} {texts : List Text}
    (h : List.Forall₂ WrittenAs args texts) (index : Nat) :
    ofTextsFrom index (args.map Arg.kind) texts = .ok args := by
  induction h generalizing index with
  | nil => rfl
  | cons harg _ ih =>
    rw [ofTextsFrom, List.map_cons, List.head?_cons, Option.getD_some, List.tail_cons, ih]
    simp only [ofText_of_writtenAs harg]
    rfl

end Arguments

/-- **Every call can be written.**  The template parses and the arguments are of the kinds it takes.
They are read from any texts they are written as; and they can be written, if the strings among
them are UTF-8 and the characters ASCII. -/
theorem ofTexts_of_writtenAs {template : Text} {parsed : Template} {args : List Arg}
    (hparse : Template.parse template = .ok parsed)
    (hkinds : args.map Arg.kind = parsed.argKinds) :
    (∀ texts, List.Forall₂ WrittenAs args texts →
      Arguments.ofTexts template texts = .ok args) ∧
    ((∀ arg ∈ args, arg.IsText) → ∃ texts, List.Forall₂ WrittenAs args texts ∧
      Arguments.ofTexts template texts = .ok args) := by
  have hread : ∀ texts, List.Forall₂ WrittenAs args texts →
      Arguments.ofTexts template texts = .ok args := fun texts h => by
    have hfrom := Arguments.ofTextsFrom_of_writtenAs h 0
    rw [hkinds] at hfrom
    rw [Arguments.ofTexts, Arguments.expectedKinds, hparse]
    exact hfrom
  refine ⟨hread, fun htext => ?_⟩
  obtain ⟨texts, hwritten⟩ := exists_forall₂_writtenAs htext
  exact ⟨texts, hwritten, hread texts hwritten⟩

/-- A negative number for `%hd`, an address in upper case, a string of two bytes and a character. -/
theorem ofTexts_of_mixed_writing :
    Template.parse "%hd at %p: %s%c".toList =
        .ok ⟨"%hd at %p: %s%c".toList,
          [.conversion (.integer ⟨.spacesBefore, 0⟩ .half .signed), .literal " at ".toList,
            .conversion (.pointer .lower), .literal ": ".toList,
            .conversion (.string ⟨.spacesBefore, 0⟩), .conversion .char]⟩ ∧
      Arguments.ofTexts "%hd at %p: %s%c".toList
          ["-5".toList, "0XBEEF".toList, "é".toList, "!".toList] =
        .ok [.integer 0xfffffffb, .pointer 0xbeef, .string [0xc3, 0xa9], .char 0x21] := by
  have hparse : Template.parse "%hd at %p: %s%c".toList =
      .ok ⟨"%hd at %p: %s%c".toList,
        [.conversion (.integer ⟨.spacesBefore, 0⟩ .half .signed), .literal " at ".toList,
          .conversion (.pointer .lower), .literal ": ".toList,
          .conversion (.string ⟨.spacesBefore, 0⟩), .conversion .char]⟩ := by
    rw [Template.parse_eq]
    decide +kernel
  have hwritten : List.Forall₂ WrittenAs
      [.integer 0xfffffffb, .pointer 0xbeef, .string [0xc3, 0xa9], .char 0x21]
      ["-5".toList, "0XBEEF".toList, "é".toList, "!".toList] :=
    .cons (.signed 0xfffffffb) <| .cons (.pointerHex (.intro (.inr rfl) .upper)) <|
      .cons (.string "é".toList) <| .cons (.char (by decide)) .nil
  exact ⟨hparse, (ofTexts_of_writtenAs hparse rfl).1 _ hwritten⟩

end DriverPrintf
