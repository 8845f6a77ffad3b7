import DriverPrintf.Text.Utf8
import Mathlib.Tactic.IntervalCases

/-!
# Text — decoding what was encoded

The bytes of a text are decoded into that text (`decodeLossy_utf8`), so no replacement is made
where nothing is ill-formed.  The decoder takes one byte at a time.  The first byte of a character
gives its high bits and the range of the second byte (`decodeFirst_two` to `decodeFirst_four`);
each of the others gives six more bits (`decodeFrom_more`, `decodeFrom_last`).

`IsUtf8` says that some bytes are those of a text.
-/

namespace DriverPrintf.Text

/-! ### One byte of a character -/

/-- The first byte of a character of two. -/
theorem decodeFirst_two {n : Nat} (hlow : 2 ≤ n) (hhigh : n < 32) :
    decodeFirst (.ofNat (n + 0xC0)) = ([], some ⟨n, 0, 0x80, 0xBF⟩) := by
  interval_cases n <;> rfl

/-- The first byte of a character of three.  The second one must not leave it a shorter form, nor
one of the numbers that are no characters. -/
theorem decodeFirst_three {n : Nat} (h : n < 16) :
    decodeFirst (.ofNat (n + 0xE0)) =
      ([], some ⟨n, 1, if n = 0 then 0xA0 else 0x80, if n = 0xD then 0x9F else 0xBF⟩) := by
  interval_cases n <;> rfl

/-- The first byte of a character of four.  The second one must not leave it a shorter form, nor
one of the numbers above all characters. -/
theorem decodeFirst_four {n : Nat} (h : n ≤ 4) :
    decodeFirst (.ofNat (n + 0xF0)) =
      ([], some ⟨n, 2, if n = 0 then 0x90 else 0x80, if n = 4 then 0x8F else 0xBF⟩) := by
  interval_cases n <;> rfl

theorem decodeFrom_first {byte : UInt8} {u : Unfinished} (h : decodeFirst byte = ([], some u))
    (rest : Bytes) : decodeFrom none (byte :: rest) = decodeFrom (some u) rest := by
  rw [decodeFrom, decodeByte, h]
  rfl

section

variable {n : Nat} {low high : UInt8} (h : n < 64) (hlow : low.toNat ≤ n + 0x80)
  (hhigh : n + 0x80 ≤ high.toNat)
include h hlow hhigh

theorem decodeByte_continuation (bits more : Nat) :
    decodeByte (some ⟨bits, more, low, high⟩) (.ofNat (n + 0x80)) =
      match more with
      | 0 => ([Char.ofNat (bits * 64 + n)], none)
      | more + 1 => ([], some ⟨bits * 64 + n, more, 0x80, 0xBF⟩) := by
  have hbyte : (UInt8.ofNat (n + 0x80)).toNat = n + 0x80 :=
    UInt8.toNat_ofNat_of_lt' (by simp only [UInt8.size]; omega)
  have hrange : low ≤ .ofNat (n + 0x80) ∧ .ofNat (n + 0x80) ≤ high := by
    rw [UInt8.le_iff_toNat_le, UInt8.le_iff_toNat_le, hbyte]
    exact ⟨hlow, hhigh⟩
  rw [decodeByte, if_pos hrange, hbyte]
  cases more with
  | zero => simp only [Nat.add_sub_cancel]
  | succ more => simp only [Nat.add_sub_cancel]

theorem decodeFrom_more (bits more : Nat) (rest : Bytes) :
    decodeFrom (some ⟨bits, more + 1, low, high⟩) (.ofNat (n + 0x80) :: rest) =
      decodeFrom (some ⟨bits * 64 + n, more, 0x80, 0xBF⟩) rest := by
  rw [decodeFrom, decodeByte_continuation h hlow hhigh]
  rfl

theorem decodeFrom_last (bits : Nat) (rest : Bytes) :
    decodeFrom (some ⟨bits, 0, low, high⟩) (.ofNat (n + 0x80) :: rest) =
      Char.ofNat (bits * 64 + n) :: decodeFrom none rest := by
  rw [decodeFrom, decodeByte_continuation h hlow hhigh]
  rfl

end

/-! ### One character -/

/-- A character of one byte is that byte. -/
theorem decodeFrom_ascii {n : Nat} (h : n < 0x80) (rest : Bytes) :
    decodeFrom none (.ofNat n :: rest) = Char.ofNat n :: decodeFrom none rest := by
  have hbyte : (UInt8.ofNat n).toNat = n :=
    UInt8.toNat_ofNat_of_lt' (by simp only [UInt8.size]; omega)
  have hfirst : decodeFirst (.ofNat n) = ([Char.ofNat n], none) := by
    simp only [decodeFirst, hbyte, if_pos h]
  rw [decodeFrom, decodeByte, hfirst]
  rfl

/-- **A character is decoded** from its bytes, whatever follows. -/
theorem decodeFrom_utf8EncodeChar (c : Char) (rest : Bytes) :
    decodeFrom none (String.utf8EncodeChar c ++ rest) = c :: decodeFrom none rest := by
  have hc : Char.ofNat c.val.toNat = c := Char.ofNat_toNat c
  have hvalid : c.val.toNat < 0xD800 ∨ 0xDFFF < c.val.toNat ∧ c.val.toNat < 0x110000 := c.valid
  rw [String.utf8EncodeChar]
  generalize c.val.toNat = v at hc hvalid
  have hlast : v % 64 < 64 := Nat.mod_lt _ (by decide)
  have hmid : v / 64 % 64 < 64 := Nat.mod_lt _ (by decide)
  have hhigh : v / 4096 % 64 < 64 := Nat.mod_lt _ (by decide)
  -- the digits of `v` in base 64, put together again
  have htwo : v / 64 * 64 + v % 64 = v := Nat.div_add_mod' v 64
  have hthree : v / 4096 * 64 + v / 64 % 64 = v / 64 := by omega
  have hfour : v / 262144 * 64 + v / 4096 % 64 = v / 4096 := by omega
  split
  · rw [List.cons_append, List.nil_append, decodeFrom_ascii (by omega), hc]
  split
  · simp only [List.cons_append, List.nil_append]
    rw [Nat.mod_eq_of_lt (by omega : v / 64 < 32),
      decodeFrom_first (decodeFirst_two (by omega) (by omega)),
      decodeFrom_last hlast (by simp) (by simp; omega), htwo, hc]
  split
  · simp only [List.cons_append, List.nil_append]
    rw [Nat.mod_eq_of_lt (by omega : v / 4096 < 16),
      decodeFrom_first (decodeFirst_three (by omega)),
      decodeFrom_more hmid (by split <;> simp; omega) (by split <;> simp <;> omega),
      decodeFrom_last hlast (by simp) (by simp; omega), hthree, htwo, hc]
  · simp only [List.cons_append, List.nil_append]
    rw [Nat.mod_eq_of_lt (by omega : v / 262144 < 8),
      decodeFrom_first (decodeFirst_four (by omega)),
      decodeFrom_more hhigh (by split <;> simp; omega) (by split <;> simp <;> omega),
      decodeFrom_more hmid (by simp) (by simp; omega),
      decodeFrom_last hlast (by simp) (by simp; omega), hfour, hthree, htwo, hc]

/-! ### Texts -/

/-- A text is decoded from its bytes, whatever follows. -/
theorem decodeFrom_utf8_append (text : Text) (rest : Bytes) :
    decodeFrom none (utf8 text ++ rest) = text ++ decodeFrom none rest := by
  induction text with
  | nil => rfl
  | cons c text ih =>
    rw [utf8_cons, List.append_assoc, decodeFrom_utf8EncodeChar, ih, List.cons_append]

/-- **A text is decoded** from its bytes. -/
theorem decodeLossy_utf8 (text : Text) : decodeLossy (utf8 text) = text := by
  have hdecode := decodeFrom_utf8_append text []
  rwa [List.append_nil, decodeFrom, List.append_nil] at hdecode

/-- Bytes that are the encoding of a text. -/
def IsUtf8 (bytes : Bytes) : Prop := ∃ text, bytes = utf8 text

theorem isUtf8_utf8 (text : Text) : IsUtf8 (utf8 text) := ⟨text, rfl⟩

theorem IsUtf8.append {a b : Bytes} (ha : IsUtf8 a) (hb : IsUtf8 b) : IsUtf8 (a ++ b) := by
  obtain ⟨text, rfl⟩ := ha
  obtain ⟨more, rfl⟩ := hb
  exact ⟨text ++ more, (utf8_append text more).symm⟩

/-- An ASCII byte is a text of one character. -/
theorem utf8_ascii {byte : UInt8} (h : byte < 0x80) : utf8 [Char.ofNat byte.toNat] = [byte] := by
  have hlt : byte.toNat < 0x80 := UInt8.lt_iff_toNat_lt.mp h
  have hval : (Char.ofNat byte.toNat).val.toNat = byte.toNat := by
    rw [Char.ofNat, dif_pos (.inl (by omega))]
    rfl
  rw [utf8_cons, utf8_nil, List.append_nil, String.utf8EncodeChar, hval, if_pos (by omega),
    UInt8.ofNat_toNat]

/-- A text of one byte is an ASCII character. -/
theorem lt_of_utf8_eq_singleton {text : Text} {byte : UInt8} (h : utf8 text = [byte]) :
    byte < 0x80 := by
  cases text with
  | nil => cases h
  | cons c more =>
    rw [utf8_cons, String.utf8EncodeChar] at h
    split at h
    · rename_i hle
      obtain ⟨rfl, -⟩ := List.cons_eq_cons.mp h
      rw [UInt8.lt_iff_toNat_lt, UInt8.toNat_ofNat_of_lt' (by simp only [UInt8.size]; omega)]
      exact Nat.lt_succ_of_le hle
    · -- the other characters have more bytes than one
      split at h
      · simp at h
      · split at h <;> simp at h

theorem isUtf8_ascii {byte : UInt8} (h : byte < 0x80) : IsUtf8 [byte] := ⟨_, (utf8_ascii h).symm⟩

/-- The bytes of a repeated ASCII character. -/
theorem utf8_replicate {byte : UInt8} (h : byte < 0x80) (n : Nat) :
    utf8 (List.replicate n (Char.ofNat byte.toNat)) = List.replicate n byte := by
  induction n with
  | zero => rfl
  | succ n ih =>
    have hcons := utf8_append [Char.ofNat byte.toNat] (List.replicate n (Char.ofNat byte.toNat))
    rwa [utf8_ascii h, ih] at hcons

theorem isUtf8_replicate {byte : UInt8} (h : byte < 0x80) (n : Nat) :
    IsUtf8 (List.replicate n byte) :=
  ⟨_, (utf8_replicate h n).symm⟩

end DriverPrintf.Text
