import DriverPrintf.Proofs.Text.Utf8

/-!
# Text — cut bytes

The bytes of a text may be cut anywhere.  What fits before the cut are some whole characters
(`LongestFit`), and if the cut falls inside a character (`CutInside`), its first bytes.

The decoder makes one replacement of the first bytes of a character, however many they are
(`decodeFrom_of_part`).  This needs no look at the bytes: with the rest of its bytes behind them
they are decoded to that character alone, so they make no text by themselves, but they are not
nothing either, and so they leave the decoder in a character.

* **Cut bytes are decoded** to the whole characters that fit, with one replacement behind them
  exactly if the cut falls inside a character (`shownAt_iff`).
-/

namespace DriverPrintf.Text

/-! ### What is shown of cut bytes -/

/-- `whole` is the longest front of a text that fits in `size` bytes. -/
structure LongestFit (size : Nat) (text whole : Text) : Prop where
  front : whole <+: text
  fits : utf8Length whole ≤ size
  longest : ∀ other, other <+: text → utf8Length other ≤ size → other.length ≤ whole.length

/-- The cut behind `size` bytes falls inside a character. -/
def CutInside (size : Nat) (text : Text) : Prop :=
  ∃ before c after, text = before ++ c :: after ∧ utf8Length before < size ∧
    size < utf8Length before + c.utf8Size

/-- What is shown of the first `size` bytes of a text. -/
inductive ShownAt (size : Nat) (text : Text) : Text → Prop where
  | between {whole : Text} (h : LongestFit size text whole) (hcut : ¬ CutInside size text) :
      ShownAt size text whole
  | inside {whole : Text} (h : LongestFit size text whole) (hcut : CutInside size text) :
      ShownAt size text (whole ++ [replacement])

/-! ### A part of a character -/

/-- A byte either makes some text or leaves a character unfinished. -/
theorem decodeByte_ne_nothing (u : Option Unfinished) (byte : UInt8) :
    decodeByte u byte ≠ ([], none) := by
  have hfirst : decodeFirst byte ≠ ([], none) := by
    rw [decodeFirst]
    repeat' split
    all_goals simp
  cases u with
  | none => exact hfirst
  | some u =>
    rw [decodeByte]
    repeat' split
    all_goals simp

/-- Only nothing is decoded to nothing. -/
theorem decodeFrom_eq_nil {u : Option Unfinished} {bytes : Bytes} (h : decodeFrom u bytes = []) :
    u = none ∧ bytes = [] := by
  induction bytes generalizing u with
  | nil =>
    cases u with
    | none => exact ⟨rfl, rfl⟩
    | some u => cases h
  | cons byte bytes ih =>
    rw [decodeFrom, List.append_eq_nil_iff] at h
    obtain ⟨htext, hrest⟩ := h
    obtain ⟨hnone, -⟩ := ih hrest
    exact absurd (Prod.ext htext hnone) (decodeByte_ne_nothing u byte)

/-- Some bytes make their text and leave their state, whatever follows. -/
theorem exists_decodeFrom_append (u : Option Unfinished) (bytes : Bytes) :
    ∃ text left, ∀ rest, decodeFrom u (bytes ++ rest) = text ++ decodeFrom left rest := by
  induction bytes generalizing u with
  | nil => exact ⟨[], u, fun rest => rfl⟩
  | cons byte bytes ih =>
    obtain ⟨text, left, h⟩ := ih (decodeByte u byte).2
    refine ⟨(decodeByte u byte).1 ++ text, left, fun rest => ?_⟩
    rw [List.cons_append, decodeFrom, h, List.append_assoc]

/-- **A part of a character** is one replacement. -/
theorem decodeFrom_of_part {c : Char} {part missing : Bytes}
    (h : String.utf8EncodeChar c = part ++ missing) (hpart : part ≠ []) (hmissing : missing ≠ []) :
    decodeFrom none part = [replacement] := by
  obtain ⟨text, left, hdecode⟩ := exists_decodeFrom_append none part
  have hwhole : text ++ decodeFrom left missing = [c] := by
    rw [← hdecode, ← h]
    exact (congrArg _ (List.append_nil _).symm).trans (decodeFrom_utf8EncodeChar c [])
  -- the missing bytes still make some text, so the part has made none
  have htext : text = [] := by
    rcases List.append_eq_singleton_iff.mp hwhole with ⟨rfl, -⟩ | ⟨-, hnil⟩
    · rfl
    · exact absurd (decodeFrom_eq_nil hnil).2 hmissing
  have hend := hdecode []
  rw [htext, List.nil_append, List.append_nil] at hend
  cases left with
  | none => exact absurd (decodeFrom_eq_nil hend).2 hpart
  | some u => exact hend

/-! ### Where a cut falls -/

/-- A text is parted behind what fits in `size` bytes: the next character does not fit any more. -/
structure PartedAt (size : Nat) (before after : Text) : Prop where
  fits : utf8Length before ≤ size
  next : ∀ c, after.head? = some c → size < utf8Length before + c.utf8Size

/-- Every text can be parted. -/
theorem exists_partedAt (size : Nat) (text : Text) :
    ∃ before after, text = before ++ after ∧ PartedAt size before after := by
  induction text generalizing size with
  | nil => exact ⟨[], [], rfl, Nat.zero_le _, fun c h => by cases h⟩
  | cons c text ih =>
    by_cases hfits : c.utf8Size ≤ size
    · obtain ⟨before, after, rfl, hbefore, hnext⟩ := ih (size - c.utf8Size)
      refine ⟨c :: before, after, rfl, ?_, fun d hd => ?_⟩
      · rw [utf8Length_cons]
        omega
      · have hlt := hnext d hd
        rw [utf8Length_cons]
        omega
    · refine ⟨[], c :: text, rfl, Nat.zero_le _, fun d hd => ?_⟩
      obtain rfl := Option.some.inj hd
      rw [utf8Length_nil]
      omega

/-- What it is parted behind is the longest front that fits. -/
theorem PartedAt.longestFit {size : Nat} {before after : Text} (h : PartedAt size before after) :
    LongestFit size (before ++ after) before where
  front := List.prefix_append _ _
  fits := h.fits
  longest := by
    intro other hother hle
    by_contra hlong
    obtain ⟨rest, rfl⟩ :=
      List.prefix_of_prefix_length_le (List.prefix_append before after) hother (by omega)
    obtain ⟨c, more, rfl⟩ : ∃ c more, rest = c :: more :=
      List.exists_cons_of_ne_nil fun hnil => hlong (by rw [hnil, List.append_nil])
    obtain ⟨tail, rfl⟩ := (List.prefix_append_right_inj before).mp hother
    have hlt := h.next c rfl
    rw [utf8Length_append, utf8Length_cons] at hle
    omega

theorem LongestFit.unique {size : Nat} {text whole whole' : Text} (h : LongestFit size text whole)
    (h' : LongestFit size text whole') : whole = whole' :=
  (List.prefix_of_prefix_length_le h.front h'.front (h'.longest _ h.front h.fits)).eq_of_length
    (Nat.le_antisymm (h'.longest _ h.front h.fits) (h.longest _ h'.front h'.fits))

/-- The cut falls inside the character behind what fits, or inside none. -/
theorem PartedAt.cutInside_iff {size : Nat} {before after : Text} (h : PartedAt size before after) :
    CutInside size (before ++ after) ↔ after ≠ [] ∧ utf8Length before < size := by
  constructor
  · rintro ⟨before', c, after', heq, hlow, hhigh⟩
    have hparted : PartedAt size before' (c :: after') :=
      ⟨Nat.le_of_lt hlow, fun d hd => by rwa [← Option.some.inj hd]⟩
    obtain rfl := h.longestFit.unique (heq ▸ hparted.longestFit)
    obtain rfl := List.append_cancel_left heq
    exact ⟨List.cons_ne_nil _ _, hlow⟩
  · rintro ⟨hne, hlow⟩
    obtain ⟨c, more, rfl⟩ := List.exists_cons_of_ne_nil hne
    exact ⟨before, c, more, rfl, hlow, h.next c rfl⟩

theorem ShownAt.unique {size : Nat} {text shown shown' : Text} (h : ShownAt size text shown)
    (h' : ShownAt size text shown') : shown = shown' := by
  cases h with
  | between h hcut =>
    cases h' with
    | between h' => exact h.unique h'
    | inside _ hcut' => exact absurd hcut' hcut
  | inside h hcut =>
    cases h' with
    | between _ hcut' => exact absurd hcut hcut'
    | inside h' => rw [h.unique h']

theorem shownAt_decodeLossy (size : Nat) (text : Text) :
    ShownAt size text (decodeLossy ((utf8 text).take size)) := by
  obtain ⟨before, after, rfl, hparted⟩ := exists_partedAt size text
  have hfit := hparted.longestFit
  have hcut := hparted.cutInside_iff
  have hlength := length_utf8 before
  have hfits := hparted.fits
  have htake : (utf8 (before ++ after)).take size =
      utf8 before ++ (utf8 after).take (size - utf8Length before) := by
    rw [utf8_append, List.take_append, hlength, List.take_of_length_le (by omega)]
  rw [htake, decodeLossy, decodeFrom_utf8_append]
  cases after with
  | nil =>
    rw [List.append_nil] at hfit hcut
    rw [utf8_nil, List.take_nil, decodeFrom, List.append_nil]
    exact .between hfit fun h => (hcut.mp h).1 rfl
  | cons c more =>
    have hlt := hparted.next c rfl
    have hsize : (String.utf8EncodeChar c).length = c.utf8Size := String.length_utf8EncodeChar c
    rw [utf8_cons, List.take_append_of_le_length (by omega)]
    by_cases hlow : utf8Length before < size
    · have hpart : decodeFrom none
          ((String.utf8EncodeChar c).take (size - utf8Length before)) = [replacement] := by
        have hpos := c.utf8Size_pos
        refine decodeFrom_of_part (List.take_append_drop _ _).symm ?_ ?_
        · rw [← List.length_pos_iff, List.length_take]
          omega
        · rw [← List.length_pos_iff, List.length_drop]
          omega
      rw [hpart]
      exact .inside hfit (hcut.mpr ⟨List.cons_ne_nil _ _, hlow⟩)
    · have hzero : size - utf8Length before = 0 := Nat.sub_eq_zero_of_le (Nat.le_of_not_lt hlow)
      rw [hzero, List.take_zero, decodeFrom, List.append_nil]
      exact .between hfit fun h => hlow (hcut.mp h).2

/-- **Cut bytes are decoded** to what is shown of them. -/
theorem shownAt_iff {size : Nat} {text shown : Text} :
    ShownAt size text shown ↔ shown = decodeLossy ((utf8 text).take size) := by
  constructor
  · intro h
    exact h.unique (shownAt_decodeLossy size text)
  · rintro rfl
    exact shownAt_decodeLossy size text

end DriverPrintf.Text
