import DriverPrintf.Proofs.Template.Descriptor

/-!
# Template — what a fault says of its place

A scanner that fails gives a place and a cause, and the cause makes a statement about the text at
that place.  `Fits place cause` is that statement where it needs no more than the text from the
place on.  A scanner is `Honest` if each of its faults fits; since a place is given as the text
that remains, this passes along `bind` and `many` without any count of offsets.

Where a fault is to be told apart from those of other scanners, `breaks_of_many_eq_error` says at
which round a repetition broke off, and `enclosed_eq_error` that the text up to the closing
character is scanned as if it were all there is.
-/

namespace DriverPrintf

open Text (Ends)

variable {α β : Type}

/-! ### Honest scanners -/

/-- What a cause says of the text from its place on. -/
inductive Fits : Text → ParseError.Cause → Prop where
  | unexpectedEnd : Fits [] .unexpectedEnd
  | notADigit {c : Char} {rest : Text} (h : Text.isDigit 10 c = false) :
      Fits (c :: rest) (.notADigit c)
  | unexpectedChar {c : Char} {rest : Text} (h : c ≠ '=') :
      Fits (c :: rest) (.unexpectedChar '=' c)
  | numberTooLarge {digits rest : Text} (hne : digits ≠ [])
      (hall : ∀ c ∈ digits, Text.isDigit 10 c = true) (hends : Ends (Text.isDigit 10) rest)
      (hvalue : UInt32.size ≤ Text.value 10 digits) : Fits (digits ++ rest) .numberTooLarge
  | noSuchBit {digits rest : Text} {bit : UInt32} (hnumber : Text.IsNumber digits)
      (hends : Ends (Text.isDigit 10) rest) (hbit : bit.toNat = Text.value 10 digits)
      (hvalue : 32 ≤ bit.toNat) : Fits (digits ++ rest) (.noSuchBit bit)

/-- Only the end of a text is no longer true when the text goes on. -/
theorem Fits.append {place : Text} {cause : ParseError.Cause} (h : Fits place cause) {more : Text}
    (hmore : Ends (Text.isDigit 10) more) :
    place = [] ∧ cause = .unexpectedEnd ∨ Fits (place ++ more) cause := by
  cases h with
  | unexpectedEnd => exact .inl ⟨rfl, rfl⟩
  | notADigit h => exact .inr (.notADigit h)
  | unexpectedChar h => exact .inr (.unexpectedChar h)
  | numberTooLarge hne hall hends hvalue =>
    rw [List.append_assoc]
    exact .inr (.numberTooLarge hne hall (hends.append hmore) hvalue)
  | noSuchBit hnumber hends hbit hvalue =>
    rw [List.append_assoc]
    exact .inr (.noSuchBit hnumber (hends.append hmore) hbit hvalue)

namespace Scan

/-- Each fault of the scanner is true of its place. -/
def Honest (scan : Scan α) : Prop :=
  ∀ ⦃text fault left⦄, scan text = .error fault left → Fits fault.place fault.cause

theorem bind_eq_error_iff {scan : Scan α} {follow : α → Scan β} {text left : Text}
    {fault : Fault} :
    (scan >>= follow) text = .error fault left ↔
      scan text = .error fault left ∨
        ∃ a mid, scan text = .ok a mid ∧ follow a mid = .error fault left := by
  rw [bind_apply]
  cases scan text <;> simp

theorem checked_eq_error {scan : Scan α} {verdict : Text → α → Except ParseError.Cause β}
    {text left : Text} {fault : Fault} (h : scan.checked verdict text = .error fault left) :
    scan text = .error fault left ∨
      ∃ a cause, scan text = .ok a left ∧ verdict (Text.before text left) a = .error cause ∧
        fault = ⟨text, cause⟩ := by
  rw [Scan.checked] at h
  cases hscan : scan text with
  | error inner rest =>
    simp only [hscan, Result.error.injEq] at h
    obtain ⟨rfl, rfl⟩ := h
    exact .inl rfl
  | ok a rest =>
    simp only [hscan] at h
    cases hverdict : verdict (Text.before text rest) a with
    | ok b => simp [hverdict] at h
    | error cause =>
      simp only [hverdict, Result.error.injEq] at h
      obtain ⟨rfl, rfl⟩ := h
      exact .inr ⟨a, cause, rfl, hverdict, rfl⟩

theorem Honest.bind {scan : Scan α} {follow : α → Scan β} (h : Honest scan)
    (hfollow : ∀ a, Honest (follow a)) : Honest (scan >>= follow) := by
  intro text fault left herror
  rcases bind_eq_error_iff.mp herror with hscan | ⟨a, mid, -, hmore⟩
  · exact h hscan
  · exact hfollow a hmore

/-- A scanner that judges what it has read complains of the place where it began. -/
theorem Honest.checked {scan : Scan α} {verdict : Text → α → Except ParseError.Cause β}
    (h : Honest scan)
    (hverdict : ∀ {text a rest cause}, scan text = .ok a rest →
      verdict (Text.before text rest) a = .error cause → Fits text cause) :
    Honest (scan.checked verdict) := by
  intro text fault left herror
  rcases checked_eq_error herror with hscan | ⟨a, cause, hscan, hcause, rfl⟩
  · exact h hscan
  · exact hverdict hscan hcause

theorem honest_pure (a : α) : Honest (pure a : Scan α) := fun _ _ _ h => by cases h

theorem honest_isEof : Honest isEof := fun _ _ _ h => by cases h

theorem honest_isAtDigit : Honest isAtDigit := fun _ _ _ h => by cases h

theorem honest_textUntil (stop : Char → Bool) : Honest (textUntil stop) :=
  fun _ _ _ h => by cases h

theorem honest_skipChar? (c : Char) : Honest (skipChar? c) := by
  intro text fault left h
  cases text with
  | nil => cases h
  | cons d rest =>
    rw [skipChar?_cons] at h
    split at h <;> cases h

theorem honest_any : Honest any := by
  intro text fault left h
  cases text with
  | nil =>
    cases h
    exact .unexpectedEnd
  | cons c rest => cases h

/-- Of the characters that must come next, only a `=` can be missing. -/
theorem honest_skipChar_sign : Honest (skipChar '=') := by
  intro text fault left h
  cases text with
  | nil =>
    cases h
    exact .unexpectedEnd
  | cons c rest =>
    rw [skipChar_cons] at h
    split at h
    · cases h
    · rename_i hc
      cases h
      exact .unexpectedChar hc

theorem fault_of_moreDigits {start text left : Text} {value : Nat} {fault : Fault}
    (h : moreDigits start value text = .error fault left) : fault = ⟨start, .numberTooLarge⟩ := by
  induction text generalizing value with
  | nil => cases h
  | cons c rest ih =>
    rw [moreDigits] at h
    split at h
    · cases h
    · split at h
      · exact ih h
      · cases h
        rfl

/-- A number that begins with a digit fails only if all the digits together are too large. -/
theorem honest_number : Honest number := by
  intro text fault left h
  cases text with
  | nil =>
    cases h
    exact .unexpectedEnd
  | cons c rest =>
    rw [number_cons] at h
    by_cases hc : Text.isDigit 10 c = true
    · rw [if_pos hc] at h
      obtain ⟨htext, hall, hends⟩ := Text.run_split (Text.isDigit 10) (c :: rest)
      obtain ⟨digits, hrun, -⟩ := Text.run_cons htext hc hends
      have hne := hrun ▸ List.cons_ne_nil c digits
      have hvalue : UInt32.size ≤ Text.value 10 ((c :: rest).takeWhile (Text.isDigit 10)) := by
        by_contra hlt
        -- digits that are not too large would have been read
        have hok := number_eq_ok_iff.mpr ⟨_, htext, ⟨hne, hall, Nat.lt_of_not_le hlt⟩, hends, rfl⟩
        rw [number_cons, if_pos hc, h] at hok
        cases hok
      rw [fault_of_moreDigits h, htext]
      exact .numberTooLarge hne hall hends hvalue
    · rw [if_neg hc] at h
      cases h
      exact .notADigit (Bool.eq_false_iff.mpr hc)

/-! ### Where a repetition breaks off -/

/-- A repetition of `item` as long as `more` says that there is one, up to a fault. -/
inductive Breaks (more : Scan Bool) (item : Scan α) : Text → Fault → Text → Prop where
  | asking {text left : Text} {fault : Fault} (h : more text = .error fault left) :
      Breaks more item text fault left
  | item {text mid left : Text} {fault : Fault} (h : more text = .ok true mid)
      (hitem : item mid = .error fault left) : Breaks more item text fault left
  | again {text mid rest left : Text} {a : α} {fault : Fault} (h : more text = .ok true mid)
      (hitem : item mid = .ok a rest) (t : Breaks more item rest fault left) :
      Breaks more item text fault left

theorem breaks_of_many_eq_error {more : Scan Bool} {item : Scan α} {hm : Stays more}
    {hi : Advances item} {text left : Text} {fault : Fault}
    (h : many more item hm hi text = .error fault left) : Breaks more item text fault left := by
  induction hn : text.length using Nat.strongRecOn generalizing text with
  | ind n ih =>
    rw [many_eq, bind_eq_error_iff] at h
    rcases h with hmore | ⟨again, mid, hmore, h⟩
    · exact .asking hmore
    · cases again with
      | false => cases h
      | true =>
        rcases bind_eq_error_iff.mp h with hitem | ⟨a, rest, hitem, h⟩
        · exact .item hmore hitem
        · have hlt : rest.length < n :=
            hn ▸ Nat.lt_of_lt_of_le (hi.length_lt hitem) (hm.suffix hmore).length_le
          rcases bind_eq_error_iff.mp h with hrest | ⟨as, last, -, h⟩
          · exact .again hmore hitem (ih _ hlt hrest rfl)
          · cases h

theorem Honest.many {more : Scan Bool} {item : Scan α} {hm : Stays more} {hi : Advances item}
    (h : Honest more) (hitem : Honest item) : Honest (many more item hm hi) := by
  intro text fault left herror
  have hbreaks := breaks_of_many_eq_error herror
  clear herror
  induction hbreaks with
  | asking hmore => exact h hmore
  | item _ hfault => exact hitem hfault
  | again _ _ _ ih => exact ih

/-! ### The text up to a closing character -/

/-- Without the closing character the text ends too early.  With it, what stands before it is
scanned on its own, and its faults are moved to where it stands. -/
theorem enclosed_eq_error {scan : Scan α} {close : Char} {text left : Text} {fault : Fault}
    (h : scan.enclosed close text = .error fault left) :
    fault = ⟨[], .unexpectedEnd⟩ ∨
      ∃ body rest inner last, close ∉ body ∧ text = body ++ close :: rest ∧
        scan body = .error inner last ∧ fault = ⟨inner.place ++ close :: rest, inner.cause⟩ := by
  obtain ⟨htext, hall, hends⟩ := Text.run_split (· != close) text
  rw [Scan.enclosed] at h
  cases hclosing : text.dropWhile (· != close) with
  | nil =>
    rw [hclosing] at h
    cases h
    exact .inl rfl
  | cons c rest =>
    rw [hclosing] at h htext hends
    obtain rfl : c = close := by simpa using hends
    cases hbody : scan (text.takeWhile (· != c)) with
    | ok a last => simp [hbody] at h
    | error inner last =>
      simp only [hbody, Result.error.injEq] at h
      obtain ⟨rfl, rfl⟩ := h
      exact .inr ⟨_, rest, inner, last, fun hmem => by simpa using hall c hmem, htext, hbody, rfl⟩

end Scan

end DriverPrintf
