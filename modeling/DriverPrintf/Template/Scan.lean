import DriverPrintf.Template.Error

/-!
# Template — scanners

A scanner reads from the front of a text and leaves the rest, also when it fails.  A place in the
text is given as the text that remains from there on, so a scanner knows nothing of offsets:
`Fault.toParseError` counts them, from wherever the text stands in a larger one.

* `Stays`: a scanner leaves, and complains of, places of its own text only.
* `Advances`: it also reads at least one character when it succeeds.

Both pass along `bind`, and `many` repeats a scanner that advances.
-/

namespace DriverPrintf

/-- What stopped a scanner, and the place it complains of. -/
structure Fault where
  place : Text
  cause : ParseError.Cause
deriving DecidableEq, Repr

/-- A fault in `whole`, which stands at byte `offset` of the text the error is reported in. -/
def Fault.toParseError (offset : Nat) (whole : Text) (fault : Fault) : ParseError :=
  ⟨offset + Text.utf8Length (Text.before whole fault.place), fault.cause⟩

/-- What a scanner has done with a text: the rest of the text is left in either case. -/
inductive Scan.Result (α : Type) where
  | ok (value : α) (rest : Text)
  | error (fault : Fault) (rest : Text)
deriving DecidableEq, Repr

/-- A reader of the front of a text. -/
abbrev Scan (α : Type) := Text → Scan.Result α

namespace Scan

instance : Monad Scan where
  pure a := fun text => .ok a text
  bind scan follow := fun text =>
    match scan text with
    | .ok a rest => follow a rest
    | .error fault rest => .error fault rest

variable {α β : Type}

theorem pure_apply (a : α) (text : Text) : (pure a : Scan α) text = .ok a text := rfl

theorem bind_apply (scan : Scan α) (follow : α → Scan β) (text : Text) :
    (scan >>= follow) text =
      match scan text with
      | .ok a rest => follow a rest
      | .error fault rest => .error fault rest := rfl

/-! ### Reading characters -/

/-- Whether nothing is left. -/
def isEof : Scan Bool := fun text => .ok text.isEmpty text

/-- Whether a decimal digit comes next. -/
def isAtDigit : Scan Bool := fun text => .ok (text.head?.any (Text.isDigit 10)) text

/-- The next character. -/
def any : Scan Char
  | [] => .error ⟨[], .unexpectedEnd⟩ []
  | c :: rest => .ok c rest

/-- Reads `c` if it comes next, and says whether it did. -/
def skipChar? (c : Char) : Scan Bool
  | [] => .ok false []
  | d :: rest => if d = c then .ok true rest else .ok false (d :: rest)

/-- Reads `c`, which must come next. -/
def skipChar (c : Char) : Scan Unit
  | [] => .error ⟨[], .unexpectedEnd⟩ []
  | d :: rest => if d = c then .ok () rest else .error ⟨d :: rest, .unexpectedChar c d⟩ rest

/-- Reads up to the first character in `stop`, or to the end. -/
def textUntil (stop : Char → Bool) : Scan Text := fun text =>
  .ok (text.takeWhile fun c => !stop c) (text.dropWhile fun c => !stop c)

/-! ### Reading numbers -/

/-- Reads the rest of a number that began at `start` and has the value `value` so far. -/
def moreDigits (start : Text) (value : Nat) : Scan UInt32
  | [] => .ok (.ofNat value) []
  | c :: rest =>
    match Text.digitValue? 10 c with
    | none => .ok (.ofNat value) (c :: rest)
    | some digit =>
      if value * 10 + digit < UInt32.size then moreDigits start (value * 10 + digit) rest
      else .error ⟨start, .numberTooLarge⟩ (c :: rest)

/-- A decimal number below 2^32: all the digits that come next, of which there is at least
one. -/
def number : Scan UInt32
  | [] => .error ⟨[], .unexpectedEnd⟩ []
  | c :: rest =>
    if Text.isDigit 10 c then moreDigits (c :: rest) 0 (c :: rest)
    else .error ⟨c :: rest, .notADigit c⟩ (c :: rest)

/-! ### Combining scanners -/

/-- Judges what `scan` has read, given its spelling too.  If the verdict is a cause, the fault is
at the place where `scan` began. -/
def checked (scan : Scan α) (verdict : Text → α → Except ParseError.Cause β) : Scan β :=
  fun text =>
    match scan text with
    | .error fault rest => .error fault rest
    | .ok a rest =>
      match verdict (Text.before text rest) a with
      | .ok b => .ok b rest
      | .error cause => .error ⟨text, cause⟩ rest

/-- Reads the text up to the character `close` by `scan`, then `close`. -/
def enclosed (close : Char) (scan : Scan α) : Scan α := fun text =>
  match text.dropWhile (· != close) with
  | [] => .error ⟨[], .unexpectedEnd⟩ []
  | closing :: rest =>
    match scan (text.takeWhile (· != close)) with
    | .ok a _ => .ok a rest
    | .error fault _ => .error { fault with place := fault.place ++ closing :: rest } rest

/-- The places in a result are places of `text`. -/
def Within (text : Text) : Result α → Prop
  | .ok _ rest => rest <:+ text
  | .error fault rest => fault.place <:+ text ∧ rest <:+ text

/-- A scanner leaves, and complains of, places of its own text only. -/
def Stays (scan : Scan α) : Prop := ∀ text, Within text (scan text)

/-- A scanner that succeeds has read something. -/
structure Advances (scan : Scan α) : Prop where
  stays : Stays scan
  length_lt : ∀ {text a rest}, scan text = .ok a rest → rest.length < text.length

theorem Within.of_suffix {text rest : Text} (h : rest <:+ text) {r : Result α}
    (hr : Within rest r) : Within text r := by
  cases r with
  | ok a _ => exact List.IsSuffix.trans hr h
  | error e _ => exact ⟨hr.1.trans h, hr.2.trans h⟩

theorem Stays.suffix {scan : Scan α} (h : Stays scan) {text rest : Text} {a : α}
    (ha : scan text = .ok a rest) : rest <:+ text := by
  have := h text
  rwa [ha] at this

theorem stays_pure (a : α) : Stays (pure a : Scan α) := fun text => List.suffix_refl text

theorem Stays.bind {scan : Scan α} {follow : α → Scan β} (h : Stays scan)
    (hn : ∀ a, Stays (follow a)) : Stays (scan >>= follow) := by
  intro text
  have ht := h text
  rw [bind_apply]
  cases hs : scan text with
  | ok a rest =>
    rw [hs] at ht
    exact (hn a rest).of_suffix ht
  | error e rest => rwa [hs] at ht

theorem bind_eq_ok {scan : Scan α} {follow : α → Scan β} {text rest : Text} {b : β}
    (h : (scan >>= follow) text = .ok b rest) :
    ∃ a mid, scan text = .ok a mid ∧ follow a mid = .ok b rest := by
  rw [bind_apply] at h
  cases hs : scan text with
  | ok a mid => rw [hs] at h; exact ⟨a, mid, rfl, h⟩
  | error e mid => rw [hs] at h; cases h

theorem Advances.bind {scan : Scan α} {follow : α → Scan β} (h : Advances scan)
    (hn : ∀ a, Stays (follow a)) : Advances (scan >>= follow) where
  stays := h.stays.bind hn
  length_lt hb := by
    obtain ⟨a, mid, ha, hb⟩ := bind_eq_ok hb
    exact Nat.lt_of_le_of_lt ((hn a).suffix hb).length_le (h.length_lt ha)

theorem Stays.bind_advances {scan : Scan α} {follow : α → Scan β} (h : Stays scan)
    (hn : ∀ a, Advances (follow a)) : Advances (scan >>= follow) where
  stays := h.bind fun a => (hn a).stays
  length_lt hb := by
    obtain ⟨a, mid, ha, hb⟩ := bind_eq_ok hb
    exact Nat.lt_of_lt_of_le ((hn a).length_lt hb) (h.suffix ha).length_le

/-! ### The scanners above stay in their text -/

theorem stays_isEof : Stays isEof := fun text => List.suffix_refl text

theorem stays_isAtDigit : Stays isAtDigit := fun text => List.suffix_refl text

theorem advances_any : Advances any where
  stays
    | [] => ⟨List.suffix_refl _, List.suffix_refl _⟩
    | c :: rest => List.suffix_cons c rest
  length_lt {text _ _} h := by
    cases text with
    | nil => cases h
    | cons c rest => cases h; exact Nat.lt_succ_self _

theorem skipChar?_cons (c d : Char) (rest : Text) :
    skipChar? c (d :: rest) = if d = c then .ok true rest else .ok false (d :: rest) := rfl

theorem stays_skipChar? (c : Char) : Stays (skipChar? c)
  | [] => List.suffix_refl _
  | d :: rest => by
    rw [skipChar?_cons]
    split
    · exact List.suffix_cons d rest
    · exact List.suffix_refl _

theorem skipChar_cons (c d : Char) (rest : Text) : skipChar c (d :: rest) =
    if d = c then .ok () rest else .error ⟨d :: rest, .unexpectedChar c d⟩ rest := rfl

theorem advances_skipChar (c : Char) : Advances (skipChar c) where
  stays
    | [] => ⟨List.suffix_refl _, List.suffix_refl _⟩
    | d :: rest => by
      rw [skipChar_cons]
      split
      · exact List.suffix_cons d rest
      · exact ⟨List.suffix_refl _, List.suffix_cons d rest⟩
  length_lt {text _ _} h := by
    cases text with
    | nil => cases h
    | cons d rest =>
      rw [skipChar_cons] at h
      split at h <;> cases h
      exact Nat.lt_succ_self _

theorem stays_textUntil (stop : Char → Bool) : Stays (textUntil stop) :=
  fun _ => List.dropWhile_suffix _

theorem within_moreDigits (start : Text) (value : Nat) (text : Text) (h : text <:+ start) :
    Within start (moreDigits start value text) := by
  induction text generalizing value with
  | nil => exact h
  | cons c rest ih =>
    rw [moreDigits]
    split
    · exact h
    · split
      · exact ih _ ((List.suffix_cons c rest).trans h)
      · exact ⟨List.suffix_refl _, h⟩

theorem moreDigits_length_le {start text rest : Text} {value : Nat} {n : UInt32}
    (h : moreDigits start value text = .ok n rest) : rest.length ≤ text.length := by
  induction text generalizing value with
  | nil => cases h; exact Nat.le_refl _
  | cons c more ih =>
    rw [moreDigits] at h
    split at h
    · cases h; exact Nat.le_refl _
    · split at h
      · exact Nat.le_succ_of_le (ih h)
      · cases h

theorem number_cons (c : Char) (rest : Text) : number (c :: rest) =
    if Text.isDigit 10 c then moreDigits (c :: rest) 0 (c :: rest)
    else .error ⟨c :: rest, .notADigit c⟩ (c :: rest) := rfl

theorem advances_number : Advances number where
  stays
    | [] => ⟨List.suffix_refl _, List.suffix_refl _⟩
    | c :: rest => by
      rw [number_cons]
      split
      · exact within_moreDigits _ _ _ (List.suffix_refl _)
      · exact ⟨List.suffix_refl _, List.suffix_refl _⟩
  length_lt {text _ _} h := by
    cases text with
    | nil => cases h
    | cons c rest =>
      rw [number_cons] at h
      split at h
      · rename_i hc
        obtain ⟨digit, hd⟩ := Option.isSome_iff_exists.1 hc
        rw [moreDigits, hd] at h
        dsimp only at h
        split at h
        · exact Nat.lt_succ_of_le (moreDigits_length_le h)
        · cases h
      · cases h

theorem Stays.checked {scan : Scan α} {verdict : Text → α → Except ParseError.Cause β}
    (h : Stays scan) : Stays (scan.checked verdict) := by
  intro text
  have ht := h text
  rw [Scan.checked]
  cases hs : scan text with
  | error e rest => rwa [hs] at ht
  | ok a rest =>
    rw [hs] at ht
    dsimp only
    split
    · exact ht
    · exact ⟨List.suffix_refl _, ht⟩

theorem checked_eq_ok {scan : Scan α} {verdict : Text → α → Except ParseError.Cause β}
    {text rest : Text} {b : β} (h : scan.checked verdict text = .ok b rest) :
    ∃ a, scan text = .ok a rest ∧ verdict (Text.before text rest) a = .ok b := by
  rw [Scan.checked] at h
  cases hs : scan text with
  | error e _ => rw [hs] at h; cases h
  | ok a mid =>
    rw [hs] at h
    dsimp only at h
    split at h
    · rename_i hv; cases h; exact ⟨a, rfl, hv⟩
    · cases h

theorem Advances.checked {scan : Scan α} {verdict : Text → α → Except ParseError.Cause β}
    (h : Advances scan) : Advances (scan.checked verdict) where
  stays := h.stays.checked
  length_lt hb := by
    obtain ⟨a, ha, -⟩ := checked_eq_ok hb
    exact h.length_lt ha

theorem Stays.enclosed {scan : Scan α} (close : Char) (h : Stays scan) :
    Stays (scan.enclosed close) := by
  intro text
  rw [Scan.enclosed]
  have hd := List.dropWhile_suffix (l := text) (· != close)
  have hs : text.takeWhile (· != close) ++ text.dropWhile (· != close) = text :=
    List.takeWhile_append_dropWhile
  generalize text.dropWhile (· != close) = closing at hd hs
  cases closing with
  | nil => exact ⟨hd, hd⟩
  | cons c rest =>
    have hr : rest <:+ text := (List.suffix_cons c rest).trans hd
    have hb := h (text.takeWhile (· != close))
    dsimp only
    cases he : scan (text.takeWhile (· != close)) with
    | ok a _ => exact hr
    | error fault _ =>
      rw [he] at hb
      obtain ⟨front, hf⟩ := hb.1
      exact ⟨⟨front, by rw [← List.append_assoc, hf, hs]⟩, hr⟩

/-! ### Repetition -/

/-- Runs `item` as long as `more` says that there is one. -/
def many (more : Scan Bool) (item : Scan α) (hm : Stays more) (hi : Advances item) :
    Scan (List α) := fun text =>
  match hmore : more text with
  | .error fault rest => .error fault rest
  | .ok false rest => .ok [] rest
  | .ok true mid =>
    match hitem : item mid with
    | .error fault rest => .error fault rest
    | .ok a rest =>
      have : rest.length < text.length :=
        Nat.lt_of_lt_of_le (hi.length_lt hitem) (hm.suffix hmore).length_le
      match many more item hm hi rest with
      | .error fault rest => .error fault rest
      | .ok as rest => .ok (a :: as) rest
termination_by text => text.length

/-- One round of `many`. -/
theorem many_eq (more : Scan Bool) (item : Scan α) (hm : Stays more) (hi : Advances item) :
    many more item hm hi = (do
      if ← more then return (← item) :: (← many more item hm hi) else return []) := by
  funext text
  rw [many, bind_apply]
  split
  · rename_i hmore
    rw [hmore]
  · rename_i hmore
    rw [hmore]
    rfl
  · rename_i mid hmore
    simp only [hmore, if_true, bind_apply]
    split
    · rename_i hitem
      rw [hitem]
    · rename_i a rest hitem
      simp only [hitem]
      cases many more item hm hi rest <;> rfl

theorem stays_many {more : Scan Bool} {item : Scan α} (hm : Stays more) (hi : Advances item) :
    Stays (many more item hm hi) := by
  intro text
  induction hn : text.length using Nat.strongRecOn generalizing text with
  | ind n ih =>
    have h₁ := hm text
    rw [many]
    split
    · rename_i hmore
      rwa [hmore] at h₁
    · rename_i hmore
      rwa [hmore] at h₁
    · rename_i mid hmore
      rw [hmore] at h₁
      have h₂ := hi.stays mid
      split
      · rename_i hitem
        rw [hitem] at h₂
        exact ⟨h₂.1.trans h₁, h₂.2.trans h₁⟩
      · rename_i a rest hitem
        rw [hitem] at h₂
        have hlt : rest.length < n :=
          hn ▸ Nat.lt_of_lt_of_le (hi.length_lt hitem) (List.IsSuffix.length_le h₁)
        have h₃ := ih _ hlt rest rfl
        have hr : rest <:+ text := List.IsSuffix.trans h₂ h₁
        cases hr' : many more item hm hi rest with
        | error e last => rw [hr'] at h₃; exact h₃.of_suffix hr
        | ok as last => rw [hr'] at h₃; exact List.IsSuffix.trans h₃ hr

end Scan

end DriverPrintf
