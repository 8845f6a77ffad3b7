import DriverPrintf.Proofs.Template.Reading
import DriverPrintf.Proofs.Text.Digits

/-!
# Template — byte positions

A scanner has its place as the text that remains.  A cursor has it as a number, a byte position in
an input, and cuts the input there to see what comes next.  Not every number is a place: a text
cannot be cut inside a character or beyond its end (`Text.cut?`).  An operation on a cursor
(`Cursor.Op`) is refused where it would cut there, or move there, or reckon beyond 64 bits.  A loop
is refused too if it has not come to its end when it could have read every byte.

That an operation does what a scanner does, and so is not refused, is `Site.Follows`.  A site is an
input and the part of it that is scanned, and `site.cursor rest` is the cursor before `rest`.  The
relation passes along `bind`, and `many` repeats an operation that follows a scanner that advances.

* **Cuts** (`Text.cut?_eq_some_iff`): a text is cut at byte `n` where a front of it has `n` bytes.
* **One byte** (`Text.exists_cons_of_cut?_succ`): between two places that are one byte apart stands
  a character of one byte.
-/

namespace DriverPrintf

open Text (utf8Length)

/-! ### Cutting a text at a byte -/

namespace Text

/-- The text before byte `n` and the text from there on, if this is between two characters, or at
the front or the end. -/
def cut? : Text → Nat → Option (Text × Text)
  | text, 0 => some ([], text)
  | [], _ + 1 => none
  | c :: text, n + 1 =>
    if c.utf8Size ≤ n + 1 then
      (cut? text (n + 1 - c.utf8Size)).map fun (front, rest) => (c :: front, rest)
    else none

/-- The text from byte `start` up to byte `stop`. -/
def slice? (text : Text) (start stop : Nat) : Option Text := do
  let (front, _) ← cut? text stop
  let (_, slice) ← cut? front start
  return slice

theorem cut?_append (front rest : Text) :
    cut? (front ++ rest) (utf8Length front) = some (front, rest) := by
  induction front with
  | nil => cases rest <;> rfl
  | cons c front ih =>
    obtain ⟨n, hn⟩ : ∃ n, c.utf8Size = n + 1 :=
      Nat.exists_eq_succ_of_ne_zero (Nat.ne_of_gt c.utf8Size_pos)
    have hlength : utf8Length (c :: front) = n + utf8Length front + 1 := by
      rw [utf8Length_cons, hn]
      omega
    have hmore : n + utf8Length front + 1 - c.utf8Size = utf8Length front := by omega
    rw [hlength, List.cons_append, cut?, if_pos (by omega), hmore, ih]
    rfl

theorem cut?_eq_some_iff {text front rest : Text} {n : Nat} :
    cut? text n = some (front, rest) ↔ text = front ++ rest ∧ utf8Length front = n := by
  constructor
  · intro h
    fun_induction cut? text n generalizing front with
    | case1 text =>
      cases h
      exact ⟨rfl, rfl⟩
    | case2 => cases h
    | case3 c text n hfits ih =>
      obtain ⟨⟨front, rest⟩, hcut, hcons⟩ := Option.map_eq_some_iff.mp h
      cases hcons
      obtain ⟨rfl, hlength⟩ := ih hcut
      exact ⟨rfl, by rw [utf8Length_cons]; omega⟩
    | case4 => cases h
  · rintro ⟨rfl, rfl⟩
    exact cut?_append front rest

theorem slice?_append (before slice behind : Text) :
    slice? (before ++ slice ++ behind) (utf8Length before) (utf8Length (before ++ slice)) =
      some slice := by
  rw [slice?, cut?_append]
  change (cut? (before ++ slice) _).bind _ = _
  rw [cut?_append]
  rfl

/-- A cut before the `%` behind a character of two bytes, and none inside that character. -/
example : slice? "é%%".toList 2 3 = some ['%'] ∧ slice? "é%%".toList 1 3 = none := by decide

theorem length_le_utf8Length (text : Text) : text.length ≤ utf8Length text := by
  induction text with
  | nil => exact Nat.le_refl _
  | cons c text ih =>
    have hpos := c.utf8Size_pos
    rw [List.length_cons, utf8Length_cons]
    omega

theorem eq_nil_of_utf8Length_eq_zero {text : Text} (h : utf8Length text = 0) : text = [] := by
  cases text with
  | nil => rfl
  | cons c text =>
    have hpos := c.utf8Size_pos
    rw [utf8Length_cons] at h
    omega

/-- **One byte.**  Where a text can be cut at two bytes that follow each other, a character of one
byte stands between. -/
theorem exists_cons_of_cut?_succ {text front rest front' rest' : Text} {n : Nat}
    (h : cut? text n = some (front, rest)) (h' : cut? text (n + 1) = some (front', rest')) :
    ∃ c, rest = c :: rest' ∧ c.utf8Size = 1 := by
  obtain ⟨rfl, hlength⟩ := cut?_eq_some_iff.mp h
  obtain ⟨htext, hlength'⟩ := cut?_eq_some_iff.mp h'
  have hwhole := congrArg utf8Length htext
  rw [utf8Length_append, utf8Length_append] at hwhole
  -- the later place is reached by going on from the earlier one
  rcases List.append_eq_append_iff.mp htext with ⟨between, rfl, rfl⟩ | ⟨between, rfl, rfl⟩
  · rw [utf8Length_append] at hlength'
    cases between with
    | nil => simp at hlength'; omega
    | cons c between =>
      have hpos := c.utf8Size_pos
      rw [utf8Length_cons] at hlength'
      obtain rfl : between = [] := eq_nil_of_utf8Length_eq_zero (by omega)
      exact ⟨c, rfl, by simp at hlength'; omega⟩
  · rw [utf8Length_append] at hlength
    omega

end Text

/-! ### Operations on a cursor -/

/-- A byte position in an input that itself stands at byte `base` of a template. -/
structure Cursor where
  input : Text
  position : Nat
  base : Nat
deriving DecidableEq, Repr

namespace Cursor

/-- An operation on a cursor: a refusal, or a value or an error, with the cursor after it. -/
abbrev Op (α : Type) := ExceptT ParseError (StateT Cursor Option) α

/-- A cursor at the front of an input. -/
def atFront (input : Text) (base : Nat) : Cursor := ⟨input, 0, base⟩

variable {α β : Type}

/-- Goes on with a value, if there is one. -/
def require (value? : Option α) : Op α := fun cursor => value?.map fun value => (.ok value, cursor)

/-- The position. -/
def here : Op Nat := fun cursor => some (.ok cursor.position, cursor)

/-- What stands from the position on. -/
def remaining : Op Text := fun cursor =>
  (Text.cut? cursor.input cursor.position).map fun (_, rest) => (.ok rest, cursor)

/-- The next character, if there is one. -/
def peek : Op (Option Char) := return (← remaining).head?

/-- Whether a decimal digit comes next. -/
def isAtDigit : Op Bool := return (← peek).any (Text.isDigit 10)

/-- The text from byte `start` up to the position. -/
def sliceFrom (start : Nat) : Op Text := fun cursor =>
  (Text.slice? cursor.input start cursor.position).map fun slice => (.ok slice, cursor)

/-- Moves on by `count` bytes. -/
def moveBy (count : Nat) : Op Unit := fun cursor => do
  guard (cursor.position + count < UInt64.size)
  let _ ← Text.cut? cursor.input (cursor.position + count)
  return (.ok (), { cursor with position := cursor.position + count })

/-- An error at byte `start` of the input. -/
def errorAt (start : Nat) (cause : ParseError.Cause) : Op α := fun cursor => do
  guard (cursor.base + start < UInt64.size)
  return (.error ⟨cursor.base + start, cause⟩, cursor)

/-- An error at the position. -/
def error (cause : ParseError.Cause) : Op α := do errorAt (← here) cause

/-- Whether nothing is left. -/
def isEof : Op Bool := fun cursor =>
  some (.ok (decide (utf8Length cursor.input ≤ cursor.position)), cursor)

/-- The next character, which is read. -/
def any : Op Char := do
  match ← peek with
  | none => error .unexpectedEnd
  | some c =>
    moveBy c.utf8Size
    return c

/-- Reads `c` if it comes next, and says whether it did. -/
def skipChar? (c : Char) : Op Bool := do
  if (← peek) = some c then
    moveBy c.utf8Size
    return true
  else return false

/-- Reads `c`, which must come next. -/
def skipChar (c : Char) : Op Unit := do
  let start ← here
  let found ← any
  if found = c then return () else errorAt start (.unexpectedChar c found)

/-- Reads up to the first character in `stop`, or to the end. -/
def textUntil (stop : Char → Bool) : Op Text := do
  let rest ← remaining
  let length := utf8Length (rest.takeWhile fun c => !stop c)
  moveBy length
  let (text, _) ← require (Text.cut? rest length)
  return text

/-- Refuses to go on. -/
def refuse : Op α := fun _ => none

/-- A loop that is given one round more than there are bytes. -/
def looped (loop : Nat → Op α) : Op α := fun cursor => loop (utf8Length cursor.input + 1) cursor

/-- Reads the rest of a number that began at `start` and has the value `value` so far.  A digit is
taken to have one byte. -/
def digits (start value : Nat) : Nat → Op UInt32
  | 0 => refuse
  | rounds + 1 => do
    match (← peek).bind (Text.digitValue? 10) with
    | none => return .ofNat value
    | some digit =>
      if value * 10 + digit < UInt32.size then
        moveBy 1
        digits start (value * 10 + digit) rounds
      else errorAt start .numberTooLarge

/-- A decimal number below 2^32. -/
def number : Op UInt32 := do
  let start ← here
  match ← peek with
  | none => error .unexpectedEnd
  | some c => if Text.isDigit 10 c then looped (digits start 0) else error (.notADigit c)

/-- Judges what `op` has read, with an error at the place where it began. -/
def checked (op : Op α) (verdict : α → Except ParseError.Cause β) : Op β := do
  let start ← here
  let a ← op
  match verdict a with
  | .ok b => return b
  | .error cause => errorAt start cause

/-- Runs `item` as long as `more` says that there is one. -/
def many (more : Op Bool) (item : Op α) : Nat → Op (List α)
  | 0 => refuse
  | rounds + 1 => do
    if ← more then return (← item) :: (← many more item rounds) else return []

theorem bind_of_ok {op : Op α} {cursor after : Cursor} {a : α}
    (h : op cursor = some (.ok a, after)) (next : α → Op β) :
    (op >>= next) cursor = next a after := by
  change (op cursor).bind _ = _
  rw [h]
  rfl

theorem bind_of_error {op : Op α} {cursor after : Cursor} {fault : ParseError}
    (h : op cursor = some (.error fault, after)) (next : α → Op β) :
    (op >>= next) cursor = some (.error fault, after) := by
  change (op cursor).bind _ = _
  rw [h]
  rfl

theorem require_apply {value? : Option α} {a : α} (h : value? = some a) (cursor : Cursor) :
    require value? cursor = some (.ok a, cursor) := by
  rw [require, h]
  rfl

end Cursor

open Cursor (Op)

/-! ### Sites -/

/-- An input that stands at byte `base` of a template, with all its positions in 64 bits, and the
part of it that is scanned. -/
structure Site where
  base : Nat
  input : Text
  text : Text
  suffix : text <:+ input
  fits : base + utf8Length input < UInt64.size

namespace Site

variable {α β : Type} {site : Site}

/-- The position before `rest`. -/
def offset (site : Site) (rest : Text) : Nat := utf8Length (Text.before site.input rest)

/-- The cursor before `rest`. -/
def cursor (site : Site) (rest : Text) : Cursor := ⟨site.input, site.offset rest, site.base⟩

/-- The result of a scanner, as that of an operation. -/
def outcome (site : Site) : Scan.Result α → Except ParseError α × Cursor
  | .ok a left => (.ok a, site.cursor left)
  | .error fault left => (.error (fault.toParseError site.base site.input), site.cursor left)

/-- At this site an operation does what a scanner does. -/
structure Follows (site : Site) (op : Op α) (scan : Scan α) : Prop where
  stays : ∀ {rest left a}, rest <:+ site.text → scan rest = .ok a left → left <:+ site.text
  apply : ∀ {rest}, rest <:+ site.text → op (site.cursor rest) = some (site.outcome (scan rest))

theorem follows_pure (a : α) : site.Follows (pure a) (pure a) where
  stays hrest hscan := ((Scan.stays_pure a).suffix hscan).trans hrest
  apply _ := rfl

/-- One after the other. -/
theorem Follows.bind {op : Op α} {scan : Scan α} {next : α → Op β} {follow : α → Scan β}
    (h : site.Follows op scan) (hnext : ∀ a, site.Follows (next a) (follow a)) :
    site.Follows (op >>= next) (scan >>= follow) where
  stays hrest hscan := by
    obtain ⟨a, mid, ha, hb⟩ := Scan.bind_eq_ok hscan
    exact (hnext a).stays (h.stays hrest ha) hb
  apply {rest} hrest := by
    have hop := h.apply hrest
    rw [Scan.bind_apply]
    cases hscan : scan rest with
    | ok a mid =>
      rw [hscan] at hop
      rw [Cursor.bind_of_ok hop]
      exact (hnext a).apply (h.stays hrest hscan)
    | error fault mid =>
      rw [hscan] at hop
      exact Cursor.bind_of_error hop next

/-- An operation that first asks for its position. -/
theorem here_bind (next : Nat → Op α) (rest : Text) :
    (Cursor.here >>= next) (site.cursor rest) = next (site.offset rest) (site.cursor rest) := rfl

/-! ### Positions -/

theorem cut?_offset {rest : Text} (h : rest <:+ site.input) :
    Text.cut? site.input (site.offset rest) = some (Text.before site.input rest, rest) :=
  Text.cut?_eq_some_iff.mpr ⟨(Text.before_append_self h).symm, rfl⟩

/-- Reading a text moves the position on by its bytes. -/
theorem offset_append {read rest : Text} (h : read ++ rest <:+ site.input) :
    site.offset (read ++ rest) + utf8Length read = site.offset rest := by
  rw [offset, offset, Text.before_trans h (List.suffix_append read rest), Text.before_append,
    Text.utf8Length_append]

theorem offset_le {rest : Text} (h : rest <:+ site.input) :
    site.offset rest ≤ utf8Length site.input := by
  have hwhole := congrArg utf8Length (Text.before_append_self h)
  rw [Text.utf8Length_append] at hwhole
  rw [offset]
  omega

theorem remaining_apply {rest : Text} (h : rest <:+ site.input) :
    Cursor.remaining (site.cursor rest) = some (.ok rest, site.cursor rest) := by
  rw [Cursor.remaining, cursor, cut?_offset h]
  rfl

theorem peek_apply {rest : Text} (h : rest <:+ site.input) :
    Cursor.peek (site.cursor rest) = some (.ok rest.head?, site.cursor rest) := by
  rw [Cursor.peek, Cursor.bind_of_ok (remaining_apply h)]
  rfl

theorem moveBy_apply {read rest : Text} (h : read ++ rest <:+ site.input) :
    Cursor.moveBy (utf8Length read) (site.cursor (read ++ rest)) =
      some (.ok (), site.cursor rest) := by
  have hrest := (List.suffix_append read rest).trans h
  have hlt : site.offset rest < UInt64.size := by
    have hle := offset_le hrest
    have hfits := site.fits
    omega
  simp only [Cursor.moveBy, cursor, offset_append h, cut?_offset hrest, guard, hlt, if_true]
  rfl

theorem moveBy_char {c : Char} {rest : Text} (h : c :: rest <:+ site.input) :
    Cursor.moveBy c.utf8Size (site.cursor (c :: rest)) = some (.ok (), site.cursor rest) := by
  have hsuffix : [c] ++ rest <:+ site.input := h
  have hmove := moveBy_apply hsuffix
  rwa [Text.utf8Length_cons, Text.utf8Length_nil, Nat.add_zero] at hmove

theorem errorAt_apply {place rest : Text} (h : place <:+ site.input)
    (cause : ParseError.Cause) :
    (Cursor.errorAt (site.offset place) cause : Op α) (site.cursor rest) =
      some (site.outcome (.error ⟨place, cause⟩ rest)) := by
  have hlt : site.base + site.offset place < UInt64.size := by
    have hle := offset_le h
    have hfits := site.fits
    omega
  simp only [Cursor.errorAt, cursor, guard, hlt, if_true]
  rfl

theorem error_apply {rest : Text} (h : rest <:+ site.input) (cause : ParseError.Cause) :
    (Cursor.error cause : Op α) (site.cursor rest) =
      some (site.outcome (.error ⟨rest, cause⟩ rest)) :=
  errorAt_apply h cause

theorem sliceFrom_apply {start rest : Text} (h : start <:+ site.input) (hrest : rest <:+ start) :
    Cursor.sliceFrom (site.offset start) (site.cursor rest) =
      some (.ok (Text.before start rest), site.cursor rest) := by
  have hstart := Text.before_append_self h
  have hsplit := Text.before_append_self hrest
  have hslice := Text.slice?_append (Text.before site.input start) (Text.before start rest) rest
  rw [List.append_assoc, hsplit, hstart, ← Text.before_trans h hrest] at hslice
  rw [Cursor.sliceFrom, cursor, offset, offset, hslice]
  rfl

/-! ### The operations follow the scanners -/

theorem Follows.of_apply {op : Op α} {scan : Scan α} (h : Scan.Stays scan)
    (happly : ∀ {rest}, rest <:+ site.input →
      op (site.cursor rest) = some (site.outcome (scan rest))) : site.Follows op scan where
  stays hrest hscan := (h.suffix hscan).trans hrest
  apply hrest := happly (hrest.trans site.suffix)

theorem any_apply_nil (h : [] <:+ site.input) :
    Cursor.any (site.cursor []) = some (site.outcome (.error ⟨[], .unexpectedEnd⟩ [])) := by
  rw [Cursor.any, Cursor.bind_of_ok (peek_apply h)]
  exact error_apply h .unexpectedEnd

theorem any_apply_cons {c : Char} {rest : Text} (h : c :: rest <:+ site.input) :
    Cursor.any (site.cursor (c :: rest)) = some (.ok c, site.cursor rest) := by
  rw [Cursor.any, Cursor.bind_of_ok (peek_apply h)]
  exact Cursor.bind_of_ok (moveBy_char h) _

theorem follows_any : site.Follows Cursor.any Scan.any :=
  .of_apply Scan.advances_any.stays fun {rest} h => by
    cases rest with
    | nil => exact any_apply_nil h
    | cons c rest => exact any_apply_cons h

theorem follows_isEof : site.Follows Cursor.isEof Scan.isEof :=
  .of_apply Scan.stays_isEof fun {rest} h => by
    have hwhole := congrArg utf8Length (Text.before_append_self h)
    rw [Text.utf8Length_append, ← offset] at hwhole
    have hdone : decide (utf8Length site.input ≤ site.offset rest) = rest.isEmpty := by
      cases rest with
      | nil => exact decide_eq_true (by simpa using hwhole.ge)
      | cons c rest =>
        have hpos := c.utf8Size_pos
        rw [Text.utf8Length_cons] at hwhole
        exact decide_eq_false (by omega)
    rw [Cursor.isEof, cursor, hdone]
    rfl

theorem follows_isAtDigit : site.Follows Cursor.isAtDigit Scan.isAtDigit :=
  .of_apply Scan.stays_isAtDigit fun h => Cursor.bind_of_ok (peek_apply h) _

theorem skipChar?_apply {rest : Text} (h : rest <:+ site.input) (c : Char) :
    Cursor.skipChar? c (site.cursor rest) = some (site.outcome (Scan.skipChar? c rest)) := by
  rw [Cursor.skipChar?, Cursor.bind_of_ok (peek_apply h)]
  cases rest with
  | nil => rfl
  | cons d rest =>
    rw [Scan.skipChar?_cons]
    by_cases hd : d = c
    · subst hd
      rw [if_pos rfl, List.head?_cons, if_pos rfl]
      exact Cursor.bind_of_ok (moveBy_char h) _
    · have hhead : (d :: rest).head? ≠ some c := fun heq => hd (Option.some.inj heq)
      rw [if_neg hd, if_neg hhead]
      rfl

theorem follows_skipChar? (c : Char) : site.Follows (Cursor.skipChar? c) (Scan.skipChar? c) :=
  .of_apply (Scan.stays_skipChar? c) fun h => skipChar?_apply h c

theorem follows_skipChar (c : Char) : site.Follows (Cursor.skipChar c) (Scan.skipChar c) :=
  .of_apply (Scan.advances_skipChar c).stays fun {rest} h => by
    rw [Cursor.skipChar, here_bind]
    cases rest with
    | nil => exact Cursor.bind_of_error (any_apply_nil h) _
    | cons d rest =>
      rw [Cursor.bind_of_ok (any_apply_cons h), Scan.skipChar_cons]
      by_cases hd : d = c
      · rw [if_pos hd, if_pos hd]
        rfl
      · rw [if_neg hd, if_neg hd]
        exact errorAt_apply h _

theorem textUntil_apply {rest : Text} (h : rest <:+ site.input) (stop : Char → Bool) :
    Cursor.textUntil stop (site.cursor rest) = some (site.outcome (Scan.textUntil stop rest)) := by
  obtain ⟨hsplit, -, -⟩ := Text.run_split (fun c => !stop c) rest
  rw [Cursor.textUntil, Cursor.bind_of_ok (remaining_apply h), Scan.textUntil]
  generalize rest.takeWhile (fun c => !stop c) = run at *
  generalize rest.dropWhile (fun c => !stop c) = left at *
  subst hsplit
  dsimp only
  rw [Cursor.bind_of_ok (moveBy_apply h), Text.cut?_append]
  rfl

theorem follows_textUntil (stop : Char → Bool) :
    site.Follows (Cursor.textUntil stop) (Scan.textUntil stop) :=
  .of_apply (Scan.stays_textUntil stop) fun h => textUntil_apply h stop

/-- A digit has one byte. -/
theorem utf8Size_of_isDigit {c : Char} (h : Text.isDigit 10 c = true) : c.utf8Size = 1 := by
  have hc := Text.toNat_of_isDigit h
  have hle : c.val.toNat ≤ 0x7f := by
    rw [Char.toNat] at hc
    omega
  exact Char.utf8Size_eq_one_iff.mpr (UInt32.le_iff_toNat_le.mpr hle)

/-- A loop has more rounds than there are characters left. -/
theorem length_lt_rounds {rest : Text} (h : rest <:+ site.input) :
    rest.length < utf8Length site.input + 1 := by
  have hlength : rest.length ≤ site.input.length := h.length_le
  have hbytes := Text.length_le_utf8Length site.input
  omega

/-- The rest of a number is followed from any place in it. -/
theorem digits_apply {start rest : Text} (h : start <:+ site.input) (hrest : rest <:+ start)
    (value : Nat) {rounds : Nat} (hrounds : rest.length < rounds) :
    Cursor.digits (site.offset start) value rounds (site.cursor rest) =
      some (site.outcome (Scan.moreDigits start value rest)) := by
  induction rest generalizing value rounds with
  | nil =>
    obtain ⟨rounds, rfl⟩ := Nat.exists_eq_add_one_of_ne_zero (Nat.ne_zero_of_lt hrounds)
    rw [Cursor.digits, Cursor.bind_of_ok (peek_apply (hrest.trans h))]
    rfl
  | cons c rest ih =>
    obtain ⟨rounds, rfl⟩ := Nat.exists_eq_add_one_of_ne_zero (Nat.ne_zero_of_lt hrounds)
    have hinput := hrest.trans h
    rw [Cursor.digits, Cursor.bind_of_ok (peek_apply hinput), Scan.moreDigits, List.head?_cons,
      Option.bind_some]
    cases hdigit : Text.digitValue? 10 c with
    | none => rfl
    | some digit =>
      have hsize : c.utf8Size = 1 := utf8Size_of_isDigit (by rw [Text.isDigit, hdigit]; rfl)
      dsimp only
      by_cases hfits : value * 10 + digit < UInt32.size
      · rw [if_pos hfits, if_pos hfits, ← hsize, Cursor.bind_of_ok (moveBy_char hinput)]
        exact ih ((List.suffix_cons c rest).trans hrest) _ (Nat.lt_of_succ_lt_succ hrounds)
      · rw [if_neg hfits, if_neg hfits]
        exact errorAt_apply h _

theorem follows_number : site.Follows Cursor.number Scan.number :=
  .of_apply Scan.advances_number.stays fun {rest} h => by
    rw [Cursor.number, here_bind, Cursor.bind_of_ok (peek_apply h)]
    cases rest with
    | nil => exact error_apply h _
    | cons c rest =>
      rw [Scan.number_cons, List.head?_cons]
      dsimp only
      by_cases hc : Text.isDigit 10 c = true
      · rw [if_pos hc, if_pos hc]
        exact digits_apply h (List.suffix_refl _) 0 (length_lt_rounds h)
      · rw [if_neg hc, if_neg hc]
        exact error_apply h _

theorem Follows.checked {op : Op α} {scan : Scan α} (h : site.Follows op scan)
    (verdict : α → Except ParseError.Cause β) :
    site.Follows (Cursor.checked op verdict) (scan.checked fun _ => verdict) where
  stays hrest hscan := by
    obtain ⟨a, ha, -⟩ := Scan.checked_eq_ok hscan
    exact h.stays hrest ha
  apply {rest} hrest := by
    have hop := h.apply hrest
    rw [Cursor.checked, here_bind, Scan.checked]
    cases hscan : scan rest with
    | error fault left =>
      rw [hscan] at hop
      exact Cursor.bind_of_error hop _
    | ok a left =>
      rw [hscan] at hop
      rw [Cursor.bind_of_ok hop]
      dsimp only
      cases verdict a with
      | ok b => rfl
      | error cause => exact errorAt_apply (hrest.trans site.suffix) cause

/-- **Repetition.**  An operation that is repeated does what the scanner does that is repeated, and
has come to an end by the time every character could have been read. -/
theorem many_apply {more : Op Bool} {item : Op α} {scanMore : Scan Bool} {scanItem : Scan α}
    (h : site.Follows more scanMore) (hitem : site.Follows item scanItem)
    (hstays : Scan.Stays scanMore) (hadvances : Scan.Advances scanItem) {rounds : Nat}
    {rest : Text} (hrest : rest <:+ site.text) (hrounds : rest.length < rounds) :
    Cursor.many more item rounds (site.cursor rest) =
      some (site.outcome (Scan.many scanMore scanItem hstays hadvances rest)) := by
  induction rounds generalizing rest with
  | zero => exact absurd hrounds (Nat.not_lt_zero _)
  | succ rounds ih =>
    have hop := h.apply hrest
    rw [Cursor.many, Scan.many_eq, Scan.bind_apply]
    cases hmore : scanMore rest with
    | error fault left =>
      rw [hmore] at hop
      exact Cursor.bind_of_error hop _
    | ok goes mid =>
      rw [hmore] at hop
      rw [Cursor.bind_of_ok hop]
      cases goes with
      | false => rfl
      | true =>
        have hmid := h.stays hrest hmore
        have hone := hitem.apply hmid
        simp only [if_true]
        rw [Scan.bind_apply]
        cases hscan : scanItem mid with
        | error fault left =>
          rw [hscan] at hone
          exact Cursor.bind_of_error hone _
        | ok a left =>
          rw [hscan] at hone
          have hlt := hadvances.length_lt hscan
          have hle : mid.length ≤ rest.length := (hstays.suffix hmore).length_le
          have hrec := ih (hitem.stays hmid hscan) (by omega)
          rw [Cursor.bind_of_ok hone]
          dsimp only
          rw [Scan.bind_apply]
          cases hall : Scan.many scanMore scanItem hstays hadvances left with
          | error fault last =>
            rw [hall] at hrec
            exact Cursor.bind_of_error hrec _
          | ok as last =>
            rw [hall] at hrec
            exact Cursor.bind_of_ok hrec _

theorem Follows.many {more : Op Bool} {item : Op α} {scanMore : Scan Bool} {scanItem : Scan α}
    (h : site.Follows more scanMore) (hitem : site.Follows item scanItem)
    (hstays : Scan.Stays scanMore) (hadvances : Scan.Advances scanItem) :
    site.Follows (Cursor.looped (Cursor.many more item))
      (Scan.many scanMore scanItem hstays hadvances) where
  stays hrest hscan := ((Scan.stays_many hstays hadvances).suffix hscan).trans hrest
  apply hrest :=
    many_apply h hitem hstays hadvances hrest (length_lt_rounds (hrest.trans site.suffix))

end Site

end DriverPrintf
