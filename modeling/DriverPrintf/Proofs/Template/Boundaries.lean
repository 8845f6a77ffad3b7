import DriverPrintf.Proofs.Template.Cursor
import DriverPrintf.Proofs.Template.Tiling

/-!
# Template — character boundaries

The scanners of descriptors and of segments once more, as operations on a cursor, and a reader that
goes on from where its cursor stands (`Reading`).  Every cut and slice of a text, every move and
every position in an error is checked where it is made.  The body of a bitset is parsed by a cursor
of its own, which starts at byte 0 of the body and counts its errors from where the body stands; so
the operations from `bitset` on follow their scanners only in an input that is the whole template.

* **Descriptors** (`Cursor.exists_parse?_eq`) and **calls of a reader** (`Reading.next?_ofReader`) do
  what the scanners do and are not refused.
* **`cursors_stay_on_boundaries`**: at every call of a reader, also after an error, and in every
  descriptor, the cursor is between two characters of its input or at an end of it.
-/

namespace DriverPrintf

open Text (utf8Length)
open Cursor (Op)

namespace Cursor

/-! ### Descriptors -/

/-- A bit of a 32-bit word. -/
def bitIndex : Op UInt32 :=
  checked number fun bit => if bit < 32 then .ok bit else .error (.noSuchBit bit)

/-- A value of a range and its label, `V=Label`. -/
def label : Op (UInt32 × Text) := do
  let value ← number
  skipChar '='
  let name ← textUntil Bitset.endsLabel
  return (value, name)

/-- The labels of a range, each after a colon. -/
def labels : Op (List (UInt32 × Text)) := looped (many (skipChar? ':') label)

/-- The last bit of a range that begins at `first`. -/
def lastBit (first : UInt32) : Op UInt32 :=
  checked bitIndex fun last =>
    if last < first then .error (.invertedRange first last) else .ok last

/-- The rest of a range, after the hyphen. -/
def range (first : UInt32) : Op BitField := do
  let last ← lastBit first
  skipChar '='
  let name ← textUntil Bitset.endsLabel
  return .range first last name (← labels)

/-- The rest of a flag, after the bit. -/
def flag (bit : UInt32) (inverted : Bool) : Op BitField := do
  skipChar '='
  return .flag bit inverted (← textUntil (· == ','))

/-- An entry of a descriptor. -/
def entry : Op BitField := do
  let inverted ← skipChar? '~'
  let bit ← bitIndex
  if inverted then flag bit true
  else if ← skipChar? '-' then range bit
  else flag bit false

/-- Whether an entry follows, after a comma or not. -/
def moreEntries : Op Bool := do
  let _ ← skipChar? ','
  return !(← isEof)

/-- A descriptor, to the end of the input. -/
def descriptor : Op Bitset := do
  return ⟨← looped (many moreEntries entry)⟩

/-- Parses the descriptor `body`, which stands at byte `offset` of its template. -/
def parse? (body : Text) (offset : Nat) : Option (Except ParseError Bitset × Cursor) :=
  descriptor (atFront body offset)

/-! ### Segments -/

/-- The flag of a specification. -/
def padding : Op Padding := do
  if ← skipChar? '0' then return .zeros
  else if ← skipChar? '-' then return .spacesAfter
  else return .spacesBefore

/-- The width of a specification, 0 if there is none. -/
def width : Op Nat := do
  if ← isAtDigit then return (← number).toNat else return 0

/-- The error of a specification from byte `start` up to the position, which names no conversion. -/
def invalid {α : Type} (start : Nat) : Op α := do
  errorAt start (.unknownConversion (← sliceFrom start))

/-- An integer, if its letter is that of a style. -/
def integer (start : Nat) (layout : FieldLayout) (size : IntegerSize) : Op Conversion := do
  match IntegerStyle.ofLetter? (← any) with
  | some style => return .integer layout size style
  | none => invalid start

/-- A bitset, behind its `<`. -/
def bitset : Op Conversion := do
  let start ← here
  let body ← textUntil (· == '>')
  if ← skipChar? '>' then
    let (answer, _) ← require (parse? body start)
    match answer with
    | .ok descriptor => return .bitset descriptor
    | .error fault => throw fault
  else error .unexpectedEnd

/-- The conversion of a specification that began at byte `start`, from its letter on. -/
def conversionAfter (start : Nat) (layout : FieldLayout) : Op Conversion := do
  match ← any with
  | 'h' => integer start layout .half
  | 'b' => integer start layout .byte
  | 's' => return .string layout
  | 'c' => return .char
  | 'p' => return .pointer .lower
  | 'P' => return .pointer .upper
  | 'a' => return .busAddress .lower
  | 'A' => return .busAddress .upper
  | '<' => bitset
  | c =>
    match IntegerStyle.ofLetter? c with
    | some style => return .integer layout .word style
    | none => invalid start

/-- A specification.  The literal `%` is the second of two, which stands one byte behind the
first. -/
def specification : Op Segment := do
  let start ← here
  skipChar '%'
  if ← skipChar? '%' then return .literal (← sliceFrom (start + 1))
  else
    let padding ← padding
    let width ← width
    return .conversion (← conversionAfter start ⟨padding, width⟩)

/-- A run of text without `%`. -/
def plainRun : Op Segment := do
  return .literal (← textUntil (· == '%'))

end Cursor

/-- A reader with a cursor. -/
structure Reading where
  cursor : Cursor
  failed : Bool

/-- The next result of a reader, if there is one, and the reader after it; or a refusal. -/
def Reading.next? (reading : Reading) :
    Option (Option (Except ParseError Segment) × Reading) :=
  if reading.failed then some (none, reading)
  else do
    let (_, rest) ← Text.cut? reading.cursor.input reading.cursor.position
    match rest.head? with
    | none => return (none, reading)
    | some c =>
      let op := if c = '%' then Cursor.specification else Cursor.plainRun
      let (answer, cursor) ← op reading.cursor
      return (some answer, ⟨cursor, !answer.isOk⟩)

/-- The reader of a template after `n` calls. -/
def readingAfter? (template : Text) : Nat → Option Reading
  | 0 => some ⟨.atFront template 0, false⟩
  | n + 1 => do
    let reading ← readingAfter? template n
    let (_, after) ← reading.next?
    return after

/-! ### Descriptors are followed -/

namespace Site

variable {α β : Type} {site : Site}

theorem follows_bitIndex : site.Follows Cursor.bitIndex Bitset.bitIndex :=
  follows_number.checked _

theorem follows_label : site.Follows Cursor.label Bitset.label :=
  follows_number.bind fun _ => (follows_skipChar '=').bind fun _ =>
    (follows_textUntil _).bind fun _ => follows_pure _

theorem follows_labels : site.Follows Cursor.labels Bitset.labels :=
  (follows_skipChar? ':').many follows_label _ _

theorem follows_range (first : UInt32) : site.Follows (Cursor.range first) (Bitset.range first) :=
  (follows_bitIndex.checked _).bind fun _ => (follows_skipChar '=').bind fun _ =>
    (follows_textUntil _).bind fun _ => follows_labels.bind fun _ => follows_pure _

theorem follows_flag (bit : UInt32) (inverted : Bool) :
    site.Follows (Cursor.flag bit inverted) (Bitset.flag bit inverted) :=
  (follows_skipChar '=').bind fun _ => (follows_textUntil _).bind fun _ => follows_pure _

theorem follows_entry : site.Follows Cursor.entry Bitset.entry :=
  (follows_skipChar? '~').bind fun inverted => follows_bitIndex.bind fun bit => by
    cases inverted with
    | true => exact follows_flag bit true
    | false =>
      refine (follows_skipChar? '-').bind fun ranged => ?_
      cases ranged with
      | true => exact follows_range bit
      | false => exact follows_flag bit false

theorem follows_moreEntries : site.Follows Cursor.moreEntries Bitset.moreEntries :=
  (follows_skipChar? ',').bind fun _ => follows_isEof.bind fun _ => follows_pure _

/-- **A descriptor** is followed in any input. -/
theorem follows_descriptor : site.Follows Cursor.descriptor Bitset.descriptor :=
  (follows_moreEntries.many follows_entry _ _).bind fun _ => follows_pure _

end Site

/-- **Descriptors.**  Wherever a body stands in 64 bits, a cursor parses it. -/
theorem Cursor.exists_parse?_eq {body : Text} {offset : Nat}
    (h : offset + utf8Length body < UInt64.size) :
    ∃ front rest, body = front ++ rest ∧
      parse? body offset = some (Bitset.parse body offset, ⟨body, utf8Length front, offset⟩) := by
  let site : Site := ⟨offset, body, body, List.suffix_refl body, h⟩
  have hfront : site.cursor body = atFront body offset := by
    simp [site, Site.cursor, Site.offset, atFront]
  have hfollows : site.Follows descriptor Bitset.descriptor := Site.follows_descriptor
  have hrun := hfollows.apply (List.suffix_refl body)
  have hwithin := Bitset.stays_descriptor body
  rw [hfront, ← parse?] at hrun
  rw [Bitset.parse]
  cases hscan : Bitset.descriptor body with
  | ok bitset left =>
    rw [hscan] at hrun hwithin
    exact ⟨_, left, (Text.before_append_self hwithin).symm, hrun⟩
  | error fault left =>
    rw [hscan] at hrun hwithin
    exact ⟨_, left, (Text.before_append_self hwithin.2).symm, hrun⟩

/-! ### Segments are followed -/

/-- A fault in the rest of a text is counted from where the rest stands. -/
theorem Fault.toParseError_of_suffix {whole rest : Text} {fault : Fault} (h : rest <:+ whole)
    (hplace : fault.place <:+ rest) (offset : Nat) :
    fault.toParseError offset whole =
      fault.toParseError (offset + utf8Length (Text.before whole rest)) rest := by
  rw [toParseError, toParseError, Text.before_trans h hplace, Text.utf8Length_append,
    Nat.add_assoc]

/-- A fault in the front of a text is one of the text. -/
theorem Fault.toParseError_append {text : Text} {fault : Fault} (hplace : fault.place <:+ text)
    (behind : Text) (offset : Nat) :
    toParseError offset (text ++ behind) { fault with place := fault.place ++ behind } =
      fault.toParseError offset text := by
  rw [toParseError, toParseError, Text.before_append_append hplace]

/-- What a scanner finds; if it finds nothing, a fault of all that was read from `start` on. -/
def Scan.known {α : Type} (start : Text) (scan : Scan (Option α)) : Scan α := fun text =>
  match scan text with
  | .ok (some a) left => .ok a left
  | .ok none left => .error ⟨start, .unknownConversion (Text.before start left)⟩ left
  | .error fault left => .error fault left

theorem Scan.known_bind {α β : Type} (start : Text) (scan : Scan α) (follow : α → Scan (Option β)) :
    known start (scan >>= follow) = scan >>= fun a => known start (follow a) := by
  funext text
  rw [known, bind_apply, bind_apply]
  cases scan text <;> rfl

theorem Scan.known_map {α β : Type} (start : Text) (scan : Scan (Option α)) (f : α → β) :
    known start (scan >>= fun found => pure (found.map f)) =
      known start scan >>= fun a => pure (f a) := by
  funext text
  rw [known, bind_apply, bind_apply, known]
  cases scan text with
  | error => rfl
  | ok found left => cases found <;> rfl

/-- A specification must name a conversion. -/
theorem Segment.specification_eq_known (text : Text) :
    specification text = Scan.known text specification? text := by
  rw [specification, Scan.checked, Scan.known]
  cases specification? text with
  | error => rfl
  | ok segment? left => cases segment? <;> rfl

namespace Site

variable {α β : Type} {site : Site}

theorem follows_padding : site.Follows Cursor.padding Segment.padding :=
  (follows_skipChar? '0').bind fun zero => by
    cases zero with
    | true => exact follows_pure _
    | false =>
      refine (follows_skipChar? '-').bind fun hyphen => ?_
      cases hyphen with
      | true => exact follows_pure _
      | false => exact follows_pure _

theorem follows_width : site.Follows Cursor.width Segment.width :=
  follows_isAtDigit.bind fun digit => by
    cases digit with
    | true => exact follows_number.bind fun _ => follows_pure _
    | false => exact follows_pure _

/-- The fragment in the error of a specification is what was read of it. -/
theorem follows_invalid :
    site.Follows (Cursor.invalid (site.offset site.text) : Op α)
      (Scan.known site.text (pure none)) where
  stays _ hscan := by cases hscan
  apply hrest := by
    rw [Cursor.invalid, Cursor.bind_of_ok (sliceFrom_apply site.suffix hrest)]
    exact errorAt_apply site.suffix _

theorem follows_style (c : Char) (make : IntegerStyle → Conversion) :
    site.Follows
      (match IntegerStyle.ofLetter? c with
        | some style => pure (make style)
        | none => Cursor.invalid (site.offset site.text))
      (Scan.known site.text (pure ((IntegerStyle.ofLetter? c).map make))) := by
  cases IntegerStyle.ofLetter? c with
  | some style => exact follows_pure (make style)
  | none => exact follows_invalid

theorem follows_integer (layout : FieldLayout) (size : IntegerSize) :
    site.Follows (Cursor.integer (site.offset site.text) layout size)
      (Scan.known site.text (Segment.integer layout size)) := by
  rw [Segment.integer, Scan.known_bind]
  exact follows_any.bind fun c => follows_style c _

/-- A fault in the body of a bitset is counted from where the body stands. -/
theorem toParseError_enclosed (hbase : site.base = 0) {body behind : Text} {fault : Fault}
    (h : body ++ behind <:+ site.input) (hplace : fault.place <:+ body) :
    Fault.toParseError site.base site.input { fault with place := fault.place ++ behind } =
      fault.toParseError (site.offset (body ++ behind)) body := by
  have hsuffix : fault.place ++ behind <:+ body ++ behind := by
    obtain ⟨read, hread⟩ := hplace
    exact ⟨read, by rw [← List.append_assoc, hread]⟩
  rw [Fault.toParseError_of_suffix h hsuffix, hbase, Nat.zero_add, ← offset,
    Fault.toParseError_append hplace]

/-- **A bitset** is followed in a template, with its body parsed where it stands. -/
theorem follows_bitset (hbase : site.base = 0) :
    site.Follows Cursor.bitset (Scan.known site.text
      (Bitset.descriptor.enclosed '>' >>= fun descriptor => pure (some (.bitset descriptor)))) := by
  rw [Scan.known_bind]
  have hstays : Scan.Stays (Bitset.descriptor.enclosed '>' >>= fun descriptor =>
      Scan.known site.text (pure (some (Conversion.bitset descriptor)))) :=
    (Bitset.stays_descriptor.enclosed '>').bind fun _ => Scan.stays_pure _
  refine .of_apply hstays fun {rest} hinput => ?_
  have huntil : Cursor.textUntil (· == '>') (site.cursor rest) =
      some (.ok (rest.takeWhile (· != '>')), site.cursor (rest.dropWhile (· != '>'))) :=
    textUntil_apply hinput (· == '>')
  obtain ⟨hsplit, -, hends⟩ := Text.run_split (· != '>') rest
  rw [Cursor.bitset, here_bind, Cursor.bind_of_ok huntil, Scan.bind_apply, Scan.enclosed]
  generalize rest.takeWhile (· != '>') = body at *
  generalize rest.dropWhile (· != '>') = behind at *
  subst hsplit
  have hbehind : behind <:+ site.input := (List.suffix_append body behind).trans hinput
  cases behind with
  | nil =>
    rw [Cursor.bind_of_ok (skipChar?_apply hbehind '>')]
    exact error_apply hbehind _
  | cons closing behind =>
    obtain rfl : closing = '>' := by simpa using hends
    have hskip : Cursor.skipChar? '>' (site.cursor ('>' :: behind)) =
        some (.ok true, site.cursor behind) := skipChar?_apply hbehind '>'
    -- the body has a cursor of its own, at the position where it begins
    have hfits : site.offset (body ++ '>' :: behind) + utf8Length body < UInt64.size := by
      have hle := offset_le hbehind
      have hbytes := site.fits
      rw [offset_append hinput]
      omega
    obtain ⟨front, left, -, hparse⟩ := Cursor.exists_parse?_eq hfits
    have hbody := Cursor.require_apply hparse (site.cursor behind)
    rw [Cursor.bind_of_ok hskip, if_pos rfl, Cursor.bind_of_ok hbody, Bitset.parse]
    have hwithin := Bitset.stays_descriptor body
    cases hscan : Bitset.descriptor body with
    | ok descriptor left => rfl
    | error fault left =>
      rw [hscan] at hwithin
      have hfault := toParseError_enclosed hbase hinput hwithin.1
      dsimp only
      rw [outcome, hfault]
      rfl

/-- **A conversion** is followed, and if it has no name, so is the error of its specification. -/
theorem follows_conversionAfter (hbase : site.base = 0) (layout : FieldLayout) :
    site.Follows (Cursor.conversionAfter (site.offset site.text) layout)
      (Scan.known site.text (Segment.conversionAfter layout)) := by
  rw [Segment.conversionAfter, Scan.known_bind, Cursor.conversionAfter]
  refine follows_any.bind fun c => ?_
  split
  iterate 2 exact follows_integer _ _
  iterate 6 exact follows_pure _
  · exact follows_bitset hbase
  · -- `c` is none of the letters before, which the match of the scanner has as well
    simpa [*] using follows_style c (.integer layout .word)

/-- **A specification** is followed from its `%` on. -/
theorem specification_apply (hbase : site.base = 0) {more : Text} (h : site.text = '%' :: more) :
    Cursor.specification (site.cursor site.text) =
      some (site.outcome (Segment.specification site.text)) := by
  have hmore : more <:+ site.input := (List.suffix_cons '%' more).trans (h ▸ site.suffix)
  have hpercent : Cursor.skipChar '%' (site.cursor site.text) =
      some (.ok (), site.cursor more) := by
    have hfollows : site.Follows (Cursor.skipChar '%') (Scan.skipChar '%') := follows_skipChar '%'
    have hskip := hfollows.apply (List.suffix_refl _)
    rw [h] at hskip ⊢
    exact hskip
  have hscan : Scan.skipChar '%' site.text = .ok () more := by
    rw [h]
    rfl
  rw [Segment.specification_eq_known, Segment.specification?, Scan.known_bind, Scan.bind_apply,
    hscan, Cursor.specification, here_bind, Cursor.bind_of_ok hpercent]
  dsimp only
  rw [Scan.known_bind, Scan.bind_apply]
  have hskip := skipChar?_apply hmore '%'
  cases hsecond : Scan.skipChar? '%' more with
  | error fault left =>
    rw [hsecond] at hskip
    exact Cursor.bind_of_error hskip _
  | ok second left =>
    rw [hsecond] at hskip
    rw [Cursor.bind_of_ok hskip]
    cases second with
    | true =>
      obtain rfl := Scan.skipChar?_eq_true_iff.mp hsecond
      -- the literal is cut one byte behind the first `%`
      have hone : site.offset site.text + 1 = site.offset ('%' :: left) := by
        have hwhole : '%' :: '%' :: left <:+ site.input := h ▸ site.suffix
        have hread : ['%'] ++ '%' :: left <:+ site.input := hwhole
        rw [h]
        exact offset_append hread
      have hslice := sliceFrom_apply hmore (List.suffix_cons '%' left)
      have hliteral : Text.before ('%' :: left) left = ['%'] := Text.before_append ['%'] left
      rw [hliteral] at hslice
      rw [if_pos rfl, hone, Cursor.bind_of_ok hslice]
      rfl
    | false =>
      have hrest : left <:+ site.text := by
        obtain ⟨rfl, -⟩ := Scan.skipChar?_eq_false_iff.mp hsecond
        exact h ▸ List.suffix_cons '%' _
      have hfollows : site.Follows
          (Cursor.padding >>= fun padding => Cursor.width >>= fun width =>
            Cursor.conversionAfter (site.offset site.text) ⟨padding, width⟩ >>= fun conversion =>
              pure (Segment.conversion conversion))
          (Scan.known site.text
            (Segment.padding >>= fun padding => Segment.width >>= fun width =>
              Segment.conversionAfter ⟨padding, width⟩ >>= fun found =>
                pure (found.map Segment.conversion))) := by
        rw [Scan.known_bind]
        refine follows_padding.bind fun padding => ?_
        rw [Scan.known_bind]
        refine follows_width.bind fun width => ?_
        rw [Scan.known_map]
        exact (follows_conversionAfter hbase _).bind fun _ => follows_pure _
      exact hfollows.apply hrest

theorem follows_plainRun : site.Follows Cursor.plainRun Segment.plainRun :=
  (follows_textUntil _).bind fun _ => follows_pure _

/-- The next segment is followed from where the site begins. -/
theorem scan_apply (hbase : site.base = 0) {c : Char} {more : Text} (h : site.text = c :: more) :
    (if c = '%' then Cursor.specification else Cursor.plainRun) (site.cursor site.text) =
      some (site.outcome (Segment.scan site.text)) := by
  by_cases hc : c = '%'
  · subst hc
    rw [if_pos rfl, Segment.scan, h, if_pos (List.head?_cons), ← h]
    exact specification_apply hbase h
  · have hhead : ¬ site.text.head? = some '%' := by
      rw [h]
      exact fun heq => hc (Option.some.inj heq)
    rw [if_neg hc, Segment.scan, if_neg hhead]
    exact follows_plainRun.apply (List.suffix_refl _)

end Site

/-! ### Readers -/

/-- A reader of a template, with its place as a position. -/
def Reading.ofReader (template : Text) (reader : Reader) : Reading :=
  ⟨⟨template, reader.offset, 0⟩, reader.failed⟩

theorem Reading.next?_of_cut? {reading : Reading} {front more : Text} {c : Char}
    (hfailed : reading.failed = false)
    (h : Text.cut? reading.cursor.input reading.cursor.position = some (front, c :: more)) :
    reading.next? =
      ((if c = '%' then Cursor.specification else Cursor.plainRun) reading.cursor).map
        fun (answer, cursor) => (some answer, ⟨cursor, !answer.isOk⟩) := by
  rw [next?, hfailed, h, Option.map_eq_bind]
  rfl

/-- **One call.**  A reader with a cursor that stands where the reader does answers what it answers,
and stands where it does after that. -/
theorem Reading.next?_ofReader {template front : Text} {reader : Reader}
    (hfits : utf8Length template < UInt64.size) (htemplate : template = front ++ reader.rest)
    (hoffset : reader.offset = utf8Length front) :
    (ofReader template reader).next? =
      some (reader.call.1.map Item.result, ofReader template reader.call.2) := by
  obtain ⟨offset, rest, failed⟩ := reader
  dsimp only at htemplate hoffset
  have hcut : Text.cut? template offset = some (front, rest) :=
    Text.cut?_eq_some_iff.mpr ⟨htemplate, hoffset.symm⟩
  cases failed with
  | true =>
    rw [Reader.call_of_next_eq_none (Reader.next_eq_none_iff.mpr (.inl rfl))]
    rfl
  | false =>
    cases rest with
    | nil =>
      rw [Reader.call_of_next_eq_none (Reader.next_eq_none_iff.mpr (.inr rfl))]
      simp [next?, ofReader, hcut]
    | cons c more =>
      have hsuffix : c :: more <:+ template := ⟨front, htemplate.symm⟩
      let site : Site := ⟨0, template, c :: more, hsuffix, by rwa [Nat.zero_add]⟩
      have hstart : site.offset (c :: more) = offset := by
        rw [Site.offset, hoffset]
        simp [site, htemplate]
      have hstand : ∀ left : Text, left <:+ c :: more →
          site.offset left = offset + utf8Length (Text.before (c :: more) left) := by
        intro left hleft
        rw [← hstart, Site.offset, Text.before_trans hsuffix hleft, Text.utf8Length_append]
        rfl
      have hrun := @Site.scan_apply site rfl _ _ rfl
      have hwithin := Segment.stays_scan (c :: more)
      rw [Site.cursor, hstart] at hrun
      rw [next?_of_cut? rfl hcut, ofReader, hrun]
      cases hscan : Segment.scan (c :: more) with
      | ok segment left =>
        rw [hscan] at hwithin
        have hnext : Reader.next ⟨offset, c :: more, false⟩ =
            some (⟨offset, Text.before (c :: more) left, .ok segment⟩,
              ⟨site.offset left, left, false⟩) := by
          simp [Reader.next, hscan, Item.stop, hstand left hwithin]
        rw [Reader.call_of_next_eq_some hnext]
        rfl
      | error fault left =>
        rw [hscan] at hwithin
        have hfault : fault.toParseError 0 template = fault.toParseError offset (c :: more) := by
          rw [Fault.toParseError_of_suffix hsuffix hwithin.1, Nat.zero_add, ← hstart]
          rfl
        have hnext : Reader.next ⟨offset, c :: more, false⟩ =
            some (⟨offset, Text.before (c :: more) left, .error (fault.toParseError 0 template)⟩,
              ⟨site.offset left, left, true⟩) := by
          simp [Reader.next, hscan, Item.stop, hstand left hwithin.2, hfault]
        rw [Reader.call_of_next_eq_some hnext]
        rfl

/-- After any number of calls the two readers stand at one place. -/
theorem readingAfter?_eq {template : Text} (hfits : utf8Length template < UInt64.size) (n : Nat) :
    readingAfter? template n = some (.ofReader template (readerAfter template n)) := by
  induction n with
  | zero => rfl
  | succ n ih =>
    obtain ⟨hrest, hoffset⟩ := readerAfter_behind template n
    rw [readingAfter?, ih, readerAfter_succ]
    change ((Reading.ofReader template (readerAfter template n)).next?).bind _ = _
    rw [Reading.next?_ofReader hfits hrest hoffset]
    rfl

/-! ### Boundaries -/

/-- The position is between two characters of the input, or at its front or its end. -/
def Cursor.OnBoundary (cursor : Cursor) : Prop :=
  ∃ front rest, cursor.input = front ++ rest ∧ utf8Length front = cursor.position

theorem Cursor.OnBoundary.position_le {cursor : Cursor} (h : cursor.OnBoundary) :
    cursor.position ≤ utf8Length cursor.input := by
  obtain ⟨front, rest, hinput, hposition⟩ := h
  rw [hinput, ← hposition, Text.utf8Length_append]
  exact Nat.le_add_right _ _

theorem Cursor.onBoundary_iff {cursor : Cursor} :
    cursor.OnBoundary ↔ ∃ front rest,
      Text.cut? cursor.input cursor.position = some (front, rest) := by
  simp only [OnBoundary, Text.cut?_eq_some_iff]

/-- A character of one byte stands at byte `n` of a text. -/
def Text.HasByteAt (text : Text) (n : Nat) : Prop :=
  ∃ front c rest, text = front ++ c :: rest ∧ utf8Length front = n ∧ c.utf8Size = 1

theorem Text.hasByteAt_of_cut? {text front rest front' rest' : Text} {n : Nat}
    (h : cut? text n = some (front, rest)) (h' : cut? text (n + 1) = some (front', rest')) :
    text.HasByteAt n := by
  obtain ⟨htext, hlength⟩ := cut?_eq_some_iff.mp h
  obtain ⟨c, rfl, hsize⟩ := exists_cons_of_cut?_succ h h'
  exact ⟨front, c, rest', htext, hlength, hsize⟩

/-- **A move** ends on a boundary, or it is refused. -/
theorem Cursor.cut?_of_moveBy {cursor after : Cursor} {count : Nat}
    {answer : Except ParseError Unit} (h : moveBy count cursor = some (answer, after)) :
    after = { cursor with position := cursor.position + count } ∧
      ∃ front rest, Text.cut? cursor.input (cursor.position + count) = some (front, rest) := by
  rw [moveBy] at h
  obtain ⟨-, -, h⟩ := Option.bind_eq_some_iff.mp h
  obtain ⟨⟨front, rest⟩, hcut, h⟩ := Option.bind_eq_some_iff.mp h
  cases h
  exact ⟨rfl, front, rest, hcut⟩

/-- A slice that begins on a boundary and is not refused. -/
theorem Cursor.cut?_of_sliceFrom {cursor after : Cursor} {start : Nat}
    {answer : Except ParseError Text} (h : sliceFrom start cursor = some (answer, after)) :
    ∃ front rest, Text.cut? cursor.input start = some (front, rest) := by
  obtain ⟨slice, hslice, -⟩ := Option.map_eq_some_iff.mp h
  rw [Text.slice?] at hslice
  obtain ⟨⟨whole, behind⟩, hwhole, hslice⟩ := Option.bind_eq_some_iff.mp hslice
  obtain ⟨⟨front, rest⟩, hcut, -⟩ := Option.bind_eq_some_iff.mp hslice
  obtain ⟨hinput, -⟩ := Text.cut?_eq_some_iff.mp hwhole
  obtain ⟨rfl, hstart⟩ := Text.cut?_eq_some_iff.mp hcut
  refine ⟨front, rest ++ behind, Text.cut?_eq_some_iff.mpr ⟨?_, hstart⟩⟩
  rw [hinput, List.append_assoc]

/-- **Cursors stay on boundaries.**  After any number of calls, also after an error, a reader with a
cursor stands where the reader does, between two characters of the template or at an end of it.  Its
next call is not refused, answers what the reader answers, and has read the slice of the template
between the positions before and after it.  A descriptor is parsed without a refusal wherever its
body stands, and leaves its cursor on a boundary of the body.  In between, a cursor changes in moves
alone, and a move that is not refused ends on a boundary; if it goes on by one byte it has passed a
character of one byte, and such a character stands where a slice begins one byte further. -/
theorem cursors_stay_on_boundaries :
    (∀ template, utf8Length template < UInt64.size → ∀ n, ∃ reading after,
      readingAfter? template n = some reading ∧
      reading.cursor.input = template ∧ reading.cursor.OnBoundary ∧
      reading.cursor.position ≤ utf8Length template ∧
      reading.cursor.position = (readerAfter template n).offset ∧
      reading.next? = some ((answer? template n).map Item.result, after) ∧
      ∀ item, answer? template n = some item →
        Text.slice? template reading.cursor.position after.cursor.position = some item.text) ∧
    (∀ body offset, offset + utf8Length body < UInt64.size → ∃ cursor,
      Cursor.parse? body offset = some (Bitset.parse body offset, cursor) ∧
      cursor.input = body ∧ cursor.OnBoundary ∧ cursor.position ≤ utf8Length body) ∧
    (∀ (cursor after : Cursor) count answer,
      Cursor.moveBy count cursor = some (answer, after) →
      after.OnBoundary ∧
        (count = 1 → cursor.OnBoundary → cursor.input.HasByteAt cursor.position)) ∧
    ∀ (cursor after : Cursor) start answer,
      Cursor.sliceFrom (start + 1) cursor = some (answer, after) →
      Cursor.OnBoundary { cursor with position := start } → cursor.input.HasByteAt start := by
  refine ⟨fun template hfits n => ?reader, fun body offset hfits => ?descriptor,
    fun cursor after count answer h => ?move, fun cursor after start answer h hstart => ?slice⟩
  case reader =>
    obtain ⟨hrest, hoffset⟩ := readerAfter_behind template n
    have hboundary : (Reading.ofReader template (readerAfter template n)).cursor.OnBoundary :=
      ⟨_, _, hrest, hoffset.symm⟩
    refine ⟨_, _, readingAfter?_eq hfits n, rfl, hboundary, hboundary.position_le, rfl,
      Reading.next?_ofReader hfits hrest hoffset, fun item h => ?_⟩
    have htakes := takes_of_answer? h
    have hstop : (readerAfter template n).offset + utf8Length item.text =
        (readerAfter template (n + 1)).offset := by
      rw [← htakes.stop, ← htakes.start, Item.stop]
    have hslice := Text.slice?_append (((itemsOf template).take n).map Item.text).flatten item.text
      (readerAfter template (n + 1)).rest
    rw [List.append_assoc, ← htakes.rest, ← hrest, Text.utf8Length_append, ← hoffset,
      hstop] at hslice
    rw [← readerAfter_succ]
    exact hslice
  case descriptor =>
    obtain ⟨front, rest, hbody, hparse⟩ := Cursor.exists_parse?_eq hfits
    have hboundary : Cursor.OnBoundary ⟨body, utf8Length front, offset⟩ := ⟨front, rest, hbody, rfl⟩
    exact ⟨_, hparse, rfl, hboundary, hboundary.position_le⟩
  case move =>
    obtain ⟨rfl, front, rest, hcut⟩ := Cursor.cut?_of_moveBy h
    refine ⟨Cursor.onBoundary_iff.mpr ⟨front, rest, hcut⟩, fun hone hcursor => ?_⟩
    subst hone
    obtain ⟨_, _, hbefore⟩ := Cursor.onBoundary_iff.mp hcursor
    exact Text.hasByteAt_of_cut? hbefore hcut
  case slice =>
    obtain ⟨_, _, hafter⟩ := Cursor.cut?_of_sliceFrom h
    obtain ⟨_, _, hbefore⟩ := Cursor.onBoundary_iff.mp hstart
    exact Text.hasByteAt_of_cut? hbefore hafter

/-- The first character has two bytes, and the error leaves the cursor behind the `q`. -/
example : (List.range 4).map (fun n =>
    (readingAfter? "é%q".toList n).map fun reading => reading.cursor.position) =
      [some 0, some 2, some 4, some 4] := by
  decide

end DriverPrintf
