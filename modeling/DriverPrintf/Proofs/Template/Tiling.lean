import Mathlib.Logic.Function.Iterate
import DriverPrintf.Proofs.Template.Faults

/-!
# Template — tiling

The user of a reader calls it again and again, and may go on when there is nothing left.
`readerAfter template n` is the reader of a template after `n` such calls and `answer? template n`
is what the next one answers.  The texts of the answers are tiles: together, and in their order,
they are the template, up to where the reader has stopped.

* `Takes reader item after`: all that one answer says of the readers before and after it.
* `readerAfter_behind`: after `n` calls the reader stands behind the texts of the first `n` items.
* **`answers_tile`**: what the answers are, where they stand, and that they end.

A call with no answer changes nothing, so the reader that has stopped is a fixed point of `call`.
-/

namespace DriverPrintf

/-! ### One call -/

/-- Something has been read where less is left. -/
theorem Text.before_ne_nil {whole rest : Text} (h : rest <:+ whole)
    (hlt : rest.length < whole.length) : before whole rest ≠ [] := fun hnil => by
  have hwhole := before_append_self h
  rw [hnil, List.nil_append] at hwhole
  exact Nat.lt_irrefl _ (hwhole ▸ hlt)

/-- A specification has its `%` behind it, also when it fails: what is read from there on stays in
the text after it. -/
theorem Segment.exists_afterPercent :
    ∃ follow : Scan (Option Segment), Scan.Stays follow ∧
      ∀ rest, specification? ('%' :: rest) = follow rest := by
  refine ⟨fun rest => specification? ('%' :: rest), ?_, fun _ => rfl⟩
  refine (Scan.stays_skipChar? '%').bind fun second => ?_
  split
  · exact Scan.stays_pure _
  · exact stays_padding.bind fun _ => stays_width.bind fun _ =>
      (stays_conversionAfter _).bind fun _ => Scan.stays_pure _

/-- A malformed segment has at least one character, too. -/
theorem Segment.length_lt_of_scan_eq_error {text rest : Text} {fault : Fault}
    (h : scan text = .error fault rest) : rest.length < text.length := by
  cases text with
  | nil => cases h
  | cons c more =>
    by_cases hc : c = '%'
    · subst hc
      obtain ⟨follow, hstays, hfollow⟩ := exists_afterPercent
      have hwithin := hstays more
      rw [scan_percent, specification] at h
      rcases Scan.checked_eq_error h with h | ⟨_, _, h, -⟩ <;>
        rw [hfollow] at h <;> rw [h] at hwithin
      · exact Nat.lt_succ_of_le hwithin.2.length_le
      · exact Nat.lt_succ_of_le (List.IsSuffix.length_le hwithin)
    · rw [scan_literal hc] at h
      cases h

/-- How the text of a literal segment is written before `behind`: as itself, where no `%` is in it
and the next one or the end follows, or a `%` as two. -/
inductive WritesLiteral (behind : Text) : Text → Text → Prop where
  | run {text : Text} (hne : text ≠ []) (hpercent : '%' ∉ text)
      (hends : behind = [] ∨ behind.head? = some '%') : WritesLiteral behind text text
  | percent : WritesLiteral behind ['%', '%'] ['%']

theorem Segment.writesLiteral_of_scan {slice behind text : Text} (hne : slice ++ behind ≠ [])
    (h : scan (slice ++ behind) = .ok (.literal text) behind) :
    WritesLiteral behind slice text := by
  obtain ⟨piece, hwf, hmax, hspelling, hsegment⟩ := (scan_eq_ok_iff hne).mp h
  obtain rfl := List.append_cancel_right hspelling
  cases piece with
  | run run =>
    cases hsegment
    refine .run hwf.1 hwf.2 ?_
    cases behind with
    | nil => exact .inl rfl
    | cons c behind => exact .inr (by simpa using hmax trivial)
  | percent =>
    cases hsegment
    exact .percent
  | specification padding width tail => cases hsegment

namespace Reader

/-- What a reader that answers `item` has done to become `after`. -/
structure Takes (reader : Reader) (item : Item) (after : Reader) : Prop where
  start : item.start = reader.offset
  stop : item.stop = after.offset
  rest : reader.rest = item.text ++ after.rest
  text_ne_nil : item.text ≠ []
  literal : ∀ text, item.result = .ok (.literal text) → WritesLiteral after.rest item.text text
  failed : after.failed = true ↔ ∃ error, item.result = .error error

theorem takes_of_next {reader after : Reader} {item : Item}
    (h : reader.next = some (item, after)) : Takes reader item after := by
  rw [next] at h
  split at h
  · cases h
  · rename_i hgo
    have hne : reader.rest ≠ [] := fun hrest => hgo (by simp [hrest])
    have hwithin := Segment.stays_scan reader.rest
    cases hscan : Segment.scan reader.rest with
    | ok segment rest =>
      rw [hscan] at h hwithin
      cases h
      have hwhole := Text.before_append_self hwithin
      have htext := Text.before_ne_nil hwithin (Segment.length_lt_of_scan hscan hne)
      refine ⟨rfl, rfl, hwhole.symm, htext, fun text hresult => ?_, by simp⟩
      cases hresult
      refine Segment.writesLiteral_of_scan ?_ ?_
      · rw [hwhole]
        exact hne
      · rw [hwhole, hscan]
    | error fault rest =>
      rw [hscan] at h hwithin
      cases h
      have hwhole := Text.before_append_self hwithin.2
      have htext := Text.before_ne_nil hwithin.2 (Segment.length_lt_of_scan_eq_error hscan)
      exact ⟨rfl, rfl, hwhole.symm, htext, fun text hresult => (by cases hresult), by simp⟩

/-- A call of a reader: what it answers, and the reader it leaves. -/
def call (reader : Reader) : Option Item × Reader :=
  match reader.next with
  | none => (none, reader)
  | some (item, after) => (some item, after)

theorem call_of_next_eq_none {reader : Reader} (h : reader.next = none) :
    reader.call = (none, reader) := by
  rw [call, h]

theorem call_of_next_eq_some {reader after : Reader} {item : Item}
    (h : reader.next = some (item, after)) : reader.call = (some item, after) := by
  rw [call, h]

theorem items_call (reader : Reader) :
    reader.call.1 = reader.items.head? ∧ reader.call.2.items = reader.items.tail := by
  cases h : reader.next with
  | none =>
    rw [call_of_next_eq_none h, items_of_next_eq_none h]
    exact ⟨rfl, rfl⟩
  | some step =>
    rw [call_of_next_eq_some h, items_of_next_eq_some h]
    exact ⟨rfl, rfl⟩

theorem takes_of_call {reader : Reader} {item : Item} (h : reader.call.1 = some item) :
    Takes reader item reader.call.2 := by
  cases hnext : reader.next with
  | none =>
    rw [call_of_next_eq_none hnext] at h
    cases h
  | some step =>
    obtain ⟨found, after⟩ := step
    rw [call_of_next_eq_some hnext] at h ⊢
    cases h
    exact takes_of_next hnext

theorem next_eq_none_iff {reader : Reader} :
    reader.next = none ↔ reader.failed = true ∨ reader.rest = [] := by
  have hstop : (reader.failed || reader.rest.isEmpty) = true ↔
      reader.failed = true ∨ reader.rest = [] := by simp
  rw [← hstop, next]
  split
  · rename_i h
    exact iff_of_true rfl h
  · rename_i h
    refine iff_of_false (fun hnone => ?_) h
    split at hnone <;> cases hnone

theorem next_eq_none_of_call {reader : Reader} (h : reader.call.1 = none) :
    reader.next = none := by
  cases hnext : reader.next with
  | none => rfl
  | some step =>
    rw [call_of_next_eq_some hnext] at h
    cases h

end Reader

/-! ### Many calls -/

/-- The reader of a template after `n` calls. -/
def readerAfter (template : Text) (n : Nat) : Reader :=
  (fun reader : Reader => reader.call.2)^[n] (.ofTemplate template)

/-- What call `n` of the reader of a template answers, counting from 0. -/
def answer? (template : Text) (n : Nat) : Option Item := (readerAfter template n).call.1

variable {template : Text} {n : Nat}

theorem readerAfter_succ (template : Text) (n : Nat) :
    readerAfter template (n + 1) = (readerAfter template n).call.2 :=
  Function.iterate_succ_apply' _ _ _

theorem takes_of_answer? {item : Item} (h : answer? template n = some item) :
    Reader.Takes (readerAfter template n) item (readerAfter template (n + 1)) := by
  rw [readerAfter_succ]
  exact Reader.takes_of_call h

theorem items_readerAfter (template : Text) (n : Nat) :
    (readerAfter template n).items = (itemsOf template).drop n := by
  induction n with
  | zero => rfl
  | succ n ih => rw [readerAfter_succ, (Reader.items_call _).2, ih, List.tail_drop]

/-- The calls answer the items, one after the other, and then nothing. -/
theorem answer?_eq (template : Text) (n : Nat) : answer? template n = (itemsOf template)[n]? := by
  rw [answer?, (Reader.items_call _).1, items_readerAfter, List.head?_drop]

/-- A reader that once has no answer stays as it is. -/
theorem readerAfter_of_answer?_eq_none (h : answer? template n = none) {m : Nat} (hle : n ≤ m) :
    readerAfter template m = readerAfter template n := by
  have hfixed := Reader.call_of_next_eq_none (Reader.next_eq_none_of_call h)
  rw [readerAfter, ← Nat.sub_add_cancel hle, Function.iterate_add_apply]
  exact Function.iterate_fixed (congrArg Prod.snd hfixed) (m - n)

/-- **After `n` calls** the reader stands behind the texts of the first `n` items. -/
theorem readerAfter_behind (template : Text) (n : Nat) :
    template = (((itemsOf template).take n).map Item.text).flatten ++
        (readerAfter template n).rest ∧
      (readerAfter template n).offset =
        Text.utf8Length (((itemsOf template).take n).map Item.text).flatten := by
  induction n with
  | zero => exact ⟨rfl, rfl⟩
  | succ n ih =>
    obtain ⟨hrest, hoffset⟩ := ih
    rw [List.take_add_one, ← answer?_eq]
    cases h : answer? template n with
    | none =>
      rw [readerAfter_of_answer?_eq_none h (Nat.le_succ n), Option.toList_none, List.append_nil]
      exact ⟨hrest, hoffset⟩
    | some item =>
      have htakes := takes_of_answer? h
      rw [Option.toList_some, List.map_append, List.flatten_append, List.map_singleton,
        List.flatten_singleton, List.append_assoc, ← htakes.rest, Text.utf8Length_append, ← hoffset,
        ← htakes.start, ← htakes.stop]
      exact ⟨hrest, rfl⟩

theorem offset_lt_of_answer? {item : Item} (h : answer? template n = some item) :
    (readerAfter template n).offset < (readerAfter template (n + 1)).offset := by
  have htakes := takes_of_answer? h
  rw [← htakes.start, ← htakes.stop, Item.stop]
  obtain ⟨c, more, htext⟩ := List.exists_cons_of_ne_nil htakes.text_ne_nil
  rw [htext, Text.utf8Length_cons]
  have hsize : 0 < c.utf8Size := c.utf8Size_pos
  omega

/-- The offset grows with every answer, so there cannot be more of them than bytes. -/
theorem le_offset_of_le_length (h : n ≤ (itemsOf template).length) :
    n ≤ (readerAfter template n).offset := by
  induction n with
  | zero => exact Nat.zero_le _
  | succ n ih =>
    have hanswer : answer? template n = some (itemsOf template)[n] := by
      rw [answer?_eq, List.getElem?_eq_getElem h]
    have hlt := offset_lt_of_answer? hanswer
    have hle := ih (Nat.le_of_succ_le h)
    omega

/-- A reader has failed only if one of its answers was an error. -/
theorem exists_error_of_failed (h : (readerAfter template n).failed = true) :
    ∃ item ∈ itemsOf template, ∃ error, item.result = .error error := by
  induction n with
  | zero => cases h
  | succ n ih =>
    cases hanswer : answer? template n with
    | none =>
      rw [readerAfter_of_answer?_eq_none hanswer (Nat.le_succ n)] at h
      exact ih h
    | some item =>
      refine ⟨item, List.mem_of_getElem? (answer?_eq template n ▸ hanswer), ?_⟩
      exact (takes_of_answer? hanswer).failed.mp h

/-- After an error there is no answer. -/
theorem answer?_succ_of_error {item : Item} {error : ParseError}
    (h : answer? template n = some item) (herror : item.result = .error error) :
    answer? template (n + 1) = none := by
  have hfailed := (takes_of_answer? h).failed.mpr ⟨error, herror⟩
  rw [answer?, Reader.call_of_next_eq_none (Reader.next_eq_none_iff.mpr (.inl hfailed))]

/-- A reader that has answered no error stops at the end of the template. -/
theorem rest_eq_nil_of_stopped (h : answer? template n = none)
    (hok : ∀ item ∈ itemsOf template, ∀ error, item.result ≠ .error error) :
    (readerAfter template n).rest = [] := by
  refine (Reader.next_eq_none_iff.mp (Reader.next_eq_none_of_call h)).resolve_left fun hfailed => ?_
  obtain ⟨item, hitem, error, herror⟩ := exists_error_of_failed hfailed
  exact hok item hitem error herror

/-- The template in three: what was read before call `n`, what this call answers, and what is left
behind it. -/
theorem exists_slice_of_answer? {item : Item} (h : answer? template n = some item) :
    ∃ before behind, template = before ++ item.text ++ behind ∧
      Text.utf8Length before = item.start ∧
      ∀ text, item.result = .ok (.literal text) → WritesLiteral behind item.text text := by
  have htakes := takes_of_answer? h
  obtain ⟨hrest, hoffset⟩ := readerAfter_behind template n
  refine ⟨_, _, ?_, (htakes.start.trans hoffset).symm, htakes.literal⟩
  rw [List.append_assoc, ← htakes.rest]
  exact hrest

/-- The calls after one without an answer, or after an error, answer nothing and stay in place. -/
theorem stopped_after (h : answer? template n = none ∨ answer? template (n + 1) = none)
    {m : Nat} (hlt : n < m) :
    answer? template m = none ∧ readerAfter template m = readerAfter template (n + 1) := by
  have hnext : answer? template (n + 1) = none := h.elim (fun hnone => by
    rw [answer?, readerAfter_of_answer?_eq_none hnone (Nat.le_succ n)]
    exact hnone) id
  have hstay := readerAfter_of_answer?_eq_none hnext hlt
  exact ⟨by rw [answer?, hstay]; exact hnext, hstay⟩

/-- **The answers of a reader tile its template.**  The calls answer the items of the template, at
most as many as it has bytes.  The first begins at byte 0; each begins where the reader stood, ends
behind it, where the reader stands then, and is the slice of the template there; a literal is
written there as itself or as `%%`.  The texts of all answers are the template up to where the
reader has stopped, which is its end if no answer is an error.  An error is the last answer; after
it, and after a call with no answer, no call answers or moves. -/
theorem answers_tile (template : Text) :
    (∀ n, answer? template n = (itemsOf template)[n]?) ∧
    (itemsOf template).length ≤ Text.utf8Length template ∧
    (readerAfter template 0).offset = 0 ∧
    (∀ n item, answer? template n = some item →
      item.start = (readerAfter template n).offset ∧
      item.stop = (readerAfter template (n + 1)).offset ∧
      item.start < item.stop ∧
      ∃ before behind, template = before ++ item.text ++ behind ∧
        Text.utf8Length before = item.start ∧
        ∀ text, item.result = .ok (.literal text) → WritesLiteral behind item.text text) ∧
    template = ((itemsOf template).map Item.text).flatten ++
      (readerAfter template (itemsOf template).length).rest ∧
    ((∀ item ∈ itemsOf template, ∀ error, item.result ≠ .error error) →
      ((itemsOf template).map Item.text).flatten = template ∧
      (readerAfter template (itemsOf template).length).offset = Text.utf8Length template ∧
      ∀ last, (itemsOf template).getLast? = some last → last.stop = Text.utf8Length template) ∧
    (∀ n item error, answer? template n = some item → item.result = .error error →
      n + 1 = (itemsOf template).length) ∧
    ∀ n, (answer? template n = none ∨
        ∃ item error, answer? template n = some item ∧ item.result = .error error) →
      ∀ m, n < m → answer? template m = none ∧
        (readerAfter template m).offset = (readerAfter template (n + 1)).offset := by
  obtain ⟨hall, hoffset⟩ := readerAfter_behind template (itemsOf template).length
  rw [List.take_length] at hall hoffset
  have hend : answer? template (itemsOf template).length = none := by
    rw [answer?_eq, List.getElem?_eq_none (Nat.le_refl _)]
  refine ⟨answer?_eq template, ?count, rfl, fun n item h => ?place, hall, fun hok => ?whole,
    fun n item error h herror => ?last, fun n h m hlt => ?stopped⟩
  case count =>
    have hle := le_offset_of_le_length (Nat.le_refl (itemsOf template).length)
    have hbytes := congrArg Text.utf8Length hall
    rw [Text.utf8Length_append, ← hoffset] at hbytes
    omega
  case place =>
    have htakes := takes_of_answer? h
    refine ⟨htakes.start, htakes.stop, ?_, exists_slice_of_answer? h⟩
    rw [htakes.start, htakes.stop]
    exact offset_lt_of_answer? h
  case whole =>
    rw [rest_eq_nil_of_stopped hend hok, List.append_nil] at hall
    rw [← hall] at hoffset
    refine ⟨hall.symm, hoffset, fun last hlast => ?_⟩
    rw [List.getLast?_eq_getElem?, ← answer?_eq] at hlast
    have hpos : 0 < (itemsOf template).length := by
      rw [answer?_eq] at hlast
      have hbound := (List.getElem?_eq_some_iff.mp hlast).1
      omega
    rw [(takes_of_answer? hlast).stop, Nat.sub_add_cancel hpos, hoffset]
  case last =>
    have hitem := answer?_eq template n ▸ h
    have hnone := answer?_eq template (n + 1) ▸ answer?_succ_of_error h herror
    have hlt := (List.getElem?_eq_some_iff.mp hitem).1
    have hle := List.getElem?_eq_none_iff.mp hnone
    omega
  case stopped =>
    have hstop : answer? template n = none ∨ answer? template (n + 1) = none :=
      h.imp_right fun ⟨item, error, hanswer, herror⟩ => answer?_succ_of_error hanswer herror
    obtain ⟨hnone, hreader⟩ := stopped_after hstop hlt
    exact ⟨hnone, congrArg Reader.offset hreader⟩

/-- The byte 5 is the one behind `%y`, which no conversion begins with. -/
example :
    (List.range 4).map (fun n => (answer? "ok %y more %d".toList n).map Item.stop) =
      [some 3, some 5, none, none] := by
  decide

end DriverPrintf
