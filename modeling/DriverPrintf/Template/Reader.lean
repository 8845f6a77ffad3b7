import DriverPrintf.Template.Segment

/-!
# Template — reading a whole template

A reader yields the segments of a template one at a time, so a caller can use what stands before a
malformed segment.  After an error it yields nothing more.  `Template.parse` accepts a template
only if all of it can be read.

* `Reader.remaining_lt_of_next`: each item uses up text, so reading ends.
-/

namespace DriverPrintf

/-- One step of reading: the text read, from byte `start` on, and what it was. -/
structure Item where
  start : Nat
  text : Text
  result : Except ParseError Segment

/-- The byte offset after an item. -/
def Item.stop (item : Item) : Nat := item.start + Text.utf8Length item.text

/-- A template of which the first `offset` bytes have been read. -/
structure Reader where
  offset : Nat
  rest : Text
  failed : Bool

namespace Reader

/-- A reader at the start of a template. -/
def ofTemplate (template : Text) : Reader := ⟨0, template, false⟩

/-- The next item and the reader after it; nothing at the end of the template or after an
error. -/
def next (reader : Reader) : Option (Item × Reader) :=
  if reader.failed || reader.rest.isEmpty then none
  else
    match Segment.scan reader.rest with
    | .ok segment rest =>
      let item := ⟨reader.offset, Text.before reader.rest rest, .ok segment⟩
      some (item, ⟨item.stop, rest, false⟩)
    | .error fault rest =>
      let item := ⟨reader.offset, Text.before reader.rest rest,
        .error (fault.toParseError reader.offset reader.rest)⟩
      some (item, ⟨item.stop, rest, true⟩)

/-- How many characters may still be read. -/
def remaining (reader : Reader) : Nat := if reader.failed then 0 else reader.rest.length

theorem remaining_lt_of_next {reader after : Reader} {item : Item}
    (h : reader.next = some (item, after)) : after.remaining < reader.remaining := by
  rw [next] at h
  split at h
  · cases h
  · rename_i hgo
    simp only [Bool.or_eq_true, List.isEmpty_iff, not_or, Bool.not_eq_true] at hgo
    obtain ⟨hfailed, hrest⟩ := hgo
    split at h
    · rename_i hscan
      cases h
      simpa [remaining, hfailed] using Segment.length_lt_of_scan hscan hrest
    · cases h
      simpa [remaining, hfailed] using List.length_pos_iff.2 hrest

/-- All the items still to come. -/
def items (reader : Reader) : List Item :=
  match h : reader.next with
  | none => []
  | some (item, after) =>
    have := remaining_lt_of_next h
    item :: after.items
termination_by reader.remaining

/-- The reader when no item is left. -/
def finish (reader : Reader) : Reader :=
  match h : reader.next with
  | none => reader
  | some (_, after) =>
    have := remaining_lt_of_next h
    after.finish
termination_by reader.remaining

theorem items_of_next_eq_none {reader : Reader} (h : reader.next = none) : reader.items = [] := by
  rw [items]
  split
  · rfl
  · rename_i hs
    rw [h] at hs
    cases hs

theorem items_of_next_eq_some {reader after : Reader} {item : Item}
    (h : reader.next = some (item, after)) : reader.items = item :: after.items := by
  rw [items]
  split
  · rename_i hn
    rw [h] at hn
    cases hn
  · rename_i hs
    rw [h] at hs
    cases hs
    rfl

end Reader

/-- The items of a template. -/
def itemsOf (template : Text) : List Item := (Reader.ofTemplate template).items

/-- A template that has been read to its end. -/
structure Template where
  source : Text
  segments : List Segment
deriving DecidableEq, Repr

namespace Template

/-- Reads the whole template; the first error is the answer if there is one. -/
def parse (source : Text) : Except ParseError Template := do
  return ⟨source, ← (itemsOf source).mapM Item.result⟩

/-- The conversions of a template, in the order of the arguments they take. -/
def conversions (template : Template) : List Conversion :=
  template.segments.filterMap Segment.conversion?

/-- The kinds of the arguments a template takes, in order. -/
def argKinds (template : Template) : List ArgKind := template.conversions.map Conversion.argKind

end Template

end DriverPrintf
