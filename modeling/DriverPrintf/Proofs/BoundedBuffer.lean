import DriverPrintf.BoundedBuffer

/-!
# Bounded buffers — contents

What a buffer holds once bytes have been pushed to it, cell by cell.  `Holds before pushed buffer`
says that the buffer has kept the bytes pushed so far as long as they leave a cell for the
terminator, and that every other cell is what it was `before`.  A push keeps this, whether or not
the byte still fits (`Holds.push`), so it holds of the bytes of every rendering, also of one that
failed.

What is kept is bounded at each push, and whether bytes were lost is found at the end from their
number; `renderInto_stores_prefix` says that the two tests agree.

* **Rendering into a buffer** (`renderInto_stores_prefix`): the same result as rendering without
  a bound; the longest part of the output that fits, a zero byte behind it, and the rest of the
  cells untouched; one event exactly if something did not fit.
-/

namespace DriverPrintf

namespace BoundedBuffer

/-- How many of `length` bytes a buffer of `size` cells keeps: one cell is for the terminator. -/
def kept (length size : Nat) : Nat := min length (size - 1)

/-- **The invariant of a bounded buffer.**  Of the bytes pushed since the cells were `before`,
those that fit stand in the first cells, and the other cells are as they were. -/
structure Holds (before : Array UInt8) (pushed : Bytes) (buffer : BoundedBuffer) : Prop where
  size_eq : buffer.cells.size = before.size
  length_eq : buffer.length = pushed.length
  cell : ∀ i, buffer.cells[i]? =
    if i < kept pushed.length before.size then pushed[i]? else before[i]?

theorem holds_empty (cells : Array UInt8) : Holds cells [] ⟨cells, 0⟩ where
  size_eq := rfl
  length_eq := rfl
  cell i := by simp [kept]

/-- A byte more is kept while a cell is left after it, and counted in any case. -/
theorem Holds.push {before : Array UInt8} {pushed : Bytes} {buffer : BoundedBuffer}
    (h : Holds before pushed buffer) (byte : UInt8) :
    Holds before (pushed ++ [byte]) (buffer.push byte) where
  size_eq := by rw [size_push, h.size_eq]
  length_eq := by rw [List.length_append, ← h.length_eq]; rfl
  cell i := by
    have hsize := h.size_eq
    have hlength := h.length_eq
    have hcell := h.cell i
    rw [List.length_append, List.length_singleton]
    by_cases hroom : buffer.length + 1 < buffer.cells.size
    · have hpush : (buffer.push byte).cells = buffer.cells.setIfInBounds pushed.length byte := by
        rw [BoundedBuffer.push, ← hlength]
        exact if_pos hroom
      have hkept : kept (pushed.length + 1) before.size = pushed.length + 1 :=
        Nat.min_eq_left (by omega)
      have hkept' : kept pushed.length before.size = pushed.length :=
        Nat.min_eq_left (by omega)
      rw [hpush, hkept]
      rw [hkept'] at hcell
      rcases Nat.lt_trichotomy i pushed.length with hlt | rfl | hgt
      · rw [Array.getElem?_setIfInBounds_ne (by omega), hcell, if_pos hlt, if_pos (by omega),
          List.getElem?_append_left hlt]
      · rw [Array.getElem?_setIfInBounds_self_of_lt (by omega), if_pos (by omega),
          List.getElem?_concat_length]
      · rw [Array.getElem?_setIfInBounds_ne (by omega), hcell, if_neg (by omega),
          if_neg (by omega)]
    · have hpush : (buffer.push byte).cells = buffer.cells := by
        rw [BoundedBuffer.push]
        exact if_neg hroom
      -- the buffer was full before the byte came, so no cell changes hands
      have hkept : kept (pushed.length + 1) before.size = before.size - 1 :=
        Nat.min_eq_right (by omega)
      have hkept' : kept pushed.length before.size = before.size - 1 :=
        Nat.min_eq_right (by omega)
      rw [hpush, hcell, hkept, hkept']
      by_cases hlt : i < before.size - 1
      · rw [if_pos hlt, if_pos hlt, List.getElem?_append_left (by omega)]
      · rw [if_neg hlt, if_neg hlt]

theorem Holds.foldl_push {before : Array UInt8} {pushed : Bytes} {buffer : BoundedBuffer}
    (h : Holds before pushed buffer) (bytes : Bytes) :
    Holds before (pushed ++ bytes) (bytes.foldl BoundedBuffer.push buffer) := by
  induction bytes generalizing pushed buffer with
  | nil => rwa [List.append_nil]
  | cons byte bytes ih =>
    have hall := ih (h.push byte)
    rwa [List.append_assoc] at hall

/-- The terminator takes the cell behind the bytes that were kept. -/
theorem Holds.getElem?_terminate {before : Array UInt8} {pushed : Bytes} {buffer : BoundedBuffer}
    (h : Holds before pushed buffer) (hsize : before.size ≠ 0) (i : Nat) :
    buffer.terminate.cells[i]? =
      if i = kept pushed.length before.size then some 0
      else if i < kept pushed.length before.size then pushed[i]? else before[i]? := by
  have hlt : kept pushed.length before.size < buffer.cells.size := by
    rw [kept, h.size_eq]
    omega
  have hcells : buffer.terminate.cells =
      buffer.cells.setIfInBounds (kept pushed.length before.size) 0 := by
    rw [terminate, if_neg (h.size_eq ▸ hsize), kept, h.length_eq, h.size_eq]
  rw [hcells, Array.getElem?_setIfInBounds, if_pos hlt]
  by_cases hi : i = kept pushed.length before.size
  · rw [if_pos hi, if_pos hi.symm]
  · rw [if_neg hi, if_neg (Ne.symm hi), h.cell i]

/-- Nothing is put into a buffer of no cells. -/
theorem Holds.terminate_of_no_cells {before : Array UInt8} {pushed : Bytes}
    {buffer : BoundedBuffer} (h : Holds before pushed buffer) (hsize : before.size = 0) :
    buffer.terminate.cells = before := by
  rw [Array.eq_empty_of_size_eq_zero hsize]
  exact Array.eq_empty_of_size_eq_zero (by rw [size_terminate, h.size_eq, hsize])

theorem length_terminate (buffer : BoundedBuffer) : buffer.terminate.length = buffer.length := by
  rw [terminate]
  split <;> rfl

/-- Bytes are reported as lost when there are more of them than are ever kept. -/
theorem Holds.truncated_terminate {before : Array UInt8} {pushed : Bytes}
    {buffer : BoundedBuffer} (h : Holds before pushed buffer) :
    buffer.terminate.truncated = true ↔ max before.size 1 - 1 < pushed.length := by
  rw [truncated, length_terminate, size_terminate, h.length_eq, h.size_eq, Bool.and_eq_true,
    decide_eq_true_eq, decide_eq_true_eq]
  omega

end BoundedBuffer

open BoundedBuffer (kept Holds holds_empty)

/-- The buffer of a rendering, before it is terminated. -/
theorem holds_render (cells : Array UInt8) (template : Text) (args : List Arg) :
    Holds cells (render template args).output
      ((render template args).output.foldl BoundedBuffer.push ⟨cells, 0⟩) :=
  (holds_empty cells).foldl_push _

/-- What is in each cell of a buffer after a rendering. -/
theorem getElem?_cells_renderInto {cells : Array UInt8} (hsize : cells.size ≠ 0) (template : Text)
    (args : List Arg) (i : Nat) :
    (renderInto cells template args).cells[i]? =
      if i = kept (render template args).output.length cells.size then some 0
      else if i < kept (render template args).output.length cells.size then
        (render template args).output[i]?
      else cells[i]? :=
  (holds_render cells template args).getElem?_terminate hsize i

/-- The bytes of a rendering that its buffer has kept. -/
theorem take_cells_renderInto (cells : Array UInt8) (template : Text) (args : List Arg) :
    ((renderInto cells template args).cells.take
        (kept (render template args).output.length cells.size)).toList =
      (render template args).output.take
        (kept (render template args).output.length cells.size) := by
  refine List.ext_getElem? fun i => ?_
  rw [Array.take_eq_extract, Array.toList_extract, List.extract_eq_take_drop, List.drop_zero,
    Nat.sub_zero, List.getElem?_take, List.getElem?_take]
  split
  · rename_i hi
    have hsize : cells.size ≠ 0 := by
      intro hzero
      rw [kept, hzero] at hi
      omega
    rw [Array.getElem?_toList, getElem?_cells_renderInto hsize, if_neg (Nat.ne_of_lt hi),
      if_pos hi]
  · rfl

/-- There is one event exactly if some byte did not fit. -/
theorem events_renderInto (cells : Array UInt8) (template : Text) (args : List Arg) :
    (renderInto cells template args).events =
      if max cells.size 1 - 1 < (render template args).output.length then
        [.truncated ((render template args).output.length + 1) cells.size]
      else [] := by
  have h := holds_render cells template args
  have hlength := (BoundedBuffer.length_terminate _).trans h.length_eq
  have hcells := (BoundedBuffer.size_terminate _).trans h.size_eq
  simp only [renderInto, hlength, hcells, h.truncated_terminate]

/-- **Rendering into a buffer** stores what rendering without a bound would write, as far as it
fits.  The result is the same, also when it is an error; the bytes that fit are followed by a zero
byte, and the cells behind it keep what was in them.  Exactly if some byte did not fit, there is
an event with the size that would have been enough. -/
theorem renderInto_stores_prefix (cells : Array UInt8) (template : Text) (args : List Arg) :
    (renderInto cells template args).result = (render template args).result ∧
    (cells.size = 0 → (renderInto cells template args).cells = cells) ∧
    (cells.size ≠ 0 →
      (renderInto cells template args).cells.size = cells.size ∧
      (∀ i < kept (render template args).output.length cells.size,
        (renderInto cells template args).cells[i]? = (render template args).output[i]?) ∧
      (renderInto cells template args).cells[kept (render template args).output.length
        cells.size]? = some 0 ∧
      ∀ i > kept (render template args).output.length cells.size,
        (renderInto cells template args).cells[i]? = cells[i]?) ∧
    (renderInto cells template args).events =
      if max cells.size 1 - 1 < (render template args).output.length then
        [.truncated ((render template args).output.length + 1) cells.size]
      else [] := by
  have h := holds_render cells template args
  refine ⟨rfl, h.terminate_of_no_cells, fun hsize => ?_, events_renderInto cells template args⟩
  have hcell := h.getElem?_terminate hsize
  refine ⟨(BoundedBuffer.size_terminate _).trans h.size_eq, fun i hi => ?_, ?_, fun i hi => ?_⟩
  · exact (hcell i).trans (by rw [if_neg (Nat.ne_of_lt hi), if_pos hi])
  · exact (hcell _).trans (if_pos rfl)
  · exact (hcell i).trans (by rw [if_neg (Nat.ne_of_gt hi), if_neg (Nat.not_lt_of_gt hi)])

/-- Five bytes do not fit five cells. -/
example : (renderInto #[1, 2, 3, 4, 5] "abcde".toList []).cells =
      ((Text.utf8 "abcd".toList) ++ [0]).toArray ∧
    (renderInto #[1, 2, 3, 4, 5] "abcde".toList []).events = [.truncated 6 5] := by
  decide +kernel

end DriverPrintf
