import DriverPrintf.Line.Staging

/-!
# Line — units of writing

A unit is a piece of a line that is written by one `writeAll`.  `writeEach` writes units one after
the other up to the first that fails, and `Delivers start bytes exchange` is what can be said of
any such operation from outside: it has used up one reply of its script for each call, what was
accepted is an initial part of the bytes, and it is all of them exactly if nothing failed.  Nor does
it fail of its own: there is a fault exactly if the destination has refused a call (`Call.Refused`),
which is neither to take only some of the bytes nor to be interrupted.

A stage is given its bytes one at a time and writes when it is full.  Its invariant (`Stage.Holds`)
relates it to the units it has written so far: every byte that was pushed is in one of them or
still staged.  A stage that has failed goes on cutting units and drops them, as `writeEach` does,
so the invariant does not ask whether a fault has occurred.

* **A stage writes units** (`writeStaged_eq_writeEach`): pushing bytes through a stage is writing
  them in units of its capacity, of which only the last may be shorter.
* **Delivery** (`delivers_writeStaged`): through a stage too, short writes and interruptions lose,
  repeat and reorder nothing, and nothing follows a failed unit.
-/

namespace DriverPrintf

/-! ### What a script has left -/

/-- The script after a call: one reply is used up, if there was one. -/
def Script.answered (script : Script) : Call → Script
  | .write _ _ => { script with writes := script.writes.tail }
  | .flush _ => { script with flushes := script.flushes.tail }

/-- The script after some calls. -/
def Script.after (script : Script) (calls : List Call) : Script :=
  calls.foldl Script.answered script

@[simp] theorem Script.after_nil (script : Script) : script.after [] = script := rfl

@[simp] theorem Script.after_cons (script : Script) (call : Call) (calls : List Call) :
    script.after (call :: calls) = (script.answered call).after calls := rfl

@[simp] theorem Script.after_append (script : Script) (calls more : List Call) :
    script.after (calls ++ more) = (script.after calls).after more :=
  List.foldl_append

/-! ### Refusals -/

/-- A call after which a write gives up: nothing is taken, or there is a fault other than an
interruption. -/
def Call.Refused : Call → Prop
  | .write _ (.ok count) => count = 0
  | .write _ (.error fault) => fault.kind ≠ .interrupted
  | .flush _ => False

/-- A write fails exactly if one of its calls is refused. -/
theorem Exchange.fault?_write_eq_none_iff (flushes : List FlushReply) (bytes : Bytes)
    (replies : List WriteReply) :
    (write flushes bytes replies).fault? = none ↔
      ∀ call ∈ (write flushes bytes replies).calls, ¬ call.Refused := by
  fun_induction write flushes bytes replies with
  | case1 => simp
  | case2 bytes hne => simpa [Call.Refused] using hne
  | case3 bytes _ hne => simpa [Call.Refused] using hne
  | case4 => simp [Call.Refused]
  | case5 bytes limit replies hne count ih =>
    have htaken : ¬ (Call.write bytes (.ok count)).Refused := by
      have hpos : 0 < bytes.length := List.length_pos_iff.mpr hne
      simp only [Call.Refused, count]
      omega
    simpa [cons, htaken] using ih
  | case6 bytes fault replies _ hkind ih => simpa [cons, Call.Refused, hkind] using ih
  | case7 bytes fault replies _ hkind => simpa [Call.Refused] using hkind

/-! ### One operation after another -/

namespace Exchange

/-- No call at all. -/
def idle (script : Script) : Exchange := ⟨[], none, script⟩

/-- One operation, and then another unless the first fails. -/
def andThen (first : Exchange) (next : Script → Exchange) : Exchange :=
  match first.fault? with
  | some _ => first
  | none =>
    let more := next first.script
    ⟨first.calls ++ more.calls, more.fault?, more.script⟩

theorem andThen_of_fault {first : Exchange} {fault : WriteFault} (h : first.fault? = some fault)
    (next : Script → Exchange) : first.andThen next = first := by
  rw [andThen, h]

theorem andThen_of_none {first : Exchange} (h : first.fault? = none) (next : Script → Exchange) :
    first.andThen next =
      ⟨first.calls ++ (next first.script).calls, (next first.script).fault?,
        (next first.script).script⟩ := by
  rw [andThen, h]

theorem andThen_idle (first : Exchange) : first.andThen idle = first := by
  cases h : first.fault? with
  | some fault => exact andThen_of_fault h idle
  | none =>
    rw [andThen_of_none h]
    obtain ⟨calls, fault?, script⟩ := first
    obtain rfl : fault? = none := h
    simp [idle]

theorem andThen_assoc (first : Exchange) (next last : Script → Exchange) :
    (first.andThen next).andThen last = first.andThen fun script => (next script).andThen last := by
  cases h : first.fault? with
  | some fault => rw [andThen_of_fault h, andThen_of_fault h, andThen_of_fault h]
  | none =>
    rw [andThen_of_none h, andThen_of_none h]
    cases hnext : (next first.script).fault? with
    | some fault => rw [andThen, andThen_of_fault hnext, hnext]
    | none => simp [andThen, hnext]

/-- An operation that was to write `bytes`, on a destination with the script `start`. -/
structure Delivers (start : Script) (bytes : Bytes) (exchange : Exchange) : Prop where
  script_eq : exchange.script = start.after exchange.calls
  taken : accepted exchange.calls <+: bytes
  all_iff : accepted exchange.calls = bytes ↔ exchange.fault? = none
  none_iff : exchange.fault? = none ↔ ∀ call ∈ exchange.calls, ¬ call.Refused

theorem delivers_idle (script : Script) : Delivers script [] (idle script) where
  script_eq := rfl
  taken := List.prefix_rfl
  all_iff := by simp [idle]
  none_iff := by simp [idle]

/-- Nothing follows what a failed operation has left out. -/
theorem Delivers.andThen {start : Script} {bytes more : Bytes} {first : Exchange}
    {next : Script → Exchange} (h : Delivers start bytes first)
    (hnext : ∀ script, Delivers script more (next script)) :
    Delivers start (bytes ++ more) (first.andThen next) := by
  cases hfault : first.fault? with
  | some fault =>
    rw [andThen_of_fault hfault]
    refine ⟨h.script_eq, h.taken.trans (List.prefix_append _ _), ?_, h.none_iff⟩
    have hne : accepted first.calls ≠ bytes := fun e => by
      rw [h.all_iff, hfault] at e
      cases e
    refine iff_of_false (fun e => ?_) (by simp [hfault])
    -- all of `bytes` and `more` would be longer than `bytes`, of which some is left out
    have hle := h.taken.length_le
    rw [e, List.length_append] at hle
    obtain rfl : more = [] := List.eq_nil_of_length_eq_zero (by omega)
    exact hne (e.trans (List.append_nil _))
  | none =>
    have hall := h.all_iff.mpr hfault
    have hmore := hnext first.script
    rw [andThen_of_none hfault]
    refine ⟨?_, ?_, ?_, ?_⟩
    · rw [hmore.script_eq, h.script_eq, Script.after_append]
    · rw [accepted_append, hall]
      exact (List.prefix_append_right_inj bytes).mpr hmore.taken
    · rw [accepted_append, hall, List.append_cancel_left_eq, hmore.all_iff]
    · rw [List.forall_mem_append, ← h.none_iff, ← hmore.none_iff, hfault, eq_self, true_and]

end Exchange

open Exchange (Delivers)

/-! ### Units -/

/-- Each call of a write is answered by the next reply. -/
theorem Exchange.script_write (flushes : List FlushReply) (bytes : Bytes)
    (replies : List WriteReply) :
    (write flushes bytes replies).script =
      (Script.mk replies flushes).after (write flushes bytes replies).calls := by
  fun_induction write flushes bytes replies with
  | case1 => rfl
  | case2 => rfl
  | case3 => rfl
  | case4 => rfl
  | case5 bytes limit replies _ count ih => exact ih
  | case6 bytes fault replies _ _ ih => exact ih
  | case7 => rfl

/-- A write that fails has left something out. -/
theorem Exchange.fault?_eq_none_of_accepted (flushes : List FlushReply) (bytes : Bytes)
    (replies : List WriteReply) (h : accepted (write flushes bytes replies).calls = bytes) :
    (write flushes bytes replies).fault? = none := by
  fun_induction write flushes bytes replies with
  | case1 => rfl
  | case2 => rfl
  | case3 => rfl
  | case4 bytes _ hne => exact absurd h.symm hne
  | case5 bytes limit replies _ count ih =>
    have hall : bytes.take count ++
        accepted (write flushes (bytes.drop count) replies).calls =
          bytes.take count ++ bytes.drop count := by
      rw [List.take_append_drop]
      exact h
    exact ih (List.append_cancel_left hall)
  | case6 bytes fault replies _ _ ih => exact ih h
  | case7 bytes _ _ hne => exact absurd h.symm hne

theorem delivers_writeAll (script : Script) (bytes : Bytes) :
    Delivers script bytes (writeAll script bytes) := by
  obtain ⟨htaken, hall⟩ := accepted_writeAll script bytes
  exact ⟨Exchange.script_write _ _ _, htaken,
    ⟨Exchange.fault?_eq_none_of_accepted _ _ _, hall⟩, Exchange.fault?_write_eq_none_iff _ _ _⟩

/-- Writes units up to the first that fails. -/
def writeEach (script : Script) : List Bytes → Exchange
  | [] => .idle script
  | unit :: units => (writeAll script unit).andThen fun script => writeEach script units

/-- A unit more at the end. -/
theorem writeEach_concat (script : Script) (units : List Bytes) (unit : Bytes) :
    writeEach script (units ++ [unit]) =
      (writeEach script units).andThen fun script => writeAll script unit := by
  induction units generalizing script with
  | nil => exact Exchange.andThen_idle (writeAll script unit)
  | cons first units ih =>
    rw [List.cons_append, writeEach, writeEach, Exchange.andThen_assoc]
    exact congrArg _ (funext ih)

theorem delivers_writeEach (script : Script) (units : List Bytes) :
    Delivers script units.flatten (writeEach script units) := by
  induction units generalizing script with
  | nil => exact Exchange.delivers_idle script
  | cons unit units ih =>
    rw [List.flatten_cons]
    exact (delivers_writeAll script unit).andThen ih

/-! ### The stage -/

namespace Stage

/-- What a stage has done with its destination so far. -/
def exchange (stage : Stage) : Exchange := ⟨stage.calls, stage.fault?, stage.script⟩

theorem staged_write (stage : Stage) : stage.write.staged = [] := by
  rw [write]
  split
  · rename_i h
    exact List.isEmpty_iff.mp h
  · split <;> rfl

/-- Writing a stage is writing what is staged as a unit. -/
theorem exchange_write (stage : Stage) :
    stage.write.exchange = stage.exchange.andThen fun script => writeAll script stage.staged := by
  obtain ⟨staged, calls, fault?, script⟩ := stage
  cases fault? with
  | some fault =>
    rw [write]
    split <;> rfl
  | none =>
    cases staged with
    | nil =>
      have hnone : writeAll script [] = .idle script := by
        rw [writeAll, Exchange.write]
        rfl
      simp [write, exchange, Exchange.andThen, hnone, Exchange.idle]
    | cons byte staged => rfl

/-- **The invariant of a stage.**  Of the bytes pushed since the script `start`, each is in one of
the full units written so far or is staged. -/
structure Holds (start : Script) (pushed : Bytes) (units : List Bytes) (stage : Stage) : Prop where
  all : units.flatten ++ stage.staged = pushed
  full : ∀ unit ∈ units, unit.length = capacity
  room : stage.staged.length ≤ capacity
  staged : pushed ≠ [] → stage.staged ≠ []
  exchange_eq : stage.exchange = writeEach start units

theorem holds_empty (start : Script) : Holds start [] [] (empty start) where
  all := rfl
  full := by simp
  room := Nat.zero_le _
  staged := fun h => absurd rfl h
  exchange_eq := rfl

/-- A byte is staged behind the others, or alone after they have been written. -/
theorem Holds.push {start : Script} {pushed : Bytes} {units : List Bytes} {stage : Stage}
    (h : Holds start pushed units stage) (byte : UInt8) :
    ∃ units', Holds start (pushed ++ [byte]) units' (stage.push byte) := by
  by_cases hfull : stage.staged.length = capacity
  · have hpush : stage.push byte = { stage.write with staged := [byte] } := by
      rw [Stage.push, if_pos hfull, staged_write]
      rfl
    refine ⟨units ++ [stage.staged], ?_, ?_, ?_, ?_, ?_⟩
    · rw [hpush, List.flatten_concat, h.all]
    · intro unit hunit
      rcases List.mem_append.mp hunit with hunit | hunit
      · exact h.full unit hunit
      · obtain rfl := List.mem_singleton.mp hunit
        exact hfull
    · rw [hpush]
      exact Nat.succ_le_of_lt (by decide)
    · intro _
      rw [hpush]
      exact List.cons_ne_nil _ _
    · rw [hpush, writeEach_concat, ← h.exchange_eq]
      exact exchange_write stage
  · have hpush : stage.push byte = { stage with staged := stage.staged ++ [byte] } := by
      rw [Stage.push, if_neg hfull]
    refine ⟨units, ?_, h.full, ?_, ?_, ?_⟩
    · rw [hpush, ← h.all, List.append_assoc]
    · rw [hpush, List.length_append]
      exact Nat.succ_le_of_lt (Nat.lt_of_le_of_ne h.room hfull)
    · intro _
      rw [hpush]
      exact List.append_ne_nil_of_right_ne_nil _ (List.cons_ne_nil _ _)
    · rw [hpush]
      exact h.exchange_eq

theorem Holds.foldl_push {start : Script} (bytes : Bytes) {pushed : Bytes} {units : List Bytes}
    {stage : Stage} (h : Holds start pushed units stage) :
    ∃ units', Holds start (pushed ++ bytes) units' (bytes.foldl Stage.push stage) := by
  induction bytes generalizing pushed units stage with
  | nil => exact ⟨units, by rwa [List.append_nil]⟩
  | cons byte bytes ih =>
    obtain ⟨units', hpush⟩ := h.push byte
    obtain ⟨units'', hall⟩ := ih hpush
    exact ⟨units'', by rwa [List.append_assoc] at hall⟩

end Stage

/-- **A stage writes units.**  Pushing bytes through a stage is writing them in units: all but the
last of them are full, and none is empty. -/
theorem writeStaged_eq_writeEach (script : Script) (bytes : Bytes) :
    ∃ units, units.flatten = bytes ∧ (∀ unit ∈ units.dropLast, unit.length = Stage.capacity) ∧
      (∀ unit ∈ units, unit ≠ [] ∧ unit.length ≤ Stage.capacity) ∧
      writeStaged script bytes = writeEach script units := by
  obtain ⟨units, h⟩ := (Stage.holds_empty script).foldl_push bytes
  rw [List.nil_append] at h
  by_cases hbytes : bytes = []
  · subst hbytes
    exact ⟨[], rfl, by simp, by simp, rfl⟩
  · refine ⟨units ++ [(bytes.foldl Stage.push (.empty script)).staged], ?_, ?_, ?_, ?_⟩
    · rw [List.flatten_concat, h.all]
    · rw [List.dropLast_concat]
      exact h.full
    · intro unit hunit
      rcases List.mem_append.mp hunit with hunit | hunit
      · have hlength := h.full unit hunit
        refine ⟨?_, Nat.le_of_eq hlength⟩
        rintro rfl
        exact absurd hlength (by decide)
      · obtain rfl := List.mem_singleton.mp hunit
        exact ⟨h.staged hbytes, h.room⟩
    · rw [writeEach_concat, ← h.exchange_eq]
      exact Stage.exchange_write _

theorem delivers_writeStaged (script : Script) (bytes : Bytes) :
    Delivers script bytes (writeStaged script bytes) := by
  obtain ⟨units, rfl, -, -, h⟩ := writeStaged_eq_writeEach script bytes
  rw [h]
  exact delivers_writeEach script units

end DriverPrintf
