import DriverPrintf.Proofs.Line.Delivery
import DriverPrintf.Proofs.Render.Outcome

/-!
# Line — operations

What a line asks of its destination is a list of operations: units to be written, one `writeAll`
each, and a flush.  `perform` carries out operations one after the other, whatever becomes of each
of them; that a failure keeps others from being tried shows in which operations a line has.

`Line.Operations` says which these are.  A line has its tag alone if the tag cannot be written.
Otherwise what was rendered is cut into units, of which those are written that come before a
failure or fail (`UpToFault`); the newline and the flush follow in any case.

* **The operations of a line** (`operations_of_line`): its calls are those of its operations, its
  error is the first fault among them and then that of the rendering, and a logged line differs
  from one that is not in nothing but the event for that error.
-/

namespace DriverPrintf

/-- An operation on a destination. -/
inductive Operation where
  | write (unit : Bytes)
  | flush

/-- The calls of an operation, and what becomes of it. -/
def Operation.exchange (script : Script) : Operation → Exchange
  | .write unit => writeAll script unit
  | .flush => DriverPrintf.flush script

/-- Operations one after the other, each on what the one before it has left of the script. -/
def perform (script : Script) : List Operation → List Exchange
  | [] => []
  | operation :: operations =>
    operation.exchange script :: perform (operation.exchange script).script operations

/-- All the calls of some operations. -/
def callsIn (exchanges : List Exchange) : List Call := exchanges.flatMap Exchange.calls

/-- The fault of the first operation that failed. -/
def firstFault? (exchanges : List Exchange) : Option WriteFault :=
  exchanges.findSome? Exchange.fault?

@[simp] theorem callsIn_nil : callsIn [] = [] := rfl

@[simp] theorem callsIn_cons (exchange : Exchange) (exchanges : List Exchange) :
    callsIn (exchange :: exchanges) = exchange.calls ++ callsIn exchanges := rfl

@[simp] theorem callsIn_append (exchanges more : List Exchange) :
    callsIn (exchanges ++ more) = callsIn exchanges ++ callsIn more := List.flatMap_append

@[simp] theorem firstFault?_nil : firstFault? [] = none := rfl

@[simp] theorem firstFault?_cons (exchange : Exchange) (exchanges : List Exchange) :
    firstFault? (exchange :: exchanges) = (exchange.fault? <|> firstFault? exchanges) := by
  rw [firstFault?, List.findSome?_cons]
  cases exchange.fault? <;> rfl

@[simp] theorem firstFault?_append (exchanges more : List Exchange) :
    firstFault? (exchanges ++ more) = (firstFault? exchanges <|> firstFault? more) := by
  rw [firstFault?, List.findSome?_append, firstFault?]
  cases exchanges.findSome? Exchange.fault? <;> rfl

/-- An operation uses up one reply for each of its calls. -/
theorem Operation.script_exchange (script : Script) (operation : Operation) :
    (operation.exchange script).script = script.after (operation.exchange script).calls := by
  cases operation with
  | write unit => exact (delivers_writeAll script unit).script_eq
  | flush => exact Line.script_flush script

theorem perform_append (script : Script) (operations more : List Operation) :
    perform script (operations ++ more) =
      perform script operations ++
        perform (script.after (callsIn (perform script operations))) more := by
  induction operations generalizing script with
  | nil => rfl
  | cons operation operations ih =>
    rw [List.cons_append, perform, perform, ih, callsIn_cons, Script.after_append,
      ← operation.script_exchange, List.cons_append]

/-! ### The units of a body -/

/-- `bytes` are cut into units of 64 bytes, of which only the last may be shorter, and none is
empty. -/
structure CutInto (bytes : Bytes) (units : List Bytes) : Prop where
  all : units.flatten = bytes
  full : ∀ unit ∈ units.dropLast, unit.length = 64
  size : ∀ unit ∈ units, 1 ≤ unit.length ∧ unit.length ≤ 64

/-- `tried` are the units up to and with the first that cannot be written, or else all of them. -/
inductive UpToFault : Script → List Bytes → List Bytes → Prop where
  | nil (script : Script) : UpToFault script [] []
  | fault {script : Script} {unit : Bytes} {units : List Bytes}
      (h : (writeAll script unit).fault? ≠ none) : UpToFault script (unit :: units) [unit]
  | more {script : Script} {unit : Bytes} {units tried : List Bytes}
      (h : (writeAll script unit).fault? = none)
      (t : UpToFault (writeAll script unit).script units tried) :
      UpToFault script (unit :: units) (unit :: tried)

/-- Writing units up to a fault is writing those that are tried, whatever becomes of them. -/
theorem exists_upToFault (script : Script) (units : List Bytes) :
    ∃ tried, UpToFault script units tried ∧
      (writeEach script units).calls = callsIn (perform script (tried.map .write)) ∧
      (writeEach script units).fault? = firstFault? (perform script (tried.map .write)) := by
  induction units generalizing script with
  | nil => exact ⟨[], .nil script, rfl, rfl⟩
  | cons unit units ih =>
    cases hfault : (writeAll script unit).fault? with
    | some fault =>
      refine ⟨[unit], .fault (by simp [hfault]), ?_, ?_⟩
      · rw [writeEach, Exchange.andThen_of_fault hfault]
        simp [perform, Operation.exchange]
      · rw [writeEach, Exchange.andThen_of_fault hfault]
        simp [perform, Operation.exchange, hfault]
    | none =>
      obtain ⟨tried, htried, hcalls, hfirst⟩ := ih (writeAll script unit).script
      refine ⟨unit :: tried, .more hfault htried, ?_, ?_⟩
      · rw [writeEach, Exchange.andThen_of_none hfault, hcalls]
        rfl
      · rw [writeEach, Exchange.andThen_of_none hfault, hfirst]
        simp [perform, Operation.exchange, hfault]

namespace Line

/-- The operations of a line of which the body is `output`. -/
inductive Operations (script : Script) (output : Bytes) : List Operation → Prop where
  | tagOnly (h : (opening script).fault? ≠ none) : Operations script output [.write (Text.utf8 tag)]
  | line {units tried : List Bytes} (h : (opening script).fault? = none)
      (hcut : CutInto output units) (htried : UpToFault (opening script).script units tried) :
      Operations script output
        (.write (Text.utf8 tag) :: tried.map .write ++ [.write [0x0a], .flush])

/-- What is rendered is written in units of 64 bytes. -/
theorem exists_units_body (script : Script) (template : Text) (args : List Arg) :
    ∃ units, CutInto (render template args).output units ∧
      body script template args = writeEach (opening script).script units := by
  obtain ⟨units, hall, hfull, hsize, hbody⟩ :=
    writeStaged_eq_writeEach (opening script).script (render template args).output
  exact ⟨units, ⟨hall, hfull, fun unit hunit =>
    ⟨List.length_pos_iff.mpr (hsize unit hunit).1, (hsize unit hunit).2⟩⟩, hbody⟩

/-- A line does its operations, and is as good as they are and its rendering is. -/
theorem exists_operations (script : Script) (template : Text) (args : List Arg) :
    ∃ operations, Operations script (render template args).output operations ∧
      (print script template args).calls = callsIn (perform script operations) ∧
      (print script template args).error? =
        ((firstFault? (perform script operations)).map .write <|>
          (render template args).error?.map .render) := by
  cases hopening : (opening script).fault? with
  | some fault =>
    refine ⟨[.write (Text.utf8 tag)], .tagOnly (by simp [hopening]), ?_, ?_⟩
    · rw [print_of_fault hopening, opening]
      simp [perform, Operation.exchange]
    · rw [print_of_fault hopening]
      rw [opening] at hopening
      simp [perform, Operation.exchange, hopening]
  | none =>
    obtain ⟨units, hcut, hbody⟩ := exists_units_body script template args
    obtain ⟨tried, htried, hcalls, hfault⟩ := exists_upToFault (opening script).script units
    rw [← hbody] at hcalls hfault
    -- the newline meets the script as the calls of the body have left it, failed or not
    have hscript : (opening script).script.after (body script template args).calls =
        (body script template args).script := by
      rw [body, (delivers_writeStaged _ _).script_eq]
    have hperform : perform script
        (.write (Text.utf8 tag) :: tried.map .write ++ [.write [0x0a], .flush]) =
          opening script :: (perform (opening script).script (tried.map .write) ++
            [newline script template args, flush (newline script template args).script]) := by
      rw [List.cons_append, perform, Operation.exchange, ← opening, perform_append, ← hcalls,
        hscript]
      rfl
    refine ⟨_, .line hopening hcut htried, ?_, ?_⟩
    · rw [hperform, (print_of_none hopening template args).1, hcalls]
      simp
    · rw [hperform, error?_print_of_none hopening, hfault]
      simp [hopening]

/-- **The operations of a line.**  A line makes the calls of its operations and no others.  Its
error is the fault of the first of them that failed, whatever became of the rendering and of later
operations; with no fault it is that of the rendering, and with no error at all the line is as it
should be.  A logged line makes the same calls, and exactly if there is an error it leaves one
event, a warning with the text of that error. -/
theorem operations_of_line (script : Script) (template : Text) (args : List Arg) :
    (∃ operations, Operations script (render template args).output operations ∧
      (print script template args).calls = callsIn (perform script operations) ∧
      (∀ fault, (print script template args).error? = some (.write fault) ↔
        firstFault? (perform script operations) = some fault) ∧
      (∀ error, (print script template args).error? = some (.render error) ↔
        firstFault? (perform script operations) = none ∧
          (render template args).result = .error error) ∧
      ((print script template args).error? = none ↔
        firstFault? (perform script operations) = none ∧
          ∃ length, (render template args).result = .ok length)) ∧
    (printLogged script template args).1.calls = (print script template args).calls ∧
    ((print script template args).error? = none ↔ (printLogged script template args).2 = []) ∧
    ∀ error, (print script template args).error? = some error →
      ∃ event, (printLogged script template args).2 = [event] ∧ event.level = .warn ∧
        ("error", error.message) ∈ event.fields := by
  obtain ⟨operations, hoperations, hcalls, herror⟩ := exists_operations script template args
  refine ⟨⟨operations, hoperations, hcalls, fun fault => ?_, fun error => ?_, ?_⟩, rfl, ?_, ?_⟩
  · rw [herror]
    cases firstFault? (perform script operations) <;> simp
  · rw [herror, Rendering.result_eq_error_iff]
    cases firstFault? (perform script operations) <;> simp
  · rw [herror]
    simp only [Rendering.result_eq_ok_iff]
    cases firstFault? (perform script operations) <;> simp
  · simp [printLogged]
  · intro error herror
    exact ⟨.lineIncomplete template error, by rw [printLogged, herror]; rfl, rfl,
      List.mem_cons_of_mem _ List.mem_cons_self⟩

end Line

end DriverPrintf
