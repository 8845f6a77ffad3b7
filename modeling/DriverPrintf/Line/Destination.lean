import DriverPrintf.Text.Utf8

/-!
# Line — destinations

Where lines go.  A destination answers each write and each flush; what it will answer is a
script, and past the end of its script it takes everything.  A run of calls is kept with its
answers, so what was accepted can be read off it (`accepted`).

`writeAll` offers bytes until all are taken: what a short write leaves is offered again, and so is
everything after an interruption.  `accepted_writeAll` says that it never repeats, reorders or
skips a byte: what was accepted is an initial part of what was to be written, and all of it if
there was no fault.
-/

namespace DriverPrintf

/-- The kinds of fault a destination has. -/
inductive WriteFault.Kind where
  | brokenPipe
  | wouldBlock
  | interrupted
  | other
  /-- A write that took nothing. -/
  | writeZero
deriving DecidableEq, Repr

/-- A fault of a destination and its description. -/
structure WriteFault where
  kind : WriteFault.Kind
  text : String
deriving DecidableEq, Repr

/-- The fault of a destination that takes nothing of what it is offered. -/
def WriteFault.nothingTaken : WriteFault := ⟨.writeZero, "failed to write whole buffer"⟩

/-- An answer to a write. -/
inductive WriteReply where
  | takeAll
  | takeAtMost (count : Nat)
  | fault (fault : WriteFault)
deriving DecidableEq, Repr

/-- An answer to a flush. -/
inductive FlushReply where
  | done
  | fault (fault : WriteFault)
deriving DecidableEq, Repr

/-- The answers a destination has yet to give. -/
structure Script where
  writes : List WriteReply
  flushes : List FlushReply
deriving DecidableEq, Repr

/-- The destination that takes everything. -/
def Script.obliging : Script := ⟨[], []⟩

/-- A call and its answer: the number of bytes taken, or the fault. -/
inductive Call where
  | write (offered : Bytes) (answer : Except WriteFault Nat)
  | flush (answer : Except WriteFault Unit)

/-- The bytes a call got accepted. -/
def Call.accepted : Call → Bytes
  | .write offered (.ok count) => offered.take count
  | .write _ (.error _) => []
  | .flush _ => []

/-- The bytes accepted in a run of calls. -/
def accepted (calls : List Call) : Bytes := calls.flatMap Call.accepted

@[simp] theorem accepted_nil : accepted [] = [] := rfl

@[simp] theorem accepted_cons (call : Call) (calls : List Call) :
    accepted (call :: calls) = call.accepted ++ accepted calls := rfl

@[simp] theorem accepted_append (calls more : List Call) :
    accepted (calls ++ more) = accepted calls ++ accepted more :=
  List.flatMap_append

/-- The calls of an operation, the fault that ended it, and the rest of the script. -/
structure Exchange where
  calls : List Call
  fault? : Option WriteFault
  script : Script

namespace Exchange

/-- An exchange with a call before it. -/
def cons (call : Call) (exchange : Exchange) : Exchange :=
  { exchange with calls := call :: exchange.calls }

/-- Offers `bytes` until all are taken or a fault other than an interruption occurs. -/
def write (flushes : List FlushReply) : Bytes → List WriteReply → Exchange
  | [], replies => ⟨[], none, ⟨replies, flushes⟩⟩
  | bytes, [] => ⟨[.write bytes (.ok bytes.length)], none, ⟨[], flushes⟩⟩
  | bytes, .takeAll :: replies =>
    ⟨[.write bytes (.ok bytes.length)], none, ⟨replies, flushes⟩⟩
  | bytes, .takeAtMost 0 :: replies =>
    ⟨[.write bytes (.ok 0)], some .nothingTaken, ⟨replies, flushes⟩⟩
  | bytes, .takeAtMost (limit + 1) :: replies =>
    let count := min (limit + 1) bytes.length
    cons (.write bytes (.ok count)) (write flushes (bytes.drop count) replies)
  | bytes, .fault fault :: replies =>
    if fault.kind = .interrupted then
      cons (.write bytes (.error fault)) (write flushes bytes replies)
    else ⟨[.write bytes (.error fault)], some fault, ⟨replies, flushes⟩⟩

end Exchange

/-- Writes all of `bytes`; nothing is called if there are none. -/
def writeAll (script : Script) (bytes : Bytes) : Exchange :=
  .write script.flushes bytes script.writes

/-- Flushes once. -/
def flush (script : Script) : Exchange :=
  match script.flushes with
  | [] => ⟨[.flush (.ok ())], none, script⟩
  | .done :: flushes => ⟨[.flush (.ok ())], none, { script with flushes }⟩
  | .fault fault :: flushes => ⟨[.flush (.error fault)], some fault, { script with flushes }⟩

theorem Exchange.accepted_write (flushes : List FlushReply) (bytes : Bytes)
    (replies : List WriteReply) :
    accepted (write flushes bytes replies).calls <+: bytes ∧
      ((write flushes bytes replies).fault? = none →
        accepted (write flushes bytes replies).calls = bytes) := by
  fun_induction write flushes bytes replies with
  | case1 => simp
  | case2 => simp [Call.accepted]
  | case3 => simp [Call.accepted]
  | case4 => simp [Call.accepted]
  | case5 bytes _ limit replies count ih =>
    have hsplit : bytes.take count ++ bytes.drop count = bytes := List.take_append_drop _ _
    obtain ⟨⟨rest, hrest⟩, hall⟩ := ih
    simp only [cons, accepted_cons, Call.accepted]
    refine ⟨⟨rest, ?_⟩, fun hnone => ?_⟩
    · rw [List.append_assoc, hrest, hsplit]
    · rw [hall hnone, hsplit]
  | case6 bytes _ fault replies _ ih => simpa [cons, Call.accepted] using ih
  | case7 => simp [Call.accepted]

/-- What `writeAll` gets accepted is an initial part of the bytes, and all of them unless it
fails. -/
theorem accepted_writeAll (script : Script) (bytes : Bytes) :
    accepted (writeAll script bytes).calls <+: bytes ∧
      ((writeAll script bytes).fault? = none →
        accepted (writeAll script bytes).calls = bytes) :=
  Exchange.accepted_write _ _ _

end DriverPrintf
