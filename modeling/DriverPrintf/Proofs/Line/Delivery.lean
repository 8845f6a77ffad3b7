import DriverPrintf.Line.Printer
import DriverPrintf.Proofs.Line.Units

/-!
# Line — delivery

What lines leave at a destination, whatever it answers.  A line is a tag, a body and a newline,
each written by an operation that delivers (`Exchange.Delivers`), so what it contributes can be
read off which of the three fail.  A run of lines passes the script from one to the next; since
every call uses up one reply, a line begins where the replies to the calls before it end.

* **One line** (`contributes_contribution`): a part of the tag, or the tag, an initial part of the
  body and the newline or nothing.
* **A whole line** (`contribution_eq_iff`): nothing is missing unless the destination has refused a
  call.  Bytes that are taken a few at a time and interruptions are no refusals.
* **A run of lines** (`lines_are_delivered`): what was accepted is the contributions one after the
  other, each decided by its own line and by the replies from its first call on.
-/

namespace DriverPrintf

namespace Line

/-! ### The parts of a line -/

/-- The writing of the tag. -/
def opening (script : Script) : Exchange := writeAll script (Text.utf8 tag)

/-- The writing of the body, behind the tag. -/
def body (script : Script) (template : Text) (args : List Arg) : Exchange :=
  writeStaged (opening script).script (render template args).output

/-- The writing of the newline, behind the body. -/
def newline (script : Script) (template : Text) (args : List Arg) : Exchange :=
  writeAll (body script template args).script [0x0a]

/-- The bytes that printing a line gets accepted. -/
def contribution (script : Script) (template : Text) (args : List Arg) : Bytes :=
  accepted (print script template args).calls

theorem print_of_fault {script : Script} {fault : WriteFault}
    (h : (opening script).fault? = some fault) (template : Text) (args : List Arg) :
    print script template args =
      ⟨(opening script).calls, some (.write fault), (opening script).script⟩ := by
  rw [opening] at h
  rw [print, h]
  rfl

theorem print_of_none {script : Script} (h : (opening script).fault? = none) (template : Text)
    (args : List Arg) :
    (print script template args).calls =
        (opening script).calls ++ (body script template args).calls ++
          (newline script template args).calls ++
          (flush (newline script template args).script).calls ∧
      (print script template args).script =
        (flush (newline script template args).script).script := by
  rw [opening] at h
  rw [print, h]
  exact ⟨rfl, rfl⟩

/-- Of several faults behind the tag the first counts, and a rendering error only if there is
none. -/
theorem error?_print_of_none {script : Script} (h : (opening script).fault? = none)
    (template : Text) (args : List Arg) :
    (print script template args).error? =
      (((body script template args).fault? <|> (newline script template args).fault? <|>
          (flush (newline script template args).script).fault?).map .write <|>
        (render template args).error?.map .render) := by
  rw [opening] at h
  rw [print, h]
  rfl

theorem script_flush (script : Script) :
    (flush script).script = script.after (flush script).calls := by
  obtain ⟨writes, flushes⟩ := script
  rw [flush]
  cases flushes with
  | nil => rfl
  | cons reply flushes => cases reply <;> rfl

/-- A flush gets nothing accepted. -/
theorem accepted_flush (script : Script) : accepted (flush script).calls = [] := by
  rw [flush]
  split <;> rfl

/-- The newline leaves of the script what the calls up to it have not used up. -/
theorem script_newline (script : Script) (template : Text) (args : List Arg) :
    (newline script template args).script =
      script.after ((opening script).calls ++ (body script template args).calls ++
        (newline script template args).calls) := by
  have hopening := (delivers_writeAll script (Text.utf8 tag)).script_eq
  have hbody := (delivers_writeStaged (opening script).script
    (render template args).output).script_eq
  have hnewline := (delivers_writeAll (body script template args).script [0x0a]).script_eq
  simp only [Script.after_append]
  rw [newline, hnewline, body, hbody, opening, hopening]

/-- A line uses up one reply for each of its calls. -/
theorem script_print (script : Script) (template : Text) (args : List Arg) :
    (print script template args).script = script.after (print script template args).calls := by
  cases h : (opening script).fault? with
  | some fault =>
    rw [print_of_fault h]
    exact (delivers_writeAll script (Text.utf8 tag)).script_eq
  | none =>
    obtain ⟨hcalls, hscript⟩ := print_of_none h template args
    rw [hscript, hcalls, Script.after_append, ← script_newline, script_flush]

/-- What a line may contribute, by which of its parts fail.  Whether the body is whole does not
depend on whether the template could be rendered: it is what was rendered in either case. -/
inductive Contributes (start : Script) (template : Text) (args : List Arg) : Bytes → Prop where
  | cut {part : Bytes} (hfault : (opening start).fault? ≠ none) (hpart : part <+: Text.utf8 tag)
      (hne : part ≠ Text.utf8 tag) : Contributes start template args part
  | line {text ending : Bytes} (hopened : (opening start).fault? = none)
      (htext : text <+: (render template args).output)
      (hall : text = (render template args).output ↔ (body start template args).fault? = none)
      (hending : ending = if (newline start template args).fault? = none then [0x0a] else []) :
      Contributes start template args (Text.utf8 tag ++ text ++ ending)

/-- **One line.**  Its contribution is a part of the tag, or the tag, an initial part of what was
rendered and a newline or nothing. -/
theorem contributes_contribution (start : Script) (template : Text) (args : List Arg) :
    Contributes start template args (contribution start template args) := by
  have hopening := delivers_writeAll start (Text.utf8 tag)
  rw [contribution]
  by_cases h : (opening start).fault? = none
  · have hbody := delivers_writeStaged (opening start).script (render template args).output
    have hnewline := delivers_writeAll (body start template args).script [0x0a]
    have htag : accepted (opening start).calls = Text.utf8 tag := hopening.all_iff.mpr h
    rw [(print_of_none h template args).1, accepted_append, accepted_flush, accepted_append,
      accepted_append, htag, List.append_nil]
    refine .line h hbody.taken hbody.all_iff ?_
    by_cases hfault : (newline start template args).fault? = none
    · rw [if_pos hfault]
      exact hnewline.all_iff.mpr hfault
    · rw [if_neg hfault]
      -- of a single byte, a part that is not all of it is nothing
      rcases List.prefix_cons_iff.mp hnewline.taken with hnone | ⟨more, hcons, hmore⟩
      · exact hnone
      · rw [List.prefix_nil.mp hmore] at hcons
        exact absurd (hnewline.all_iff.mp hcons) hfault
  · obtain ⟨fault, hfault⟩ := Option.ne_none_iff_exists'.mp h
    rw [print_of_fault hfault]
    exact .cut h hopening.taken fun hall => h (hopening.all_iff.mp hall)

/-- Of a line whose tag is written, something is missing exactly if its body or its newline
fails. -/
theorem contribution_eq_iff_of_none {start : Script} (h : (opening start).fault? = none)
    (template : Text) (args : List Arg) :
    contribution start template args =
        Text.utf8 tag ++ (render template args).output ++ [0x0a] ↔
      (body start template args).fault? = none ∧ (newline start template args).fault? = none := by
  have hline := contributes_contribution start template args
  generalize contribution start template args = bytes at hline ⊢
  cases hline with
  | cut hfault => exact absurd h hfault
  | @line text ending _ htext hall hending =>
    rw [← hall, List.append_assoc, List.append_assoc, List.append_cancel_left_eq]
    constructor
    · intro heq
      have hlength := congrArg List.length heq
      have hle := htext.length_le
      have hnewline : (newline start template args).fault? = none := by
        refine Decidable.byContradiction fun hfault => ?_
        rw [hending, if_neg hfault] at hlength
        simp only [List.length_append, List.length_nil, List.length_singleton] at hlength
        omega
      rw [hending, if_pos hnewline] at heq
      exact ⟨List.append_cancel_right heq, hnewline⟩
    · rintro ⟨rfl, hnewline⟩
      rw [hending, if_pos hnewline]

/-- A flush is not refused. -/
theorem not_refused_flush (script : Script) : ∀ call ∈ (flush script).calls, ¬ call.Refused := by
  rw [flush]
  split <;> simp [Call.Refused]

/-- **A whole line.**  All of a line is accepted exactly if the destination refuses none of its
calls. -/
theorem contribution_eq_iff (start : Script) (template : Text) (args : List Arg) :
    contribution start template args =
        Text.utf8 tag ++ (render template args).output ++ [0x0a] ↔
      ∀ call ∈ (print start template args).calls, ¬ call.Refused := by
  have hopening : Exchange.Delivers start (Text.utf8 tag) (opening start) :=
    delivers_writeAll start (Text.utf8 tag)
  cases hfault : (opening start).fault? with
  | some fault =>
    rw [contribution, print_of_fault hfault]
    refine iff_of_false (fun heq => ?_) fun hall => ?_
    · have hle := hopening.taken.length_le
      rw [heq, List.length_append, List.length_append, List.length_singleton] at hle
      omega
    · rw [hopening.none_iff.mpr hall] at hfault
      cases hfault
  | none =>
    have hbody : (body start template args).fault? = none ↔ _ :=
      (delivers_writeStaged (opening start).script (render template args).output).none_iff
    have hnewline : (newline start template args).fault? = none ↔ _ :=
      (delivers_writeAll (body start template args).script [0x0a]).none_iff
    have htag := hopening.none_iff.mp hfault
    have hflush := not_refused_flush (newline start template args).script
    rw [contribution_eq_iff_of_none hfault, hbody, hnewline, (print_of_none hfault template args).1,
      List.forall_mem_append, List.forall_mem_append, List.forall_mem_append]
    exact ⟨fun h => ⟨⟨⟨htag, h.1⟩, h.2⟩, hflush⟩, fun h => ⟨h.1.1.2, h.1.2⟩⟩

/-! ### A destination that does not fail -/

/-- An answer with which a write goes on: some of the bytes are taken, or it is offered them
again. -/
def Proceeds : WriteReply → Prop
  | .takeAll => True
  | .takeAtMost count => count ≠ 0
  | .fault fault => fault.kind = .interrupted

/-- A destination that takes every byte it is offered, in its own time. -/
def Reliable (script : Script) : Prop := ∀ reply ∈ script.writes, Proceeds reply

theorem reliable_obliging : Reliable .obliging := fun reply hmem => by cases hmem

/-- A destination goes on not to fail. -/
theorem Reliable.after {script : Script} (h : Reliable script) (calls : List Call) :
    Reliable (script.after calls) := by
  induction calls generalizing script with
  | nil => exact h
  | cons call calls ih =>
    refine ih fun reply hmem => h reply ?_
    cases call with
    | write => exact List.mem_of_mem_tail hmem
    | flush => exact hmem

theorem fault?_write_of_proceeds (flushes : List FlushReply) (bytes : Bytes)
    (replies : List WriteReply) (h : ∀ reply ∈ replies, Proceeds reply) :
    (Exchange.write flushes bytes replies).fault? = none := by
  fun_induction Exchange.write flushes bytes replies with
  | case1 => rfl
  | case2 => rfl
  | case3 => rfl
  | case4 => exact absurd rfl (h _ List.mem_cons_self)
  | case5 bytes limit replies _ count ih => exact ih fun reply hmem => h reply (.tail _ hmem)
  | case6 bytes fault replies _ _ ih => exact ih fun reply hmem => h reply (.tail _ hmem)
  | case7 bytes fault replies _ hkind => exact absurd (h _ List.mem_cons_self) hkind

theorem fault?_writeAll_of_reliable {script : Script} (h : Reliable script) (bytes : Bytes) :
    (writeAll script bytes).fault? = none :=
  fault?_write_of_proceeds _ _ _ h

theorem fault?_writeEach_of_reliable {script : Script} (h : Reliable script) (units : List Bytes) :
    (writeEach script units).fault? = none := by
  induction units generalizing script with
  | nil => rfl
  | cons unit units ih =>
    rw [writeEach, Exchange.andThen_of_none (fault?_writeAll_of_reliable h unit)]
    refine ih ?_
    rw [(delivers_writeAll script unit).script_eq]
    exact h.after _

/-- **A line that is taken whole**: the tag, all that was rendered and the newline.  The only
errors are those of the flush and of the rendering. -/
theorem print_of_reliable {script : Script} (h : Reliable script) (template : Text)
    (args : List Arg) :
    contribution script template args =
        Text.utf8 tag ++ (render template args).output ++ [0x0a] ∧
      (print script template args).error? =
        ((flush (newline script template args).script).fault?.map .write <|>
          (render template args).error?.map .render) := by
  have hopening : (opening script).fault? = none := fault?_writeAll_of_reliable h _
  have hstart : Reliable (opening script).script := by
    rw [opening, (delivers_writeAll _ _).script_eq]
    exact h.after _
  have hbody : (body script template args).fault? = none := by
    obtain ⟨units, -, -, -, hunits⟩ :=
      writeStaged_eq_writeEach (opening script).script (render template args).output
    rw [body, hunits, fault?_writeEach_of_reliable hstart]
  have hmid : Reliable (body script template args).script := by
    rw [body, (delivers_writeStaged _ _).script_eq]
    exact hstart.after _
  have hnewline : (newline script template args).fault? = none :=
    fault?_writeAll_of_reliable hmid _
  refine ⟨(contribution_eq_iff_of_none hopening template args).mpr ⟨hbody, hnewline⟩, ?_⟩
  rw [error?_print_of_none hopening, hbody, hnewline]
  rfl

/-- A flush succeeds if every flush still to come does. -/
theorem fault?_flush_of_done {script : Script} (h : ∀ reply ∈ script.flushes, reply = .done) :
    (flush script).fault? = none := by
  obtain ⟨writes, flushes⟩ := script
  rw [flush]
  cases flushes with
  | nil => rfl
  | cons reply flushes => rw [h reply List.mem_cons_self]

/-- No call brings up a new answer to a flush. -/
theorem flushes_after_suffix (script : Script) (calls : List Call) :
    (script.after calls).flushes <:+ script.flushes := by
  induction calls generalizing script with
  | nil => exact List.suffix_refl _
  | cons call calls ih =>
    refine (ih (script.answered call)).trans ?_
    cases call with
    | write => exact List.suffix_refl _
    | flush => exact List.tail_suffix _

/-- **A destination that never fails**, in a write or a flush: the only error is that of the
rendering. -/
theorem error?_print_of_done {script : Script} (h : Reliable script)
    (hdone : ∀ reply ∈ script.flushes, reply = .done) (template : Text) (args : List Arg) :
    (print script template args).error? = (render template args).error?.map .render := by
  have hflush : (flush (newline script template args).script).fault? = none := by
    refine fault?_flush_of_done fun reply hmem => hdone reply ?_
    rw [script_newline] at hmem
    exact (flushes_after_suffix script _).mem hmem
  rw [(print_of_reliable h template args).2, hflush]
  rfl

/-- A destination without a script flushes too. -/
theorem print_obliging (template : Text) (args : List Arg) :
    accepted (print .obliging template args).calls =
        Text.utf8 tag ++ (render template args).output ++ [0x0a] ∧
      (print .obliging template args).error? = (render template args).error?.map .render := by
  exact ⟨(print_of_reliable reliable_obliging template args).1,
    error?_print_of_done reliable_obliging (fun reply hmem => by cases hmem) template args⟩

/-! ### A run of lines -/

/-- A line to be printed, with or without an event if it is not as it should be. -/
structure Request where
  logged : Bool
  template : Text
  args : List Arg

def Request.printing (request : Request) (script : Script) : Printing :=
  if request.logged then (printLogged script request.template request.args).1
  else print script request.template request.args

/-- Prints lines one after the other. -/
def printAll (script : Script) : List Request → List Printing
  | [] => []
  | request :: requests =>
    let printing := request.printing script
    printing :: printAll printing.script requests

/-- All the calls of a run of lines. -/
def callsOf (printings : List Printing) : List Call := printings.flatMap Printing.calls

theorem Request.printing_eq (request : Request) (script : Script) :
    request.printing script = print script request.template request.args := by
  rw [printing]
  split <;> rfl

/-- The line after a request starts where the replies to its calls end. -/
theorem Request.script_printing (request : Request) (script : Script) :
    (request.printing script).script = script.after (request.printing script).calls := by
  rw [request.printing_eq]
  exact script_print _ _ _

theorem length_printAll (script : Script) (requests : List Request) :
    (printAll script requests).length = requests.length := by
  induction requests generalizing script with
  | nil => rfl
  | cons request requests ih => rw [printAll, List.length_cons, ih, List.length_cons]

/-- Each line is printed on what the lines before it have left of the script. -/
theorem printAll_getElem? (script : Script) (requests : List Request) (k : Nat) :
    (printAll script requests)[k]? = requests[k]?.map fun request =>
      print (script.after (callsOf ((printAll script requests).take k)))
        request.template request.args := by
  induction requests generalizing script k with
  | nil => rfl
  | cons request requests ih =>
    rw [printAll]
    cases k with
    | zero =>
      rw [List.getElem?_cons_zero, List.getElem?_cons_zero, Option.map_some, request.printing_eq]
      rfl
    | succ k =>
      have hcalls : script.after (callsOf (request.printing script ::
          (printAll (request.printing script).script requests).take k)) =
          (request.printing script).script.after
            (callsOf ((printAll (request.printing script).script requests).take k)) := by
        rw [callsOf, List.flatMap_cons, Script.after_append, ← request.script_printing]
        rfl
      rw [List.getElem?_cons_succ, List.getElem?_cons_succ, List.take_succ_cons, ih, hcalls]

/-- What each line of a run got accepted. -/
def contributions (script : Script) (requests : List Request) : List Bytes :=
  (printAll script requests).map fun printing => accepted printing.calls

theorem accepted_callsOf (printings : List Printing) :
    accepted (callsOf printings) =
      (printings.map fun printing => accepted printing.calls).flatten := by
  induction printings with
  | nil => rfl
  | cons printing printings ih =>
    rw [callsOf, List.flatMap_cons, accepted_append, ← callsOf, ih]
    rfl

/-- **A run of lines.**  Whatever the destination answers, the bytes it accepts are the
contributions of the lines, one after the other.  The contribution of a line is that of printing
it alone on the replies that are left where its first call is made, so it depends on nothing that
the lines around it do.  It is the whole line exactly if the destination refuses none of its calls,
so short writes and interruptions alone cost it nothing. -/
theorem lines_are_delivered (script : Script) (requests : List Request) :
    accepted (callsOf (printAll script requests)) = (contributions script requests).flatten ∧
    (contributions script requests).length = requests.length ∧
    ∀ k request, requests[k]? = some request →
      ∃ start, start = script.after (callsOf ((printAll script requests).take k)) ∧
        (contributions script requests)[k]? =
          some (contribution start request.template request.args) ∧
        Contributes start request.template request.args
          (contribution start request.template request.args) ∧
        (contribution start request.template request.args =
            Text.utf8 tag ++ (render request.template request.args).output ++ [0x0a] ↔
          ∀ call ∈ (print start request.template request.args).calls, ¬ call.Refused) := by
  refine ⟨accepted_callsOf _, ?_, fun k request hrequest => ⟨_, rfl, ?_, ?_, ?_⟩⟩
  · rw [contributions, List.length_map, length_printAll]
  · rw [contributions, List.getElem?_map, printAll_getElem?, hrequest]
    rfl
  · exact contributes_contribution _ _ _
  · exact contribution_eq_iff _ _ _

end Line

end DriverPrintf
