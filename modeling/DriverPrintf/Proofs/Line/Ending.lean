import DriverPrintf.Proofs.Line.Delivery

/-!
# Line — ending

Whether a line is ended before the next one begins.  Behind the tag a call always comes to its
newline, whatever the destination made of the body; a tag that cannot be written ends the call
before that.  What the destination has accepted of such a tag is an open line, and the next line
is printed onto its end.

That no newline is offered with a failed tag is a fact about its calls: a write offers only what
is left of its bytes (`Exchange.suffix_of_mem_write`), and there is no newline in the tag.

* **Where the newline is offered** (`newline_offered_iff`): a line of which something has been
  accepted is ended, unless its tag fails part way.
* **An open line** (`not_newline_offered_of_cut_tag`): a destination that takes a part of the tag
  and then fails.
-/

namespace DriverPrintf

/-- What a write offers is what is left of its bytes. -/
theorem Exchange.suffix_of_mem_write {flushes : List FlushReply} {bytes offered : Bytes}
    {replies : List WriteReply} {answer : Except WriteFault Nat}
    (h : Call.write offered answer ∈ (write flushes bytes replies).calls) : offered <:+ bytes := by
  fun_induction write flushes bytes replies with
  | case1 => simp at h
  | case2 => simp_all
  | case3 => simp_all
  | case4 => simp_all
  | case5 bytes limit replies _ count ih =>
    simp only [cons, List.mem_cons, Call.write.injEq] at h
    rcases h with ⟨rfl, -⟩ | h
    · exact List.suffix_refl _
    · exact (ih h).trans (List.drop_suffix _ _)
  | case6 bytes fault replies _ _ ih =>
    simp only [cons, List.mem_cons, Call.write.injEq] at h
    rcases h with ⟨rfl, -⟩ | h
    · exact List.suffix_refl _
    · exact ih h
  | case7 => simp_all

/-- A write begins with a call that offers all of its bytes. -/
theorem Exchange.exists_calls_write_eq_cons (flushes : List FlushReply) {bytes : Bytes}
    (hne : bytes ≠ []) (replies : List WriteReply) :
    ∃ answer more, (write flushes bytes replies).calls = .write bytes answer :: more := by
  fun_cases write flushes bytes replies with
  | case1 => exact absurd rfl hne
  | case2 => exact ⟨_, _, rfl⟩
  | case3 => exact ⟨_, _, rfl⟩
  | case4 => exact ⟨_, _, rfl⟩
  | case5 => exact ⟨_, _, rfl⟩
  | case6 => exact ⟨_, _, rfl⟩
  | case7 => exact ⟨_, _, rfl⟩

namespace Line

/-- The newline of a line is offered, right behind the calls for its tag and its body. -/
def NewlineOffered (script : Script) (request : Request) : Prop :=
  ∃ answer more, (request.printing script).calls =
    (opening script).calls ++ (body script request.template request.args).calls ++
      .write [0x0a] answer :: more

/-- Behind its tag every line comes to its newline. -/
theorem newlineOffered_of_none {script : Script} (h : (opening script).fault? = none)
    (request : Request) : NewlineOffered script request := by
  have hcalls := (print_of_none h request.template request.args).1
  obtain ⟨answer, more, hnewline⟩ := Exchange.exists_calls_write_eq_cons
    (body script request.template request.args).script.flushes (List.cons_ne_nil 0x0a [])
    (body script request.template request.args).script.writes
  refine ⟨answer,
    more ++ (flush (newline script request.template request.args).script).calls, ?_⟩
  rw [request.printing_eq, hcalls, newline, writeAll, hnewline, List.append_assoc,
    List.cons_append]

/-- A line whose tag fails is its tag's calls and nothing else. -/
theorem calls_printing_of_fault {script : Script} (h : (opening script).fault? ≠ none)
    (request : Request) : (request.printing script).calls = (opening script).calls := by
  obtain ⟨fault, hfault⟩ := Option.ne_none_iff_exists'.mp h
  rw [request.printing_eq, print_of_fault hfault]

theorem not_newlineOffered_of_fault {script : Script} (h : (opening script).fault? ≠ none)
    (request : Request) : ¬ NewlineOffered script request := by
  rintro ⟨answer, more, hcalls⟩
  rw [calls_printing_of_fault h] at hcalls
  have hlength := congrArg List.length hcalls
  simp only [List.length_append, List.length_cons] at hlength
  omega

/-- There is no newline in the tag. -/
theorem newline_not_mem_tag : (0x0a : UInt8) ∉ Text.utf8 tag := by decide

/-- **Where the newline is offered.**  That a line is ended once something of it has been accepted
holds exactly if its tag is written, or fails before any of it is accepted.  With a failed tag no
call offers a newline. -/
theorem newline_offered_iff (script : Script) (request : Request) :
    ((accepted (request.printing script).calls ≠ [] → NewlineOffered script request) ↔
      (opening script).fault? = none ∨ accepted (opening script).calls = []) ∧
    ((opening script).fault? ≠ none → ∀ offered answer,
      .write offered answer ∈ (request.printing script).calls → 0x0a ∉ offered) := by
  refine ⟨⟨fun h => ?_, ?_⟩, fun hfault offered answer hmem hnewline => ?_⟩
  · by_cases hfault : (opening script).fault? = none
    · exact .inl hfault
    · refine .inr (Decidable.not_not.mp fun hne => ?_)
      rw [calls_printing_of_fault hfault] at h
      exact not_newlineOffered_of_fault hfault request (h hne)
  · rintro (hnone | hnil) hne
    · exact newlineOffered_of_none hnone request
    · by_cases hfault : (opening script).fault? = none
      · exact newlineOffered_of_none hfault request
      · rw [calls_printing_of_fault hfault] at hne
        exact absurd hnil hne
  · rw [calls_printing_of_fault hfault] at hmem
    exact newline_not_mem_tag ((Exchange.suffix_of_mem_write hmem).mem hnewline)

/-- A destination that takes three bytes, fails once, and takes everything after that. -/
def threeBytesThenFault : Script := ⟨[.takeAtMost 3, .fault ⟨.brokenPipe, "closed"⟩], []⟩

/-- **An open line.**  Three bytes of the tag have been accepted when its writing fails, and no
newline is offered; the next line begins behind them. -/
theorem not_newline_offered_of_cut_tag :
    ¬ (accepted (Request.printing ⟨true, ['x'], []⟩ threeBytesThenFault).calls ≠ [] →
        NewlineOffered threeBytesThenFault ⟨true, ['x'], []⟩) ∧
      accepted (callsOf (printAll threeBytesThenFault [⟨true, ['x'], []⟩, ⟨true, ['x'], []⟩])) =
        Text.utf8 "udiudi_debug_printf: x\n".toList := by
  have hfault : (opening threeBytesThenFault).fault? ≠ none := by decide
  have hpart : accepted (opening threeBytesThenFault).calls ≠ [] := by decide
  refine ⟨fun h => not_newlineOffered_of_fault hfault _ (h ?_), by decide +kernel⟩
  rwa [calls_printing_of_fault hfault]

end Line

end DriverPrintf
