import DriverPrintf.Proofs.BoundedBuffer
import DriverPrintf.Proofs.Line.Ending
import DriverPrintf.Proofs.Render.Provenance

/-!
# Terminators

Both destinations of a rendering put a terminator behind it: a buffer a zero byte, a line a newline.
Neither is of the alphabet of the conversions, so either can stand in an output only if it has come
in with the call.  Where a caller has kept it out, whoever reads the buffer or the lines up to the
terminator reads all that was rendered and nothing else.

A tag has no newline either (`newline_not_mem_tag`), so the newlines of a run of lines are those
behind its renderings.

* **The zero byte of a buffer** (`first_zero_of_not_enters`): the first one is the terminator.
* **The newlines of a run** (`splitOn_newline_of_not_enters`): as many lines as there were calls,
  each of them its tag and what was rendered, also where a rendering has failed.
-/

namespace DriverPrintf

open BoundedBuffer (kept)

/-- A byte that conversions do not write of their own stands in an output only if it has come
in. -/
theorem not_mem_output {template : Text} {args : List Arg} {byte : UInt8}
    (halphabet : byte ∉ Text.utf8 alphabet) (hout : ¬ Enters template args byte) :
    byte ∉ (render template args).output := fun hmem =>
  (allTraced_output byte hmem).elim halphabet hout

/-- **The zero byte of a buffer** stands behind what was kept of the output, and no other stands
before it. -/
theorem first_zero_of_not_enters {cells : Array UInt8} (hsize : cells.size ≠ 0) {template : Text}
    {args : List Arg} (hzero : ¬ Enters template args 0) :
    (renderInto cells template args).cells[kept (render template args).output.length
        cells.size]? = some 0 ∧
      ∀ i < kept (render template args).output.length cells.size,
        (renderInto cells template args).cells[i]? ≠ some 0 := by
  have hcell := getElem?_cells_renderInto hsize template args
  have hout : (0 : UInt8) ∉ (render template args).output := not_mem_output (by decide) hzero
  refine ⟨(hcell _).trans (if_pos rfl), fun i hi h => hout ?_⟩
  have hkept := hcell i
  rw [if_neg (Nat.ne_of_lt hi), if_pos hi] at hkept
  exact List.mem_of_getElem? (hkept.symm.trans h)

namespace Line

/-- A line without its newline. -/
def Request.line (request : Request) : Bytes :=
  Text.utf8 tag ++ (render request.template request.args).output

theorem Request.accepted_printing {script : Script} (h : Reliable script) (request : Request) :
    accepted (request.printing script).calls = request.line ++ [0x0a] := by
  rw [request.printing_eq]
  exact (print_of_reliable h request.template request.args).1

/-- **A run that is taken whole**: its lines, each with its newline. -/
theorem accepted_of_reliable {script : Script} (h : Reliable script) (requests : List Request) :
    accepted (callsOf (printAll script requests)) =
      requests.flatMap fun request => request.line ++ [0x0a] := by
  induction requests generalizing script with
  | nil => rfl
  | cons request requests ih =>
    have hnext : Reliable (request.printing script).script := by
      rw [request.script_printing]
      exact h.after _
    rw [printAll, callsOf, List.flatMap_cons, accepted_append, request.accepted_printing h,
      List.flatMap_cons, ← ih hnext, callsOf]

theorem Request.newline_not_mem_line {request : Request}
    (h : ¬ Enters request.template request.args 0x0a) : 0x0a ∉ request.line := fun hmem =>
  (List.mem_append.mp hmem).elim newline_not_mem_tag (not_mem_output (by decide) h)

/-- **The newlines of a run.**  Taken apart at its newlines, a run is the lines of its requests,
and nothing is left behind the last newline. -/
theorem splitOn_newline_of_not_enters {script : Script} (hscript : Reliable script)
    {requests : List Request}
    (h : ∀ request ∈ requests, ¬ Enters request.template request.args 0x0a) :
    (accepted (callsOf (printAll script requests))).splitOn 0x0a =
      requests.map Request.line ++ [[]] := by
  rw [accepted_of_reliable hscript]
  clear hscript
  induction requests with
  | nil => exact List.splitOn_nil _
  | cons request requests ih =>
    have hfirst := request.newline_not_mem_line (h request List.mem_cons_self)
    have hrest := ih fun request hmem => h request (List.mem_cons_of_mem _ hmem)
    rw [List.flatMap_cons, List.append_assoc, List.singleton_append,
      List.splitOn_append_cons_self_of_not_mem hfirst, hrest]
    rfl

end Line

open Line (Reliable Request printAll callsOf)

/-- **Provenance and terminators.**  A byte of an output that is not of the alphabet has come in with
the call, whether or not the rendering succeeds.  So unless a zero byte comes in, the first one of a
buffer is its terminator; and unless a newline comes in, a destination that does not fail is given
one line for each call, its tag and what was rendered, also where some of the renderings fail. -/
theorem output_traced_and_terminated :
    (∀ template args, AllTraced template args (render template args).output) ∧
    (∀ (cells : Array UInt8) template args, 1 ≤ cells.size → ¬ Enters template args 0 →
      let first := min (render template args).output.length (cells.size - 1)
      (renderInto cells template args).cells[first]? = some 0 ∧
        ∀ i < first, (renderInto cells template args).cells[i]? ≠ some 0) ∧
    (∀ script (requests : List Request), Reliable script →
      (∀ request ∈ requests, ¬ Enters request.template request.args 0x0a) →
      (accepted (callsOf (printAll script requests))).splitOn 0x0a =
        (requests.map fun request =>
          Text.utf8 Line.tag ++ (render request.template request.args).output) ++ [[]]) :=
  ⟨fun _ _ => allTraced_output,
    fun _ _ _ hsize hzero => first_zero_of_not_enters (Nat.ne_of_gt hsize) hzero,
    fun _ _ hscript h => Line.splitOn_newline_of_not_enters hscript h⟩

/-- A destination that takes three bytes, is interrupted, and takes everything after that. -/
def threeBytesThenInterruption : Script := ⟨[.takeAtMost 3, .fault ⟨.interrupted, "again"⟩], []⟩

/-- Two lines, of which the first has no argument to render. -/
theorem two_lines_where_one_rendering_fails :
    let requests : List Request := [⟨true, "a%d".toList, []⟩, ⟨true, "b".toList, []⟩]
    Reliable threeBytesThenInterruption ∧
      (∀ request ∈ requests, ¬ Enters request.template request.args 0x0a) ∧
      (accepted (callsOf (printAll threeBytesThenInterruption requests))).splitOn 0x0a =
        [Text.utf8 "udi_debug_printf: a".toList, Text.utf8 "udi_debug_printf: b".toList, []] := by
  intro requests
  have hscript : Reliable threeBytesThenInterruption := by
    intro reply hmem
    simp only [threeBytesThenInterruption, List.mem_cons, List.not_mem_nil, or_false] at hmem
    rcases hmem with rfl | rfl
    · exact Nat.succ_ne_zero 2
    · rfl
  -- a call without arguments brings in its template and nothing else
  have hnil : ∀ {template : Text}, (0x0a : UInt8) ∉ Text.utf8 template →
      ¬ Enters template [] 0x0a := by
    intro template htemplate hin
    cases hin with
    | template h => exact htemplate h
    | string harg | char _ harg | lowByte _ harg => cases harg
  have hout : ∀ request ∈ requests, ¬ Enters request.template request.args 0x0a := by
    intro request hmem
    rcases List.mem_pair.mp hmem with rfl | rfl
    · exact hnil (by decide)
    · exact hnil (by decide)
  refine ⟨hscript, hout, (output_traced_and_terminated.2.2 _ requests hscript hout).trans ?_⟩
  decide +kernel

end DriverPrintf
