import DriverPrintf.Proofs.Text.Runs
import DriverPrintf.Template.Scan

/-!
# Template — what a scanner accepts

For each scanner, the texts it succeeds on: what it has read, what it leaves, and the value it
gives.  Each statement is an equivalence, so a scanner that is put together from others accepts
what its parts accept one after the other (`bind_eq_ok_iff`), and a grammar can be checked against
it in both directions at once.

* `number_eq_ok_iff`: a number is a maximal run of digits with a value below 2^32, and its value
  is positional.
* `many_eq_ok_iff`: a repetition succeeds in finitely many rounds (`Repeats`).
-/

namespace DriverPrintf.Scan

open Text (Ends)

variable {α β : Type}

theorem bind_eq_ok_iff {scan : Scan α} {follow : α → Scan β} {text rest : Text} {b : β} :
    (scan >>= follow) text = .ok b rest ↔
      ∃ a mid, scan text = .ok a mid ∧ follow a mid = .ok b rest := by
  constructor
  · exact bind_eq_ok
  · rintro ⟨a, mid, ha, hb⟩
    rw [bind_apply, ha]
    exact hb

theorem pure_eq_ok_iff {a b : α} {text rest : Text} :
    (pure a : Scan α) text = .ok b rest ↔ b = a ∧ text = rest := by
  rw [pure_apply, Result.ok.injEq, eq_comm (a := a)]

/-! ### Characters -/

theorem isEof_eq_ok_iff {text rest : Text} {b : Bool} :
    isEof text = .ok b rest ↔ b = text.isEmpty ∧ text = rest := by
  rw [isEof, Result.ok.injEq, eq_comm (a := text.isEmpty)]

theorem isAtDigit_eq_ok_iff {text rest : Text} {b : Bool} :
    isAtDigit text = .ok b rest ↔ b = text.head?.any (Text.isDigit 10) ∧ text = rest := by
  rw [isAtDigit, Result.ok.injEq, eq_comm (a := Option.any _ _)]

theorem any_eq_ok_iff {text rest : Text} {c : Char} :
    any text = .ok c rest ↔ text = c :: rest := by
  cases text with
  | nil => simp [any]
  | cons d more => simp [any]

theorem skipChar_eq_ok_iff {c : Char} {text rest : Text} {u : Unit} :
    skipChar c text = .ok u rest ↔ text = c :: rest := by
  cases text with
  | nil => simp [skipChar]
  | cons d more =>
    rw [skipChar_cons]
    by_cases h : d = c
    · subst h
      simp
    · simp [h]

theorem skipChar?_eq_true_iff {c : Char} {text rest : Text} :
    skipChar? c text = .ok true rest ↔ text = c :: rest := by
  cases text with
  | nil => simp [skipChar?]
  | cons d more =>
    rw [skipChar?_cons]
    by_cases h : d = c
    · subst h
      simp
    · simp [h]

theorem skipChar?_eq_false_iff {c : Char} {text rest : Text} :
    skipChar? c text = .ok false rest ↔ text = rest ∧ Ends (· == c) rest := by
  cases text with
  | nil =>
    constructor
    · rintro ⟨⟩
      exact ⟨rfl, Text.ends_nil _⟩
    · rintro ⟨rfl, -⟩
      rfl
  | cons d more =>
    rw [skipChar?_cons]
    by_cases h : d = c
    · subst h
      simp only [if_true, Result.ok.injEq, Bool.true_eq_false, false_and, false_iff]
      rintro ⟨rfl, hends⟩
      simp at hends
    · simp only [if_neg h, Result.ok.injEq, true_and]
      constructor
      · rintro rfl
        exact ⟨rfl, by simp [h]⟩
      · exact fun hrest => hrest.1

theorem textUntil_eq_ok_iff {stop : Char → Bool} {text run rest : Text} :
    textUntil stop text = .ok run rest ↔
      text = run ++ rest ∧ (∀ c ∈ run, stop c = false) ∧ Ends (fun c => !stop c) rest := by
  rw [textUntil, Result.ok.injEq, Text.run_iff]
  simp only [Bool.not_eq_true']

/-! ### Numbers -/

/-- The digits that follow a number of which the value is `value` so far.  A prefix of them
overflows only if all of them do, so checking at each digit is checking at the end. -/
theorem moreDigits_eq_ok_iff {start text rest : Text} {value : Nat} {n : UInt32}
    (hvalue : value < UInt32.size) :
    moreDigits start value text = .ok n rest ↔
      ∃ digits, text = digits ++ rest ∧ (∀ c ∈ digits, Text.isDigit 10 c = true) ∧
        Ends (Text.isDigit 10) rest ∧
        value * 10 ^ digits.length + Text.value 10 digits < UInt32.size ∧
        n = .ofNat (value * 10 ^ digits.length + Text.value 10 digits) := by
  induction text generalizing value with
  | nil =>
    rw [moreDigits, Result.ok.injEq]
    constructor
    · rintro ⟨rfl, rfl⟩
      exact ⟨[], rfl, by simp, by simp, by simpa using hvalue, by simp⟩
    · rintro ⟨digits, htext, -, -, -, rfl⟩
      obtain ⟨rfl, rfl⟩ := List.nil_eq_append_iff.mp htext
      simp
  | cons c more ih =>
    rw [moreDigits]
    cases hc : Text.digitValue? 10 c with
    | none =>
      have hdigit : Text.isDigit 10 c = false := by simp [Text.isDigit, hc]
      dsimp only
      rw [Result.ok.injEq]
      constructor
      · rintro ⟨rfl, rfl⟩
        exact ⟨[], rfl, by simp, by simpa using hdigit, by simpa using hvalue, by simp⟩
      · rintro ⟨digits, htext, hall, -, -, rfl⟩
        cases digits with
        | nil => simpa using htext
        | cons d digits =>
          obtain ⟨rfl, -⟩ := List.cons_eq_cons.mp htext
          simp [hall c] at hdigit
    | some digit =>
      have hdigit : Text.isDigit 10 c = true := by simp [Text.isDigit, hc]
      -- the value after `c` and `digits` is the value after `c` carried over `digits`
      have hstep : ∀ digits : Text,
          value * 10 ^ (c :: digits).length + Text.value 10 (c :: digits) =
            (value * 10 + digit) * 10 ^ digits.length + Text.value 10 digits := fun digits => by
        rw [Text.value_cons, hc, List.length_cons, Option.getD_some]
        ring
      dsimp only
      by_cases hlt : value * 10 + digit < UInt32.size
      · rw [if_pos hlt, ih hlt]
        constructor
        · rintro ⟨digits, rfl, hall, hends, hfits, rfl⟩
          refine ⟨c :: digits, rfl, ?_, hends, ?_, ?_⟩
          · simpa [hdigit] using hall
          · rwa [hstep]
          · rw [hstep]
        · rintro ⟨digits, htext, hall, hends, hfits, rfl⟩
          obtain ⟨digits, rfl, rfl⟩ := Text.run_cons htext hdigit hends
          rw [hstep] at hfits ⊢
          exact ⟨digits, rfl, fun d hd => hall d (List.mem_cons_of_mem c hd), hends, hfits, rfl⟩
      · rw [if_neg hlt]
        simp only [reduceCtorEq, false_iff]
        -- what has overflowed here is carried on, so the whole number overflows too
        rintro ⟨digits, htext, hall, hends, hfits, -⟩
        obtain ⟨digits, rfl, rfl⟩ := Text.run_cons htext hdigit hends
        rw [hstep] at hfits
        have hpow : 1 ≤ 10 ^ digits.length := Nat.one_le_pow _ _ (by omega)
        exact hlt (Nat.lt_of_le_of_lt
          ((Nat.le_mul_of_pos_right _ hpow).trans (Nat.le_add_right _ _)) hfits)

theorem number_eq_ok_iff {text rest : Text} {n : UInt32} :
    number text = .ok n rest ↔
      ∃ digits, text = digits ++ rest ∧ Text.IsNumber digits ∧ Ends (Text.isDigit 10) rest ∧
        n = .ofNat (Text.value 10 digits) := by
  cases text with
  | nil =>
    simp only [number, reduceCtorEq, false_iff]
    rintro ⟨digits, htext, hdigits, -⟩
    exact hdigits.ne_nil (List.nil_eq_append_iff.mp htext).1
  | cons c more =>
    rw [number_cons]
    by_cases hc : Text.isDigit 10 c = true
    · rw [if_pos hc, moreDigits_eq_ok_iff (by decide)]
      simp only [Nat.zero_mul, Nat.zero_add]
      constructor
      · rintro ⟨digits, htext, hall, hends, hfits, hn⟩
        obtain ⟨digits, rfl, hmore⟩ := Text.run_cons htext hc hends
        exact ⟨c :: digits, htext, ⟨List.cons_ne_nil _ _, hall, hfits⟩, hends, hn⟩
      · rintro ⟨digits, htext, ⟨-, hall, hfits⟩, hends, hn⟩
        exact ⟨digits, htext, hall, hends, hfits, hn⟩
    · rw [if_neg hc]
      simp only [reduceCtorEq, false_iff]
      rintro ⟨digits, htext, hnumber, -⟩
      obtain ⟨d, digits, rfl, hd⟩ := hnumber.exists_cons
      obtain ⟨rfl, -⟩ := List.cons_eq_cons.mp htext
      exact hc hd

/-! ### Combined scanners -/

theorem checked_eq_ok_iff {scan : Scan α} {verdict : Text → α → Except ParseError.Cause β}
    {text rest : Text} {b : β} :
    scan.checked verdict text = .ok b rest ↔
      ∃ a, scan text = .ok a rest ∧ verdict (Text.before text rest) a = .ok b := by
  constructor
  · exact checked_eq_ok
  · rintro ⟨a, ha, hb⟩
    simp [Scan.checked, ha, hb]

theorem enclosed_eq_ok_iff {scan : Scan α} {close : Char} {text rest : Text} {a : α} :
    scan.enclosed close text = .ok a rest ↔
      ∃ body left, text = body ++ close :: rest ∧ close ∉ body ∧ scan body = .ok a left := by
  obtain ⟨run, closing, hrun, hclosing⟩ :
      ∃ run closing, text.takeWhile (· != close) = run ∧ text.dropWhile (· != close) = closing :=
    ⟨_, _, rfl, rfl⟩
  obtain ⟨htext, hall, hends⟩ := Text.run_iff.mp ⟨hrun, hclosing⟩
  have hbody : ∀ {body more : Text}, text = body ++ close :: more → close ∉ body →
      run = body ∧ closing = close :: more := fun hsplit hnot => by
    have hcut : text.takeWhile (· != close) = _ ∧ text.dropWhile (· != close) = _ :=
      Text.run_iff.mpr ⟨hsplit, fun c hc => bne_iff_ne.mpr fun e => hnot (e ▸ hc), by simp⟩
    exact ⟨hrun.symm.trans hcut.1, hclosing.symm.trans hcut.2⟩
  rw [Scan.enclosed, hrun, hclosing]
  constructor
  · intro h
    cases closing with
    | nil => cases h
    | cons c more =>
      obtain rfl : c = close := by simpa using hends
      cases hs : scan run with
      | error fault left => simp [hs] at h
      | ok b left =>
        simp only [hs, Result.ok.injEq] at h
        obtain ⟨rfl, rfl⟩ := h
        refine ⟨run, left, htext, fun hmem => ?_, hs⟩
        simpa using hall c hmem
  · rintro ⟨body, left, hsplit, hnot, hs⟩
    obtain ⟨rfl, rfl⟩ := hbody hsplit hnot
    simp [hs]

/-- The rounds of a repetition of `item` as long as `more` says that there is one. -/
inductive Repeats (more : Scan Bool) (item : Scan α) : Text → List α → Text → Prop where
  | done {text rest : Text} (h : more text = .ok false rest) : Repeats more item text [] rest
  | again {text mid rest last : Text} {a : α} {as : List α} (h : more text = .ok true mid)
      (hitem : item mid = .ok a rest) (t : Repeats more item rest as last) :
      Repeats more item text (a :: as) last

theorem many_eq_ok_iff {more : Scan Bool} {item : Scan α} {hm : Stays more} {hi : Advances item}
    {text last : Text} {as : List α} :
    many more item hm hi text = .ok as last ↔ Repeats more item text as last := by
  constructor
  · intro h
    induction as generalizing text with
    | nil =>
      rw [many_eq, bind_eq_ok_iff] at h
      obtain ⟨b, mid, hmore, h⟩ := h
      cases b with
      | false =>
        obtain ⟨-, rfl⟩ := pure_eq_ok_iff.mp h
        exact .done hmore
      | true =>
        obtain ⟨a, rest, -, h⟩ := bind_eq_ok_iff.mp h
        obtain ⟨as, left, -, h⟩ := bind_eq_ok_iff.mp h
        cases (pure_eq_ok_iff.mp h).1
    | cons a as ih =>
      rw [many_eq, bind_eq_ok_iff] at h
      obtain ⟨b, mid, hmore, h⟩ := h
      cases b with
      | false => cases (pure_eq_ok_iff.mp h).1
      | true =>
        obtain ⟨a', rest, hitem, h⟩ := bind_eq_ok_iff.mp h
        obtain ⟨as', left, hrest, h⟩ := bind_eq_ok_iff.mp h
        obtain ⟨hcons, rfl⟩ := pure_eq_ok_iff.mp h
        cases hcons
        exact .again hmore hitem (ih hrest)
  · intro h
    induction h with
    | done hmore =>
      rw [many_eq, bind_eq_ok_iff]
      exact ⟨false, _, hmore, rfl⟩
    | again hmore hitem _ ih =>
      rw [many_eq, bind_eq_ok_iff]
      exact ⟨true, _, hmore, bind_eq_ok_iff.mpr
        ⟨_, _, hitem, bind_eq_ok_iff.mpr ⟨_, _, ih, rfl⟩⟩⟩

end DriverPrintf.Scan
