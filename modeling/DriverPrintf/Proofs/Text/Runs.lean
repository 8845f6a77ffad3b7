import DriverPrintf.Text.Digits
import Mathlib.Data.List.TakeWhile
import Mathlib.Data.Nat.Digits.Defs

/-!
# Text — runs and the value of digits

Scanners read maximal runs: as many characters as satisfy a predicate.  `run_iff` says what such
a run is without saying how it is found: the text is cut in two, every character of the first
part is in the predicate, and the second part does not begin with one that is (`Ends`).

The number that a run of digits stands for is positional (`value`): each digit counts for a power
of the base, the last one for the least.  `value_cons` takes the first digit off, which is how a
run is read.
-/

namespace DriverPrintf.Text

/-- A run of characters of `p` ends where `rest` begins. -/
def Ends (p : Char → Bool) (rest : Text) : Prop := ∀ c, rest.head? = some c → p c = false

@[simp] theorem ends_nil (p : Char → Bool) : Ends p [] := fun c h => by cases h

@[simp] theorem ends_cons (p : Char → Bool) (c : Char) (rest : Text) :
    Ends p (c :: rest) ↔ p c = false := by
  simp [Ends]

theorem Ends.mono {p q : Char → Bool} {rest : Text} (h : Ends p rest)
    (hle : ∀ c, p c = false → q c = false) : Ends q rest :=
  fun c hc => hle c (h c hc)

theorem Ends.append {p : Char → Bool} {text rest : Text} (h : Ends p text) (hrest : Ends p rest) :
    Ends p (text ++ rest) := by
  cases text with
  | nil => exact hrest
  | cons c text => exact (ends_cons p c _).mpr ((ends_cons p c text).mp h)

/-- Where a run ends shows in the first character, if there is one. -/
theorem ends_append_iff {p : Char → Bool} {text : Text} (h : text ≠ []) (rest : Text) :
    Ends p (text ++ rest) ↔ Ends p text := by
  obtain ⟨c, more, rfl⟩ := List.exists_cons_of_ne_nil h
  rw [List.cons_append, ends_cons, ends_cons]

/-- The maximal run of `p` at the front of a text and what follows it. -/
theorem run_iff {p : Char → Bool} {text run rest : Text} :
    text.takeWhile p = run ∧ text.dropWhile p = rest ↔
      text = run ++ rest ∧ (∀ c ∈ run, p c = true) ∧ Ends p rest := by
  constructor
  · rintro ⟨rfl, rfl⟩
    refine ⟨List.takeWhile_append_dropWhile.symm, fun c hc => List.mem_takeWhile_imp hc,
      fun c hc => ?_⟩
    have h := List.head?_dropWhile_not p text
    rwa [hc] at h
  · rintro ⟨rfl, hrun, hends⟩
    rw [List.takeWhile_append_of_pos hrun, List.dropWhile_append_of_pos hrun]
    cases rest with
    | nil => simp
    | cons c rest => simp [(ends_cons p c rest).mp hends]

/-- Every text has such a run at its front. -/
theorem run_split (p : Char → Bool) (text : Text) :
    text = text.takeWhile p ++ text.dropWhile p ∧ (∀ c ∈ text.takeWhile p, p c = true) ∧
      Ends p (text.dropWhile p) :=
  run_iff.mp ⟨rfl, rfl⟩

/-- A text is cut in one way only into a run of `p` and a rest that does not extend it. -/
theorem run_unique {p : Char → Bool} {run rest run' rest' : Text}
    (heq : run ++ rest = run' ++ rest') (hrun : ∀ c ∈ run, p c = true) (hends : Ends p rest)
    (hrun' : ∀ c ∈ run', p c = true) (hends' : Ends p rest') : run = run' ∧ rest = rest' := by
  obtain ⟨htake, hdrop⟩ := run_iff.mpr ⟨rfl, hrun, hends⟩
  obtain ⟨htake', hdrop'⟩ := run_iff.mpr ⟨heq, hrun', hends'⟩
  exact ⟨htake.symm.trans htake', hdrop.symm.trans hdrop'⟩

/-- A maximal run takes up a character of `p` that the text begins with. -/
theorem run_cons {p : Char → Bool} {c : Char} {more run rest : Text}
    (heq : c :: more = run ++ rest) (hc : p c = true) (hends : Ends p rest) :
    ∃ run', run = c :: run' ∧ more = run' ++ rest := by
  cases run with
  | nil =>
    obtain rfl : c :: more = rest := heq
    rw [ends_cons, hc] at hends
    cases hends
  | cons d run =>
    obtain ⟨rfl, hmore⟩ := List.cons_eq_cons.mp heq
    exact ⟨run, rfl, hmore⟩

/-! ### The value of digits -/

/-- The number a run of digits stands for, the last digit being the least significant. -/
def value (base : Nat) (digits : Text) : Nat :=
  Nat.ofDigits base (digits.reverse.map fun c => (digitValue? base c).getD 0)

@[simp] theorem value_nil (base : Nat) : value base [] = 0 := rfl

theorem value_cons (base : Nat) (c : Char) (digits : Text) :
    value base (c :: digits) =
      (digitValue? base c).getD 0 * base ^ digits.length + value base digits := by
  rw [value, List.reverse_cons, List.map_append, Nat.ofDigits_append]
  simp [value, Nat.mul_comm, Nat.add_comm]

/-- Zeros in front do not change the number. -/
theorem value_zeros (base n : Nat) (digits : Text) :
    value base (List.replicate n '0' ++ digits) = value base digits := by
  have hzero : (digitValue? base '0').getD 0 = 0 := by
    cases h : digitValue? base '0' with
    | none => rfl
    | some value =>
      rw [digitValue?] at h
      obtain ⟨hvalue, -⟩ := Option.filter_eq_some_iff.mp h
      exact (Option.some.inj hvalue).symm
  induction n with
  | zero => rfl
  | succ n ih =>
    rw [List.replicate_succ, List.cons_append, value_cons, hzero, Nat.zero_mul, Nat.zero_add, ih]

/-- A number as it is written in a template: at least one decimal digit, and a value that fits in
32 bits. -/
structure IsNumber (digits : Text) : Prop where
  ne_nil : digits ≠ []
  digit : ∀ c ∈ digits, isDigit 10 c = true
  fits : value 10 digits < UInt32.size

theorem IsNumber.exists_cons {digits : Text} (h : IsNumber digits) :
    ∃ c more, digits = c :: more ∧ isDigit 10 c = true := by
  obtain ⟨c, more, rfl⟩ := List.exists_cons_of_ne_nil h.ne_nil
  exact ⟨c, more, rfl, h.digit c List.mem_cons_self⟩

example : value 10 "007".toList = 7 ∧ value 16 "fF".toList = 255 := by decide

end DriverPrintf.Text
