import Mathlib.Data.List.Basic
import Mathlib.Data.Nat.Bitwise
import DriverPrintf.Proofs.Template.Descriptor
import DriverPrintf.Proofs.Text.Digits
import DriverPrintf.Render.Rendering

/-!
# Render — the fields of a word

What `%<...>` writes is said here of the word as a number: a flag looks at one of its bits, a range
at the number that some of its bits are.  `Shows word fields texts` lists what each field shows, in
the order of the descriptor, and leaves a flag out that is not to be seen.

The word arithmetic behind it needs the bits of a field to be bits of the word (`InWord`), which
the parser has seen to.  `checkedText?` is the same text made with each shift, difference, sum and
narrowing checked, and nothing if one of them leaves its type.

* `bitRange_toNat`: the number of a range is a quotient by a power of two, reduced by another.
* `shows_iff`: a word shows the texts that the entries of a descriptor are written as, and no
  others.
* **`bitset_shows_word`**: what a parsed descriptor renders of a word, without overflow, and from
  the bits it mentions alone.
-/

namespace DriverPrintf

/-! ### What fields show of a number -/

/-- The number in the bits `first` to `last` of `word`. -/
def bitNumber (first last word : Nat) : Nat := word / 2 ^ first % 2 ^ (last - first + 1)

/-- How a number is named: by the first label it has, or else in lowercase hexadecimal. -/
inductive LabelFor (number : Nat) (labels : List (UInt32 × Text)) : Text → Prop where
  | label {before after : List (UInt32 × Text)} {value : UInt32} {text : Text}
      (hlabels : labels = before ++ (value, text) :: after) (hvalue : value.toNat = number)
      (hfirst : ∀ earlier ∈ before, earlier.1.toNat ≠ number) : LabelFor number labels text
  | hex {text : Text} (hnone : ∀ label ∈ labels, label.1.toNat ≠ number)
      (htext : Text.IsLowerHex number text) : LabelFor number labels text

/-- `texts` is what `fields` show of `word`. -/
inductive Shows (word : Nat) : List BitField → List Text → Prop where
  | nil : Shows word [] []
  | flag {bit : UInt32} {inverted : Bool} {name : Text} {fields : List BitField}
      {texts : List Text} (hbit : word.testBit bit.toNat = !inverted)
      (t : Shows word fields texts) : Shows word (.flag bit inverted name :: fields) (name :: texts)
  | hidden {bit : UInt32} {inverted : Bool} {name : Text} {fields : List BitField}
      {texts : List Text} (hbit : word.testBit bit.toNat = inverted)
      (t : Shows word fields texts) : Shows word (.flag bit inverted name :: fields) texts
  | range {first last : UInt32} {name label : Text} {labels : List (UInt32 × Text)}
      {fields : List BitField} {texts : List Text}
      (hlabel : LabelFor (bitNumber first.toNat last.toNat word) labels label)
      (t : Shows word fields texts) :
      Shows word (.range first last name labels :: fields) ((name ++ '=' :: label) :: texts)

namespace BitField

/-- The bits that a field depends on. -/
def Mentions (n : Nat) : BitField → Prop
  | .flag bit _ _ => n = bit.toNat
  | .range first last _ _ => first.toNat ≤ n ∧ n ≤ last.toNat

/-- A field's bits are bits of a word, and a range does not run backwards. -/
def InWord : BitField → Prop
  | .flag bit _ _ => bit.toNat < 32
  | .range first last _ _ => first.toNat ≤ last.toNat ∧ last.toNat < 32

end BitField

theorem Bitset.Entry.inWord {form : Entry} (h : form.WellFormed) : form.field.InWord := by
  cases form with
  | flag inverted bit name =>
    obtain ⟨hbit, -⟩ := h
    have hle := hbit.le
    rw [field, BitField.InWord, hbit.toNat]
    omega
  | range first last name labels =>
    obtain ⟨hfirst, hlast, hle, -, -⟩ := h
    have hle' := hlast.le
    rw [field, BitField.InWord, hfirst.toNat, hlast.toNat]
    omega

/-- The parser takes no field that is not within a word. -/
theorem Bitset.inWord_of_parse {body : Text} {offset : Nat} {bitset : Bitset}
    (h : parse body offset = .ok bitset) : ∀ field ∈ bitset.fields, field.InWord := by
  obtain ⟨left, hdescriptor⟩ := parse_eq_ok_iff.mp h
  obtain ⟨form, hwf, -, -, hfields⟩ := descriptor_eq_ok_iff.mp hdescriptor
  intro field hfield
  rw [hfields] at hfield
  obtain ⟨entry, hentry, rfl⟩ := List.mem_map.mp hfield
  exact entry.inWord (hwf.entry entry hentry)

/-! ### The number of a range -/

section Range

variable {first last : UInt32} (hle : first.toNat ≤ last.toNat) (hlast : last.toNat < 32)

include hle hlast

theorem width_toNat : (last - first + 1).toNat = last.toNat - first.toNat + 1 := by
  have hsub := UInt32.toNat_sub_of_le _ _ (UInt32.le_iff_toNat_le.mpr hle)
  rw [UInt32.toNat_add, hsub, UInt32.toNat_one]
  exact Nat.mod_eq_of_lt (by omega)

/-- One above the largest number of a range; it need not be a word. -/
theorem power_toNat :
    ((1 : UInt64) <<< (last - first + 1).toUInt64).toNat =
      2 ^ (last.toNat - first.toNat + 1) := by
  have hwidth := width_toNat hle hlast
  have hshift : (last.toNat - first.toNat + 1) % 64 = last.toNat - first.toNat + 1 :=
    Nat.mod_eq_of_lt (by omega)
  have hpow : 2 ^ (last.toNat - first.toNat + 1) < 2 ^ 64 :=
    Nat.pow_lt_pow_right (by decide) (by omega)
  rw [UInt64.toNat_shiftLeft, UInt32.toNat_toUInt64, hwidth, hshift, UInt64.toNat_one,
    Nat.one_shiftLeft, Nat.mod_eq_of_lt hpow]

theorem mask_toNat :
    ((1 : UInt64) <<< (last - first + 1).toUInt64 - 1).toNat =
      2 ^ (last.toNat - first.toNat + 1) - 1 := by
  have hpower := power_toNat hle hlast
  have hone : (1 : UInt64) ≤ (1 : UInt64) <<< (last - first + 1).toUInt64 := by
    rw [UInt64.le_iff_toNat_le, hpower, UInt64.toNat_one]
    exact Nat.one_le_two_pow
  rw [UInt64.toNat_sub_of_le _ _ hone, hpower, UInt64.toNat_one]

theorem mask_lt :
    ((1 : UInt64) <<< (last - first + 1).toUInt64 - 1).toNat < UInt32.size := by
  rw [mask_toNat hle hlast]
  have hpow : 2 ^ (last.toNat - first.toNat + 1) ≤ 2 ^ 32 :=
    Nat.pow_le_pow_right (by decide) (by omega)
  have hpos : 0 < 2 ^ (last.toNat - first.toNat + 1) := Nat.two_pow_pos _
  exact Nat.lt_of_lt_of_le (Nat.sub_lt hpos Nat.one_pos) hpow

/-- **The number of a range**: a mask keeps the low bits of a shifted word. -/
theorem bitRange_toNat (word : UInt32) :
    (bitRange first last word).toNat = bitNumber first.toNat last.toNat word.toNat := by
  have hshift : first.toNat % 32 = first.toNat := Nat.mod_eq_of_lt (by omega)
  rw [bitRange, UInt32.toNat_and, UInt32.toNat_shiftRight, hshift, UInt64.toNat_toUInt32,
    Nat.mod_eq_of_lt (mask_lt hle hlast), mask_toNat hle hlast, Nat.and_two_pow_sub_one_eq_mod,
    Nat.shiftRight_eq_div_pow, bitNumber]

end Range

/-- A range is the number of its own bits. -/
theorem bitNumber_congr {first last word other : Nat} (hle : first ≤ last)
    (h : ∀ n, first ≤ n ∧ n ≤ last → word.testBit n = other.testBit n) :
    bitNumber first last word = bitNumber first last other := by
  refine Nat.eq_of_testBit_eq fun i => ?_
  rw [bitNumber, bitNumber, Nat.testBit_mod_two_pow, Nat.testBit_mod_two_pow,
    Nat.testBit_div_two_pow, Nat.testBit_div_two_pow]
  by_cases hi : i < last - first + 1
  · rw [h (i + first) (by omega)]
  · simp [hi]

/-! ### What the entries of a descriptor are written as -/

/-- The label of a value: the first that is given for it, or its digits. -/
def labelText (labels : List (UInt32 × Text)) (value : UInt32) : Text :=
  match labels.find? (fun label => label.1 == value) with
  | some label => label.2
  | none => Text.hex .lower value.toNat

theorem labelFor_iff {labels : List (UInt32 × Text)} {value : UInt32} {text : Text} :
    LabelFor value.toNat labels text ↔ text = labelText labels value := by
  have hne : ∀ {label : UInt32 × Text},
      label.1.toNat ≠ value.toNat ↔ (!(label.1 == value)) = true := fun {label} => by
    rw [Bool.not_eq_true', beq_eq_false_iff_ne, ne_eq, ne_eq, UInt32.toNat_inj]
  constructor
  · intro h
    cases h with
    | @label before after found text hlabels hfound hfirst =>
      have hfind : labels.find? (fun label => label.1 == value) = some (found, text) :=
        List.find?_eq_some_iff_append.mpr ⟨beq_iff_eq.mpr (UInt32.toNat_inj.mp hfound), before,
          after, hlabels, fun earlier h => hne.mp (hfirst earlier h)⟩
      rw [labelText, hfind]
    | hex hnone htext =>
      have hfind : labels.find? (fun label => label.1 == value) = none :=
        List.find?_eq_none.mpr fun label h => by simpa using hne.mp (hnone label h)
      rw [labelText, hfind]
      exact Text.isLowerHex_iff.mp htext
  · rintro rfl
    rw [labelText]
    cases hfind : labels.find? (fun label => label.1 == value) with
    | none =>
      refine .hex (fun label h => hne.mpr ?_) (Text.isLowerHex_iff.mpr rfl)
      simpa using List.find?_eq_none.mp hfind label h
    | some label =>
      obtain ⟨hvalue, before, after, hlabels, hfirst⟩ := List.find?_eq_some_iff_append.mp hfind
      have hfound : label.1.toNat = value.toNat := by rw [beq_iff_eq.mp hvalue]
      exact .label hlabels hfound fun earlier h => hne.mpr (hfirst earlier h)

namespace BitField

theorem shown?_flag {bit : UInt32} (h : bit.toNat < 32) (inverted : Bool) (name : Text)
    (word : UInt32) :
    shown? word (.flag bit inverted name) =
      if word.toNat.testBit bit.toNat = inverted then none else some name := by
  have hshift : bit.toNat % 32 = bit.toNat := Nat.mod_eq_of_lt h
  have hlow : ((word >>> bit) &&& 1).toNat = word.toNat / 2 ^ bit.toNat % 2 := by
    rw [UInt32.toNat_and, UInt32.toNat_shiftRight, hshift, UInt32.toNat_one, Nat.and_one_is_mod,
      Nat.shiftRight_eq_div_pow]
  have hbit : ((word >>> bit) &&& 1 == 1) = word.toNat.testBit bit.toNat := by
    rw [Nat.testBit_eq_decide_div_mod_eq, ← hlow, Bool.eq_iff_iff, beq_iff_eq, decide_eq_true_iff,
      ← UInt32.toNat_inj, UInt32.toNat_one]
  rw [shown?, hbit]
  cases word.toNat.testBit bit.toNat <;> cases inverted <;> rfl

theorem shown?_range (first last : UInt32) (name : Text) (labels : List (UInt32 × Text))
    (word : UInt32) :
    shown? word (.range first last name labels) =
      some (name ++ '=' :: labelText labels (bitRange first last word)) := rfl

end BitField

/-- **What a word shows** is what the entries of the descriptor are written as, and nothing else. -/
theorem shows_iff {word : UInt32} {fields : List BitField} {texts : List Text}
    (h : ∀ field ∈ fields, field.InWord) :
    Shows word.toNat fields texts ↔ texts = fields.filterMap (BitField.shown? word) := by
  induction fields generalizing texts with
  | nil =>
    constructor
    · rintro ⟨⟩
      rfl
    · rintro rfl
      exact .nil
  | cons field fields ih =>
    obtain ⟨hfield, hfields⟩ := List.forall_mem_cons.mp h
    replace ih := fun {texts} => @ih texts hfields
    cases field with
    | flag bit inverted name =>
      rw [List.filterMap_cons, BitField.shown?_flag hfield]
      by_cases hhidden : word.toNat.testBit bit.toNat = inverted
      · rw [if_pos hhidden]
        constructor
        · rintro (- | ⟨hshown, -⟩ | ⟨-, t⟩)
          · rw [hhidden] at hshown
            exact ((Bool.eq_not_self inverted).mp hshown).elim
          · exact ih.mp t
        · exact fun htexts => .hidden hhidden (ih.mpr htexts)
      · rw [if_neg hhidden]
        constructor
        · rintro (- | ⟨-, t⟩ | ⟨hagain, -⟩)
          · rw [ih.mp t]
          · exact absurd hagain hhidden
        · rintro rfl
          exact .flag (Bool.eq_not_of_ne hhidden) (ih.mpr rfl)
    | range first last name labels =>
      have hnumber := bitRange_toNat hfield.1 hfield.2 word
      rw [List.filterMap_cons, BitField.shown?_range]
      constructor
      · rintro (- | - | - | ⟨hlabel, t⟩)
        rw [← hnumber, labelFor_iff] at hlabel
        rw [ih.mp t, hlabel]
      · rintro rfl
        exact .range (hnumber ▸ labelFor_iff.mpr rfl) (ih.mpr rfl)

/-! ### The bits that matter -/

theorem BitField.shown?_congr {field : BitField} (h : field.InWord) {word other : UInt32}
    (hagree : ∀ n, field.Mentions n → word.toNat.testBit n = other.toNat.testBit n) :
    field.shown? word = field.shown? other := by
  cases field with
  | flag bit inverted name => rw [shown?_flag h, shown?_flag h, hagree bit.toNat rfl]
  | range first last name labels =>
    have hnumber : bitRange first last word = bitRange first last other := by
      rw [← UInt32.toNat_inj, bitRange_toNat h.1 h.2, bitRange_toNat h.1 h.2]
      exact bitNumber_congr h.1 hagree
    rw [shown?_range, shown?_range, hnumber]

/-- A word is shown by the bits that some field mentions. -/
theorem Bitset.text_congr {bitset : Bitset} (h : ∀ field ∈ bitset.fields, field.InWord)
    {word other : UInt32}
    (hagree : ∀ field ∈ bitset.fields, ∀ n, field.Mentions n →
      word.toNat.testBit n = other.toNat.testBit n) :
    bitset.text word = bitset.text other := by
  have hshown : bitset.fields.filterMap (BitField.shown? word) =
      bitset.fields.filterMap (BitField.shown? other) :=
    List.filterMap_congr fun field hfield =>
      BitField.shown?_congr (h field hfield) (hagree field hfield)
  rw [text, hshown, text]

/-! ### Overflow -/

/-- The outcome of an operation that is `value` as long as it `fits` its type. -/
def unlessOverflow {α : Type} (fits : Prop) [Decidable fits] (value : α) : Option α :=
  if fits then some value else none

theorem unlessOverflow_of {α : Type} {fits : Prop} [Decidable fits] (h : fits) (value : α) :
    unlessOverflow fits value = some value := if_pos h

/-- `bitRange` with every operation checked. -/
def bitRange? (first last word : UInt32) : Option UInt32 := do
  let distance ← unlessOverflow (first.toNat ≤ last.toNat) (last - first)
  let width ← unlessOverflow (distance.toNat + 1 < UInt32.size) (distance + 1)
  let power ← unlessOverflow (width.toNat < 64) ((1 : UInt64) <<< width.toUInt64)
  let mask ← unlessOverflow (1 ≤ power.toNat) (power - 1)
  let narrow ← unlessOverflow (mask.toNat < UInt32.size) mask.toUInt32
  let shifted ← unlessOverflow (first.toNat < 32) (word >>> first)
  return shifted &&& narrow

/-- What an entry shows, with every operation checked. -/
def BitField.checkedShown? (word : UInt32) : BitField → Option (Option Text)
  | .flag bit inverted name => do
    let shifted ← unlessOverflow (bit.toNat < 32) (word >>> bit)
    return if (shifted &&& 1 == 1) != inverted then some name else none
  | .range first last name labels => do
    return some (name ++ '=' :: labelText labels (← bitRange? first last word))

/-- The text of a descriptor, with every operation checked. -/
def Bitset.checkedText? (descriptor : Bitset) (word : UInt32) : Option Text := do
  let shown ← descriptor.fields.mapM (BitField.checkedShown? word)
  return '<' :: [',', ' '].intercalate (shown.filterMap id) ++ ['>']

theorem bitRange?_eq {first last : UInt32} (hle : first.toNat ≤ last.toNat)
    (hlast : last.toNat < 32) (word : UInt32) :
    bitRange? first last word = some (bitRange first last word) := by
  have hdistance : (last - first).toNat + 1 < UInt32.size := by
    rw [UInt32.toNat_sub_of_le _ _ (UInt32.le_iff_toNat_le.mpr hle)]
    exact Nat.lt_trans (by omega : _ < 33) (by decide)
  have hwidth : (last - first + 1).toNat < 64 := by
    rw [width_toNat hle hlast]
    omega
  have hpower : 1 ≤ ((1 : UInt64) <<< (last - first + 1).toUInt64).toNat := by
    rw [power_toNat hle hlast]
    exact Nat.one_le_two_pow
  have hfirst : first.toNat < 32 := by omega
  simp only [bitRange?, unlessOverflow_of hle, unlessOverflow_of hdistance,
    unlessOverflow_of hwidth, unlessOverflow_of hpower, unlessOverflow_of (mask_lt hle hlast),
    unlessOverflow_of hfirst, Option.bind_eq_bind, Option.bind_some]
  rfl

theorem BitField.checkedShown?_eq {field : BitField} (h : field.InWord) (word : UInt32) :
    field.checkedShown? word = some (field.shown? word) := by
  cases field with
  | flag bit inverted name =>
    have hbit : bit.toNat < 32 := h
    rw [checkedShown?, unlessOverflow_of hbit]
    rfl
  | range first last name labels =>
    rw [checkedShown?, bitRange?_eq h.1 h.2]
    rfl

/-- No operation overflows for a descriptor within a word. -/
theorem Bitset.checkedText?_eq {bitset : Bitset} (h : ∀ field ∈ bitset.fields, field.InWord)
    (word : UInt32) : bitset.checkedText? word = some (bitset.text word) := by
  have hall : ∀ fields : List BitField, (∀ field ∈ fields, field.InWord) →
      fields.mapM (BitField.checkedShown? word) = some (fields.map (BitField.shown? word)) := by
    intro fields hfields
    induction fields with
    | nil => rfl
    | cons field fields ih =>
      obtain ⟨hfield, hfields⟩ := List.forall_mem_cons.mp hfields
      rw [List.mapM_cons, BitField.checkedShown?_eq hfield, ih hfields]
      rfl
  rw [checkedText?, hall bitset.fields h, Option.bind_eq_bind, Option.bind_some,
    List.filterMap_map, Function.id_comp]
  rfl

/-- What the parser keeps out: a range that runs backwards, and one that leaves the word. -/
example : bitRange? 1 0 7 = none ∧ bitRange? 0 32 7 = none := by decide

/-! ### A parsed descriptor -/

/-- A template that is one bitset is rendered as its descriptor's text. -/
theorem render_enclosing {body : Text} {offset : Nat} {bitset : Bitset}
    (h : Bitset.parse body offset = .ok bitset) (hclose : '>' ∉ body) (word : UInt32) :
    render (Bitset.enclosing body) [.integer word] = ⟨Text.utf8 (bitset.text word), none⟩ := by
  have hparse : Bitset.parse body (0 + 2) = .ok bitset :=
    Bitset.parse_eq_ok_iff.mpr (Bitset.parse_eq_ok_iff.mp h)
  have hresults : (itemsOf (Bitset.enclosing body)).map Item.result =
      [.ok (.conversion (.bitset bitset))] := by
    have hall := Reader.results_enclosing body [] hclose 0
    rw [hparse, Bitset.yielded, Reader.results_nil, List.append_nil] at hall
    exact hall
  rw [render, hresults]
  simp [Rendering.ofResults, Rendering.after, Conversion.render?, Conversion.body?, Conversion.mark,
    Text.utf8]

/-- **What a bitset renders.**  A descriptor that parses shows one list of texts of a word, and is
rendered as these texts between `<` and `>` with commas between each two, wherever its conversion
stands and as a template of its own.  With each operation checked the text is the same, so none
overflows.  Words that agree on the bits that the fields mention are rendered alike. -/
theorem bitset_shows_word {body : Text} {offset : Nat} {bitset : Bitset}
    (h : Bitset.parse body offset = .ok bitset) (word : UInt32) :
    (∃ texts, Shows word.toNat bitset.fields texts ∧
      (∀ others, Shows word.toNat bitset.fields others → others = texts) ∧
      Conversion.render? (.bitset bitset) (.integer word) =
        some (Text.utf8 ('<' :: [',', ' '].intercalate texts ++ ['>'])) ∧
      ('>' ∉ body → render ('%' :: '<' :: body ++ ['>']) [.integer word] =
        ⟨Text.utf8 ('<' :: [',', ' '].intercalate texts ++ ['>']), none⟩)) ∧
    bitset.checkedText? word = some (bitset.text word) ∧
    ∀ other : UInt32,
      (∀ field ∈ bitset.fields, ∀ n, field.Mentions n →
        word.toNat.testBit n = other.toNat.testBit n) →
      Conversion.render? (.bitset bitset) (.integer word) =
        Conversion.render? (.bitset bitset) (.integer other) := by
  have hword := Bitset.inWord_of_parse h
  refine ⟨⟨_, (shows_iff hword).mpr rfl, fun others => (shows_iff hword).mp, rfl,
    fun hclose => render_enclosing h hclose word⟩, Bitset.checkedText?_eq hword word,
    fun other hagree => ?_⟩
  rw [Conversion.render?, Conversion.body?, Bitset.text_congr hword hagree]
  rfl

/-- A range over the whole word, the last bit with two labels, and of two flags of one bit the one
without a name, which is an entry all the same. -/
theorem bitset_shows_nameless_flag :
    Bitset.parse "0-31=All,31-31=Top:1=On:1=Yes,1=One,~1=".toList 0 =
        .ok ⟨[.range 0 31 "All".toList [], .range 31 31 "Top".toList [(1, "On".toList),
          (1, "Yes".toList)], .flag 1 false "One".toList, .flag 1 true []]⟩ ∧
      render "%<0-31=All,31-31=Top:1=On:1=Yes,1=One,~1=>".toList [.integer 0x800000fd] =
        ⟨Text.utf8 "<All=800000fd, Top=On, >".toList, none⟩ := by
  have hparse : Bitset.parse "0-31=All,31-31=Top:1=On:1=Yes,1=One,~1=".toList 0 =
      .ok ⟨[.range 0 31 "All".toList [], .range 31 31 "Top".toList [(1, "On".toList),
        (1, "Yes".toList)], .flag 1 false "One".toList, .flag 1 true []]⟩ := by
    decide +kernel
  have hall : LabelFor 0x800000fd [] "800000fd".toList :=
    .hex (by simp) (Text.isLowerHex_iff.mpr (by decide +kernel))
  have htop : LabelFor 1 [(1, "On".toList), (1, "Yes".toList)] "On".toList :=
    .label (List.nil_append _).symm rfl (by simp)
  have hshows : Shows 0x800000fd [.range 0 31 "All".toList [], .range 31 31 "Top".toList
      [(1, "On".toList), (1, "Yes".toList)], .flag 1 false "One".toList, .flag 1 true []]
      ["All=800000fd".toList, "Top=On".toList, []] :=
    .range hall (.range htop (.hidden (by decide) (.flag (by decide) .nil)))
  obtain ⟨⟨texts, -, hunique, -, hrender⟩, -⟩ := bitset_shows_word hparse 0x800000fd
  rw [← hunique _ hshows] at hrender
  exact ⟨hparse, hrender (by decide)⟩

end DriverPrintf
