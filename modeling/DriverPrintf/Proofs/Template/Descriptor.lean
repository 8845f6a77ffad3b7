import DriverPrintf.Proofs.Template.Grammar

/-!
# Template — the grammar of bitset descriptors

A descriptor is a list of entries with a comma between each two, and a comma may stand in front
of the list and behind it.  An entry is written as an `Entry`, with its digits and names as they
stand in the text: `Entry.spelling` is that text and `Entry.field` the field it stands for.  A
`Body` is a whole descriptor as it is written.

An entry ends where a comma or the end of the text does, since its last name runs that far; every
statement about entries carries this as `Ends (· != ',') rest`.

* **Rounds are entries** (`repeats_iff`): the loop over entries, entered after one, reads entries
  that each follow a comma, up to a last comma if there is one.
* **Parsing is deriving, wherever the descriptor stands** (`parse_derives_at_any_offset`): a
  descriptor parses exactly when it can be derived; its place only moves its errors, and within a
  template `%<...>` is read just as the descriptor is on its own.
-/

namespace DriverPrintf

namespace Bitset

open Text (Ends)

/-! ### Entries and their spelling -/

/-- A character that may be left out. -/
def optional (c : Char) (present : Bool) : Text := if present then [c] else []

/-- The number of a bit, as digits. -/
structure IsBit (digits : Text) : Prop extends Text.IsNumber digits where
  le : Text.value 10 digits ≤ 31

/-- The name of a range, or of one of its values. -/
structure IsLabel (name : Text) : Prop where
  comma : ',' ∉ name
  colon : ':' ∉ name

/-- A value of a range and its label, as they are written. -/
structure Labelled where
  digits : Text
  name : Text

namespace Labelled

def spelling (label : Labelled) : Text := ':' :: label.digits ++ '=' :: label.name

def pair (label : Labelled) : UInt32 × Text := (.ofNat (Text.value 10 label.digits), label.name)

structure WellFormed (label : Labelled) : Prop where
  number : Text.IsNumber label.digits
  name : IsLabel label.name

end Labelled

/-- An entry as it is written. -/
inductive Entry where
  | flag (inverted : Bool) (bit name : Text)
  | range (first last name : Text) (labels : List Labelled)

namespace Entry

def spelling : Entry → Text
  | .flag inverted bit name => optional '~' inverted ++ bit ++ '=' :: name
  | .range first last name labels =>
    first ++ '-' :: last ++ '=' :: name ++ labels.flatMap Labelled.spelling

/-- The field an entry stands for. -/
def field : Entry → BitField
  | .flag inverted bit name => .flag (.ofNat (Text.value 10 bit)) inverted name
  | .range first last name labels =>
    .range (.ofNat (Text.value 10 first)) (.ofNat (Text.value 10 last)) name
      (labels.map Labelled.pair)

/-- A flag's name may have colons in it, the names of a range may not.  A range does not run
backwards. -/
def WellFormed : Entry → Prop
  | .flag _ bit name => IsBit bit ∧ ',' ∉ name
  | .range first last name labels =>
    IsBit first ∧ IsBit last ∧ Text.value 10 first ≤ Text.value 10 last ∧ IsLabel name ∧
      ∀ label ∈ labels, label.WellFormed

end Entry

/-- A descriptor as it is written. -/
structure Body where
  leading : Bool
  entries : List Entry
  trailing : Bool

namespace Body

def spelling (body : Body) : Text :=
  optional ',' body.leading ++ [','].intercalate (body.entries.map Entry.spelling) ++
    optional ',' body.trailing

/-- A comma behind the entries needs an entry in front of it. -/
structure WellFormed (body : Body) : Prop where
  entry : ∀ entry ∈ body.entries, entry.WellFormed
  trailing : body.trailing = true → body.entries ≠ []

end Body

/-! ### What the scanners of an entry accept -/

open Scan

theorem skipChar?_eq_ok_iff {c : Char} {text rest : Text} {present : Bool} :
    skipChar? c text = .ok present rest ↔
      text = optional c present ++ rest ∧ (present = false → Ends (· == c) rest) := by
  cases present with
  | true => simp [skipChar?_eq_true_iff, optional]
  | false => simp [skipChar?_eq_false_iff, optional]

theorem IsBit.toNat {digits : Text} (h : IsBit digits) :
    (UInt32.ofNat (Text.value 10 digits)).toNat = Text.value 10 digits :=
  UInt32.toNat_ofNat_of_lt' h.fits

theorem bitIndex_eq_ok_iff {text rest : Text} {bit : UInt32} :
    bitIndex text = .ok bit rest ↔
      ∃ digits, text = digits ++ rest ∧ IsBit digits ∧ Ends (Text.isDigit 10) rest ∧
        bit = .ofNat (Text.value 10 digits) := by
  have hlt : ∀ {digits : Text}, Text.IsNumber digits →
      (UInt32.ofNat (Text.value 10 digits) < 32 ↔ Text.value 10 digits ≤ 31) := fun hdigits => by
    rw [UInt32.lt_iff_toNat_lt, UInt32.toNat_ofNat_of_lt' hdigits.fits]
    exact Nat.lt_succ_iff
  rw [bitIndex, checked_eq_ok_iff]
  constructor
  · rintro ⟨n, hn, hverdict⟩
    obtain ⟨digits, rfl, hdigits, hends, rfl⟩ := number_eq_ok_iff.mp hn
    split at hverdict
    · rename_i hbit
      obtain rfl := Except.ok.inj hverdict
      exact ⟨digits, rfl, ⟨hdigits, (hlt hdigits).mp hbit⟩, hends, rfl⟩
    · cases hverdict
  · rintro ⟨digits, rfl, hbit, hends, rfl⟩
    refine ⟨_, number_eq_ok_iff.mpr ⟨digits, rfl, hbit.toIsNumber, hends, rfl⟩, ?_⟩
    rw [if_pos ((hlt hbit.toIsNumber).mpr hbit.le)]

/-- A name of a range is read up to a comma, a colon or the end. -/
theorem textUntil_endsLabel_eq_ok_iff {text name rest : Text} :
    textUntil endsLabel text = .ok name rest ↔
      text = name ++ rest ∧ IsLabel name ∧ Ends (fun c => !endsLabel c) rest := by
  have hname : (∀ c ∈ name, endsLabel c = false) ↔ IsLabel name := by
    constructor
    · intro h
      refine ⟨fun hmem => ?_, fun hmem => ?_⟩
      · cases h _ hmem
      · cases h _ hmem
    · intro h c hc
      rw [endsLabel, Bool.or_eq_false_iff, beq_eq_false_iff_ne, beq_eq_false_iff_ne]
      exact ⟨fun e => h.comma (e ▸ hc), fun e => h.colon (e ▸ hc)⟩
  rw [textUntil_eq_ok_iff, hname]

theorem ends_digit_sign (rest : Text) : Ends (Text.isDigit 10) ('=' :: rest) :=
  (Text.ends_cons _ _ _).mpr (by decide)

theorem label_eq_ok_iff {text rest : Text} {pair : UInt32 × Text} :
    label text = .ok pair rest ↔
      ∃ label : Labelled, label.WellFormed ∧ ':' :: text = label.spelling ++ rest ∧
        Ends (fun c => !endsLabel c) rest ∧ pair = label.pair := by
  rw [label, bind_eq_ok_iff]
  constructor
  · rintro ⟨value, afterValue, hvalue, hfollow⟩
    obtain ⟨⟨⟩, afterSign, hsign, hfollow⟩ := bind_eq_ok_iff.mp hfollow
    obtain ⟨name, afterName, hname, hpair⟩ := bind_eq_ok_iff.mp hfollow
    obtain ⟨digits, rfl, hdigits, -, rfl⟩ := number_eq_ok_iff.mp hvalue
    obtain rfl := skipChar_eq_ok_iff.mp hsign
    obtain ⟨rfl, hlabel, hends⟩ := textUntil_endsLabel_eq_ok_iff.mp hname
    obtain ⟨rfl, rfl⟩ := pure_eq_ok_iff.mp hpair
    exact ⟨⟨digits, name⟩, ⟨hdigits, hlabel⟩, by simp [Labelled.spelling], hends, rfl⟩
  · rintro ⟨⟨digits, name⟩, ⟨hdigits, hlabel⟩, htext, hends, rfl⟩
    obtain rfl : text = digits ++ '=' :: (name ++ rest) := by
      simpa [Labelled.spelling] using htext
    refine ⟨_, _, number_eq_ok_iff.mpr ⟨digits, rfl, hdigits, ends_digit_sign _, rfl⟩, ?_⟩
    refine bind_eq_ok_iff.mpr ⟨(), _, skipChar_eq_ok_iff.mpr rfl, ?_⟩
    exact bind_eq_ok_iff.mpr
      ⟨name, rest, textUntil_endsLabel_eq_ok_iff.mpr ⟨rfl, hlabel, hends⟩, rfl⟩

/-- What ends at every comma has ended where nothing else than a comma can follow. -/
theorem ends_of_comma {p : Char → Bool} {rest : Text} (h : Ends (· != ',') rest)
    (hp : p ',' = false) : Ends p rest :=
  h.mono fun c hc => by
    obtain rfl : c = ',' := by simpa using hc
    exact hp

/-- Where labels begin, or the place after them, a name has ended. -/
theorem ends_label (labels : List Labelled) {rest : Text} (h : Ends (· != ',') rest) :
    Ends (fun c => !endsLabel c) (labels.flatMap Labelled.spelling ++ rest) := by
  cases labels with
  | nil => exact ends_of_comma h rfl
  | cons label labels => exact (Text.ends_cons _ _ _).mpr rfl

/-- A name that does not end at a colon ends at a comma. -/
theorem ends_comma {rest : Text} (h : Ends (fun c => !endsLabel c) rest)
    (hcolon : Ends (· == ':') rest) : Ends (· != ',') rest := by
  intro c hc
  have hlabel : (!(c == ',' || c == ':')) = false := h c hc
  have hne : (c == ':') = false := hcolon c hc
  rw [hne, Bool.or_false] at hlabel
  exact hlabel

/-- Behind a name of a range the labels go on up to a comma or the end. -/
theorem labels_eq_ok_iff {text rest : Text} {pairs : List (UInt32 × Text)}
    (htext : Ends (fun c => !endsLabel c) text) :
    labels text = .ok pairs rest ↔
      ∃ forms : List Labelled, (∀ label ∈ forms, label.WellFormed) ∧
        text = forms.flatMap Labelled.spelling ++ rest ∧ Ends (· != ',') rest ∧
        pairs = forms.map Labelled.pair := by
  rw [labels, many_eq_ok_iff]
  constructor
  · intro h
    -- each label leaves a place where a name has ended, which is what the next round asks for
    induction h with
    | done hmore =>
      obtain ⟨rfl, hcolon⟩ := skipChar?_eq_false_iff.mp hmore
      exact ⟨[], by simp, rfl, ends_comma htext hcolon, rfl⟩
    | again hmore hlabel _ ih =>
      obtain rfl := skipChar?_eq_true_iff.mp hmore
      obtain ⟨label, hwf, hspelling, hends, rfl⟩ := label_eq_ok_iff.mp hlabel
      obtain ⟨forms, hall, rfl, hrest, rfl⟩ := ih hends
      exact ⟨label :: forms, List.forall_mem_cons.mpr ⟨hwf, hall⟩, by simp [hspelling], hrest, rfl⟩
  · rintro ⟨forms, hall, rfl, hrest, rfl⟩
    clear htext
    induction forms with
    | nil =>
      exact .done (skipChar?_eq_false_iff.mpr ⟨rfl, ends_of_comma hrest rfl⟩)
    | cons label forms ih =>
      obtain ⟨hwf, hall⟩ := List.forall_mem_cons.mp hall
      rw [List.flatMap_cons, List.append_assoc]
      exact .again (skipChar?_eq_true_iff.mpr rfl)
        (label_eq_ok_iff.mpr ⟨label, hwf, rfl, ends_label forms hrest, rfl⟩) (ih hall)

theorem range_eq_ok_iff {first : UInt32} {text rest : Text} {field : BitField} :
    range first text = .ok field rest ↔
      ∃ last name, ∃ forms : List Labelled, IsBit last ∧ first.toNat ≤ Text.value 10 last ∧
        IsLabel name ∧ (∀ label ∈ forms, label.WellFormed) ∧
        text = last ++ '=' :: (name ++ (forms.flatMap Labelled.spelling ++ rest)) ∧
        Ends (· != ',') rest ∧
        field = .range first (.ofNat (Text.value 10 last)) name (forms.map Labelled.pair) := by
  have hle : ∀ {last : Text}, IsBit last →
      (¬ UInt32.ofNat (Text.value 10 last) < first ↔ first.toNat ≤ Text.value 10 last) :=
    fun hlast => by rw [UInt32.lt_iff_toNat_lt, hlast.toNat, Nat.not_lt]
  rw [range, bind_eq_ok_iff]
  constructor
  · rintro ⟨end?, afterLast, hlast, hfollow⟩
    obtain ⟨⟨⟩, afterSign, hsign, hfollow⟩ := bind_eq_ok_iff.mp hfollow
    obtain ⟨name, afterName, hname, hfollow⟩ := bind_eq_ok_iff.mp hfollow
    obtain ⟨pairs, last', hpairs, hfield⟩ := bind_eq_ok_iff.mp hfollow
    obtain ⟨bit, hbit, hverdict⟩ := checked_eq_ok_iff.mp hlast
    obtain ⟨last, rfl, hdigits, -, rfl⟩ := bitIndex_eq_ok_iff.mp hbit
    split at hverdict
    · cases hverdict
    rename_i hforward
    obtain rfl := Except.ok.inj hverdict
    obtain rfl := skipChar_eq_ok_iff.mp hsign
    obtain ⟨rfl, hlabel, hends⟩ := textUntil_endsLabel_eq_ok_iff.mp hname
    obtain ⟨forms, hall, rfl, hrest, rfl⟩ := (labels_eq_ok_iff hends).mp hpairs
    obtain ⟨rfl, rfl⟩ := pure_eq_ok_iff.mp hfield
    exact ⟨last, name, forms, hdigits, (hle hdigits).mp hforward, hlabel, hall, rfl, hrest, rfl⟩
  · rintro ⟨last, name, forms, hlast, hforward, hlabel, hall, rfl, hrest, rfl⟩
    have hends := ends_label forms hrest
    refine ⟨_, _, checked_eq_ok_iff.mpr ⟨_, bitIndex_eq_ok_iff.mpr
      ⟨last, rfl, hlast, ends_digit_sign _, rfl⟩, if_neg ((hle hlast).mpr hforward)⟩, ?_⟩
    refine bind_eq_ok_iff.mpr ⟨(), _, skipChar_eq_ok_iff.mpr rfl, ?_⟩
    refine bind_eq_ok_iff.mpr
      ⟨name, _, textUntil_endsLabel_eq_ok_iff.mpr ⟨rfl, hlabel, hends⟩, ?_⟩
    exact bind_eq_ok_iff.mpr
      ⟨_, rest, (labels_eq_ok_iff hends).mpr ⟨forms, hall, rfl, hrest, rfl⟩, rfl⟩

theorem flag_eq_ok_iff {bit : UInt32} {inverted : Bool} {text rest : Text} {field : BitField} :
    flag bit inverted text = .ok field rest ↔
      ∃ name, text = '=' :: (name ++ rest) ∧ ',' ∉ name ∧ Ends (· != ',') rest ∧
        field = .flag bit inverted name := by
  rw [flag, bind_eq_ok_iff]
  constructor
  · rintro ⟨⟨⟩, afterSign, hsign, hfollow⟩
    obtain ⟨name, afterName, hname, hfield⟩ := bind_eq_ok_iff.mp hfollow
    obtain rfl := skipChar_eq_ok_iff.mp hsign
    obtain ⟨rfl, hall, hends⟩ := textUntil_eq_ok_iff.mp hname
    obtain ⟨rfl, rfl⟩ := pure_eq_ok_iff.mp hfield
    exact ⟨name, rfl, fun hmem => by simpa using hall ',' hmem, hends, rfl⟩
  · rintro ⟨name, rfl, hname, hends, rfl⟩
    refine ⟨(), _, skipChar_eq_ok_iff.mpr rfl, bind_eq_ok_iff.mpr
      ⟨name, rest, textUntil_eq_ok_iff.mpr ⟨rfl, fun c hc => ?_, hends⟩, rfl⟩⟩
    exact beq_eq_false_iff_ne.mpr fun e => hname (e ▸ hc)

/-- A bit begins with a digit, and so does an entry that does not begin with a tilde. -/
theorem IsBit.ends {digits : Text} (h : IsBit digits) {c : Char}
    (hc : Text.isDigit 10 c = false) (rest : Text) : Ends (· == c) (digits ++ rest) := by
  obtain ⟨d, digits, rfl, hd⟩ := h.exists_cons
  rw [List.cons_append, Text.ends_cons, beq_eq_false_iff_ne]
  rintro rfl
  rw [hd] at hc
  cases hc

/-- **The scanner of an entry accepts the grammar.**  What it reads is a well-formed entry, of
which the last name runs to a comma or to the end. -/
theorem entry_eq_ok_iff {text rest : Text} {field : BitField} :
    entry text = .ok field rest ↔
      ∃ form : Entry, form.WellFormed ∧ text = form.spelling ++ rest ∧ Ends (· != ',') rest ∧
        field = form.field := by
  rw [entry, bind_eq_ok_iff]
  constructor
  · rintro ⟨inverted, afterTilde, htilde, hfollow⟩
    obtain ⟨bit, afterBit, hbit, hfollow⟩ := bind_eq_ok_iff.mp hfollow
    obtain ⟨rfl, -⟩ := skipChar?_eq_ok_iff.mp htilde
    obtain ⟨digits, rfl, hdigits, -, rfl⟩ := bitIndex_eq_ok_iff.mp hbit
    cases inverted with
    | true =>
      obtain ⟨name, rfl, hname, hrest, rfl⟩ := flag_eq_ok_iff.mp hfollow
      exact ⟨.flag true digits name, ⟨hdigits, hname⟩, by simp [Entry.spelling], hrest, rfl⟩
    | false =>
      obtain ⟨ranged, afterHyphen, hhyphen, hrange⟩ := bind_eq_ok_iff.mp hfollow
      obtain ⟨rfl, -⟩ := skipChar?_eq_ok_iff.mp hhyphen
      cases ranged with
      | true =>
        obtain ⟨last, name, forms, hlast, hforward, hlabel, hall, rfl, hrest, rfl⟩ :=
          range_eq_ok_iff.mp hrange
        rw [hdigits.toNat] at hforward
        exact ⟨.range digits last name forms, ⟨hdigits, hlast, hforward, hlabel, hall⟩,
          by simp [Entry.spelling, optional], hrest, rfl⟩
      | false =>
        obtain ⟨name, rfl, hname, hrest, rfl⟩ := flag_eq_ok_iff.mp hrange
        exact ⟨.flag false digits name, ⟨hdigits, hname⟩, by simp [Entry.spelling, optional],
          hrest, rfl⟩
  · rintro ⟨form, hwf, rfl, hrest, rfl⟩
    cases form with
    | flag inverted bit name =>
      -- the bit is followed by `=`, so no hyphen makes this a range
      obtain ⟨hbit, hname⟩ := hwf
      have htext : (Entry.flag inverted bit name).spelling ++ rest =
          optional '~' inverted ++ (bit ++ '=' :: (name ++ rest)) := by simp [Entry.spelling]
      rw [htext]
      refine ⟨inverted, _, skipChar?_eq_ok_iff.mpr ⟨rfl, fun _ => hbit.ends (by decide) _⟩, ?_⟩
      refine bind_eq_ok_iff.mpr
        ⟨_, _, bitIndex_eq_ok_iff.mpr ⟨bit, rfl, hbit, ends_digit_sign _, rfl⟩, ?_⟩
      have hflag : flag (.ofNat (Text.value 10 bit)) inverted ('=' :: (name ++ rest)) = _ :=
        flag_eq_ok_iff.mpr ⟨name, rfl, hname, hrest, rfl⟩
      cases inverted with
      | true => exact hflag
      | false =>
        exact bind_eq_ok_iff.mpr ⟨false, _, skipChar?_eq_ok_iff.mpr ⟨rfl, by simp⟩, hflag⟩
    | range first last name labels =>
      obtain ⟨hfirst, hlast, hforward, hlabel, hall⟩ := hwf
      have htext : (Entry.range first last name labels).spelling ++ rest =
          first ++ '-' :: (last ++
            '=' :: (name ++ (labels.flatMap Labelled.spelling ++ rest))) := by
        simp [Entry.spelling]
      rw [htext]
      refine ⟨false, _, skipChar?_eq_ok_iff.mpr ⟨rfl, fun _ => hfirst.ends (by decide) _⟩, ?_⟩
      refine bind_eq_ok_iff.mpr ⟨_, _, bitIndex_eq_ok_iff.mpr
        ⟨first, rfl, hfirst, (Text.ends_cons _ _ _).mpr (by decide), rfl⟩, ?_⟩
      refine bind_eq_ok_iff.mpr ⟨true, _, skipChar?_eq_ok_iff.mpr ⟨rfl, by simp⟩, ?_⟩
      refine range_eq_ok_iff.mpr
        ⟨last, name, labels, hlast, ?_, hlabel, hall, rfl, hrest, rfl⟩
      rwa [hfirst.toNat]

/-! ### What the loop over entries accepts -/

theorem moreEntries_eq_ok_iff {text rest : Text} {more : Bool} :
    moreEntries text = .ok more rest ↔
      ∃ comma, text = optional ',' comma ++ rest ∧ (comma = false → Ends (· == ',') rest) ∧
        more = !rest.isEmpty := by
  rw [moreEntries, bind_eq_ok_iff]
  constructor
  · rintro ⟨comma, afterComma, hcomma, hfollow⟩
    obtain ⟨eof, last, heof, hmore⟩ := bind_eq_ok_iff.mp hfollow
    obtain ⟨rfl, hends⟩ := skipChar?_eq_ok_iff.mp hcomma
    obtain ⟨rfl, rfl⟩ := isEof_eq_ok_iff.mp heof
    obtain ⟨rfl, rfl⟩ := pure_eq_ok_iff.mp hmore
    exact ⟨comma, rfl, hends, rfl⟩
  · rintro ⟨comma, rfl, hends, rfl⟩
    exact ⟨comma, rest, skipChar?_eq_ok_iff.mpr ⟨rfl, hends⟩, rfl⟩

/-- An entry does not begin with a comma. -/
theorem Entry.exists_cons {form : Entry} (h : form.WellFormed) :
    ∃ c more, form.spelling = c :: more ∧ c ≠ ',' := by
  have hbit : ∀ {digits : Text}, IsBit digits → ∃ c more, digits = c :: more ∧ c ≠ ',' :=
    fun {digits} hdigits => by
      obtain ⟨c, more, rfl, hc⟩ := hdigits.exists_cons
      refine ⟨c, more, rfl, ?_⟩
      rintro rfl
      exact absurd hc (by decide)
  cases form with
  | flag inverted bit name =>
    cases inverted with
    | true => exact ⟨'~', _, rfl, by decide⟩
    | false =>
      obtain ⟨c, more, rfl, hc⟩ := hbit h.1
      exact ⟨c, _, rfl, hc⟩
  | range first last name labels =>
    obtain ⟨c, more, rfl, hc⟩ := hbit h.1
    exact ⟨c, _, rfl, hc⟩

/-- What follows an entry in a list of them. -/
def following (entries : List Entry) (trailing : Bool) : Text :=
  entries.flatMap (fun form => ',' :: form.spelling) ++ optional ',' trailing

theorem ends_following (entries : List Entry) (trailing : Bool) :
    Ends (· != ',') (following entries trailing) := by
  cases entries with
  | cons form entries => exact (Text.ends_cons _ _ _).mpr (by decide)
  | nil =>
    cases trailing with
    | true => exact (Text.ends_cons _ _ _).mpr (by decide)
    | false => exact Text.ends_nil _

/-- **Rounds are entries.**  Behind an entry, the loop reads entries that each follow a comma, and
a last comma if there is one. -/
theorem repeats_iff {text last : Text} {fields : List BitField} (htext : Ends (· != ',') text) :
    Repeats moreEntries entry text fields last ↔
      ∃ entries : List Entry, ∃ trailing, (∀ form ∈ entries, form.WellFormed) ∧
        text = following entries trailing ∧ last = [] ∧ fields = entries.map Entry.field := by
  constructor
  · intro h
    induction h with
    | done hmore =>
      obtain ⟨trailing, rfl, -, hempty⟩ := moreEntries_eq_ok_iff.mp hmore
      obtain rfl : _ = [] := by simpa using hempty
      exact ⟨[], trailing, by simp, by simp [following], rfl, rfl⟩
    | @again text mid rest last field fields hmore hentry _ ih =>
      obtain ⟨comma, rfl, hends, hmid⟩ := moreEntries_eq_ok_iff.mp hmore
      obtain ⟨form, hwf, rfl, hrest, rfl⟩ := entry_eq_ok_iff.mp hentry
      obtain ⟨entries, trailing, hall, rfl, rfl, rfl⟩ := ih hrest
      -- the entry before has ended, so this one comes after a comma
      obtain rfl : comma = true := by
        obtain ⟨c, more, hspelling, hc⟩ := Entry.exists_cons hwf
        cases comma with
        | true => rfl
        | false =>
          rw [hspelling] at htext
          exact absurd (by simpa [optional] using htext) hc
      exact ⟨form :: entries, trailing, List.forall_mem_cons.mpr ⟨hwf, hall⟩,
        by simp [following, optional], rfl, rfl⟩
  · rintro ⟨entries, trailing, hall, rfl, rfl, rfl⟩
    clear htext
    induction entries with
    | nil => exact .done (moreEntries_eq_ok_iff.mpr ⟨trailing, by simp [following], by simp, rfl⟩)
    | cons form entries ih =>
      obtain ⟨hwf, hall⟩ := List.forall_mem_cons.mp hall
      obtain ⟨c, more, hspelling, -⟩ := Entry.exists_cons hwf
      have hmore : moreEntries (following (form :: entries) trailing) =
          .ok true (form.spelling ++ following entries trailing) := by
        refine moreEntries_eq_ok_iff.mpr ⟨true, by simp [following, optional], by simp, ?_⟩
        rw [hspelling]
        rfl
      exact .again hmore
        (entry_eq_ok_iff.mpr ⟨form, hwf, rfl, ends_following entries trailing, rfl⟩) (ih hall)

theorem Body.spelling_cons (leading trailing : Bool) (form : Entry) (entries : List Entry) :
    spelling ⟨leading, form :: entries, trailing⟩ =
      optional ',' leading ++ (form.spelling ++ following entries trailing) := by
  have hlist : [','].intercalate ((form :: entries).map Entry.spelling) =
      form.spelling ++ entries.flatMap fun other => ',' :: other.spelling := by
    induction entries generalizing form with
    | nil => simp
    | cons other entries ih =>
      rw [List.map_cons, List.map_cons, List.intercalate_cons_cons, ← List.map_cons, ih other]
      simp
  rw [spelling, hlist, following]
  simp

theorem descriptor_eq_ok_iff {text last : Text} {bitset : Bitset} :
    descriptor text = .ok bitset last ↔
      ∃ body : Body, body.WellFormed ∧ text = body.spelling ∧ last = [] ∧
        bitset.fields = body.entries.map Entry.field := by
  rw [descriptor, bind_eq_ok_iff]
  constructor
  · rintro ⟨fields, rest, hfields, hbitset⟩
    obtain ⟨rfl, rfl⟩ := pure_eq_ok_iff.mp hbitset
    -- the first round may do without a comma; behind its entry the others may not
    cases many_eq_ok_iff.mp hfields with
    | done hmore =>
      obtain ⟨leading, rfl, -, hempty⟩ := moreEntries_eq_ok_iff.mp hmore
      obtain rfl : rest = [] := by simpa using hempty
      exact ⟨⟨leading, [], false⟩, ⟨by simp, by simp⟩, by simp [Body.spelling, optional], rfl, rfl⟩
    | again hmore hentry hrounds =>
      obtain ⟨leading, rfl, -, -⟩ := moreEntries_eq_ok_iff.mp hmore
      obtain ⟨form, hwf, rfl, hrest, rfl⟩ := entry_eq_ok_iff.mp hentry
      obtain ⟨entries, trailing, hall, rfl, rfl, rfl⟩ := (repeats_iff hrest).mp hrounds
      exact ⟨⟨leading, form :: entries, trailing⟩,
        ⟨List.forall_mem_cons.mpr ⟨hwf, hall⟩, by simp⟩,
        (Body.spelling_cons leading trailing form entries).symm, rfl, rfl⟩
  · rintro ⟨⟨leading, entries, trailing⟩, ⟨hall, htrailing⟩, rfl, rfl, hfields⟩
    refine ⟨bitset.fields, [], many_eq_ok_iff.mpr ?_, rfl⟩
    rw [hfields]
    cases entries with
    | nil =>
      obtain rfl : trailing = false := by
        cases trailing with
        | false => rfl
        | true => exact absurd rfl (htrailing rfl)
      exact .done (moreEntries_eq_ok_iff.mpr
        ⟨leading, by simp [Body.spelling, optional], by simp, rfl⟩)
    | cons form entries =>
      obtain ⟨hwf, hall⟩ := List.forall_mem_cons.mp hall
      obtain ⟨c, more, hspelling, hc⟩ := Entry.exists_cons hwf
      rw [Body.spelling_cons]
      refine .again (moreEntries_eq_ok_iff.mpr ⟨leading, rfl, fun _ => ?_, ?_⟩)
        (entry_eq_ok_iff.mpr ⟨form, hwf, rfl, ends_following entries trailing, rfl⟩)
        ((repeats_iff (ends_following entries trailing)).mpr
          ⟨entries, trailing, hall, rfl, rfl, rfl⟩)
      · rw [hspelling]
        exact (Text.ends_cons _ _ _).mpr (beq_eq_false_iff_ne.mpr hc)
      · rw [hspelling]
        rfl

end Bitset

/-! ### The place of a descriptor -/

/-- The offset of a descriptor is added to that of its error. -/
theorem Bitset.parse_eq_shift (body : Text) (offset : Nat) :
    Bitset.parse body offset =
      (Bitset.parse body 0).mapError fun error =>
        { error with offset := error.offset + offset } := by
  rw [parse, parse]
  cases descriptor body with
  | ok bitset left => rfl
  | error fault left => simp [Except.mapError, Fault.toParseError, Nat.add_comm]

/-- The specification of a bitset. -/
def Bitset.enclosing (body : Text) : Text := '%' :: '<' :: body ++ ['>']

namespace Segment

theorem enclosed_append (body rest : Text) (h : '>' ∉ body) :
    Bitset.descriptor.enclosed '>' (body ++ '>' :: rest) =
      match Bitset.descriptor body with
      | .ok bitset _ => .ok bitset rest
      | .error fault _ => .error { fault with place := fault.place ++ '>' :: rest } rest := by
  obtain ⟨hbody, hclosing⟩ : (body ++ '>' :: rest).takeWhile (· != '>') = body ∧
      (body ++ '>' :: rest).dropWhile (· != '>') = '>' :: rest :=
    Text.run_iff.mpr ⟨rfl, fun c hc => bne_iff_ne.mpr fun e => h (e ▸ hc), by simp⟩
  rw [Scan.enclosed, hbody, hclosing]
  cases Bitset.descriptor body <;> rfl

/-- There is no flag and no width between `%` and `<`. -/
theorem specification?_enclosing (text : Text) :
    specification? ('%' :: '<' :: text) =
      match Bitset.descriptor.enclosed '>' text with
      | .ok bitset rest => .ok (some (.conversion (.bitset bitset))) rest
      | .error fault rest => .error fault rest := by
  have hpercent : Scan.skipChar '%' ('%' :: '<' :: text) = .ok () ('<' :: text) := rfl
  have hsecond : Scan.skipChar? '%' ('<' :: text) = .ok false ('<' :: text) := rfl
  have hpadding : padding ('<' :: text) = .ok .spacesBefore ('<' :: text) := rfl
  have hwidth : width ('<' :: text) = .ok 0 ('<' :: text) := rfl
  have hconversion : conversionAfter ⟨.spacesBefore, 0⟩ ('<' :: text) =
      (Bitset.descriptor.enclosed '>' >>= fun bitset => pure (some (.bitset bitset))) text := rfl
  simp only [specification?, Scan.bind_apply, hpercent, hsecond, hpadding, hwidth, hconversion,
    Bool.false_eq_true, if_false]
  cases Bitset.descriptor.enclosed '>' text <;> rfl

/-- Between `%<` and `>` a descriptor is read as on its own. -/
theorem scan_enclosing (body rest : Text) (h : '>' ∉ body) :
    scan (Bitset.enclosing body ++ rest) =
      match Bitset.descriptor body with
      | .ok bitset _ => .ok (.conversion (.bitset bitset)) rest
      | .error fault _ => .error { fault with place := fault.place ++ '>' :: rest } rest := by
  have htext : Bitset.enclosing body ++ rest = '%' :: '<' :: (body ++ '>' :: rest) := by
    simp [Bitset.enclosing]
  rw [htext, scan_percent, specification, Scan.checked, specification?_enclosing,
    enclosed_append body rest h]
  cases Bitset.descriptor body <;> rfl

end Segment

/-- What a reader yields of a bitset, and then unless it is malformed. -/
def Bitset.yielded (parsed : Except ParseError Bitset) (after : List (Except ParseError Segment)) :
    List (Except ParseError Segment) :=
  match parsed with
  | .ok bitset => .ok (.conversion (.bitset bitset)) :: after
  | .error error => [.error error]

/-- A reader before `%<...>` parses what is between, two bytes further on. -/
theorem Reader.results_enclosing (body rest : Text) (h : '>' ∉ body) (offset : Nat) :
    results ⟨offset, Bitset.enclosing body ++ rest, false⟩ =
      Bitset.yielded (Bitset.parse body (offset + 2))
        (results ⟨offset + Text.utf8Length (Bitset.enclosing body), rest, false⟩) := by
  have hne : Bitset.enclosing body ++ rest ≠ [] := by simp [Bitset.enclosing]
  have hscan := Segment.scan_enclosing body rest h
  rw [Bitset.parse]
  cases hbody : Bitset.descriptor body with
  | ok bitset left =>
    rw [hbody] at hscan
    rw [results_of_ok hne hscan, Text.before_append]
    rfl
  | error fault left =>
    rw [hbody] at hscan
    -- the fault lies in the body, and what is before it in the template is `%<` and more body
    obtain ⟨read, hread⟩ : fault.place <:+ body := by
      have hstays := Bitset.stays_descriptor body
      rw [hbody] at hstays
      exact hstays.1
    have hwhole : Bitset.enclosing body ++ rest =
        '%' :: '<' :: read ++ (fault.place ++ '>' :: rest) := by
      simp [Bitset.enclosing, ← hread]
    rw [results_of_error hne hscan]
    simp only [Bitset.yielded, Fault.toParseError]
    rw [hwhole, Text.before_append, ← hread, Text.before_append]
    have hlength : Text.utf8Length ('%' :: '<' :: read) = 2 + Text.utf8Length read := by
      rw [Text.utf8Length_cons, Text.utf8Length_cons, ← Nat.add_assoc]
      rfl
    rw [hlength, Nat.add_assoc]

/-- A derivation does not look past a `%` that follows. -/
theorem Derives.reads_append {text : Text} {pieces : List Piece} (h : Derives text pieces)
    (more : Text) : Reads (text ++ '%' :: more) (pieces.map Piece.segment) ('%' :: more) := by
  induction h with
  | nil => exact .refl _
  | @cons piece pieces rest hwf hmax _ ih =>
    have hne : piece.spelling ++ rest ++ '%' :: more ≠ [] := by simp
    refine .more hne ((Segment.scan_eq_ok_iff hne).mpr
      ⟨piece, hwf, fun hrun => ?_, List.append_assoc _ _ _, rfl⟩) ih
    cases rest with
    | nil => exact (Text.ends_cons _ _ _).mpr (by decide)
    | cons c rest => simpa using hmax hrun

/-- A bitset after a template is read as on its own, and the template before it too. -/
theorem results_append_enclosing {front : Text} {template : Template}
    (hfront : Template.parse front = .ok template) (body back : Text) (h : '>' ∉ body) :
    (itemsOf (front ++ (Bitset.enclosing body ++ back))).map Item.result =
      template.segments.map .ok ++
        Bitset.yielded (Bitset.parse body (Text.utf8Length front + 2))
          (Reader.results ⟨Text.utf8Length (front ++ Bitset.enclosing body), back, false⟩) := by
  obtain ⟨-, hreads⟩ := Template.parse_eq_ok_iff.mp hfront
  obtain ⟨pieces, hderives, hsegments⟩ := reads_iff_derives.mp hreads
  have hfollow : Reads (front ++ (Bitset.enclosing body ++ back)) template.segments
      (Bitset.enclosing body ++ back) := hsegments ▸ hderives.reads_append _
  have hresults : (itemsOf (front ++ (Bitset.enclosing body ++ back))).map Item.result = _ :=
    Reader.results_of_reads hfollow 0
  rw [hresults, Text.before_append, Nat.zero_add, Reader.results_enclosing body back h,
    Text.utf8Length_append]

/-- **Parsing a descriptor is deriving it, wherever it stands.**  A descriptor parses exactly when
it can be derived, into the fields of the entries, in order.  Its offset moves an error by as
much and changes nothing else.  Without a `>` in it, it may stand between `%<` and `>`: a reader
that has come to it, at the start of a template or after the segments of another, yields its
fields or its error, counted from the place of the descriptor. -/
theorem Bitset.parse_derives_at_any_offset (body : Text) :
    (∀ offset bitset, Bitset.parse body offset = .ok bitset ↔
      ∃ form : Bitset.Body, form.WellFormed ∧ body = form.spelling ∧
        bitset.fields = form.entries.map Bitset.Entry.field) ∧
    (∀ offset, Bitset.parse body offset =
      (Bitset.parse body 0).mapError fun error => { error with offset := error.offset + offset }) ∧
    ('>' ∉ body →
      (∀ offset rest, Reader.results ⟨offset, '%' :: '<' :: body ++ '>' :: rest, false⟩ =
        Bitset.yielded (Bitset.parse body (offset + 2))
          (Reader.results ⟨offset + 2 + Text.utf8Length body + 1, rest, false⟩)) ∧
      ∀ front template back, Template.parse front = .ok template →
        (itemsOf (front ++ '%' :: '<' :: body ++ '>' :: back)).map Item.result =
          template.segments.map .ok ++
            Bitset.yielded (Bitset.parse body (Text.utf8Length front + 2))
              (Reader.results
                ⟨Text.utf8Length front + 2 + Text.utf8Length body + 1, back, false⟩)) := by
  have hspelling : ∀ rest, '%' :: '<' :: body ++ '>' :: rest = Bitset.enclosing body ++ rest :=
    fun rest => by simp [Bitset.enclosing]
  have hlength : Text.utf8Length (Bitset.enclosing body) = 2 + Text.utf8Length body + 1 := by
    have hpercent : '%'.utf8Size = 1 := by decide
    have hopen : '<'.utf8Size = 1 := by decide
    have hclose : '>'.utf8Size = 1 := by decide
    simp only [Bitset.enclosing, Text.utf8Length_append, Text.utf8Length_cons, Text.utf8Length_nil,
      hpercent, hopen, hclose]
    omega
  refine ⟨fun offset bitset => ?_, Bitset.parse_eq_shift body, fun h => ⟨fun offset rest => ?_,
    fun front template back hfront => ?_⟩⟩
  · rw [Bitset.parse_eq_ok_iff]
    constructor
    · rintro ⟨left, hdescriptor⟩
      obtain ⟨form, hwf, htext, -, hfields⟩ := Bitset.descriptor_eq_ok_iff.mp hdescriptor
      exact ⟨form, hwf, htext, hfields⟩
    · rintro ⟨form, hwf, htext, hfields⟩
      exact ⟨[], Bitset.descriptor_eq_ok_iff.mpr ⟨form, hwf, htext, rfl, hfields⟩⟩
  · rw [hspelling, Reader.results_enclosing body rest h, hlength, ← Nat.add_assoc, ← Nat.add_assoc]
  · rw [List.append_assoc, hspelling, results_append_enclosing hfront body back h,
      Text.utf8Length_append, hlength, ← Nat.add_assoc, ← Nat.add_assoc]

end DriverPrintf
