import DriverPrintf.Command.Inspection
import DriverPrintf.Proofs.Text.Digits
import DriverPrintf.Render.Conversion

/-!
# Command — what a description tells

A report describes each conversion in words: a subject, which names the kind of conversion with the
size and the style of an integer, and behind a comma a note of the layout, the letters or the number
of fields.  There is no comma in a subject, so a description is taken apart again at its first one
(`description_eq_iff_subject_note`), and what each part was made of is found in its words.

Two things are left out, which `Alike` allows for.  The padding of a field without a width does
nothing and is not mentioned.  Of a bitset only the number of its fields is, so what each of them
shows has to be looked up in its spelling.

* **Descriptions tell conversions apart** (`description_eq_iff`): the same words exactly for
  conversions that are alike.
* **Described alike, rendered alike** (`render?_eq_of_description_eq`): all but bitsets.
-/

namespace DriverPrintf

open Text (Ends)

/-! ### Conversions that are alike -/

/-- Two layouts of the same width, and of the same padding if there is something to fill. -/
structure FieldLayout.Alike (a b : FieldLayout) : Prop where
  width : a.width = b.width
  padding : a.width ≠ 0 → a.padding = b.padding

/-- Two conversions that are the same, but for a padding that does nothing and for what the fields of
a bitset are. -/
inductive Conversion.Alike : Conversion → Conversion → Prop where
  | integer {a b : FieldLayout} (h : a.Alike b) (size : IntegerSize) (style : IntegerStyle) :
      Alike (.integer a size style) (.integer b size style)
  | string {a b : FieldLayout} (h : a.Alike b) : Alike (.string a) (.string b)
  | char : Alike .char .char
  | pointer (letters : LetterCase) : Alike (.pointer letters) (.pointer letters)
  | busAddress (letters : LetterCase) : Alike (.busAddress letters) (.busAddress letters)
  | bitset {a b : Bitset} (h : a.fields.length = b.fields.length) : Alike (.bitset a) (.bitset b)

/-- Without a width every padding makes the same field. -/
theorem FieldLayout.Alike.pad_eq {a b : FieldLayout} (h : a.Alike b) (sign body : Bytes) :
    a.pad sign body = b.pad sign body := by
  obtain ⟨padding, width⟩ := a
  obtain ⟨padding', width'⟩ := b
  obtain ⟨hwidth, hpadding⟩ := h
  obtain rfl : width = width' := hwidth
  by_cases hzero : width = 0
  · subst hzero
    cases padding <;> cases padding' <;> simp [pad]
  · obtain rfl : padding = padding' := hpadding hzero
    rfl

/-- Alike conversions take the same kind of argument. -/
theorem Conversion.Alike.argKind_eq {c d : Conversion} (h : c.Alike d) :
    c.argKind = d.argKind := by
  cases h <;> rfl

/-- Alike conversions make the same of every argument, unless they are bitsets. -/
theorem Conversion.Alike.render?_eq {c d : Conversion} (h : c.Alike d)
    (hbitset : ∀ descriptor, c ≠ .bitset descriptor) (arg : Arg) :
    c.render? arg = d.render? arg := by
  cases h with
  | integer h size style => cases arg <;> simp [render?, body?, mark, h.pad_eq]
  | string h => cases arg <;> simp [render?, body?, mark, h.pad_eq]
  | char | pointer | busAddress => rfl
  | bitset => exact absurd rfl (hbitset _)

/-! ### Names -/

theorem Padding.name_injective {a b : Padding} (h : a.name = b.name) : a = b := by
  cases a <;> cases b <;> first | rfl | exact absurd h (by decide)

theorem Padding.space_not_mem_name (padding : Padding) :
    ∀ c ∈ padding.name.toList, (c != ' ') = true := by
  have hall : padding.name.toList.all (· != ' ') = true := by cases padding <;> decide
  exact List.all_eq_true.mp hall

theorem LetterCase.name_injective {a b : LetterCase} (h : a.name = b.name) : a = b := by
  cases a <;> cases b <;> first | rfl | exact absurd h (by decide)

/-- What a description is about, which is what it begins with. -/
inductive Conversion.Subject where
  | integer (size : IntegerSize) (style : IntegerStyle)
  | string
  | char
  | pointer
  | busAddress
  | bitset
deriving DecidableEq

namespace Conversion.Subject

def name : Subject → String
  | .integer size style => toString size.bits ++ "-bit " ++ style.name
  | .string => "string"
  | .char => "single byte"
  | .pointer => "pointer"
  | .busAddress => "64-bit bus address"
  | .bitset => "32-bit bitset"

def all : List Subject :=
  [.string, .char, .pointer, .busAddress, .bitset] ++
    [.word, .half, .byte].flatMap fun size =>
      [.signed, .unsigned, .hex .lower, .hex .upper].map (.integer size)

theorem mem_all (subject : Subject) : subject ∈ all := by
  cases subject with
  | integer size style =>
    cases size <;> cases style with
    | signed | unsigned => decide
    | hex letters => cases letters <;> decide
  | string | char | pointer | busAddress | bitset => decide

theorem name_injective {a b : Subject} (h : a.name = b.name) : a = b := by
  have hall : ∀ a ∈ all, ∀ b ∈ all, a.name = b.name → a = b := by decide +kernel
  exact hall a (mem_all a) b (mem_all b) h

theorem comma_not_mem_name (subject : Subject) : ∀ c ∈ subject.name.toList, (c != ',') = true := by
  have hall : ∀ subject ∈ all, subject.name.toList.all (· != ',') = true := by decide +kernel
  exact List.all_eq_true.mp (hall subject (mem_all subject))

end Conversion.Subject

/-! ### Subject and note -/

namespace Conversion

def subject : Conversion → Subject
  | .integer _ size style => .integer size style
  | .string _ => .string
  | .char => .char
  | .pointer _ => .pointer
  | .busAddress _ => .busAddress
  | .bitset _ => .bitset

/-- What stands behind the subject, with its comma. -/
def note : Conversion → String
  | .integer layout _ _ | .string layout => layout.description
  | .char => ""
  | .pointer letters | .busAddress letters => ", " ++ letters.name ++ " hex"
  | .bitset descriptor => ", " ++ toString descriptor.fields.length ++ " field(s)"

theorem description_eq_subject_note (conversion : Conversion) :
    conversion.description = conversion.subject.name ++ conversion.note := by
  cases conversion with
  | integer | string | char => rfl
  | pointer letters | busAddress letters => cases letters <;> decide
  | bitset descriptor =>
    have hjoin : ∀ count behind, "32-bit bitset, " ++ count ++ behind =
        "32-bit bitset" ++ (", " ++ count ++ behind) := fun count behind => by
      simp only [← String.append_assoc]
      rfl
    exact hjoin _ _

theorem ends_note (conversion : Conversion) : Ends (· != ',') conversion.note.toList := by
  have hcomma : ∀ text : String, Ends (· != ',') (", " ++ text).toList := fun text => by
    rw [String.toList_append]
    exact (Text.ends_cons _ _ _).mpr rfl
  cases conversion with
  | integer layout | string layout =>
    rw [note, FieldLayout.description]
    split
    · exact Text.ends_nil _
    · rw [String.append_assoc, String.append_assoc]
      exact hcomma _
  | char => exact Text.ends_nil _
  | pointer | busAddress | bitset =>
    rw [note, String.append_assoc]
    exact hcomma _

/-- A description is its subject up to the first comma, and its note from there on. -/
theorem description_eq_iff_subject_note {c d : Conversion} :
    c.description = d.description ↔ c.subject = d.subject ∧ c.note = d.note := by
  rw [description_eq_subject_note, description_eq_subject_note]
  constructor
  · intro h
    have hchars := congrArg String.toList h
    rw [String.toList_append, String.toList_append] at hchars
    obtain ⟨hname, hnote⟩ := Text.run_unique hchars c.subject.comma_not_mem_name c.ends_note
      d.subject.comma_not_mem_name d.ends_note
    exact ⟨Subject.name_injective (String.toList_inj.mp hname), String.toList_inj.mp hnote⟩
  · rintro ⟨hsubject, hnote⟩
    rw [hsubject, hnote]

end Conversion

/-! ### What a note tells -/

theorem toString_injective {m n : Nat} (h : toString m = toString n) : m = n := by
  rw [← String.toList_inj, Text.toList_toString, Text.toList_toString] at h
  exact Text.decimal_injective h

namespace FieldLayout

theorem description_eq_empty_iff {layout : FieldLayout} :
    layout.description = "" ↔ layout.width = 0 := by
  rw [description]
  split
  · rename_i h
    exact iff_of_true rfl h
  · rename_i h
    refine iff_of_false (fun hempty => ?_) h
    have hchars := congrArg String.toList hempty
    simp [String.toList_append] at hchars

/-- There is no space in the name of a padding, so the width stands behind the first one. -/
theorem padding_width_of_words {a b : FieldLayout}
    (h : ", " ++ a.padding.name ++ " to " ++ toString a.width =
      ", " ++ b.padding.name ++ " to " ++ toString b.width) :
    a.padding = b.padding ∧ a.width = b.width := by
  have hends : ∀ n : Nat, Ends (· != ' ') (" to " ++ toString n).toList := fun n => by
    rw [String.toList_append]
    exact (Text.ends_cons _ _ _).mpr rfl
  simp only [String.append_assoc, String.append_right_inj] at h
  have hchars : a.padding.name.toList ++ (" to " ++ toString a.width).toList =
      b.padding.name.toList ++ (" to " ++ toString b.width).toList := by
    rw [← String.toList_append, h, String.toList_append]
  obtain ⟨hname, hwidth⟩ := Text.run_unique hchars a.padding.space_not_mem_name (hends _)
    b.padding.space_not_mem_name (hends _)
  rw [String.toList_inj, String.append_right_inj] at hwidth
  exact ⟨Padding.name_injective (String.toList_inj.mp hname), toString_injective hwidth⟩

/-- A layout is told as far as it makes a difference. -/
theorem description_eq_iff {a b : FieldLayout} : a.description = b.description ↔ a.Alike b := by
  by_cases ha : a.width = 0
  · rw [description_eq_empty_iff.mpr ha, eq_comm, description_eq_empty_iff]
    exact ⟨fun hb => ⟨ha.trans hb.symm, fun h => absurd ha h⟩, fun h => h.width.symm.trans ha⟩
  by_cases hb : b.width = 0
  · rw [description_eq_empty_iff.mpr hb, description_eq_empty_iff]
    exact ⟨fun h => absurd h ha, fun h => h.width.trans hb⟩
  rw [description, description, if_neg ha, if_neg hb]
  constructor
  · intro h
    obtain ⟨hpadding, hwidth⟩ := padding_width_of_words h
    exact ⟨hwidth, fun _ => hpadding⟩
  · intro h
    rw [h.padding ha, h.width]

end FieldLayout

/-- **Descriptions tell conversions apart.**  Two conversions are described in the same words
exactly if they are alike. -/
theorem Conversion.description_eq_iff {c d : Conversion} :
    c.description = d.description ↔ c.Alike d := by
  rw [description_eq_iff_subject_note]
  constructor
  · rintro ⟨hsubject, hnote⟩
    cases c with
    | integer a size style =>
      cases d with
      | integer b =>
        obtain ⟨rfl, rfl⟩ := Subject.integer.inj hsubject
        exact .integer (FieldLayout.description_eq_iff.mp hnote) size style
      | _ => cases hsubject
    | string a =>
      cases d with
      | string b => exact .string (FieldLayout.description_eq_iff.mp hnote)
      | _ => cases hsubject
    | char =>
      cases d with
      | char => exact .char
      | _ => cases hsubject
    | pointer letters =>
      cases d with
      | pointer letters' =>
        rw [note, note, String.append_left_inj, String.append_right_inj] at hnote
        obtain rfl := LetterCase.name_injective hnote
        exact .pointer letters
      | _ => cases hsubject
    | busAddress letters =>
      cases d with
      | busAddress letters' =>
        rw [note, note, String.append_left_inj, String.append_right_inj] at hnote
        obtain rfl := LetterCase.name_injective hnote
        exact .busAddress letters
      | _ => cases hsubject
    | bitset a =>
      cases d with
      | bitset b =>
        rw [note, note, String.append_left_inj, String.append_right_inj] at hnote
        exact .bitset (toString_injective hnote)
      | _ => cases hsubject
  · intro h
    cases h with
    | integer h | string h => exact ⟨rfl, FieldLayout.description_eq_iff.mpr h⟩
    | char | pointer | busAddress => exact ⟨rfl, rfl⟩
    | bitset h => exact ⟨rfl, by rw [note, note, h]⟩

/-- **Described alike, rendered alike.**  Conversions that are described in the same words take the
same kind of argument, and make the same of every argument unless they are bitsets. -/
theorem Conversion.render?_eq_of_description_eq {c d : Conversion}
    (h : c.description = d.description) :
    c.argKind = d.argKind ∧
      ((∀ descriptor, c ≠ .bitset descriptor) → ∀ arg, c.render? arg = d.render? arg) := by
  have halike := description_eq_iff.mp h
  exact ⟨halike.argKind_eq, halike.render?_eq⟩

example : (Conversion.integer ⟨.zeros, 4⟩ .half (.hex .lower)).description =
    "16-bit lowercase hex, zero-filled to 4" := by decide

end DriverPrintf
