import DriverPrintf.Proofs.Render.Pieces
import DriverPrintf.Proofs.Template.Descriptor
import DriverPrintf.Proofs.Text.Digits

/-!
# Render — where bytes come from

Conversions write few characters of their own: digits, base marks, signs, fillings, and what
stands around and between the entries of a bitset (`alphabet`).  Any other byte of an output has
come in with the call (`Enters`): it stands in the template, it stands in a string, or it is the
byte that `%c` takes from its argument.

The names and labels that a bitset shows stand in its descriptor, and so in the template
(`mem_of_mem_fields`).

* **Provenance** (`allTraced_output`): every byte of an output is one of the alphabet or has come in,
  also where the output has been cut short.
-/

namespace DriverPrintf

open Text (utf8 decimal hex)

/-- The characters that conversions write of their own. -/
def alphabet : Text := "0123456789abcdefABCDEFx -<>,=".toList

/-- The ways for a byte to come in with a call. -/
inductive Enters (template : Text) (args : List Arg) (byte : UInt8) : Prop where
  | template (h : byte ∈ utf8 template)
  | string {bytes : Bytes} (harg : .string bytes ∈ args) (h : byte ∈ bytes)
  | char {i : Nat} (hconversion : (conversionsOf template)[i]? = some .char)
      (harg : args[i]? = some (.char byte))
  | lowByte {i : Nat} {word : UInt32} (hconversion : (conversionsOf template)[i]? = some .char)
      (harg : args[i]? = some (.integer word)) (h : word.toUInt8 = byte)

/-- A byte of the alphabet, or one that has come in. -/
def Traced (template : Text) (args : List Arg) (byte : UInt8) : Prop :=
  byte ∈ utf8 alphabet ∨ Enters template args byte

/-- Bytes of which each is of the alphabet or has come in. -/
def AllTraced (template : Text) (args : List Arg) (bytes : Bytes) : Prop :=
  ∀ byte ∈ bytes, Traced template args byte

theorem AllTraced.append {template : Text} {args : List Arg} {a b : Bytes}
    (ha : AllTraced template args a) (hb : AllTraced template args b) :
    AllTraced template args (a ++ b) := fun byte hbyte =>
  (List.mem_append.mp hbyte).elim (ha byte) (hb byte)

/-- A text of which each character is of the alphabet or stands in the template. -/
theorem allTraced_of_chars {template text : Text} {args : List Arg}
    (h : ∀ c ∈ text, c ∈ alphabet ∨ c ∈ template) : AllTraced template args (utf8 text) := by
  intro byte hbyte
  obtain ⟨c, hc, hbyte⟩ := List.mem_flatMap.mp hbyte
  rcases h c hc with halphabet | htemplate
  · exact .inl (List.mem_flatMap.mpr ⟨c, halphabet, hbyte⟩)
  · exact .inr (.template (List.mem_flatMap.mpr ⟨c, htemplate, hbyte⟩))

/-! ### The alphabet -/

theorem mem_alphabet_of_mem_toDigits {base n : Nat} (hbase : 1 < base) (hle : base ≤ 16) {c : Char}
    (h : c ∈ Nat.toDigits base n) : c ∈ alphabet ∧ c.toUpper ∈ alphabet := by
  have hall : ∀ d ∈ List.range 16, d.digitChar ∈ alphabet ∧ d.digitChar.toUpper ∈ alphabet := by
    decide
  obtain ⟨digit, hlt, rfl⟩ := Text.exists_of_mem_toDigits hbase h
  exact hall digit (List.mem_range.mpr (Nat.lt_of_lt_of_le hlt hle))

theorem mem_alphabet_of_mem_decimal {n : Nat} {c : Char} (h : c ∈ decimal n) : c ∈ alphabet :=
  (mem_alphabet_of_mem_toDigits (by decide) (by decide) h).1

theorem mem_alphabet_of_mem_hex {letters : LetterCase} {n : Nat} {c : Char}
    (h : c ∈ hex letters n) : c ∈ alphabet := by
  cases letters with
  | lower => exact (mem_alphabet_of_mem_toDigits (by decide) (by decide) h).1
  | upper =>
    obtain ⟨d, hd, rfl⟩ := List.mem_map.mp h
    exact (mem_alphabet_of_mem_toDigits (by decide) (by decide) hd).2

/-- The sign and the digits of an integer. -/
theorem mem_alphabet_of_mem_text {style : IntegerStyle} {size : IntegerSize} {raw : UInt32}
    {c : Char} (h : c ∈ (style.text size raw).1 ∨ c ∈ (style.text size raw).2) : c ∈ alphabet := by
  cases style with
  | signed =>
    rcases h with hsign | hdigits
    · rw [IntegerStyle.text] at hsign
      dsimp only at hsign
      split at hsign
      · obtain rfl := List.mem_singleton.mp hsign
        decide
      · cases hsign
    · exact mem_alphabet_of_mem_decimal hdigits
  | unsigned => exact mem_alphabet_of_mem_decimal (h.resolve_left List.not_mem_nil)
  | hex letters => exact mem_alphabet_of_mem_hex (h.resolve_left List.not_mem_nil)

theorem mem_alphabet_of_mem_mark {conversion : Conversion} {c : Char} (h : c ∈ conversion.mark) :
    c ∈ alphabet := by
  have hall : ['0', 'x'] ⊆ alphabet := by decide
  cases conversion with
  | pointer | busAddress => exact hall h
  | integer | string | char | bitset => cases h

/-! ### The names of a bitset -/

/-- The names and labels of an entry. -/
def BitField.names : BitField → List Text
  | .flag _ _ name => [name]
  | .range _ _ name labels => name :: labels.map Prod.snd

/-- What an entry shows is of the alphabet or from its names. -/
theorem BitField.mem_of_mem_shown {field : BitField} {word : UInt32} {shown : Text} {c : Char}
    (h : field.shown? word = some shown) (hc : c ∈ shown) :
    c ∈ alphabet ∨ ∃ name ∈ field.names, c ∈ name := by
  cases field with
  | flag bit inverted name =>
    rw [shown?] at h
    split at h
    · obtain rfl := Option.some.inj h
      exact .inr ⟨_, List.mem_singleton_self _, hc⟩
    · cases h
  | range first last name labels =>
    obtain rfl := Option.some.inj h
    rcases List.mem_append.mp hc with hname | hvalue
    · exact .inr ⟨name, List.mem_cons_self, hname⟩
    rcases List.mem_cons.mp hvalue with rfl | hlabel
    · exact .inl (by decide)
    split at hlabel
    · rename_i label hfound
      exact .inr ⟨label.2, List.mem_cons_of_mem _
        (List.mem_map_of_mem (List.mem_of_find?_eq_some hfound)), hlabel⟩
    · exact .inl (mem_alphabet_of_mem_hex hlabel)

/-- What stands between texts, and the texts. -/
theorem mem_of_mem_intercalate {separator : Text} {texts : List Text} {c : Char}
    (h : c ∈ separator.intercalate texts) : c ∈ separator ∨ ∃ text ∈ texts, c ∈ text := by
  induction texts with
  | nil => cases h
  | cons first texts ih =>
    cases texts with
    | nil => exact .inr ⟨first, List.mem_cons_self, by simpa using h⟩
    | cons second texts =>
      rw [List.intercalate_cons_cons, List.mem_append, List.mem_append] at h
      rcases h with (hfirst | hseparator) | hrest
      · exact .inr ⟨first, List.mem_cons_self, hfirst⟩
      · exact .inl hseparator
      · refine (ih hrest).imp_right ?_
        rintro ⟨text, hmem, hc⟩
        exact ⟨text, List.mem_cons_of_mem _ hmem, hc⟩

namespace Bitset

theorem mem_of_mem_text {descriptor : Bitset} {word : UInt32} {c : Char}
    (h : c ∈ descriptor.text word) :
    c ∈ alphabet ∨ ∃ field ∈ descriptor.fields, ∃ name ∈ field.names, c ∈ name := by
  have hmark : ['<', '>', ',', ' '] ⊆ alphabet := by decide
  rw [text, List.cons_append, List.mem_cons, List.mem_append] at h
  rcases h with rfl | hentries | hclose
  · exact .inl (hmark (by simp))
  · rcases mem_of_mem_intercalate hentries with hseparator | ⟨shown, hshown, hc⟩
    · exact .inl (hmark (List.mem_cons_of_mem _ (List.mem_cons_of_mem _ hseparator)))
    · obtain ⟨field, hfield, hshown⟩ := List.mem_filterMap.mp hshown
      refine (BitField.mem_of_mem_shown hshown hc).imp_right ?_
      rintro ⟨name, hname, hc⟩
      exact ⟨field, hfield, name, hname, hc⟩
  · obtain rfl := List.mem_singleton.mp hclose
    exact .inl (hmark (by simp))

/-- The names of an entry stand in it. -/
theorem Entry.mem_spelling {form : Entry} {name : Text} (hname : name ∈ form.field.names) {c : Char}
    (hc : c ∈ name) : c ∈ form.spelling := by
  cases form with
  | flag inverted bit flagName =>
    obtain rfl := List.mem_singleton.mp hname
    simp [Entry.spelling, hc]
  | range first last rangeName labels =>
    rcases List.mem_cons.mp hname with rfl | hlabel
    · simp [Entry.spelling, hc]
    · rw [List.map_map] at hlabel
      obtain ⟨label, hmem, rfl⟩ := List.mem_map.mp hlabel
      have hspelling : c ∈ label.spelling := by
        simp only [Function.comp_apply, Labelled.pair] at hc
        simp [Labelled.spelling, hc]
      exact List.mem_append_right _ (List.mem_flatMap.mpr ⟨label, hmem, hspelling⟩)

/-- The entries of a descriptor stand in it. -/
theorem Body.mem_spelling {body : Body} {form : Entry} (hform : form ∈ body.entries) {c : Char}
    (hc : c ∈ form.spelling) : c ∈ body.spelling := by
  obtain ⟨leading, entries, trailing⟩ := body
  cases entries with
  | nil => cases hform
  | cons first entries =>
    rw [Body.spelling_cons]
    refine List.mem_append_right _ ?_
    rcases List.mem_cons.mp hform with rfl | hform
    · exact List.mem_append_left _ hc
    · exact List.mem_append_right _ (List.mem_append_left _
        (List.mem_flatMap.mpr ⟨form, hform, List.mem_cons_of_mem _ hc⟩))

/-- The names that a descriptor can show stand in its text. -/
theorem mem_of_mem_fields {body : Text} {offset : Nat} {bitset : Bitset}
    (h : parse body offset = .ok bitset) {field : BitField} (hfield : field ∈ bitset.fields)
    {name : Text} (hname : name ∈ field.names) {c : Char} (hc : c ∈ name) : c ∈ body := by
  obtain ⟨left, hdescriptor⟩ := parse_eq_ok_iff.mp h
  obtain ⟨form, -, rfl, -, hfields⟩ := descriptor_eq_ok_iff.mp hdescriptor
  rw [hfields] at hfield
  obtain ⟨entry, hentry, rfl⟩ := List.mem_map.mp hfield
  exact Body.mem_spelling hentry (Entry.mem_spelling hname hc)

end Bitset

/-! ### Segments and their spelling -/

theorem Derives.mem_spelling {text : Text} {pieces : List Piece} (h : Derives text pieces)
    {piece : Piece} (hpiece : piece ∈ pieces) :
    piece.WellFormed ∧ ∀ c ∈ piece.spelling, c ∈ text := by
  induction h with
  | nil => cases hpiece
  | cons hwf _ _ ih =>
    rcases List.mem_cons.mp hpiece with rfl | hpiece
    · exact ⟨hwf, fun c hc => List.mem_append_left _ hc⟩
    · obtain ⟨hwf, hmem⟩ := ih hpiece
      exact ⟨hwf, fun c hc => List.mem_append_right _ (hmem c hc)⟩

/-- A segment is that of a piece of which the characters stand in the template. -/
theorem exists_piece_of_mem {template : Text} {segment : Segment}
    (h : segment ∈ segmentsOf template) :
    ∃ piece : Piece, piece.WellFormed ∧ segment = piece.segment ∧
      ∀ c ∈ piece.spelling, c ∈ template := by
  obtain ⟨rest, hreads, -⟩ := exists_reads_segmentsOf template
  obtain ⟨front, pieces, htemplate, hderives, hsegments⟩ := hreads.exists_derives
  rw [hsegments] at h
  obtain ⟨piece, hpiece, rfl⟩ := List.mem_map.mp h
  obtain ⟨hwf, hmem⟩ := hderives.mem_spelling hpiece
  refine ⟨piece, hwf, rfl, fun c hc => ?_⟩
  rw [htemplate]
  exact List.mem_append_left _ (hmem c hc)

theorem mem_of_mem_literal {template text : Text} (h : .literal text ∈ segmentsOf template)
    {c : Char} (hc : c ∈ text) : c ∈ template := by
  obtain ⟨piece, -, hsegment, hmem⟩ := exists_piece_of_mem h
  cases piece with
  | run run =>
    cases hsegment
    exact hmem c hc
  | percent =>
    cases hsegment
    exact hmem c (List.mem_cons_of_mem _ hc)
  | specification padding width tail => cases hsegment

theorem mem_of_mem_bitset {template : Text} {descriptor : Bitset}
    (h : .bitset descriptor ∈ conversionsOf template) {field : BitField}
    (hfield : field ∈ descriptor.fields) {name : Text} (hname : name ∈ field.names) {c : Char}
    (hc : c ∈ name) : c ∈ template := by
  obtain ⟨segment, hsegment, hconversion⟩ := List.mem_filterMap.mp h
  obtain ⟨piece, hwf, rfl, hmem⟩ := exists_piece_of_mem hsegment
  cases piece with
  | run | percent => cases hconversion
  | specification padding width tail =>
    cases tail with
    | integer | string | char | pointer | busAddress => cases hconversion
    | bitset body descriptor =>
      cases hconversion
      have hbody : c ∈ body := Bitset.mem_of_mem_fields hwf.2.2.2 hfield hname hc
      exact hmem c (by simp [Piece.spelling, Tail.spelling, hbody])

/-! ### Provenance -/

section

variable {template : Text} {args : List Arg}

theorem allTraced_of_alphabet {text : Text} (h : ∀ c ∈ text, c ∈ alphabet) :
    AllTraced template args (utf8 text) :=
  allTraced_of_chars fun c hc => .inl (h c hc)

theorem AllTraced.pad {sign body : Bytes} (hsign : AllTraced template args sign)
    (hbody : AllTraced template args body) (layout : FieldLayout) :
    AllTraced template args (layout.pad sign body) := by
  refine layout.pad_of AllTraced.append (fun n => ⟨?_, ?_⟩) hsign hbody
  · intro byte hbyte
    obtain rfl := (List.mem_replicate.mp hbyte).2
    exact .inl (by decide)
  · intro byte hbyte
    obtain rfl := (List.mem_replicate.mp hbyte).2
    exact .inl (by decide)

/-- What a conversion makes of its argument. -/
theorem allTraced_render? {i : Nat} {conversion : Conversion} {arg : Arg} {bytes : Bytes}
    (hconversion : (conversionsOf template)[i]? = some conversion)
    (harg : args[i]? = some arg) (h : conversion.render? arg = some bytes) :
    AllTraced template args bytes := by
  obtain ⟨body, hbody, rfl⟩ := Option.map_eq_some_iff.mp h
  refine (allTraced_of_alphabet fun c => mem_alphabet_of_mem_mark).append ?_
  clear h
  cases conversion with
  | integer layout size style =>
    cases arg <;> cases hbody
    exact .pad (allTraced_of_alphabet fun c hc => mem_alphabet_of_mem_text (.inl hc))
      (allTraced_of_alphabet fun c hc => mem_alphabet_of_mem_text (.inr hc)) layout
  | string layout =>
    cases arg <;> cases hbody
    exact .pad (by simp [AllTraced])
      (fun byte hbyte => .inr (.string (List.mem_of_getElem? harg) hbyte)) layout
  | char =>
    intro byte hbyte
    cases arg with
    | integer raw =>
      cases hbody
      exact .inr (.lowByte hconversion harg (List.mem_singleton.mp hbyte).symm)
    | char other =>
      cases hbody
      obtain rfl := List.mem_singleton.mp hbyte
      exact .inr (.char hconversion harg)
    | string | pointer | busAddress => cases hbody
  | pointer letters | busAddress letters =>
    cases arg <;> cases hbody
    exact allTraced_of_alphabet fun c => mem_alphabet_of_mem_hex
  | bitset descriptor =>
    cases arg <;> cases hbody
    refine allTraced_of_chars fun c hc => (Bitset.mem_of_mem_text hc).imp_right ?_
    rintro ⟨field, hfield, name, hname, hc⟩
    exact mem_of_mem_bitset (List.mem_of_getElem? hconversion) hfield hname hc

/-- **Provenance.**  Whether or not a rendering succeeds, each byte of its output is one of the
alphabet or has come in with the call. -/
theorem allTraced_output : AllTraced template args (render template args).output :=
  made_output {
    nil := by simp [AllTraced]
    append := AllTraced.append
    literal := fun hmem => allTraced_of_chars fun c hc => .inr (mem_of_mem_literal hmem hc)
    mark := fun _ => allTraced_of_alphabet fun c => mem_alphabet_of_mem_mark
    render := allTraced_render? }

end

end DriverPrintf
