import LoadProbe.Proofs.Header
import LoadProbe.Proofs.Numeral.Written
import LoadProbe.Text.Utf8
import Mathlib.Data.List.Forall2

/-!
Fields that hold written numbers, in any order and with spaces and tabs around the numbers. Main
statements: `reading_of_pads`, that a padded number reads as the number, and `field?_of_reading`.
-/
namespace LoadProbe

namespace Header

/-- A field as another one, but for the case of the name and for spaces and tabs around the value. -/
structure Pads (padded plain : Header) : Prop where
  name : sameName padded.name plain.name = true
  value : ∃ front back, padded.value = front ++ plain.value ++ back ∧
    (∀ byte ∈ front, isGap byte = true) ∧ ∀ byte ∈ back, isGap byte = true

/-- Each character of a written number is one printable byte. -/
theorem encode_written {text : List Char} (written : ∀ c ∈ text, c ∈ Numeral.alphabet) :
    Text.encode text = text.map fun c => UInt8.ofNat c.toNat := by
  rw [Text.encode, List.map_eq_flatMap]
  exact List.flatMap_congr fun c member => Numeral.of_mem_alphabet
    (fun c => String.utf8EncodeChar c = [UInt8.ofNat c.toNat]) (by decide) (written c member)

theorem ascii_encode {text : List Char} (written : ∀ c ∈ text, c ∈ Numeral.alphabet) :
    ascii (Text.encode text) = text := by
  have back {c : Char} (member : c ∈ text) : Char.ofNat (UInt8.ofNat c.toNat).toNat = c :=
    Numeral.of_mem_alphabet (fun c => Char.ofNat (UInt8.ofNat c.toNat).toNat = c) (by decide)
      (written c member)
  rw [encode_written written, ascii, List.map_map]
  calc text.map ((fun byte : UInt8 => Char.ofNat byte.toNat) ∘ fun c => UInt8.ofNat c.toNat)
      = text.map id := List.map_congr_left fun c member => back member
    _ = text := List.map_id text

theorem printable_of_mem_encode {text : List Char} (written : ∀ c ∈ text, c ∈ Numeral.alphabet)
    {byte : UInt8} (member : byte ∈ Text.encode text) : 0x21 ≤ byte ∧ byte ≤ 0x7e := by
  rw [encode_written written] at member
  obtain ⟨c, inside, rfl⟩ := List.mem_map.mp member
  exact Numeral.of_mem_alphabet
    (fun c => 0x21 ≤ UInt8.ofNat c.toNat ∧ UInt8.ofNat c.toNat ≤ 0x7e) (by decide) (written c inside)

theorem value_ofText (name : String) (text : List Char) :
    (ofText name (String.ofList text)).value = Text.encode text :=
  Text.toList_toUTF8 text

theorem isGap_of_printable {byte : UInt8} (printable : 0x21 ≤ byte) : isGap byte = false := by
  have notTab : byte ≠ 9 := by rintro rfl; exact absurd printable (by decide)
  have notSpace : byte ≠ 32 := by rintro rfl; exact absurd printable (by decide)
  simp [isGap, notTab, notSpace]

/-- A gap is readable, so that padding does not spoil a value. -/
theorem readable_of_isGap {byte : UInt8} (gap : isGap byte = true) :
    byte = 9 ∨ 0x20 ≤ byte ∧ byte ≤ 0x7e := by
  simp only [isGap, Bool.or_eq_true, beq_iff_eq] at gap
  rcases gap with rfl | rfl
  · exact .inl rfl
  · exact .inr (by decide)

/-- A padded number reads as the number. -/
theorem reading_of_pads {padded : Header} {name : String} {text : List Char} (nonempty : text ≠ [])
    (written : ∀ c ∈ text, c ∈ Numeral.alphabet)
    (pads : Pads padded (ofText name (String.ofList text))) :
    Headers.Reading padded.value text := by
  obtain ⟨front, back, whole, before, behind⟩ := pads.value
  rw [value_ofText] at whole
  have ink {byte : UInt8} (member : byte ∈ Text.encode text) : isGap byte = false :=
    isGap_of_printable (printable_of_mem_encode written member).1
  have some : Text.encode text ≠ [] := by
    rw [encode_written written]
    exact mt List.map_eq_nil_iff.mp nonempty
  refine ⟨?_, front, Text.encode text, back, whole, (ascii_encode written).symm, some, before,
    behind, fun byte first => ink (List.mem_of_head? first),
    fun byte last => ink (List.mem_of_getLast? last)⟩
  intro byte member
  rw [whole, List.append_assoc] at member
  rcases List.mem_append.mp member with gap | rest
  · exact readable_of_isGap (before byte gap)
  rcases List.mem_append.mp rest with inside | gap
  · obtain ⟨low, high⟩ := printable_of_mem_encode written inside
    exact .inr ⟨UInt8.le_trans (by decide) low, high⟩
  · exact readable_of_isGap (behind byte gap)

theorem Pads.refl (header : Header) : Pads header header :=
  ⟨sameName_refl header.name, [], [], by simp, by simp, by simp⟩

/-- A written number is a readable value as it stands. -/
theorem text?_ofText (name : String) {text : List Char}
    (written : ∀ c ∈ text, c ∈ Numeral.alphabet) :
    (ofText name (String.ofList text)).text? = some text := by
  rw [Headers.text?_eq_some_iff, value_ofText]
  refine ⟨fun byte member => ?_, ascii_encode written⟩
  obtain ⟨low, high⟩ := printable_of_mem_encode written member
  exact isReadable_iff.mpr (.inr ⟨UInt8.le_trans (by decide) low, high⟩)

end Header

namespace Headers

/-- The given fields in some order, each perhaps padded. -/
def Rearranges (headers plain : Headers) : Prop :=
  ∃ shuffled, shuffled.Perm plain ∧ List.Forall₂ Header.Pads headers shuffled

private theorem exists_related {α β : Type} {R : α → β → Prop} {as : List α} {bs : List β}
    (related : List.Forall₂ R as bs) {a : α} (member : a ∈ as) : ∃ b ∈ bs, R a b := by
  induction related with
  | nil => exact absurd member List.not_mem_nil
  | cons first _ ih =>
    rcases List.mem_cons.mp member with rfl | later
    · exact ⟨_, List.mem_cons_self, first⟩
    · obtain ⟨b, found, holds⟩ := ih later
      exact ⟨b, List.mem_cons_of_mem _ found, holds⟩

theorem Rearranges.exists_plain {headers plain : Headers} (rearranges : headers.Rearranges plain)
    {header : Header} (member : header ∈ headers) : ∃ original ∈ plain, header.Pads original := by
  obtain ⟨shuffled, perm, pads⟩ := rearranges
  obtain ⟨original, listed, padded⟩ := exists_related pads member
  exact ⟨original, perm.mem_iff.mp listed, padded⟩

theorem Rearranges.exists_padded {headers plain : Headers} (rearranges : headers.Rearranges plain)
    {original : Header} (member : original ∈ plain) :
    ∃ header ∈ headers, header.Pads original := by
  obtain ⟨shuffled, perm, pads⟩ := rearranges
  have padded : List.Forall₂ (flip Header.Pads) shuffled headers := pads.flip
  exact exists_related padded (perm.mem_iff.mpr member)

/-- A name reads as a text if all fields of the name do, and there is one. -/
theorem field?_of_reading {headers : Headers} {name : String} {text : List Char}
    (named : ∃ header ∈ headers, sameName header.name name = true)
    (reads : ∀ header ∈ headers, sameName header.name name = true → Reading header.value text) :
    headers.field? name = some text := by
  rw [field?_eq_some_iff]
  cases found : headers.find? fun header => sameName header.name name with
  | none =>
    obtain ⟨header, member, same⟩ := named
    exact absurd same (List.find?_eq_none.mp found header member)
  | some first =>
    have same : sameName first.name name = true := by simpa using List.find?_some found
    exact ⟨first, first_iff.mpr found, reads first (List.mem_of_find?_eq_some found) same⟩

theorem field?_eq_none_of_unnamed {headers : Headers} {name : String}
    (unnamed : ∀ header ∈ headers, ¬ sameName header.name name = true) :
    headers.field? name = none := by
  rw [field?, List.find?_eq_none.mpr unnamed]
  rfl

end Headers
end LoadProbe
