import LoadProbe.Header
import LoadProbe.Proofs.Text.Blank

/-!
What a field of a request reads as. Only the first field of a name counts; it reads as its bytes
between spaces and tabs if all of it is printable. Main statements: `field?_eq_some_iff`, and that
neither fields of other names nor repeats of a name matter.
-/
namespace LoadProbe

/-- Names are compared character by character, whatever their case. -/
theorem sameName_eq (left right : String) :
    sameName left right = (left.toList.map Char.toLower == right.toList.map Char.toLower) := by
  change (left.map Char.toLower == right.map Char.toLower) = _
  simp [← String.toList_inj]

theorem sameName_refl (name : String) : sameName name name = true := beq_self_eq_true _

theorem sameName_symm {left right : String} (same : sameName left right = true) :
    sameName right left = true := by
  simp only [sameName, beq_iff_eq] at *
  exact same.symm

theorem sameName_trans {left middle right : String} (first : sameName left middle = true)
    (second : sameName middle right = true) : sameName left right = true := by
  simp only [sameName, beq_iff_eq] at *
  exact first.trans second

namespace Header

/-- The spaces and tabs that values are trimmed of. -/
def isGap (byte : UInt8) : Bool := byte == 9 || byte == 32

/-- The text of bytes below 128. -/
def ascii (bytes : List UInt8) : List Char := bytes.map fun byte => Char.ofNat byte.toNat

/-- Among readable bytes only the gaps are blank. -/
theorem isBlank_ofNat {byte : UInt8} (readable : isReadable byte = true) :
    Text.isBlank (Char.ofNat byte.toNat) = isGap byte := by
  have all : ∀ n ∈ List.range UInt8.size, isReadable (UInt8.ofNat n) = true →
      Text.isBlank (Char.ofNat (UInt8.ofNat n).toNat) = isGap (UInt8.ofNat n) := by decide +kernel
  have told := all byte.toNat (List.mem_range.mpr byte.toNat_lt_size)
  rw [UInt8.ofNat_toNat] at told
  exact told readable

theorem isReadable_iff {byte : UInt8} :
    isReadable byte = true ↔ byte = 9 ∨ 0x20 ≤ byte ∧ byte ≤ 0x7e := by
  have all : ∀ n ∈ List.range UInt8.size, isReadable (UInt8.ofNat n) = true ↔
      UInt8.ofNat n = 9 ∨ 0x20 ≤ UInt8.ofNat n ∧ UInt8.ofNat n ≤ 0x7e := by decide +kernel
  have told := all byte.toNat (List.mem_range.mpr byte.toNat_lt_size)
  rwa [UInt8.ofNat_toNat] at told

end Header

namespace Headers

open Header (isGap isReadable ascii)

/-- The first field of a name stands behind fields of other names only. -/
def First (headers : Headers) (name : String) (header : Header) : Prop :=
  ∃ before after, headers = before ++ header :: after ∧ sameName header.name name = true ∧
    ∀ earlier ∈ before, sameName earlier.name name = false

/-- A value of printable bytes that reads as a text: what is left of it between spaces and tabs,
if that is anything. -/
structure Reading (bytes : List UInt8) (text : List Char) : Prop where
  readable : ∀ byte ∈ bytes, byte = 9 ∨ 0x20 ≤ byte ∧ byte ≤ 0x7e
  trimmed : ∃ front core back, bytes = front ++ core ++ back ∧ text = ascii core ∧ core ≠ [] ∧
    (∀ byte ∈ front, isGap byte = true) ∧ (∀ byte ∈ back, isGap byte = true) ∧
    (∀ byte ∈ core.head?, isGap byte = false) ∧ ∀ byte ∈ core.getLast?, isGap byte = false

/-- The text that a name reads as in the fields of a request. -/
def Reads (headers : Headers) (name : String) (text : List Char) : Prop :=
  ∃ header, headers.First name header ∧ Reading header.value text

theorem first_iff {headers : Headers} {name : String} {header : Header} :
    headers.First name header ↔
      headers.find? (fun header => sameName header.name name) = some header := by
  rw [List.find?_eq_some_iff_append]
  constructor
  · rintro ⟨before, after, whole, same, others⟩
    exact ⟨same, before, after, whole, fun earlier member => by simp [others earlier member]⟩
  · rintro ⟨same, before, after, whole, others⟩
    exact ⟨before, after, whole, same, fun earlier member => by simpa using others earlier member⟩

/-- What a printable text is trimmed to, told by its bytes. -/
theorem trim_ascii_eq_iff {bytes : List UInt8} {text : List Char}
    (printed : ∀ byte ∈ bytes, isReadable byte = true) :
    Text.trim (ascii bytes) = text ↔
      ∃ front core back, bytes = front ++ core ++ back ∧ text = ascii core ∧
        (∀ byte ∈ front, isGap byte = true) ∧ (∀ byte ∈ back, isGap byte = true) ∧
        (∀ byte ∈ core.head?, isGap byte = false) ∧
        ∀ byte ∈ core.getLast?, isGap byte = false := by
  have blank : ∀ byte ∈ bytes, Text.isBlank (Char.ofNat byte.toNat) = isGap byte :=
    fun byte member => Header.isBlank_ofNat (printed byte member)
  rw [Text.trim_eq_iff]
  constructor
  · rintro ⟨front, back, cut, before, behind, start, finish⟩
    obtain ⟨most, right, rfl, cutMost, rfl⟩ := List.map_eq_append_iff.mp cut
    obtain ⟨left, core, rfl, rfl, rfl⟩ := List.map_eq_append_iff.mp cutMost
    refine ⟨left, core, right, rfl, rfl, ?_, ?_, ?_, ?_⟩
    · intro byte member
      rw [← blank byte (by simp [member])]
      exact before _ (List.mem_map_of_mem member)
    · intro byte member
      rw [← blank byte (by simp [member])]
      exact behind _ (List.mem_map_of_mem member)
    · intro byte first
      rw [← blank byte (by simp [List.mem_of_head? first])]
      exact start _ (by rw [List.head?_map, Option.mem_def.mp first]; rfl)
    · intro byte last
      rw [← blank byte (by simp [List.mem_of_getLast? last])]
      exact finish _ (by rw [List.getLast?_map, Option.mem_def.mp last]; rfl)
  · rintro ⟨front, core, back, rfl, rfl, before, behind, start, finish⟩
    refine ⟨ascii front, ascii back, by simp [ascii], ?_, ?_, ?_, ?_⟩
    · intro c member
      obtain ⟨byte, inside, rfl⟩ := List.mem_map.mp member
      rw [blank byte (by simp [inside]), before byte inside]
    · intro c member
      obtain ⟨byte, inside, rfl⟩ := List.mem_map.mp member
      rw [blank byte (by simp [inside]), behind byte inside]
    · intro c first
      rw [ascii, List.head?_map] at first
      obtain ⟨byte, head, rfl⟩ := Option.map_eq_some_iff.mp first
      rw [blank byte (by simp [List.mem_of_head? head]), start byte head]
    · intro c last
      rw [ascii, List.getLast?_map] at last
      obtain ⟨byte, tail, rfl⟩ := Option.map_eq_some_iff.mp last
      rw [blank byte (by simp [List.mem_of_getLast? tail]), finish byte tail]

theorem text?_eq_some_iff {header : Header} {whole : List Char} :
    header.text? = some whole ↔
      (∀ byte ∈ header.value, isReadable byte = true) ∧ ascii header.value = whole := by
  rw [Header.text?, ← List.all_eq_true]
  split
  · next printed => simp [printed, ascii]
  · next unreadable => simp [unreadable]

/-- The program's reading of a value: its text, if there is one, trimmed to something. -/
theorem reading_iff {header : Header} {text : List Char} :
    Reading header.value text ↔
      (header.text?.bind fun whole =>
        if Text.trim whole = [] then none else some (Text.trim whole)) = some text := by
  rw [Option.bind_eq_some_iff]
  constructor
  · rintro ⟨readable, front, core, back, whole, rfl, some, before, behind, start, finish⟩
    have printed : ∀ byte ∈ header.value, isReadable byte = true :=
      fun byte member => Header.isReadable_iff.mpr (readable byte member)
    have trimmed := (trim_ascii_eq_iff printed).mpr
      ⟨front, core, back, whole, rfl, before, behind, start, finish⟩
    refine ⟨_, text?_eq_some_iff.mpr ⟨printed, rfl⟩, ?_⟩
    rw [trimmed, if_neg (by simpa [ascii] using some)]
  · rintro ⟨whole, told, rest⟩
    obtain ⟨printed, rfl⟩ := text?_eq_some_iff.mp told
    split at rest
    · cases rest
    · next nonempty =>
      obtain ⟨front, core, back, cut, same, ends⟩ :=
        (trim_ascii_eq_iff printed).mp (Option.some.inj rest)
      refine ⟨fun byte member => Header.isReadable_iff.mp (printed byte member), front, core, back,
        cut, same, ?_, ends⟩
      rintro rfl
      rw [Option.some.inj rest, same] at nonempty
      exact nonempty rfl

/-- A name reads as a text exactly if that is the reading of the first field of the name. -/
theorem field?_eq_some_iff {headers : Headers} {name : String} {text : List Char} :
    headers.field? name = some text ↔ headers.Reads name text := by
  unfold field? Reads
  rw [Option.bind_assoc, Option.bind_eq_some_iff]
  simp only [first_iff, reading_iff]

/-- Fields of other names do not matter. -/
theorem field?_filter (headers : Headers) {name : String} {keep : Header → Bool}
    (kept : ∀ header, sameName header.name name = true → keep header = true) :
    Headers.field? (headers.filter keep) name = headers.field? name := by
  have found : (headers.filter keep).find? (fun header => sameName header.name name) =
      headers.find? (fun header => sameName header.name name) := by
    rw [List.find?_filter]
    congr 1
    funext header
    by_cases same : sameName header.name name = true
    · simp [same, kept header same]
    · simp [same]
  rw [field?, found, field?]

/-- A repeat of a name that came before does not matter. -/
theorem field?_repeat (front back : Headers) (name : String) {header earlier : Header}
    (member : earlier ∈ front) (same : sameName earlier.name header.name = true) :
    Headers.field? (front ++ header :: back) name = Headers.field? (front ++ back) name := by
  have found : (front ++ header :: back).find? (fun header => sameName header.name name) =
      (front ++ back).find? (fun header => sameName header.name name) := by
    rw [List.find?_append, List.find?_append]
    by_cases named : sameName header.name name = true
    · obtain ⟨first, hit⟩ : ∃ first, front.find? (fun header => sameName header.name name) =
          some first := by
        apply Option.isSome_iff_exists.mp
        rw [List.find?_isSome]
        exact ⟨earlier, member, sameName_trans same named⟩
      rw [hit, Option.some_or, Option.some_or]
    · simp [named]
  rw [field?, found, field?]

end Headers
end LoadProbe
