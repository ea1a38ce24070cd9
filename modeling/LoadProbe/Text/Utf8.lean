/-!
Texts as bytes in UTF-8, and back where the bytes are valid. Main statement: `decode?_eq_some_iff`,
each text has bytes of its own.
-/
namespace LoadProbe.Text

def encode (text : List Char) : List UInt8 := text.flatMap String.utf8EncodeChar

/-- The text of bytes, if they are valid. -/
def decode? (bytes : List UInt8) : Option (List Char) :=
  (String.fromUTF8? (ByteArray.mk bytes.toArray)).map String.toList

theorem utf8Encode_eq (text : List Char) :
    text.utf8Encode = ByteArray.mk (encode text).toArray := by
  rw [List.utf8Encode, encode]
  apply ByteArray.ext
  simp

/-- A list of bytes is built from the front, the latest byte first. -/
theorem toList_loop (bytes : ByteArray) (i : Nat) (before : List UInt8) :
    ByteArray.toList.loop bytes i before = before.reverse ++ bytes.data.toList.drop i := by
  induction i, before using ByteArray.toList.loop.induct bytes with
  | case1 i before more ih =>
    have here : i < bytes.data.toList.length := by simpa using more
    rw [ByteArray.toList.loop, if_pos more, ih, List.drop_eq_getElem_cons here]
    simp [ByteArray.get!, more]
  | case2 i before done =>
    have nothing : bytes.data.toList.drop i = [] :=
      List.drop_eq_nil_iff.mpr (by simpa using done)
    rw [ByteArray.toList.loop, if_neg done, nothing, List.append_nil]

theorem toList_toUTF8 (text : List Char) : (String.ofList text).toUTF8.toList = encode text := by
  rw [ByteArray.toList, toList_loop]
  simp [utf8Encode_eq]

/-- Bytes that are the bytes of a text are read as that text. -/
theorem decode?_encode (text : List Char) : decode? (encode text) = some text := by
  have valid : (ByteArray.mk (encode text).toArray).IsValidUTF8 := ⟨text, (utf8Encode_eq text).symm⟩
  have same : String.fromUTF8 _ valid = String.ofList text := by
    rw [← String.toByteArray_inj]
    simp [String.fromUTF8, utf8Encode_eq]
  simp [decode?, String.fromUTF8?, dif_pos valid, same]

theorem decode?_eq_some_iff {bytes : List UInt8} {text : List Char} :
    decode? bytes = some text ↔ bytes = encode text := by
  constructor
  · intro decoded
    by_cases valid : (ByteArray.mk bytes.toArray).IsValidUTF8
    · obtain ⟨chars, known⟩ := valid
      have same : bytes = encode chars := by
        rw [utf8Encode_eq] at known
        simpa using known
      subst same
      rw [decode?_encode] at decoded
      rw [Option.some.inj decoded]
    · simp [decode?, String.fromUTF8?, dif_neg valid] at decoded
  · rintro rfl
    exact decode?_encode text

theorem encode_injective {first second : List Char} (same : encode first = encode second) :
    first = second := by
  have decoded := decode?_encode first
  rw [same, decode?_encode] at decoded
  exact (Option.some.inj decoded).symm

end LoadProbe.Text
