import LoadProbe.Text.Utf8

/-!
Bytes of ASCII characters: each is one byte, which stands for nothing else in a text. Main statements:
`exists_of_encode_eq_append` and `mem_of_mem_encode`.
-/
namespace LoadProbe.Text

/-- The characters that bytes stand for one by one. -/
def latin (bytes : List UInt8) : List Char := bytes.map fun byte => Char.ofNat byte.toNat

theorem utf8EncodeChar_ascii {c : Char} (ascii : c.toNat < 128) :
    String.utf8EncodeChar c = [UInt8.ofNat c.toNat] := by
  rw [String.utf8EncodeChar]
  exact if_pos (Nat.le_of_lt_succ ascii)

theorem encode_cons_ascii {c : Char} (ascii : c.toNat < 128) (text : List Char) :
    encode (c :: text) = UInt8.ofNat c.toNat :: encode text := by
  rw [encode, List.flatMap_cons, utf8EncodeChar_ascii ascii]
  rfl

theorem latin_encode {text : List Char} (ascii : ∀ c ∈ text, c.toNat < 128) :
    latin (encode text) = text := by
  induction text with
  | nil => rfl
  | cons c rest ih =>
    have first : c.toNat < 128 := ascii c List.mem_cons_self
    have small : c.toNat < UInt8.size := Nat.lt_trans first (by decide)
    have same : Char.ofNat (UInt8.ofNat c.toNat).toNat = c := by
      rw [UInt8.toNat_ofNat_of_lt' small, Char.ofNat_toNat]
    rw [encode_cons_ascii first, latin, List.map_cons, same]
    exact congrArg (c :: ·) (ih fun d member => ascii d (List.mem_cons_of_mem c member))

/-- All bytes of a character that is not ASCII are beyond ASCII. -/
theorem toNat_of_mem_utf8EncodeChar {c : Char} {byte : UInt8} (small : byte.toNat < 128)
    (member : byte ∈ String.utf8EncodeChar c) : c.toNat = byte.toNat := by
  have known : c.toNat = c.val.toNat := rfl
  unfold String.utf8EncodeChar at member
  dsimp only at member
  split at member
  · rw [List.mem_singleton] at member
    subst member
    rw [UInt8.toNat_ofNat'] at small ⊢
    omega
  · exfalso
    split at member
    · simp only [List.mem_cons, List.not_mem_nil, or_false] at member
      rcases member with rfl | rfl <;> rw [UInt8.toNat_ofNat'] at small <;> omega
    · split at member
      · simp only [List.mem_cons, List.not_mem_nil, or_false] at member
        rcases member with rfl | rfl | rfl <;> rw [UInt8.toNat_ofNat'] at small <;> omega
      · simp only [List.mem_cons, List.not_mem_nil, or_false] at member
        rcases member with rfl | rfl | rfl | rfl <;> rw [UInt8.toNat_ofNat'] at small <;> omega

/-- An ASCII byte of a text is a character of it. -/
theorem mem_of_mem_encode {text : List Char} {c : Char} (ascii : c.toNat < 128)
    (member : UInt8.ofNat c.toNat ∈ encode text) : c ∈ text := by
  have small : c.toNat < UInt8.size := Nat.lt_trans ascii (by decide)
  have value : (UInt8.ofNat c.toNat).toNat = c.toNat := UInt8.toNat_ofNat_of_lt' small
  obtain ⟨d, found, inside⟩ := List.mem_flatMap.mp member
  have same := toNat_of_mem_utf8EncodeChar (by rwa [value]) inside
  rw [value, Char.toNat_inj] at same
  exact same ▸ found

/-- A text whose bytes begin with those of ASCII characters begins with these. -/
theorem exists_of_encode_eq_append {front : List Char} (ascii : ∀ c ∈ front, c.toNat < 128)
    {text : List Char} {bytes : List UInt8} (same : encode text = encode front ++ bytes) :
    ∃ back, text = front ++ back ∧ encode back = bytes := by
  induction front generalizing text with
  | nil => exact ⟨text, rfl, same⟩
  | cons c rest ih =>
    have first : c.toNat < 128 := ascii c List.mem_cons_self
    have small : c.toNat < UInt8.size := Nat.lt_trans first (by decide)
    have value : (UInt8.ofNat c.toNat).toNat = c.toNat := UInt8.toNat_ofNat_of_lt' small
    rw [encode_cons_ascii first, List.cons_append] at same
    cases text with
    | nil => cases same
    | cons d more =>
      obtain ⟨byte, others, bytes⟩ := List.exists_cons_of_ne_nil (String.utf8EncodeChar_ne_nil (c := d))
      have head : byte = UInt8.ofNat c.toNat := by
        rw [encode, List.flatMap_cons, bytes] at same
        exact (List.cons.inj same).1
      have equal : d = c := by
        have inside : byte ∈ String.utf8EncodeChar d := bytes ▸ List.mem_cons_self
        have code := toNat_of_mem_utf8EncodeChar (by rwa [head, value]) inside
        rwa [head, value, Char.toNat_inj] at code
      subst equal
      rw [encode_cons_ascii first] at same
      obtain ⟨back, rfl, later⟩ := ih (fun e member => ascii e (List.mem_cons_of_mem d member))
        (List.cons.inj same).2
      exact ⟨back, rfl, later⟩

end LoadProbe.Text
