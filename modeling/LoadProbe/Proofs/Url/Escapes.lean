import LoadProbe.Text.Utf8
import LoadProbe.Url.Percent

/-!
What percent escapes keep of a text. Unescaping does not see whether a text was escaped before; it
gives back the bytes of the text exactly if no escape stands in it. Main statements:
`unescape_escape` and `unescape_eq_encode_iff`.
-/
namespace LoadProbe.Url

/-- Whether a set leaves the characters of escapes alone. -/
def Spares (escaped : Char → Bool) : Prop :=
  escaped '%' = false ∧ ∀ c, (Numeral.digit? 16 c).isSome → escaped c = false

theorem le_iff_toNat_le {a b : Char} : a ≤ b ↔ a.toNat ≤ b.toNat := by
  rw [Char.le_def, UInt32.le_iff_toNat_le]
  rfl

/-- The hexadecimal digits in either case. -/
def hexDigits : List Char :=
  ['0', '1', '2', '3', '4', '5', '6', '7', '8', '9', 'a', 'b', 'c', 'd', 'e', 'f',
    'A', 'B', 'C', 'D', 'E', 'F']

theorem mem_hexDigits {c : Char} (digit : (Numeral.digit? 16 c).isSome) : c ∈ hexDigits := by
  have ranges : 48 ≤ c.toNat ∧ c.toNat ≤ 57 ∨ 97 ≤ c.toNat ∧ c.toNat ≤ 102 ∨
      65 ≤ c.toNat ∧ c.toNat ≤ 70 := by
    simp only [Numeral.digit?] at digit
    by_cases decimal : '0' ≤ c ∧ c ≤ '9'
    · left
      simpa [le_iff_toNat_le] using decimal
    · by_cases lower : 'a' ≤ c ∧ c ≤ 'f'
      · right; left
        simpa [le_iff_toNat_le] using lower
      · by_cases upper : 'A' ≤ c ∧ c ≤ 'F'
        · right; right
          simpa [le_iff_toNat_le] using upper
        · simp [decimal, lower, upper] at digit
  have all : ∀ n ∈ List.range 103, 48 ≤ n ∧ n ≤ 57 ∨ 97 ≤ n ∧ n ≤ 102 ∨ 65 ≤ n ∧ n ≤ 70 →
      Char.ofNat n ∈ hexDigits := by decide
  have found := all c.toNat (List.mem_range.mpr (by omega)) ranges
  rwa [Char.ofNat_toNat] at found

/-- A set spares what a larger one spares. -/
theorem Spares.mono {larger smaller : Char → Bool} (spares : Spares larger)
    (within : ∀ c, larger c = false → smaller c = false) : Spares smaller :=
  ⟨within _ spares.1, fun c digit => within c (spares.2 c digit)⟩

theorem inPath_of_inCredentials {c : Char} (free : inCredentials c = false) : inPath c = false := by
  simp only [inCredentials, Bool.or_eq_false_iff] at free
  exact free.1

theorem inFragment_of_inPath {c : Char} (free : inPath c = false) : inFragment c = false := by
  simp only [inPath, Bool.or_eq_false_iff] at free
  exact free.1

theorem inControls_of_inFragment {c : Char} (free : inFragment c = false) :
    inControls c = false := by
  simp only [inFragment, Bool.or_eq_false_iff] at free
  exact free.1

theorem spares_inCredentials : Spares inCredentials := by
  have percent : inCredentials '%' = false := by
    simp [inCredentials, inPath, inFragment, inControls, String.contains_char_eq]
  have digits : ∀ c ∈ hexDigits, inCredentials c = false := by
    simp [hexDigits, inCredentials, inPath, inFragment, inControls, String.contains_char_eq]
  exact ⟨percent, fun c digit => digits c (mem_hexDigits digit)⟩

theorem spares_inPath : Spares inPath :=
  spares_inCredentials.mono fun _ => inPath_of_inCredentials

theorem spares_inFragment : Spares inFragment :=
  spares_inPath.mono fun _ => inFragment_of_inPath

theorem spares_inControls : Spares inControls :=
  spares_inFragment.mono fun _ => inControls_of_inFragment

theorem inQuery_of_inPath {c : Char} (free : inPath c = false) : inQuery c = false := by
  simp only [inPath, inFragment, inQuery, String.contains_char_eq, Bool.or_eq_false_iff] at free ⊢
  simp at free ⊢
  simp [free]

theorem spares_inQuery : Spares inQuery :=
  spares_inPath.mono fun _ => inQuery_of_inPath

/-- A character that a set escapes is written by escapes of its bytes, any other one as it is. -/
theorem escape_cons (escaped : Char → Bool) (c : Char) (text : List Char) :
    escape escaped (c :: text) =
      (if c.toNat < 128 ∧ escaped c = false then [c]
        else (String.utf8EncodeChar c).flatMap escapeByte) ++ escape escaped text := by
  simp [escape]

theorem escape_eq_self {escaped : Char → Bool} {text : List Char}
    (plain : ∀ c ∈ text, c.toNat < 128 ∧ escaped c = false) : escape escaped text = text := by
  induction text with
  | nil => rfl
  | cons c rest ih =>
    rw [escape_cons, if_pos (plain c List.mem_cons_self),
      ih fun other member => plain other (List.mem_cons_of_mem c member)]
    rfl

theorem digit_isSome_upperHexDigit {digit : Nat} (small : digit < 16) :
    (Numeral.digit? 16 (upperHexDigit digit)).isSome := by
  rw [digit_upperHexDigit small]
  rfl

theorem toNat_lt_of_isSome {c : Char} (digit : (Numeral.digit? 16 c).isSome) : c.toNat < 128 := by
  have all : ∀ d ∈ hexDigits, d.toNat < 128 := by simp [hexDigits]
  exact all c (mem_hexDigits digit)

theorem mem_escapeByte {byte : UInt8} {c : Char} (member : c ∈ escapeByte byte) :
    c = '%' ∨ (Numeral.digit? 16 c).isSome := by
  have bounded : byte.toNat < 256 := byte.toNat_lt
  simp only [escapeByte, List.mem_cons, List.not_mem_nil, or_false] at member
  rcases member with rfl | rfl | rfl
  · exact .inl rfl
  · exact .inr (digit_isSome_upperHexDigit (by omega))
  · exact .inr (digit_isSome_upperHexDigit (Nat.mod_lt _ (by decide)))

/-- A character of what is written stood in the text, or belongs to an escape. -/
theorem mem_escape {escaped : Char → Bool} {text : List Char} {c : Char}
    (member : c ∈ escape escaped text) :
    (c ∈ text ∧ c.toNat < 128 ∧ escaped c = false) ∨ c = '%' ∨ (Numeral.digit? 16 c).isSome := by
  simp only [escape, List.mem_flatMap] at member
  obtain ⟨origin, found, written⟩ := member
  split at written
  · next plain =>
    obtain rfl : c = origin := by simpa using written
    exact .inl ⟨found, by simpa using plain⟩
  · obtain ⟨byte, _, inByte⟩ := List.mem_flatMap.mp written
    exact .inr (mem_escapeByte inByte)

/-- What is written of a text is ASCII and needs no escape of its own. -/
theorem plain_of_mem_escape {escaped : Char → Bool} (spares : Spares escaped) {text : List Char}
    {c : Char} (member : c ∈ escape escaped text) : c.toNat < 128 ∧ escaped c = false := by
  rcases mem_escape member with ⟨_, plain⟩ | rfl | digit
  · exact plain
  · exact ⟨by decide, spares.1⟩
  · exact ⟨toNat_lt_of_isSome digit, spares.2 c digit⟩

theorem utf8EncodeChar_ne_nil (c : Char) : String.utf8EncodeChar c ≠ [] := by
  intro none
  have size := String.length_utf8EncodeChar c
  rw [none] at size
  exact absurd size.symm (Nat.ne_of_gt c.utf8Size_pos)

theorem escape_ne_nil {escaped : Char → Bool} {text : List Char} (nonempty : text ≠ []) :
    escape escaped text ≠ [] := by
  cases text with
  | nil => exact absurd rfl nonempty
  | cons c rest =>
    rw [escape_cons]
    intro empty
    have first := (List.append_eq_nil_iff.mp empty).1
    split at first
    · simp at first
    · obtain ⟨byte, more, same⟩ := List.exists_cons_of_ne_nil (utf8EncodeChar_ne_nil c)
      simp [same, escapeByte] at first

/-- Whether a text begins with two hexadecimal digits. -/
def startsPair : List Char → Bool
  | high :: low :: _ => (Numeral.digit? 16 high).isSome && (Numeral.digit? 16 low).isSome
  | _ => false

/-- Whether an escape stands in a text: a percent sign before two hexadecimal digits. -/
def hasEscape : List Char → Bool
  | [] => false
  | c :: rest => (c == '%' && startsPair rest) || hasEscape rest

theorem unescape_percent {rest : List Char} (single : startsPair rest = false) :
    unescape ('%' :: rest) = 37 :: unescape rest := by
  match rest with
  | [] => simp [unescape, String.utf8EncodeChar]
  | [_] => simp [unescape, String.utf8EncodeChar]
  | high :: low :: more =>
    simp only [startsPair, Bool.and_eq_false_iff, Option.isSome_eq_false_iff,
      Option.isNone_iff_eq_none] at single
    rw [unescape]
    rcases single with none | none
    · simp [none]
    · cases known : Numeral.digit? 16 high <;> simp [none]

theorem unescape_cons {c : Char} (other : c ≠ '%') (rest : List Char) :
    unescape (c :: rest) = String.utf8EncodeChar c ++ unescape rest := by
  rw [unescape]
  intro high low more same
  exact absurd same other

theorem unescape_pair {high low : Char} {h l : Nat} (first : Numeral.digit? 16 high = some h)
    (second : Numeral.digit? 16 low = some l) (rest : List Char) :
    unescape ('%' :: high :: low :: rest) = UInt8.ofNat (h * 16 + l) :: unescape rest := by
  rw [unescape, first, second]

theorem utf8EncodeChar_percent : String.utf8EncodeChar '%' = [37] := by decide

theorem unescape_flatMap_escapeByte (bytes : List UInt8) (rest : List Char) :
    unescape (bytes.flatMap escapeByte ++ rest) = bytes ++ unescape rest := by
  induction bytes with
  | nil => rfl
  | cons byte more ih =>
    rw [List.flatMap_cons, List.append_assoc, unescape_escapeByte, ih]
    rfl

/-- A character that is no percent sign reads back from what is written of it. -/
theorem unescape_escape_cons {escaped : Char → Bool} {c : Char} (other : c ≠ '%')
    (text : List Char) :
    unescape (escape escaped (c :: text)) =
      String.utf8EncodeChar c ++ unescape (escape escaped text) := by
  rw [escape_cons]
  split
  · exact unescape_cons other _
  · exact unescape_flatMap_escapeByte _ _

theorem plain_digit {escaped : Char → Bool} (spares : Spares escaped) {c : Char}
    (digit : (Numeral.digit? 16 c).isSome) : c.toNat < 128 ∧ escaped c = false :=
  ⟨toNat_lt_of_isSome digit, spares.2 c digit⟩

theorem escape_cons_plain {escaped : Char → Bool} {c : Char}
    (plain : c.toNat < 128 ∧ escaped c = false) (text : List Char) :
    escape escaped (c :: text) = c :: escape escaped text := by
  rw [escape_cons, if_pos plain]
  rfl

/-- What is written of a text begins with a digit only if the text does. -/
theorem escape_cons_cases {escaped : Char → Bool} (spares : Spares escaped) (c : Char)
    (text : List Char) :
    (escape escaped (c :: text) = c :: escape escaped text) ∨
      ((Numeral.digit? 16 c).isSome = false ∧
        ∃ more, escape escaped (c :: text) = '%' :: more) := by
  by_cases plain : c.toNat < 128 ∧ escaped c = false
  · exact .inl (escape_cons_plain plain text)
  · right
    constructor
    · cases digit : (Numeral.digit? 16 c).isSome with
      | false => rfl
      | true => exact absurd (plain_digit spares digit) plain
    · obtain ⟨byte, more, bytes⟩ := List.exists_cons_of_ne_nil (utf8EncodeChar_ne_nil c)
      exact ⟨_, by rw [escape_cons, if_neg plain, bytes]; rfl⟩

theorem digit_percent : (Numeral.digit? 16 '%').isSome = false := by decide

theorem startsPair_escape {escaped : Char → Bool} (spares : Spares escaped) (text : List Char) :
    startsPair (escape escaped text) = startsPair text := by
  match text with
  | [] => rfl
  | [only] =>
    rcases escape_cons_cases spares only [] with same | ⟨_, more, same⟩
    · rw [same]; rfl
    · cases more <;> simp [same, startsPair, digit_percent]
  | first :: second :: rest =>
    rcases escape_cons_cases spares first (second :: rest) with same | ⟨none, more, same⟩
    · rcases escape_cons_cases spares second rest with next | ⟨missing, back, next⟩
      · rw [same, next]; rfl
      · rw [same, next]
        simp [startsPair, missing, digit_percent]
    · cases more <;> simp [same, startsPair, none, digit_percent]

/-- Induction as unescaping goes: an escape at once, a percent sign that begins none, any other
character. -/
theorem escape_induction {motive : List Char → Prop} (nil : motive [])
    (pair : ∀ high low h l rest, Numeral.digit? 16 high = some h → Numeral.digit? 16 low = some l →
      motive rest → motive ('%' :: high :: low :: rest))
    (single : ∀ rest, startsPair rest = false → motive rest → motive ('%' :: rest))
    (other : ∀ c rest, c ≠ '%' → motive rest → motive (c :: rest)) (text : List Char) :
    motive text := by
  induction text using unescape.induct with
  | case1 => exact nil
  | case2 high low rest h l second first ih => exact pair high low h l rest first second ih
  | case3 high low rest none ih =>
    apply single _ _ ih
    cases first : Numeral.digit? 16 high with
    | none => simp [startsPair, first]
    | some h =>
      cases second : Numeral.digit? 16 low with
      | none => simp [startsPair, second]
      | some l => exact (none h l first second).elim
  | case4 c rest none ih =>
    by_cases sign : c = '%'
    · subst sign
      apply single _ _ ih
      match rest with
      | [] | [_] => rfl
      | high :: low :: more => exact (none high low more rfl rfl).elim
    · exact other c rest sign ih

/-- Unescaping does not see whether a text was escaped before. -/
theorem unescape_escape {escaped : Char → Bool} (spares : Spares escaped) (text : List Char) :
    unescape (escape escaped text) = unescape text := by
  have percent : '%'.toNat < 128 ∧ escaped '%' = false := ⟨by decide, spares.1⟩
  induction text using escape_induction with
  | nil => rfl
  | pair high low h l rest first second ih =>
    rw [escape_cons_plain percent, escape_cons_plain (plain_digit spares (by simp [first])),
      escape_cons_plain (plain_digit spares (by simp [second])), unescape_pair first second,
      unescape_pair first second, ih]
  | single rest none ih =>
    -- Escaping what follows the sign must not make an escape of it.
    rw [escape_cons_plain percent, unescape_percent none, unescape_percent, ih]
    rwa [startsPair_escape spares]
  | other c rest sign ih => rw [unescape_escape_cons sign, unescape_cons sign, ih]

theorem encode_cons (c : Char) (text : List Char) :
    Text.encode (c :: text) = String.utf8EncodeChar c ++ Text.encode text := rfl

theorem length_encode_cons (c : Char) (text : List Char) :
    (Text.encode text).length < (Text.encode (c :: text)).length := by
  have size : (String.utf8EncodeChar c).length = c.utf8Size := String.length_utf8EncodeChar c
  have positive : 0 < c.utf8Size := c.utf8Size_pos
  rw [encode_cons, List.length_append]
  omega

/-- A text without escapes stands for itself. -/
theorem unescape_eq_encode {text : List Char} (none : hasEscape text = false) :
    unescape text = Text.encode text := by
  induction text using escape_induction with
  | nil => rfl
  | pair high low h l rest first second ih => simp [hasEscape, startsPair, first, second] at none
  | single rest alone ih =>
    simp only [hasEscape, Bool.or_eq_false_iff] at none
    rw [unescape_percent alone, encode_cons, utf8EncodeChar_percent, ih none.2]
    rfl
  | other c rest sign ih =>
    simp only [hasEscape, Bool.or_eq_false_iff] at none
    rw [unescape_cons sign, encode_cons, ih none.2]

/-- No character stands for fewer bytes unescaped than it has. -/
theorem length_unescape_le (text : List Char) :
    (unescape text).length ≤ (Text.encode text).length := by
  induction text using escape_induction with
  | nil => exact Nat.le_refl 0
  | pair high low h l rest first second ih =>
    have one := length_encode_cons '%' (high :: low :: rest)
    have two := length_encode_cons high (low :: rest)
    have three := length_encode_cons low rest
    rw [unescape_pair first second, List.length_cons]
    omega
  | single rest alone ih =>
    have one := length_encode_cons '%' rest
    rw [unescape_percent alone, List.length_cons]
    omega
  | other c rest sign ih =>
    rw [unescape_cons sign, encode_cons, List.length_append, List.length_append]
    omega

/-- An escape stands for fewer bytes than it has characters. -/
theorem length_unescape_lt {text : List Char} (found : hasEscape text = true) :
    (unescape text).length < (Text.encode text).length := by
  induction text using escape_induction with
  | nil => simp [hasEscape] at found
  | pair high low h l rest first second ih =>
    have least := length_unescape_le rest
    have one := length_encode_cons '%' (high :: low :: rest)
    have two := length_encode_cons high (low :: rest)
    have three := length_encode_cons low rest
    rw [unescape_pair first second, List.length_cons]
    omega
  | single rest alone ih =>
    have later : hasEscape rest = true := by simpa [hasEscape, alone] using found
    have less := ih later
    have one := length_encode_cons '%' rest
    rw [unescape_percent alone, List.length_cons]
    omega
  | other c rest sign ih =>
    have later : hasEscape rest = true := by simpa [hasEscape, sign] using found
    have less := ih later
    rw [unescape_cons sign, encode_cons, List.length_append, List.length_append]
    omega

/-- Unescaping gives the bytes of a text exactly if no escape stands in it. -/
theorem unescape_eq_encode_iff {text : List Char} :
    unescape text = Text.encode text ↔ hasEscape text = false := by
  constructor
  · intro same
    cases found : hasEscape text with
    | false => rfl
    | true =>
      have less := length_unescape_lt found
      rw [same] at less
      exact absurd less (Nat.lt_irrefl _)
  · exact unescape_eq_encode

end LoadProbe.Url
