import LoadProbe.Numeral

/-!
Percent escapes: a byte as a percent sign and two hexadecimal digits. Which characters are escaped
depends on the part of a URL that they stand in; all that are not ASCII are.
-/
namespace LoadProbe.Url

/-- A digit up to fifteen, in upper case. -/
def upperHexDigit (digit : Nat) : Char :=
  if digit < 10 then Numeral.digitChar digit else Char.ofNat ('A'.toNat + (digit - 10))

def escapeByte (byte : UInt8) : List Char :=
  ['%', upperHexDigit (byte.toNat / 16), upperHexDigit (byte.toNat % 16)]

/-- Escapes the characters of a set, and all that are not ASCII by their bytes in UTF-8. -/
def escape (escaped : Char → Bool) (text : List Char) : List Char :=
  text.flatMap fun c =>
    if c.toNat < 128 && !escaped c then [c] else (String.utf8EncodeChar c).flatMap escapeByte

/-- The bytes of a text in UTF-8, with those that are escaped; a percent sign without two
hexadecimal digits stands for itself. -/
def unescape : List Char → List UInt8
  | [] => []
  | '%' :: high :: low :: rest =>
    match Numeral.digit? 16 high, Numeral.digit? 16 low with
    | some h, some l => UInt8.ofNat (h * 16 + l) :: unescape rest
    | _, _ => 37 :: unescape (high :: low :: rest)
  | c :: rest => String.utf8EncodeChar c ++ unescape rest

/-- Control characters. -/
def inControls (c : Char) : Bool := c.toNat < 32 || c.toNat == 127

/-- What is escaped in a fragment. -/
def inFragment (c : Char) : Bool := inControls c || " \"<>`".contains c

/-- What is escaped in a path. -/
def inPath (c : Char) : Bool := inFragment c || "#?\x7b\x7d".contains c

/-- What is escaped in a user name or password. -/
def inCredentials (c : Char) : Bool := inPath c || "/:;=@[\\]^|".contains c

/-- What is escaped in a query. -/
def inQuery (c : Char) : Bool := inControls c || " \"#<>".contains c

/-- What is escaped in the query of a special scheme. -/
def inSpecialQuery (c : Char) : Bool := inQuery c || c == '\''

theorem digit_upperHexDigit {digit : Nat} (small : digit < 16) :
    Numeral.digit? 16 (upperHexDigit digit) = some digit := by
  have all : ∀ d ∈ List.range 16, Numeral.digit? 16 (upperHexDigit d) = some d := by decide
  exact all digit (List.mem_range.mpr small)

/-- An escaped byte reads back, whatever follows it. -/
theorem unescape_escapeByte (byte : UInt8) (rest : List Char) :
    unescape (escapeByte byte ++ rest) = byte :: unescape rest := by
  have bounded : byte.toNat < 256 := byte.toNat_lt
  rw [escapeByte, List.cons_append, List.cons_append, List.cons_append, List.nil_append, unescape,
    digit_upperHexDigit (by omega), digit_upperHexDigit (Nat.mod_lt _ (by decide))]
  simp only [show byte.toNat / 16 * 16 + byte.toNat % 16 = byte.toNat by omega]
  simp

end LoadProbe.Url
