/-!
Whole numbers as text: digits of a radix, bounded readers with the cause of a failure, and the
decimal writer. Main statement: `value_digits`, a written number reads back.
-/
namespace LoadProbe.Numeral

/-- The value of a digit of a radix up to sixteen, in either case. -/
def digit? (radix : Nat) (c : Char) : Option Nat :=
  let value :=
    if '0' ≤ c ∧ c ≤ '9' then c.toNat - '0'.toNat
    else if 'a' ≤ c ∧ c ≤ 'f' then c.toNat - 'a'.toNat + 10
    else if 'A' ≤ c ∧ c ≤ 'F' then c.toNat - 'A'.toNat + 10
    else radix
  if value < radix then some value else none

def isDigit (c : Char) : Bool := '0' ≤ c && c ≤ '9'

/-- The character of a digit below ten. -/
def digitChar (digit : Nat) : Char := Char.ofNat ('0'.toNat + digit)

/-- The decimal digits of a number, the leading one first and never a zero before others. -/
def digits (n : Nat) : List Char :=
  if n < 10 then [digitChar n] else digits (n / 10) ++ [digitChar (n % 10)]

/-- A number written with at least the given count of digits. -/
def padded (width n : Nat) : List Char :=
  List.replicate (width - (digits n).length) '0' ++ digits n

/-- A whole number with a minus sign before the digits of a negative one. -/
def signedDigits (z : Int) : List Char :=
  if z < 0 then '-' :: digits z.natAbs else digits z.natAbs

/-- The decimal number that a run of digits stands for. -/
def value (ds : List Char) : Nat :=
  ds.foldl (fun total c => total * 10 + (c.toNat - '0'.toNat)) 0

/-- One followed by a number of zeros. -/
def tenTo (zeros : Nat) : Nat := Nat.pow 10 zeros

/-- Why a text is no whole number of the wanted range. -/
inductive Failure where
  | empty
  | invalidDigit
  | tooLarge
  | tooSmall
  deriving DecidableEq, Repr

def Failure.message : Failure → String
  | .empty => "cannot parse integer from empty string"
  | .invalidDigit => "invalid digit found in string"
  | .tooLarge => "number too large to fit in target type"
  | .tooSmall => "number too small to fit in target type"

/-- Reads digits from the left; the first one that is none, or that leads past the bound,
decides. -/
def accumulate (bound : Nat) (overflow : Failure) (total : Nat) : List Char → Except Failure Nat
  | [] => .ok total
  | c :: rest =>
    match digit? 10 c with
    | none => .error .invalidDigit
    | some digit =>
      if total * 10 + digit ≤ bound then accumulate bound overflow (total * 10 + digit) rest
      else .error overflow

/-- Reads a number of at most `bound`, with an optional plus sign. -/
def readUnsigned (bound : Nat) : List Char → Except Failure Nat
  | [] => .error .empty
  | ['+'] => .error .invalidDigit
  | '+' :: rest => accumulate bound .tooLarge 0 rest
  | text => accumulate bound .tooLarge 0 text

/-- Reads a number from `-(bound + 1)` to `bound`, with an optional sign. -/
def readSigned (bound : Nat) : List Char → Except Failure Int
  | [] => .error .empty
  | ['+'] | ['-'] => .error .invalidDigit
  | '-' :: rest => (accumulate (bound + 1) .tooSmall 0 rest).map fun n => -(n : Int)
  | '+' :: rest => (accumulate bound .tooLarge 0 rest).map fun n => (n : Int)
  | text => (accumulate bound .tooLarge 0 text).map fun n => (n : Int)

/-- The largest 64-bit number with a sign. -/
def largestSigned : Nat := UInt64.size / 2 - 1

/-- Reads a 64-bit unsigned number. -/
def readUInt64 (text : List Char) : Except Failure UInt64 :=
  (readUnsigned (UInt64.size - 1) text).map UInt64.ofNat

/-- Reads a 64-bit signed number. -/
def readInt64 (text : List Char) : Except Failure Int64 :=
  (readSigned largestSigned text).map Int64.ofInt

theorem toNat_digitChar {digit : Nat} (small : digit < 10) :
    (digitChar digit).toNat = '0'.toNat + digit := by
  have cases : digit = 0 ∨ digit = 1 ∨ digit = 2 ∨ digit = 3 ∨ digit = 4 ∨ digit = 5 ∨ digit = 6 ∨
    digit = 7 ∨ digit = 8 ∨ digit = 9 := by omega
  rcases cases with h | h | h | h | h | h | h | h | h | h <;> subst h <;> decide

theorem value_append_digit (ds : List Char) {digit : Nat} (small : digit < 10) :
    value (ds ++ [digitChar digit]) = value ds * 10 + digit := by
  simp [value, List.foldl_append, toNat_digitChar small]

@[simp] theorem value_digits (n : Nat) : value (digits n) = n := by
  induction n using Nat.strongRecOn with
  | ind n ih =>
    unfold digits
    split
    · next small =>
      simpa [show value [] = 0 from rfl] using value_append_digit [] small
    · next large =>
      rw [value_append_digit _ (Nat.mod_lt n (by decide)), ih (n / 10) (by omega)]
      omega

theorem isDigit_digitChar {digit : Nat} (small : digit < 10) :
    isDigit (digitChar digit) = true := by
  have all : ∀ d ∈ List.range 10, isDigit (digitChar d) = true := by decide
  exact all digit (List.mem_range.mpr small)

theorem digits_ne_nil (n : Nat) : digits n ≠ [] := by
  unfold digits
  split <;> simp

theorem isDigit_of_mem_digits {n : Nat} {c : Char} (member : c ∈ digits n) : isDigit c = true := by
  induction n using Nat.strongRecOn with
  | ind n ih =>
    unfold digits at member
    split at member
    · next small =>
      obtain rfl := List.mem_singleton.mp member
      exact isDigit_digitChar small
    · next large =>
      rcases List.mem_append.mp member with front | last
      · exact ih (n / 10) (by omega) front
      · obtain rfl := List.mem_singleton.mp last
        exact isDigit_digitChar (Nat.mod_lt n (by decide))

theorem digitChar_eq {digit : Nat} (small : digit < 10) : digitChar digit = digit.digitChar := by
  rw [← Char.toNat_inj, toNat_digitChar small, Nat.toNat_digitChar_of_lt_ten small]
  rfl

/-- The writer gives the digits of the standard library. -/
theorem digits_eq_toDigits (n : Nat) : digits n = Nat.toDigits 10 n := by
  induction n using Nat.strongRecOn with
  | ind n ih =>
    unfold digits
    split
    · next small => rw [digitChar_eq small, Nat.toDigits_of_lt_base small]
    · next large =>
      rw [Nat.toDigits_of_base_le (by decide) (Nat.le_of_not_lt large), ih (n / 10) (by omega),
        digitChar_eq (Nat.mod_lt n (by decide))]

theorem ofList_digits (n : Nat) : String.ofList (digits n) = toString n := by
  rw [digits_eq_toDigits, Nat.toString_eq_ofList_toDigits]

theorem digits_injective {m n : Nat} (same : digits m = digits n) : m = n := by
  rw [← value_digits m, same, value_digits]

end LoadProbe.Numeral
