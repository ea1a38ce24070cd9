import LoadProbe.Binary64.Basic
import LoadProbe.Numeral

/-!
Binary64 numbers as text. The reader takes any decimal and rounds once; the writer gives the
fewest digits that read back, in positional form.
-/
namespace LoadProbe.Binary64

open Numeral (isDigit tenTo)

/-- The number nearest to `significand * 10^exponent`. Outside of 330 places it is zero or
infinite. -/
def ofDecimal (negative : Bool) (significand : Nat) (exponent : Int) : Binary64 :=
  let places := (Numeral.digits significand).length + exponent
  if significand = 0 ∨ places < -330 then zero negative
  else if 330 < places then .infinite negative
  else if 0 ≤ exponent then ofQuotient negative (significand * tenTo exponent.toNat * one) 1
  else ofQuotient negative (significand * one) (tenTo (-exponent).toNat)

/-- A leading sign, if there is one, and what follows it. -/
def splitSign : List Char → Bool × List Char
  | '-' :: rest => (true, rest)
  | '+' :: rest => (false, rest)
  | text => (false, text)

/-- The exponent that ends a numeral: nothing, or `e` with an optional sign and digits. -/
def readExponent? : List Char → Option Int
  | [] => some 0
  | mark :: rest =>
    let (negative, ds) := splitSign rest
    if (mark = 'e' ∨ mark = 'E') ∧ ds ≠ [] ∧ ds.all isDigit then
      some (if negative then -(Numeral.value ds : Int) else Numeral.value ds)
    else none

/-- Reads digits with at most one point among them, at least one digit, and an exponent. -/
def readNumeral? (negative : Bool) (text : List Char) : Option Binary64 :=
  let whole := text.takeWhile isDigit
  let (fraction, rest) :=
    match text.dropWhile isDigit with
    | '.' :: rest => (rest.takeWhile isDigit, rest.dropWhile isDigit)
    | rest => ([], rest)
  if whole ++ fraction = [] then none
  else (readExponent? rest).map fun exponent =>
    ofDecimal negative (Numeral.value (whole ++ fraction)) (exponent - fraction.length)

/-- Reads an optional sign before a numeral or, in any case, `inf`, `infinity` or `nan`. -/
def read? (text : List Char) : Option Binary64 :=
  let (negative, body) := splitSign text
  match String.ofList (body.map Char.toLower) with
  | "inf" | "infinity" => some (.infinite negative)
  | "nan" => some .nan
  | _ => readNumeral? negative body

/-- Why a text is no number. -/
inductive Failure where
  | empty
  | invalid
  deriving DecidableEq, Repr

def Failure.message : Failure → String
  | .empty => "cannot parse float from empty string"
  | .invalid => "invalid float literal"

def read (text : List Char) : Except Failure Binary64 :=
  match read? text with
  | some number => .ok number
  | none => .error (if text = [] then .empty else .invalid)

/-- Of the two multiples of `10^exponent` around a magnitude, the nearer one that reads back as it;
an exact tie goes up. -/
def multiple? (units : Nat) (exponent : Int) : Option Nat :=
  let num := units * tenTo (-exponent).toNat
  let den := one * tenTo exponent.toNat
  let number := ofQuotient false units 1
  let low := num / den
  if ofDecimal false low exponent = number then
    if ofDecimal false (low + 1) exponent = number ∧ den ≤ 2 * (num % den) then some (low + 1)
    else some low
  else if ofDecimal false (low + 1) exponent = number then some (low + 1)
  else none

/-- Tries grids from the coarse to the fine, and at the last step takes the exact decimal. -/
def shortestFrom (units : Nat) (exponent : Int) : (steps : Nat) → Nat × Int
  | 0 => (units * Nat.pow 5 1074, -1074)
  | steps + 1 =>
    match multiple? units exponent with
    | some significand => (significand, exponent)
    | none => shortestFrom units (exponent - 1) steps

/-- The decimal of fewest digits that reads back as a magnitude, as significand and exponent. -/
def shortest (units : Nat) : Nat × Int :=
  let places := (Numeral.digits (units / one)).length
  shortestFrom units places (places + 1074)

/-- A decimal written out in full, with a point only before a fraction. -/
def positional (significand : Nat) (exponent : Int) : List Char :=
  if 0 ≤ exponent then Numeral.digits (significand * tenTo exponent.toNat)
  else
    let places := (-exponent).toNat
    Numeral.digits (significand / tenTo places) ++
      '.' :: Numeral.padded places (significand % tenTo places)

/-- The written form: the shortest decimal in full, or the name of what is no decimal. -/
def chars : Binary64 → List Char
  | .nan => "NaN".toList
  | .infinite negative => if negative then "-inf".toList else "inf".toList
  | .finite negative units _ =>
    let (significand, exponent) := shortest units
    (if negative then ['-'] else []) ++ positional significand exponent

def text (number : Binary64) : String := String.ofList number.chars

instance : ToString Binary64 := ⟨text⟩

end LoadProbe.Binary64
