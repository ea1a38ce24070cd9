import LoadProbe.Numeral
import LoadProbe.Text.Split

/-!
Tables of characters. A table is written as rows between spaces, each of hexadecimal numbers joined
by dots. In a table of runs a row is the size of the next run of characters and what it says of
them.
-/
namespace LoadProbe.Text.Table

def readNumber (digits : List Char) : Nat :=
  digits.foldl (fun total digit => total * 16 + (Numeral.digit? 16 digit).getD 0) 0

def rows (lines : List String) : List (List Nat) :=
  lines.flatMap fun line => (split ' ' line.toList).map fun row => (split '.' row).map readNumber

/-- Consecutive characters of which the same is said. -/
structure Run where
  first : Nat
  size : Nat
  facts : List Nat
  deriving DecidableEq, Repr

/-- The runs of a table from a first character on, without those of which nothing is said. -/
def runs (first : Nat) : List (List Nat) → List Run
  | [] => []
  | [] :: rows => runs first rows
  | [size] :: rows => runs (first + size) rows
  | (size :: facts) :: rows => ⟨first, size, facts⟩ :: runs (first + size) rows

/-- The run that a character is in. -/
def find? (table : List Run) (c : Char) : Option Run :=
  table.find? fun run => run.first ≤ c.toNat && c.toNat < run.first + run.size

end LoadProbe.Text.Table
