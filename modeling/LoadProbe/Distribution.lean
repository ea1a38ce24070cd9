import LoadProbe.Binary64.Decimal
import LoadProbe.Draws
import LoadProbe.Text.Blank
import LoadProbe.Text.Quoted
import LoadProbe.Text.Split

/-!
Empirical distributions: rows of a value and the share of cases up to it. They are read from lines
of comma-separated columns and looked up from a share back to a value.
-/
namespace LoadProbe

/-- A value with the share of cases that are at most it. -/
abbrev Point := Binary64 × Binary64

structure Distribution where
  points : List Point
  nonempty : points ≠ []

/-- Why a text is no distribution. -/
inductive Distribution.Fault where
  /-- The line that is neither blank nor a row, with its trimmed text. -/
  | malformedRow (line : Nat) (row : String)
  | noRows
  deriving DecidableEq, Repr

/-- The message of a fault in the text of a file. -/
def Distribution.Fault.message (path : String) : Distribution.Fault → String
  | .malformedRow line row =>
    "malformed CDF row " ++ String.ofList (Numeral.digits line) ++ " in " ++ path ++ ": " ++
      Text.quote row
  | .noRows => "CDF file " ++ path ++ " has no data rows"

namespace Distribution

/-- The row that a line holds: two numbers in the first two columns, whatever follows. -/
def readPoint? (row : List Char) : Option Point :=
  match (Text.split ',' row).map Text.trim with
  | value :: share :: _ => do return (← Binary64.read? value, ← Binary64.read? share)
  | _ => none

/-- The rows of numbered lines. Blank lines are skipped, and the first line may be a heading. -/
def readRows (number : Nat) : List (List Char) → Except Fault (List Point)
  | [] => .ok []
  | line :: rest =>
    let row := Text.trim line
    if row = [] then readRows (number + 1) rest
    else
      match readPoint? row with
      | some point => (readRows (number + 1) rest).map (point :: ·)
      | none =>
        if number = 1 then readRows (number + 1) rest
        else .error (.malformedRow number (String.ofList row))

/-- Reads a distribution from its text. -/
def read (text : String) : Except Fault Distribution :=
  match readRows 1 (Text.lines text.toList) with
  | .error fault => .error fault
  | .ok [] => .error .noRows
  | .ok (point :: rest) => .ok ⟨point :: rest, by simp⟩

def size (distribution : Distribution) : Nat := distribution.points.length

/-- The value of the first point whose share reaches the given one, else the last value. -/
def quantile (distribution : Distribution) (share : Binary64) : Binary64 :=
  match distribution.points.find? fun point => share.le point.2 with
  | some point => point.1
  | none => (distribution.points.getLast distribution.nonempty).1

/-- The value at a random share. -/
def sample (distribution : Distribution) (draws : Draws) : Binary64 × Draws :=
  (distribution.quantile (Draws.fraction53 draws.next.1), draws.next.2)

end Distribution
end LoadProbe
