import LoadProbe.Draws

/-!
Weighted tables of job sizes. A draw is scaled into the total weight and picks the first size whose
running sum lies above it.
-/
namespace LoadProbe

/-- Why a list of weights is no table. -/
inductive SizeTable.Failure where
  | empty
  /-- A weight that is negative or no number. -/
  | invalidWeight
  | allZero
  /-- The weights add up to infinity; the sampler cannot be built and stops the program. -/
  | infiniteTotal
  deriving DecidableEq, Repr

def SizeTable.Failure.message : SizeTable.Failure → String
  | .empty => "No weights provided in distribution"
  | .invalidWeight => "A weight is invalid in distribution"
  | .allZero => "All weights are zero in distribution"
  | .infiniteTotal => "Uniform::new called with `high` non-finite."

/-- Whether a failure stops the program instead of being reported. -/
def SizeTable.Failure.isFatal (failure : SizeTable.Failure) : Bool := failure == .infiniteTotal

/-- Job sizes, each with the sum of the weights up to and including its own. -/
structure SizeTable where
  steps : List (UInt64 × Binary64)
  /-- What a fraction below one is multiplied by; the product stays below the total. -/
  scale : Binary64
  nonempty : steps ≠ []

namespace SizeTable

/-- The entries with the running sum of their weights, added from the left. -/
def runningSums (sum : Binary64) : List (UInt64 × Binary64) → List (UInt64 × Binary64)
  | [] => []
  | (size, weight) :: rest => (size, sum + weight) :: runningSums (sum + weight) rest

/-- The largest fraction that 52 bits of a draw make. -/
def largestFraction : Binary64 := Draws.fraction52 (UInt64.ofNat (UInt64.size - 1))

def magnitude : Binary64 → Nat
  | .finite _ units _ => units
  | _ => 0

theorem magnitude_shrink_lt {number : Binary64} (positive : 0 < magnitude number) :
    magnitude number.shrink < magnitude number := by
  cases number with
  | nan | infinite => simp [magnitude] at positive
  | finite negative units fits =>
    have smaller := Binary64.below_lt positive
    have bounded : Binary64.below units < Binary64.limit := Nat.lt_trans smaller fits.1
    simpa [magnitude, Binary64.shrink, Binary64.ofAligned, bounded] using smaller

/-- Lowers a scale number by number until its product with every fraction is below the total. -/
def lowered (total scale : Binary64) : Binary64 :=
  if 0 < magnitude scale ∧ total.le (scale * largestFraction) then
    lowered total scale.shrink
  else scale
termination_by magnitude scale
decreasing_by exact magnitude_shrink_lt (And.left ‹_›)

/-- The table of sizes with weights. -/
def ofWeights (entries : List (UInt64 × Binary64)) : Except Failure SizeTable :=
  match built : runningSums (.zero false) entries with
  | [] => .error .empty
  | first :: rest =>
    let total := ((first :: rest).getLast (by simp)).2
    if entries.any fun entry => !(Binary64.zero false).le entry.2 then .error .invalidWeight
    else if total.same (.zero false) then .error .allZero
    else if !total.isFinite then .error .infiniteTotal
    else .ok ⟨first :: rest, lowered total total, by simp⟩

/-- The sizes of the usual mix: many long jobs, a few tiny ones. -/
def usualSizes : List UInt64 := [1, 3, 25, 250, 7500]

/-- The weights of the usual mix, in hundredths. -/
def usualShares : List Int := [5, 3, 17, 33, 37]

/-- The usual mix of sizes. -/
def usual : Except Failure SizeTable :=
  ofWeights (usualSizes.zip (usualShares.map fun share => .ofInt share / .ofInt 100))

/-- The table of a single size. -/
def fixed (size : UInt64) : Except Failure SizeTable := ofWeights [(size, .ofInt 1)]

def sizes (table : SizeTable) : List UInt64 := table.steps.map Prod.fst

/-- The size that a draw picks. -/
def pick (table : SizeTable) (draw : UInt64) : UInt64 :=
  let chosen := Draws.fraction52 draw * table.scale
  match table.steps.find? fun step => chosen.lt step.2 with
  | some step => step.1
  | none => (table.steps.getLast table.nonempty).1

def sample (table : SizeTable) (draws : Draws) : UInt64 × Draws :=
  (table.pick draws.next.1, draws.next.2)

end SizeTable
end LoadProbe
