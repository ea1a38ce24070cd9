import LoadProbe.Binary64.Rounding

/-!
Binary64 numbers as exact values: a finite one is a whole multiple of `2^-1074`. Arithmetic
computes exactly and rounds once, to nearest with ties to even.
-/
namespace LoadProbe

/-- Magnitudes, in units of `2^-1074`, end below this bound. -/
def Binary64.limit : Nat := 1 <<< 2098

/-- A binary64 number; a finite one is `units * 2^-1074` with a sign of its own at zero. -/
inductive Binary64 where
  | nan
  | infinite (negative : Bool)
  | finite (negative : Bool) (units : Nat)
      (fits : units < Binary64.limit ∧ Binary64.Aligned units)
  deriving DecidableEq

namespace Binary64

/-- How many units make one. -/
def one : Nat := 1 <<< 1074

/-- A whole number of units with a sign. -/
def signed (negative : Bool) (units : Nat) : Int := if negative then -(units : Int) else units

/-- An aligned magnitude as a number; one too large becomes infinite. -/
def ofAligned (negative : Bool) (units : Nat) (aligned : Aligned units) : Binary64 :=
  if bounded : units < limit then .finite negative units ⟨bounded, aligned⟩ else .infinite negative

/-- The number nearest to `num / den` units. -/
def ofQuotient (negative : Bool) (num den : Nat) : Binary64 :=
  ofAligned negative (nearest num den) (aligned_nearest num den)

/-- Zero with the given sign. -/
def zero (negative : Bool) : Binary64 := ofQuotient negative 0 1

/-- The number nearest to a whole number. -/
def ofInt (value : Int) : Binary64 := ofQuotient (value < 0) (value.natAbs * one) 1

def isFinite : Binary64 → Bool
  | .finite .. => true
  | _ => false

def neg : Binary64 → Binary64
  | .nan => .nan
  | .infinite negative => .infinite !negative
  | .finite negative units fits => .finite (!negative) units fits

/-- The exact sum, rounded; a zero sum is negative only if both terms are. -/
def add : Binary64 → Binary64 → Binary64
  | .nan, _ | _, .nan => .nan
  | .infinite left, .infinite right => if left = right then .infinite left else .nan
  | .infinite left, .finite .. => .infinite left
  | .finite .., .infinite right => .infinite right
  | .finite left a _, .finite right b _ =>
    if signed left a + signed right b = 0 then zero (left && right)
    else ofQuotient (signed left a + signed right b < 0) (signed left a + signed right b).natAbs 1

def sub (left right : Binary64) : Binary64 := left.add right.neg

/-- The exact product, rounded. -/
def mul : Binary64 → Binary64 → Binary64
  | .nan, _ | _, .nan => .nan
  | .infinite left, .infinite right => .infinite (left != right)
  | .infinite left, .finite right b _ => if b = 0 then .nan else .infinite (left != right)
  | .finite left a _, .infinite right => if a = 0 then .nan else .infinite (left != right)
  | .finite left a _, .finite right b _ => ofQuotient (left != right) (a * b) one

/-- The exact quotient, rounded. -/
def div : Binary64 → Binary64 → Binary64
  | .nan, _ | _, .nan => .nan
  | .infinite _, .infinite _ => .nan
  | .infinite left, .finite right .. => .infinite (left != right)
  | .finite left .., .infinite right => zero (left != right)
  | .finite left a _, .finite right b _ =>
    if b = 0 then (if a = 0 then .nan else .infinite (left != right))
    else ofQuotient (left != right) (a * one) b

instance : Neg Binary64 := ⟨neg⟩
instance : Add Binary64 := ⟨add⟩
instance : Sub Binary64 := ⟨sub⟩
instance : Mul Binary64 := ⟨mul⟩
instance : Div Binary64 := ⟨div⟩

/-- The place of a number on the line, in units; the infinities stand at the two limits. -/
def place? : Binary64 → Option Int
  | .nan => none
  | .infinite negative => some (signed negative limit)
  | .finite negative units _ => some (signed negative units)

/-- Order by place; a number that is none of the line compares with nothing. -/
def le (left right : Binary64) : Bool :=
  match left.place?, right.place? with
  | some a, some b => a ≤ b
  | _, _ => false

def lt (left right : Binary64) : Bool :=
  match left.place?, right.place? with
  | some a, some b => a < b
  | _, _ => false

/-- Whether two numbers stand at one place; both zeros do. -/
def same (left right : Binary64) : Bool := left.le right && right.le left

/-- The larger of two numbers, or the one that is a number at all. -/
def max (left right : Binary64) : Binary64 :=
  match left, right with
  | .nan, other => other
  | other, .nan => other
  | left, right => if left.lt right then right else left

/-- The nearest whole number; a half goes away from zero. -/
def round : Binary64 → Binary64
  | .finite negative units _ => ofQuotient negative ((units + one / 2) / one * one) 1
  | other => other

/-- The whole number toward zero, held between two bounds; no number counts as zero. -/
def toIntWithin (low high : Int) : Binary64 → Int
  | .nan => 0
  | .infinite negative => if negative then low else high
  | .finite negative units _ => Max.max low (Min.min high (signed negative (units / one)))

/-- The largest number whose magnitude is below that of a finite one, with its sign. -/
def shrink : Binary64 → Binary64
  | .finite negative units _ => ofAligned negative (below units) (aligned_below units)
  | other => other

end Binary64
end LoadProbe
