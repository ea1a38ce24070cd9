import LoadProbe.Draws
import LoadProbe.Numeral

/-!
The arithmetic cycle: sums, differences, products and quotients of two operands in turn. One unit of
rate is a chunk of 25000 steps, and a time budget is kept by checks between chunks.
-/
namespace LoadProbe.Arithmetic

inductive Operation where
  | add
  | sub
  | mul
  | div
  deriving DecidableEq, Repr

/-- Why a step stops the program: its result is no 64-bit number. -/
inductive Overflow where
  | adding
  | subtracting
  | multiplying
  deriving DecidableEq, Repr

def Overflow.message : Overflow → String
  | .adding => "attempt to add with overflow"
  | .subtracting => "attempt to subtract with overflow"
  | .multiplying => "attempt to multiply with overflow"

/-- The operation of a step; the four take turns. -/
def Operation.atStep (step : Nat) : Operation :=
  match step % 4 with
  | 0 => .add
  | 1 => .sub
  | 2 => .mul
  | _ => .div

/-- A whole result, if it is a 64-bit number. -/
def whole (overflow : Overflow) (result : Int) : Except Overflow Binary64 :=
  if -(Numeral.largestSigned : Int) - 1 ≤ result ∧ result ≤ Numeral.largestSigned then
    .ok (.ofInt result)
  else .error overflow

def Operation.apply (operation : Operation) (a b : Int64) : Except Overflow Binary64 :=
  match operation with
  | .add => whole .adding (a.toInt + b.toInt)
  | .sub => whole .subtracting (a.toInt - b.toInt)
  | .mul => whole .multiplying (a.toInt * b.toInt)
  | .div => .ok (.ofInt a.toInt / .ofInt b.toInt)

/-- What a number of steps comes to. -/
structure Outcome where
  iterations : Nat
  /-- The result of the last step, zero without one. -/
  last : Binary64
  deriving DecidableEq

/-- The steps one by one, from a given step on. -/
def stepwise (a b : Int64) (step : Nat) (last : Binary64) :
    (count : Nat) → Except Overflow Binary64
  | 0 => .ok last
  | count + 1 =>
    match (Operation.atStep step).apply a b with
    | .error overflow => .error overflow
    | .ok result => stepwise a b (step + 1) result count

/-- The outcome of a number of steps. All that can fail does so within the first four, so these are
taken first and the last step is found by its number. -/
def run (a b : Int64) (iterations : Nat) : Except Overflow Outcome := do
  let _ ← stepwise a b 0 (.zero false) (min iterations 4)
  if iterations = 0 then return ⟨0, .zero false⟩
  else return ⟨iterations, ← (Operation.atStep (iterations - 1)).apply a b⟩

/-- The steps that one unit of rate takes. -/
def chunk : Nat := 25000

/-- The steps of a rate, at most as many as 64 bits count. -/
def stepsOf (rate : UInt64) : Nat := min (rate.toNat * chunk) (UInt64.size - 1)

/-- Two operands from ten to a hundred. -/
def operands (draws : Draws) : (Int64 × Int64) × Draws :=
  let (a, draws) := Draws.below 91 draws.upcoming
  let (b, draws) := Draws.below 91 draws.upcoming
  ((Int64.ofNat (10 + a), Int64.ofNat (10 + b)), draws)

/-- The work of a rate on two drawn operands. -/
def work (rate : UInt64) (draws : Draws) : Except Overflow Outcome × Draws :=
  let ((a, b), draws) := operands draws
  (run a b (stepsOf rate), draws)

/-- The number of chunks done at the first check that finds the budget spent. The check after `done`
chunks sees the time `elapsed done`; there is none if the chunks that fit the counter run out
before. -/
def chunksWithin (elapsed : Nat → Nat) (budget done : Nat) : (room : Nat) → Option Nat
  | 0 => if budget ≤ elapsed done then some done else none
  | room + 1 =>
    if budget ≤ elapsed done then some done else chunksWithin elapsed budget (done + 1) room

/-- How many chunks a 64-bit counter of steps can count. -/
def chunkRoom : Nat := (UInt64.size - 1) / chunk

/-- Works on in chunks until the time since the first reading reaches the budget. The readings are
in nanoseconds; one more is taken before every chunk. -/
def sustain (a b : Int64) (readings : Nat → Nat) (budget : Nat) : Except Overflow Outcome :=
  match chunksWithin (fun done => readings (done + 1) - readings 0) budget 0 chunkRoom with
  | none => .error .adding
  | some chunks => run a b (chunks * chunk)

end LoadProbe.Arithmetic
