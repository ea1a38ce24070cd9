import LoadProbe.Binary64.Basic

/-!
A wall clock as data: what each read shows is fixed in advance, and work may move it on.
-/
namespace LoadProbe

/-- A clock in microseconds since the epoch. -/
structure Clock where
  /-- What the `n`-th read shows if nothing has moved the clock. -/
  schedule : Nat → Int
  /-- How many reads were made. -/
  reads : Nat
  /-- How far the clock was moved on in total. -/
  moved : Int

namespace Clock

/-- A clock that goes on by `tick` after every read and stands still between them. -/
def ticking (start tick : Int) : Clock := ⟨fun n => start + n * tick, 0, 0⟩

/-- Microseconds as milliseconds. -/
def millis (microseconds : Int) : Binary64 :=
  Binary64.ofInt microseconds / Binary64.ofInt 1000

/-- What the next read shows. -/
def now (clock : Clock) : Int := clock.schedule clock.reads + clock.moved

/-- Reads the clock in milliseconds. -/
def read (clock : Clock) : Binary64 × Clock :=
  (millis clock.now, { clock with reads := clock.reads + 1 })

/-- The clock moved on between two reads. -/
def advance (clock : Clock) (microseconds : Int) : Clock :=
  { clock with moved := clock.moved + microseconds }

/-- The results of several reads in a row. -/
def readMany : (count : Nat) → Clock → List Binary64
  | 0, _ => []
  | count + 1, clock => clock.read.1 :: readMany count clock.read.2

end Clock
end LoadProbe
