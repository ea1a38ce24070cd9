/-!
A stopwatch as data: a monotonic clock in nanoseconds whose readings are fixed in advance.
-/
namespace LoadProbe

structure Stopwatch where
  /-- What the `n`-th reading shows. -/
  schedule : Nat → Nat
  /-- How many readings were taken. -/
  taken : Nat := 0

namespace Stopwatch

/-- The nanoseconds of one millisecond. -/
def millisecond : Nat := 1000000

/-- A stopwatch that goes on by `tick` with every reading. -/
def ticking (tick : Nat) : Stopwatch := ⟨fun n => n * tick, 0⟩

/-- What a reading after the ones taken shows. -/
def reading (watch : Stopwatch) (n : Nat) : Nat := watch.schedule (watch.taken + n)

/-- The stopwatch after more readings. -/
def take (watch : Stopwatch) (count : Nat) : Stopwatch :=
  { watch with taken := watch.taken + count }

/-- The time from the first to the last reading that was taken since. -/
def elapsed (before after : Stopwatch) : Nat :=
  before.schedule (after.taken - 1) - before.schedule before.taken

end Stopwatch
end LoadProbe
