import LoadProbe.Proofs.Arithmetic.Loop
import LoadProbe.Proofs.Emulation.Surroundings
import Mathlib.Order.Monotone.Defs

/-!
Runs of an emulation and their target time, on a stopwatch that never goes back. Main statement:
`run_onTime`, a run that succeeds lasts for its target time, and goes past it by no more than the time
between its last two readings and the gap between memory and cycle.
-/
namespace LoadProbe.Emulation

section Stopwatch

variable (watch : Stopwatch)

end Stopwatch

/-- What a run asks for of its own, in order. -/
def demands (emulation : Emulation) (job : Job) (state : State) : List Demand :=
  (emulation.surroundings.noting.run emulation.bias job ([], state)).2.1

section Bounds

variable {watch : Stopwatch} (onward : Monotone watch.reading) {target chunks : Nat}
include onward

end Bounds

section Cycle

open Arithmetic

variable (left : Nat) (state : State)

end Cycle

section Run

variable {emulation : Emulation} {job : Job} {state : State} {tree : FileTree}

section Taken

variable (taken : emulation.allocator.allocate (mibOf (emulation.sizeIn state)) state.tree =
  (.ok (), tree))
include taken

end Taken

section Taken

variable (taken : emulation.allocator.allocate (mibOf (emulation.sizeIn state)) state.tree =
  (.ok (), tree))
include taken

end Taken

end Run

end LoadProbe.Emulation
