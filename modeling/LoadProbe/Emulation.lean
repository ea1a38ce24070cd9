import LoadProbe.Arithmetic
import LoadProbe.Distribution.Load
import LoadProbe.Emulation.Allocator
import LoadProbe.Stopwatch

/-!
The emulation of recorded functions: memory of a sampled size is taken first, then the arithmetic
cycle fills what is left of the target time. The rate of a job is that time in milliseconds.
-/
namespace LoadProbe

structure Emulation where
  /-- The sizes in MiB. -/
  memory : Distribution
  /-- What is taken off every size. -/
  bias : Binary64
  allocator : Allocator
  /-- The times in milliseconds, if jobs do not bring their own. -/
  duration? : Option Distribution := none

namespace Emulation

/-- What an emulation acts on. -/
structure State where
  tree : FileTree
  draws : Draws
  watch : Stopwatch

/-- A sampled time: the nearest whole millisecond, at least one. -/
def millisOf (sample : Binary64) : UInt64 :=
  UInt64.ofNat ((sample.round.max (.ofInt 1)).toIntWithin 0 (UInt64.size - 1)).toNat

/-- A sampled size without the bias, as the nearest whole number of MiB. -/
def sizeOf (sample bias : Binary64) : Int64 :=
  Int64.ofInt ((sample - bias).round.toIntWithin (-Numeral.largestSigned - 1) Numeral.largestSigned)

/-- The MiB that are taken for a size; a negative one takes nothing. -/
def mibOf (size : Int64) : UInt64 := UInt64.ofNat size.toInt.toNat

/-- The time left for the arithmetic cycle. -/
def budget (target spent : Nat) : Nat := target - spent

/-- The time that a job asks for in nanoseconds. -/
def targetOf (job : Job) : Nat := job.rate.toNat * Stopwatch.millisecond

def chooseRate (emulation : Emulation) (state : State) : Option UInt64 × State :=
  match emulation.duration? with
  | none => (none, state)
  | some duration =>
    (some (millisOf (duration.sample state.draws).1),
      { state with draws := (duration.sample state.draws).2 })

/-- The event of memory that was taken. -/
def memoryDone (size : Int64) : LogEvent where
  severity := .debug
  message := "memory phase done"
  fields := [("mem_size", String.ofList (Numeral.signedDigits size.toInt))]

/-- The arithmetic cycle for a budget, and the readings that it takes. -/
def compute (budget : Nat) (state : State) : Except Explanation Unit × State :=
  let ((a, b), draws) := Arithmetic.operands state.draws
  match Arithmetic.sustain a b state.watch.reading budget with
  | .error overflow =>
    (.error (taskFailure overflow.message),
      { state with draws, watch := state.watch.take (Arithmetic.chunkRoom + 2) })
  | .ok outcome =>
    (.ok (),
      { state with draws, watch := state.watch.take (outcome.iterations / Arithmetic.chunk + 2) })

/-- Runs one job. The first reading stands before the memory is taken, the second one after it. -/
def run (emulation : Emulation) (job : Job) (state : State) : WorkReport × State :=
  let (sample, draws) := emulation.memory.sample state.draws
  let size := sizeOf sample emulation.bias
  match emulation.allocator.allocate (mibOf size) state.tree with
  | (.error cause, tree) =>
    ({ memory := .error cause }, { tree, draws, watch := state.watch.take 1 })
  | (.ok (), tree) =>
    let spent := state.watch.reading 1 - state.watch.reading 0
    let left := budget (targetOf job) spent
    let state : State := { tree, draws, watch := state.watch.take 2 }
    if left = 0 then ({ memory := .ok size, log := [memoryDone size] }, state)
    else
      match compute left state with
      | (.error cause, state) => ({ memory := .error cause, log := [memoryDone size] }, state)
      | (.ok (), state) => ({ memory := .ok size, log := [memoryDone size] }, state)

def workload (emulation : Emulation) : Workload State := ⟨emulation.chooseRate, emulation.run⟩

end Emulation
end LoadProbe
