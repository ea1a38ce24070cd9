import LoadProbe.Explanation
import LoadProbe.Job
import LoadProbe.Log
import LoadProbe.Text.Quoted

/-!
Workloads: what a service does for a job. A workload acts on a state of its own and may choose the
rate of a job itself.
-/
namespace LoadProbe

/-- What one run of a workload came to. -/
structure WorkReport where
  /-- The memory that was taken in MiB, or why the work failed. -/
  memory : Except Explanation Int64
  /-- How far the wall clock went on meanwhile, in microseconds. -/
  duration : Int := 0
  log : List LogEvent := []

/-- The message of work that failed. -/
def workFailure (cause : Explanation) : String := "workload failed: " ++ cause.joined

/-- Work on states of a type. -/
structure Workload (State : Type) where
  /-- The rate that the workload chooses, if it does. -/
  chooseRate : State → Option UInt64 × State := fun state => (none, state)
  run : Job → State → WorkReport × State

/-- The explanation of a task that panicked; its number is left out. -/
def taskFailure (message : String) : Explanation :=
  ⟨"task # panicked with message " ++ Text.quote message, []⟩

/-- Work that is fixed in advance. -/
structure Script where
  rate? : Option UInt64
  report : WorkReport

/-- The workload that does what is fixed. -/
def Workload.scripted : Workload Script where
  chooseRate script := (script.rate?, script)
  run _ script := (script.report, script)

end LoadProbe
