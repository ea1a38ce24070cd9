import LoadProbe.Arithmetic
import LoadProbe.Workload

/-!
The load on the processor: the arithmetic cycle for the rate of a job, on freshly drawn operands.
-/
namespace LoadProbe.ArithmeticLoad

/-- The event of a finished cycle. -/
def loopDone (outcome : Arithmetic.Outcome) : LogEvent where
  severity := .info
  message := "alu loop done"
  fields :=
    [("iterations", String.ofList (Numeral.digits outcome.iterations)),
      ("result", outcome.last.text)]

/-- Runs one job. -/
def run (job : Job) (draws : Draws) : WorkReport × Draws :=
  match Arithmetic.work job.rate draws with
  | (.ok outcome, draws) => ({ memory := .ok 0, log := [loopDone outcome] }, draws)
  | (.error overflow, draws) => ({ memory := .error (taskFailure overflow.message) }, draws)

def workload : Workload Draws where
  run := run

end LoadProbe.ArithmeticLoad
