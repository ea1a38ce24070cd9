import LoadProbe.LogFilter
import LoadProbe.Service

/-!
The programs as processes: what they print and how they end, up to where a service takes requests.
-/
namespace LoadProbe

inductive Application where
  | memoryHelper
  | service (kind : Service)
  deriving DecidableEq, Repr

/-- What a process showed. -/
structure ProcessReport where
  /-- How it ended; a service that took its address goes on. -/
  status? : Option UInt8
  output? : Option String := none
  /-- The line on a wrong command line. -/
  usage? : Option String := none
  /-- The account of a failure. -/
  error? : Option String := none
  log : List LogEvent := []

namespace Application

/-- The status of a process that stopped at once. -/
def panicked : UInt8 := 101

/-- The account of a failure at the end of a process. -/
def failed (cause : Explanation) (log : List LogEvent) : ProcessReport where
  status? := some 1
  error? := some (cause.report ++ "\n")
  log

/-- Runs the memory helper. -/
def runHelper (arguments : List String) : ProcessReport :=
  match MemoryHelper.run arguments.head? with
  | .refused cause => failed cause []
  | .overflowed => { status? := some panicked }
  | result@(.allocated ..) => { status? := some 0, log := result.log }

/-- The event of a service that is about to listen. -/
def listening (socket : SocketAddress) : LogEvent where
  severity := .info
  message := "benchmark service listening on http://" ++ socket.text
  source := "bench_core::server"

/-- Runs a service up to where it takes requests. -/
def runService (service : Service) (machine : Machine) (arguments : List String)
    (environment : List (String × String)) : ProcessReport :=
  match service.start machine arguments environment with
  | (.error (.usage .help), _) => { status? := some 0, output? := some service.about }
  | (.error (.usage .version), _) =>
    { status? := some 0, output? := some (service.name ++ " " ++ Service.version) }
  | (.error (.usage failure), _) =>
    { status? := some 2, usage? := some (CommandLine.firstLine failure.message) }
  | (.error failure, log) => failed failure.explanation log
  | (.ok started, log) =>
    { status? := if machine.owns started.listen then none else some panicked
      log := log ++ [started.event, listening started.listen] }

/-- Runs a program; the environment filters its log. -/
def run (application : Application) (machine : Machine) (arguments : List String)
    (environment : List (String × String)) : ProcessReport :=
  let report :=
    match application with
    | .memoryHelper => runHelper arguments
    | .service kind => runService kind machine arguments environment
  { report with log := report.log.filter (LogFilter.ofEnvironment environment).shows }

end Application
end LoadProbe
