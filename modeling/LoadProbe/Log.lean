/-!
Log events: what happened, how grave it is, where it comes from and the values that go with it.
-/
namespace LoadProbe

/-- How grave an event is, the gravest first. -/
inductive Severity where
  | error
  | warn
  | info
  | debug
  | trace
  deriving DecidableEq, Repr

def Severity.name : Severity → String
  | .error => "ERROR"
  | .warn => "WARN"
  | .info => "INFO"
  | .debug => "DEBUG"
  | .trace => "TRACE"

/-- How much has to be logged for events of a severity to show. -/
def Severity.detail : Severity → Nat
  | .error => 1
  | .warn => 2
  | .info => 3
  | .debug => 4
  | .trace => 5

structure LogEvent where
  severity : Severity
  message : String
  fields : List (String × String) := []
  /-- The part of the program that tells the event. -/
  source : String := ""
  deriving DecidableEq, Repr

/-- One line of a log, without the time. -/
def LogEvent.line (event : LogEvent) : String :=
  let fields := event.fields.map fun (name, value) => " " ++ name ++ "=" ++ value
  event.severity.name ++ " " ++ event.source ++ ": " ++ event.message ++ String.join fields

end LoadProbe
