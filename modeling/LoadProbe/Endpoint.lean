import LoadProbe.Clock
import LoadProbe.Collector
import LoadProbe.Measurement
import LoadProbe.SizeTable
import LoadProbe.Text.Quoted
import LoadProbe.Workload

/-!
The endpoint of a service: one request becomes a job, the job is worked on and measured, and the
result line is sent to the collector and given back. The body of an answer follows from what
happened. -/
namespace LoadProbe

/-- Where the rate of a job comes from, unless the workload chooses it. -/
inductive RateSource where
  | headers
  | table (table : SizeTable)

structure Endpoint (State : Type) where
  workload : Workload State
  rates : RateSource
  layout : LineLayout
  policy : JobPolicy := {}
  /-- Without a collector, results are only given back. -/
  collector? : Option Collector := none

/-- All that an endpoint acts on: the clock, the generator, the network and the workload's state. -/
structure Scene (State : Type) where
  clock : Clock
  draws : Draws
  replies : Replies
  state : State

/-- What happened to a request. -/
inductive Outcome where
  /-- A header field that the job needs was missing. -/
  | rejected (field : JobField)
  | failed (cause : Explanation)
  /-- The work was measured, and the line delivered if there is a collector. -/
  | reported (line : String)
  | undelivered (line : String) (failure : Collector.Failure)

namespace Outcome

/-- The message of a rejected request. -/
def rejection : String := "lack headers"

def body : Outcome → String
  | .rejected _ => rejection
  | .failed cause => workFailure cause
  | .reported line => line
  | .undelivered line failure => line ++ " " ++ failure.message

end Outcome

/-- A request that was handled. -/
structure Exchange where
  /-- The job that the workload was given, if there was one. -/
  job? : Option Job
  outcome : Outcome
  /-- The delivery of the line, if one was tried. -/
  delivery? : Option Collector.Delivery
  log : List LogEvent

namespace Exchange

/-- The lines that were sent to the collector. -/
def sent (exchange : Exchange) : List Post := exchange.delivery?.toList.map (·.sent)

/-- The lines that the collector received. -/
def posts (exchange : Exchange) : List Post := exchange.delivery?.toList.flatMap (·.posts)

end Exchange

namespace Endpoint

variable {State : Type}

/-- The job of a request. The workload's own rate goes first, then the table, then the headers. -/
def job (endpoint : Endpoint State) (headers : Headers) (scene : Scene State) :
    Except JobField Job × Scene State :=
  match endpoint.workload.chooseRate scene.state, endpoint.rates with
  | (some rate, state), _ =>
    (.ok (.sampled headers rate scene.clock.read.1),
      { scene with state, clock := scene.clock.read.2 })
  | (none, state), .headers => (Job.ofHeaders headers endpoint.policy, { scene with state })
  | (none, state), .table table =>
    (.ok (.sampled headers (table.sample scene.draws).1 scene.clock.read.1),
      { scene with state, clock := scene.clock.read.2, draws := (table.sample scene.draws).2 })

/-- Reports a measured job. -/
def report (endpoint : Endpoint State) (job : Job) (line : String) (scene : Scene State) :
    Outcome × Option Collector.Delivery × List LogEvent × Scene State :=
  match endpoint.collector? with
  | none => (.reported line, none, [], scene)
  | some collector =>
    let delivery := collector.deliver line job.arrived scene.replies.next.1
    let scene := { scene with replies := scene.replies.next.2 }
    match delivery.result with
    | .ok () => (.reported line, some delivery, delivery.log, scene)
    | .error failure =>
      (.undelivered line failure, some delivery,
        delivery.log ++ [{ severity := .warn, message := failure.message }], scene)

/-- The event of a measured job. -/
def finished (measurement : Measurement) : LogEvent where
  severity := .info
  message := "workload finished"
  fields :=
    [("rate", String.ofList (Numeral.digits measurement.rate.toNat)),
      ("response_time", measurement.responseTime.text), ("latency", measurement.latency.text)]

/-- The event of a request without a field that it needs. -/
def rejecting (field : JobField) : LogEvent where
  severity := .warn
  message := "rejecting request"
  fields := [("error", "LackHeaders \x7b header: " ++ Text.quote field.name ++ " \x7d")]

/-- The event of work that failed. -/
def workFailed (job : Job) (cause : Explanation) : LogEvent where
  severity := .warn
  message := workFailure cause
  fields := [("rate", String.ofList (Numeral.digits job.rate.toNat))]

/-- Works on a job between two reads of the clock, of which a failure spares the second. -/
def perform (endpoint : Endpoint State) (job : Job) (scene : Scene State) :
    Exchange × Scene State :=
  let (started, clock) := scene.clock.read
  let (work, state) := endpoint.workload.run job scene.state
  let clock := clock.advance work.duration
  match work.memory with
  | .error cause =>
    (⟨some job, .failed cause, none, work.log ++ [workFailed job cause]⟩, { scene with clock, state })
  | .ok memory =>
    let (ended, clock) := clock.read
    let measurement := Measurement.ofJob job started ended memory
    let (outcome, delivery?, log, scene) :=
      endpoint.report job (measurement.line endpoint.layout) { scene with clock, state }
    (⟨some job, outcome, delivery?, work.log ++ finished measurement :: log⟩, scene)

/-- Handles one request. -/
def handle (endpoint : Endpoint State) (headers : Headers) (scene : Scene State) :
    Exchange × Scene State :=
  match endpoint.job headers scene with
  | (.error field, scene) => (⟨none, .rejected field, none, [rejecting field]⟩, scene)
  | (.ok job, scene) => endpoint.perform job scene

/-- Handles requests one after the other. -/
def handleAll (endpoint : Endpoint State) :
    List Headers → Scene State → List Exchange × Scene State
  | [], scene => ([], scene)
  | headers :: rest, scene =>
    let (exchange, scene) := endpoint.handle headers scene
    let (exchanges, scene) := handleAll endpoint rest scene
    (exchange :: exchanges, scene)

end Endpoint
end LoadProbe
