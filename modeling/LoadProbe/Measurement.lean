import LoadProbe.Job

/-!
Measurements of one finished job, and the result lines that report them.
-/
namespace LoadProbe

structure Measurement where
  rate : UInt64
  started : Binary64
  ended : Binary64
  /-- From the arrival to the start of the work. -/
  responseTime : Binary64
  /-- From the routing to the end of the work. -/
  completionTime : Binary64
  /-- From the arrival to the end of the work. -/
  latency : Binary64
  /-- From the start of the sequence to the end of the work that ends it, else zero. -/
  sequenceLatency : Binary64
  /-- The memory that the work took, in MiB. -/
  memory : Int64
  lastRate : Int64
  deriving DecidableEq

/-- Which columns a result line has. -/
inductive LineLayout where
  /-- Rate, start, end and duration. -/
  | span
  /-- Rate, response time, completion time, latency and the rate before. -/
  | timing
  /-- Sequence latency, response time, memory, latency and the rate before. -/
  | sequence
  deriving DecidableEq, Repr

namespace Measurement

def ofJob (job : Job) (started ended : Binary64) (memory : Int64) : Measurement where
  rate := job.rate
  started
  ended
  responseTime := started - job.arrived
  completionTime := ended - job.routed
  latency := ended - job.arrived
  sequenceLatency :=
    match job.sequenceStart? with
    | some start => if start.same (.zero false) then .zero false else ended - start
    | none => .zero false
  memory
  lastRate := job.lastRate

/-- The columns of a result line, in order. -/
def columns (measurement : Measurement) : LineLayout → List (List Char)
  | .span =>
    [Numeral.digits measurement.rate.toNat, measurement.started.chars, measurement.ended.chars,
      (measurement.ended - measurement.started).chars]
  | .timing =>
    [Numeral.digits measurement.rate.toNat, measurement.responseTime.chars,
      measurement.completionTime.chars, measurement.latency.chars,
      Numeral.signedDigits measurement.lastRate.toInt]
  | .sequence =>
    [measurement.sequenceLatency.chars, measurement.responseTime.chars,
      Numeral.signedDigits measurement.memory.toInt, measurement.latency.chars,
      Numeral.signedDigits measurement.lastRate.toInt]

/-- The result line: the columns with one space between them and a line feed at the end. -/
def line (measurement : Measurement) (layout : LineLayout) : String :=
  String.ofList ([' '].intercalate (measurement.columns layout) ++ ['\n'])

end Measurement
end LoadProbe
