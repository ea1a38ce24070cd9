import LoadProbe.Binary64.Decimal
import LoadProbe.Header

/-!
Jobs: how much work a request asks for, with the time stamps that measure it. A job is either told
by the headers alone or gets its rate from a sample.
-/
namespace LoadProbe

/-- The header fields that describe a job. -/
inductive JobField where
  | routed
  | arrived
  | sequenceStart
  | rate
  | lastRate
  deriving DecidableEq, Repr

def JobField.name : JobField → String
  | .routed => "X-Request-Timestamp"
  | .arrived => "X-Arrive-Timestamp"
  | .sequenceStart => "X-Seq-Start-Time"
  | .rate => "X-Rate"
  | .lastRate => "X-Last-Rate"

/-- What a service insists on in the headers of a job. -/
structure JobPolicy where
  /-- The start of the sequence must be told. -/
  requireSequenceStart : Bool := false
  /-- A rate of zero is a job. -/
  allowZeroRate : Bool := false
  deriving DecidableEq, Repr

/-- One job; stamps are in milliseconds since the epoch. -/
structure Job where
  /-- When the router sent the request on. -/
  routed : Binary64
  /-- When the request arrived. -/
  arrived : Binary64
  /-- When the sequence around the job began; zero if the job does not end it. -/
  sequenceStart? : Option Binary64
  /-- The size of the work. -/
  rate : UInt64
  /-- The size of the job before, zero if unknown. -/
  lastRate : Int64
  deriving DecidableEq

namespace Job

/-- The finite time stamp that a field holds. -/
def stamp? (headers : Headers) (field : JobField) : Option Binary64 :=
  ((headers.field? field.name).bind Binary64.read?).filter Binary64.isFinite

/-- The time stamp that a field holds, or the field that lacks one. -/
def stamp (headers : Headers) (field : JobField) : Except JobField Binary64 :=
  match stamp? headers field with
  | some millis => .ok millis
  | none => .error field

/-- The rate that the headers tell, if the policy takes it. -/
def toldRate? (headers : Headers) (policy : JobPolicy) : Option UInt64 :=
  ((headers.field? JobField.rate.name).bind fun text => (Numeral.readUInt64 text).toOption).filter
    fun rate => 0 < rate || policy.allowZeroRate

/-- The size of the job before; what is no number counts as zero. -/
def toldLastRate (headers : Headers) : Int64 :=
  ((headers.field? JobField.lastRate.name).bind fun text =>
    (Numeral.readInt64 text).toOption).getD 0

/-- The job that the headers describe, or the first field that fails to. -/
def ofHeaders (headers : Headers) (policy : JobPolicy) : Except JobField Job := do
  let routed ← stamp headers .routed
  let arrived ← stamp headers .arrived
  let sequenceStart? ←
    if policy.requireSequenceStart then (stamp headers .sequenceStart).map some
    else pure (stamp? headers .sequenceStart)
  match toldRate? headers policy with
  | some rate => .ok ⟨routed, arrived, sequenceStart?, rate, toldLastRate headers⟩
  | none => .error .rate

/-- A job of a sampled rate. The stamps are those of the headers; without one for the arrival that
is now, and without one for the routing that is the arrival. -/
def sampled (headers : Headers) (rate : UInt64) (now : Binary64) : Job :=
  let arrived := (stamp? headers .arrived).getD now
  { routed := (stamp? headers .routed).getD arrived
    arrived
    sequenceStart? := stamp? headers .sequenceStart
    rate
    lastRate := toldLastRate headers }

/-- The header fields that describe a job in full. -/
def toHeaders (job : Job) : Headers :=
  [ .ofText JobField.routed.name job.routed.text,
    .ofText JobField.arrived.name job.arrived.text ] ++
  (job.sequenceStart?.toList.map fun start => .ofText JobField.sequenceStart.name start.text) ++
  [ .ofText JobField.rate.name (String.ofList (Numeral.digits job.rate.toNat)),
    .ofText JobField.lastRate.name (String.ofList (Numeral.signedDigits job.lastRate.toInt)) ]

end Job
end LoadProbe
