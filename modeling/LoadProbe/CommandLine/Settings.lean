import LoadProbe.Binary64.Decimal
import LoadProbe.CommandLine.Grammar
import LoadProbe.Emulation.Allocator
import LoadProbe.KeyStore.Location

/-!
The settings of the services, with the options that change them.
-/
namespace LoadProbe

/-- How the rate of a job is decided. -/
inductive RateKind where
  /-- The headers tell it. -/
  | header
  /-- It is drawn from a table of sizes. -/
  | weighted
  /-- It is drawn from a distribution of times. -/
  | cdf
  deriving DecidableEq, Repr

def RateKind.name : RateKind → String
  | .header => "header"
  | .weighted => "weighted"
  | .cdf => "cdf"

/-- What all services have in common. -/
structure CommonSettings where
  listen : SocketAddress := ⟨.v4 ⟨0, 0, 0, 0⟩, 0, 8080⟩
  rateKind : RateKind := .header
  /-- The only size of the table, in place of the usual mix. -/
  taskSize? : Option UInt64 := none
  collectorAddress? : Option String := none
  collectorNode? : Option String := none
  sender? : Option IpAddress := none
  forwardsArrival : Bool := false

/-- The settings of the load on a store. -/
structure StoreSettings where
  host : String := "localhost"
  port : UInt16 := 6379
  password : String := "pmT0bVLwFr"
  keysPerRate : UInt64 := 10

/-- The settings of the emulation. -/
structure EmulationSettings where
  memoryPath : String := "CDFs/memCDF.csv"
  durationPath : String := "CDFs/execTimeCDF.csv"
  bias : Binary64 := .ofInt 30
  helper : String := "./mem-alloc"
  inProcess : Bool := false

/-- The settings of every service; each one reads those that its options can change. -/
structure Settings where
  common : CommonSettings := {}
  store : StoreSettings := {}
  emulation : EmulationSettings := {}

namespace Settings

open CommandLine

/-- A value that a reader takes, or the cause why not. -/
def parsed (result : Except String α) : Except ValueFault α :=
  match result with
  | .ok value => .ok value
  | .error cause => .error (.invalid cause)

def readSocket (text : String) : Except ValueFault SocketAddress :=
  parsed ((SocketAddress.read? text.toList).elim (.error SocketAddress.failureMessage) .ok)

def readAddress (text : String) : Except ValueFault IpAddress :=
  parsed ((IpAddress.read? text.toList).elim (.error IpAddress.failureMessage) .ok)

def readRateKind : String → Except ValueFault RateKind
  | "header" => .ok .header
  | "weighted" => .ok .weighted
  | "cdf" => .ok .cdf
  | _ => .error .unknown

def readCount (text : String) : Except ValueFault UInt64 :=
  parsed ((Numeral.readUInt64 text.toList).mapError Numeral.Failure.message)

/-- A port is read as any whole number first. -/
def readPort (text : String) : Except ValueFault UInt16 := do
  let number ← parsed ((Numeral.readInt64 text.toList).mapError Numeral.Failure.message)
  if 0 ≤ number.toInt ∧ number.toInt < UInt16.size then return UInt16.ofNat number.toInt.toNat
  else
    let digits := String.ofList (Numeral.signedDigits number.toInt)
    .error (.invalid (digits ++ " is not in 0..=65535"))

def readNumber (text : String) : Except ValueFault Binary64 :=
  parsed ((Binary64.read text.toList).mapError Binary64.Failure.message)

/-- A path is never empty. -/
def readPath (text : String) : Except ValueFault String :=
  if text = "" then .error .missing else .ok text

/-- An option with one value. -/
def valued (name environmentName : String) (reader : String → Except ValueFault α)
    (assign : α → Settings → Settings) : Opt Settings where
  name
  environmentName
  action := .value fun text settings => (reader text).map fun value => assign value settings

/-- A flag. -/
def flagged (name environmentName : String) (assign : Bool → Settings → Settings) :
    Opt Settings where
  name
  environmentName
  action := .flag assign

/-- The options of every service. -/
def commonOptions : List (Opt Settings) :=
  [valued "listen" "BENCH_LISTEN" readSocket
      fun listen s => { s with common := { s.common with listen } },
    valued "rate-source" "RATE_SOURCE" readRateKind
      fun rateKind s => { s with common := { s.common with rateKind } },
    valued "task-size" "TASK_SIZE" readCount
      fun size s => { s with common := { s.common with taskSize? := some size } },
    valued "collector-url" "COLLECTOR_URL" .ok
      fun url s => { s with common := { s.common with collectorAddress? := some url } },
    valued "node-of-activator" "NODE_OF_ACTIVATOR" .ok
      fun node s => { s with common := { s.common with collectorNode? := some node } },
    valued "pod-ip" "POD_IP" readAddress
      fun sender s => { s with common := { s.common with sender? := some sender } },
    flagged "forward-arrive-timestamp" "FORWARD_ARRIVE_TIMESTAMP"
      fun forwardsArrival s => { s with common := { s.common with forwardsArrival } }]

/-- The options of the load on a store. -/
def storeOptions : List (Opt Settings) :=
  [valued "redis-host" "REDIS_HOST" .ok
      fun host s => { s with store := { s.store with host } },
    valued "redis-port" "REDIS_PORT" readPort
      fun port s => { s with store := { s.store with port } },
    valued "redis-password" "REDIS_PASSWORD" .ok
      fun password s => { s with store := { s.store with password } },
    valued "keys-per-rate" "KEYS_PER_RATE" readCount
      fun keysPerRate s => { s with store := { s.store with keysPerRate } }]

/-- The options of the emulation. -/
def emulationOptions : List (Opt Settings) :=
  [valued "mem-cdf" "MEM_CDF" readPath
      fun memoryPath s => { s with emulation := { s.emulation with memoryPath } },
    valued "exec-cdf" "EXEC_CDF" readPath
      fun durationPath s => { s with emulation := { s.emulation with durationPath } },
    valued "mem-bias" "MEM_BIAS" readNumber
      fun bias s => { s with emulation := { s.emulation with bias } },
    valued "mem-helper" "MEM_HELPER" readPath
      fun helper s => { s with emulation := { s.emulation with helper } },
    flagged "mem-in-process" "MEM_IN_PROCESS"
      fun inProcess s => { s with emulation := { s.emulation with inProcess } }]

/-- The store that the load goes to. -/
def location (settings : Settings) : StoreLocation :=
  ⟨settings.store.host, settings.store.port, some settings.store.password⟩

def allocator (settings : Settings) : Allocator :=
  if settings.emulation.inProcess then .inProcess else .helper settings.emulation.helper

end Settings
end LoadProbe
