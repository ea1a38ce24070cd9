import LoadProbe.Endpoint.Route
import LoadProbe.Setup

/-!
The services: each one puts a workload behind the endpoint, with lines and demands of its own.
-/
namespace LoadProbe

inductive Service where
  /-- Loads the processor. -/
  | arithmetic
  /-- Loads a key-value store. -/
  | store
  /-- Emulates recorded functions. -/
  | emulation
  deriving DecidableEq, Repr

/-- The machine that a service starts on. -/
structure Machine where
  tree : FileTree
  /-- The address from which a URL is reached, if there is a way to it. -/
  way? : Url → Option IpAddress
  /-- Whether the machine has the address of a socket. -/
  owns : SocketAddress → Bool
  store : ServerRules

/-- A service that is ready for requests, with its workload's state. -/
inductive Assembly where
  | arithmetic (endpoint : Endpoint Draws)
  | store (endpoint : Endpoint Server)
  | emulation (endpoint : Endpoint Emulation.State)

/-- What a start came to. -/
structure Started where
  assembly : Assembly
  listen : SocketAddress
  /-- The event that tells the start. -/
  event : LogEvent

namespace Service

def name : Service → String
  | .arithmetic => "alu-bench"
  | .store => "redis-bench"
  | .emulation => "real-world-bench"

/-- How the service names itself in events. -/
def source : Service → String
  | .arithmetic => "alu_bench"
  | .store => "redis_bench"
  | .emulation => "real_world_bench"

/-- What the service says about itself. -/
def about : Service → String
  | .arithmetic => "Arithmetic benchmark: burns `rate * 25000` loop iterations per request"
  | .store => "Cache benchmark: a burst of SET/GET round trips against Redis per request"
  | .emulation =>
    "Real-world emulation: memory footprint and execution time drawn from production traces. " ++
      "`X-Rate` carries the target execution time in ms"

def version : String := "0.1.0"

def options : Service → List (CommandLine.Opt Settings)
  | .arithmetic => Settings.commonOptions
  | .store => Settings.commonOptions ++ Settings.storeOptions
  | .emulation => Settings.commonOptions ++ Settings.emulationOptions

/-- The settings of a command line and an environment. -/
def readSettings (service : Service) (arguments : List String)
    (environment : List (String × String)) : Except CommandLine.Failure Settings :=
  CommandLine.read service.options {} arguments environment

/-- Why a service does not start. -/
inductive StartFailure where
  | usage (failure : CommandLine.Failure)
  | store (refusal : StoreLocation.Refusal)
  | trace (failure : Distribution.LoadFailure)
  | setup (failure : Setup.Failure)
  deriving DecidableEq, Repr

def StartFailure.explanation : StartFailure → Explanation
  | .usage failure => ⟨failure.message, []⟩
  | .store refusal => ⟨refusal.message, []⟩
  | .trace failure => failure.explanation
  | .setup failure => failure.explanation

/-- The event of a start. -/
def starting (service : Service) (what : String) (fields : List (String × String)) : LogEvent where
  severity := .info
  message := "Starting the " ++ what ++ " benchmark service..."
  fields
  source := service.source

/-- Sets a service up with its settings. The target of the store and the files of the emulation go
before what all services have in common. -/
def setUp (service : Service) (machine : Machine) (settings : Settings) :
    Except StartFailure Started × List LogEvent :=
  match service with
  | .arithmetic =>
    withSetup settings.common fun setup =>
      { listen := setup.listen, event := starting .arithmetic "ALU" []
        assembly := .arithmetic
          { workload := ArithmeticLoad.workload, rates := setup.rates, layout := .timing
            collector? := setup.collector? } }
  | .store =>
    match settings.location.target with
    | .error refusal => (.error (.store refusal), [])
    | .ok target =>
      withSetup settings.common fun setup =>
        { listen := setup.listen
          event := starting .store "Redis"
            [("host", settings.store.host),
              ("port", String.ofList (Numeral.digits settings.store.port.toNat)),
              ("keys_per_rate", String.ofList (Numeral.digits settings.store.keysPerRate.toNat))]
          assembly := .store
            { workload :=
                CacheLoad.workload ⟨Server.service machine.store target, settings.store.keysPerRate⟩
              rates := setup.rates, layout := Setup.storeLayout setup.rates
              collector? := setup.collector? } }
  | .emulation =>
    match Setup.emulation machine.tree settings with
    | (.error failure, _) => (.error (.trace failure), [])
    | (.ok loaded, settings) =>
      withSetup settings.common fun setup =>
        { listen := setup.listen
          event := starting .emulation "real-world"
            [("mem_cdf", settings.emulation.memoryPath),
              ("allocator", settings.allocator.debugText)]
          assembly := .emulation
            { workload := loaded.workload, rates := setup.rates, layout := .sequence
              policy := { requireSequenceStart := true, allowZeroRate := true }
              collector? := setup.collector? } }
where
  withSetup (common : CommonSettings) (finish : Setup → Started) :
      Except StartFailure Started × List LogEvent :=
    match Setup.ofSettings machine.way? common with
    | (.error failure, log) => (.error (.setup failure), log)
    | (.ok setup, log) => (.ok (finish setup), log)

/-- Starts a service from its command line and environment. -/
def start (service : Service) (machine : Machine) (arguments : List String)
    (environment : List (String × String)) : Except StartFailure Started × List LogEvent :=
  match service.readSettings arguments environment with
  | .error failure => (.error (.usage failure), [])
  | .ok settings => service.setUp machine settings

end Service
end LoadProbe
