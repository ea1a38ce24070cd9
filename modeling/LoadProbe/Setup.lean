import LoadProbe.ArithmeticLoad
import LoadProbe.CacheLoad
import LoadProbe.CommandLine.Settings
import LoadProbe.Emulation
import LoadProbe.Endpoint
import LoadProbe.KeyStore.Server

/-!
The setup of a service from its settings: where it listens, how rates are decided and where results
go. Whatever can fail does so before the service takes a request.
-/
namespace LoadProbe

/-- What all services are set up with. -/
structure Setup where
  listen : SocketAddress
  rates : RateSource
  collector? : Option Collector

namespace Setup

/-- Why common settings give no setup. -/
inductive Failure where
  | unsupportedRates (kind : RateKind)
  | badTable (cause : SizeTable.Failure)
  | badCollector (cause : Url.Failure)
  deriving DecidableEq, Repr

def Failure.explanation : Failure → Explanation
  | .unsupportedRates kind =>
    ⟨"rate source `" ++ kind.name ++ "` is not supported by this service", []⟩
  | .badTable cause => ⟨"invalid job table: " ++ cause.message, []⟩
  | .badCollector cause => ⟨"invalid collector url: " ++ cause.message, [cause.message]⟩

/-- The source of rates that common settings ask for. -/
def ratesOf (settings : CommonSettings) : Except Failure RateSource :=
  match settings.rateKind with
  | .header => .ok .headers
  | .weighted =>
    match settings.taskSize?.elim SizeTable.usual SizeTable.fixed with
    | .ok table => .ok (.table table)
    | .error cause => .error (.badTable cause)
  | .cdf => .error (.unsupportedRates .cdf)

/-- The address of the collector in common settings. -/
def locate (settings : CommonSettings) : Except Url.Failure (Option Url) :=
  Collector.locate settings.collectorAddress? settings.collectorNode?

/-- The setup of common settings. Addresses to send from are looked up unless one is given. -/
def ofSettings (way? : Url → Option IpAddress) (settings : CommonSettings) :
    Except Failure Setup × List LogEvent :=
  match ratesOf settings, locate settings with
  | .error failure, _ => (.error failure, [])
  | .ok _, .error cause => (.error (.badCollector cause), [])
  | .ok rates, .ok none => (.ok ⟨settings.listen, rates, none⟩, [])
  | .ok rates, .ok (some url) =>
    let (sender, log) :=
      match settings.sender? with
      | some sender => (sender, [])
      | none => Collector.resolveSender (way? url) url
    (.ok ⟨settings.listen, rates, some ⟨url, sender, settings.forwardsArrival⟩⟩, log)

/-- The lines of the load on a store: sampled sizes keep to the short one. -/
def storeLayout : RateSource → LineLayout
  | .headers => .timing
  | .table _ => .span

/-- The emulation of settings, with the settings after it was loaded: one that draws its own times
leaves the rate to the headers. -/
def emulation (tree : FileTree) (settings : Settings) :
    Except Distribution.LoadFailure Emulation × Settings :=
  match Distribution.load tree settings.emulation.memoryPath with
  | .error cause => (.error cause, settings)
  | .ok memory =>
    let emulation : Emulation :=
      { memory, bias := settings.emulation.bias, allocator := settings.allocator }
    if settings.common.rateKind ≠ .cdf then (.ok emulation, settings)
    else
      let after := { settings with common := { settings.common with rateKind := .header } }
      match Distribution.load tree settings.emulation.durationPath with
      | .error cause => (.error cause, after)
      | .ok duration => (.ok { emulation with duration? := some duration }, after)

end Setup
end LoadProbe
