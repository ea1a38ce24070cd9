import LoadProbe.HttpStatus
import LoadProbe.Job
import LoadProbe.Log
import LoadProbe.Url.Read

/-!
The collector of results: where it is, what is sent to it and how its replies are taken. A line is
delivered unless nothing answers or the answer is an error.
-/
namespace LoadProbe

/-- A collector and what it is told about the sender. -/
structure Collector where
  url : Url
  /-- The address that results are sent from. -/
  sender : IpAddress
  /-- Whether the arrival of the job is passed on. -/
  forwardsArrival : Bool
  deriving DecidableEq, Repr

/-- What comes back for a line that was sent. -/
inductive Reply where
  /-- Nothing took the line. -/
  | silence
  | status (code : Nat)
  deriving DecidableEq, Repr

/-- The replies to the lines that will be sent, by their number. -/
structure Replies where
  schedule : Nat → Reply
  taken : Nat := 0

namespace Replies

/-- A network without a way to the collector. -/
def unreachable : Replies := ⟨fun _ => .silence, 0⟩

/-- The given codes in order; the last one repeats. -/
def ofCodes (codes : List Nat) : Replies :=
  ⟨fun n => .status ((codes[n]?).getD (codes.getLastD 200)), 0⟩

def next (replies : Replies) : Reply × Replies :=
  (replies.schedule replies.taken, { replies with taken := replies.taken + 1 })

end Replies

/-- A line as the collector receives it. -/
structure Post where
  path : String
  body : String
  sender : String
  arrival? : Option String
  deriving DecidableEq, Repr

namespace Collector

/-- The text of the address on the subnet of the cluster that a node number gives. -/
def nodeAddress (node : String) : String := "http://172.18.0." ++ node ++ ":30001/store"

/-- The address of the collector: a whole one wins over a node, and without either there is none. -/
def locate (address? node? : Option String) : Except Url.Failure (Option Url) :=
  match address?, node? with
  | some address, _ => (Url.read address).map some
  | none, some node => (Url.read (nodeAddress node)).map some
  | none, none => .ok none

/-- The address to send from: the one of the way to the collector, or loopback if none is known. -/
def resolveSender (way? : Option IpAddress) (url : Url) : IpAddress × List LogEvent :=
  match way?.filter (!·.isUnspecified) with
  | some address => (address, [])
  | none =>
    (.v4 .loopback,
      [{ severity := .warn, message := "could not resolve pod address, reporting loopback"
         fields := [("collector", url.text)], source := "bench_core::report" }])

/-- Why a line was not delivered. -/
inductive Failure where
  | unanswered (url : Url)
  | refused (url : Url) (code : Nat)
  deriving DecidableEq, Repr

def Failure.url : Failure → Url
  | .unanswered url | .refused url _ => url

/-- The cause of a failure; what the network says of it is left out. -/
def Failure.cause : Failure → String
  | .unanswered _ => "<transport>"
  | .refused url code =>
    let kind := if statusClass code = .clientError then "client" else "server"
    "HTTP status " ++ kind ++ " error (" ++ statusText code ++ ") for url (" ++ url.text ++ ")"

def Failure.message (failure : Failure) : String :=
  "unable to deliver result to collector " ++ failure.url.text ++ ": " ++ failure.cause

/-- What came of sending one line. -/
structure Delivery where
  result : Except Failure Unit
  /-- The line as it was sent. -/
  sent : Post
  /-- What the collector received of it. -/
  posts : List Post
  log : List LogEvent

/-- The line as it is sent, with the arrival if that is passed on. -/
def post (collector : Collector) (line : String) (arrived : Binary64) : Post where
  path := String.ofList (collector.url.path.chars ++ Url.marked '?' collector.url.query?)
  body := line
  sender := collector.sender.text
  arrival? := if collector.forwardsArrival then some arrived.text else none

/-- Sends one line and takes the reply; only error codes are failures. -/
def deliver (collector : Collector) (line : String) (arrived : Binary64) (reply : Reply) :
    Delivery :=
  let sent := collector.post line arrived
  match reply with
  | .silence => ⟨.error (.unanswered collector.url), sent, [], []⟩
  | .status code =>
    match statusClass code with
    | .clientError | .serverError => ⟨.error (.refused collector.url code), sent, [sent], []⟩
    | _ =>
      ⟨.ok (), sent, [sent],
        [{ severity := .debug, message := "result delivered",
           fields := [("status", statusText code), ("url", collector.url.text)] }]⟩

end Collector
end LoadProbe
