import LoadProbe.KeyStore.Basic
import LoadProbe.KeyStore.Location
import LoadProbe.KeyStore.Service

/-!
A store server over a network: what it answers, and how a client explains its errors. Sessions log
in with the password of their target and choose its database.
-/
namespace LoadProbe

/-- Whether the server can be reached. -/
inductive Reach where
  | open
  /-- Nothing listens at the port. -/
  | closed
  /-- No way leads to the network. -/
  | cutOff
  deriving DecidableEq, Repr

/-- How a server behaves. -/
structure ServerRules where
  reach : Reach := .open
  /-- The password that sessions must give. -/
  password? : Option String := none
  /-- Writes are confirmed and lost. -/
  dropsWrites : Bool := false
  /-- The number of the read or write, from zero on, that is answered with an error line. -/
  failing? : Option (Nat × String) := none

structure Server where
  keys : KeyStore := {}
  /-- All commands that were received, in order. -/
  journal : List (List String) := []
  sessions : Nat := 0
  /-- Reads and writes that were received. -/
  served : Nat := 0
  /-- Whether the current session is logged in. -/
  trusted : Bool := true

namespace Server

/-- The error codes that a client knows, with their kinds. -/
def knownCodes : List (String × String) :=
  [("ERR", "ResponseError"), ("EXECABORT", "ExecAbortError"), ("LOADING", "BusyLoadingError"),
    ("NOSCRIPT", "NoScriptError"), ("MOVED", "Moved"), ("ASK", "Ask"), ("TRYAGAIN", "TryAgain"),
    ("CLUSTERDOWN", "ClusterDown"), ("CROSSSLOT", "CrossSlot"), ("MASTERDOWN", "MasterDown"),
    ("READONLY", "ReadOnly"), ("NOTBUSY", "NotBusy")]

/-- How a client explains an error line: a code, and after a space what there is to say. -/
def explain (line : String) : Explanation :=
  let (code, rest) := Url.cut (· == ' ') line.toList
  let detail? := rest.tail?.map String.ofList
  let code := String.ofList code
  let text :=
    match knownCodes.lookup code, detail? with
    | some kind, some detail =>
      "An error was signalled by the server - " ++ kind ++ ": " ++ detail
    | some kind, none => "An error was signalled by the server- " ++ kind
    | none, some detail => code ++ ": " ++ detail
    | none, none => code ++ ": Unknown extension error encountered"
  ⟨text, []⟩

/-- The explanation of a refused password. -/
def refusedPassword : Explanation := ⟨"Password authentication failed- AuthenticationFailed", []⟩

def receive (server : Server) (command : List String) : Server :=
  { server with journal := server.journal ++ [command] }

/-- Opens a session at a target. -/
def connect (rules : ServerRules) (target : StoreLocation.Target) (server : Server) :
    Except Explanation Unit × Server :=
  match rules.reach with
  | .cutOff => (.error ⟨"Network is unreachable (os error 101)", []⟩, server)
  | .closed => (.error ⟨"Connection refused (os error 111)", []⟩, server)
  | .open =>
    let server := { server with sessions := server.sessions + 1, trusted := rules.password?.isNone }
    match target.password?.map String.ofList with
    | none => choose server
    | some password =>
      let name := (target.username?.map String.ofList).toList
      let server := server.receive ("AUTH" :: name ++ [password])
      if rules.password? = some password then choose { server with trusted := true }
      else (.error refusedPassword, server)
where
  choose (server : Server) : Except Explanation Unit × Server :=
    if target.database = 0 then (.ok (), server)
    else
      (.ok (), server.receive ["SELECT", String.ofList (Numeral.signedDigits target.database)])

/-- Receives a read or a write, which the rules may refuse. -/
def serve (server : Server) (rules : ServerRules) (command : List String) :
    Except Explanation Unit × Server :=
  let number := server.served
  let after := { server.receive command with served := number + 1 }
  if !server.trusted then (.error (explain "NOAUTH Authentication required."), after)
  else
    match rules.failing? with
    | some (failing, line) =>
      if number = failing then (.error (explain line), after) else (.ok (), after)
    | none => (.ok (), after)

def set (rules : ServerRules) (key value : String) (server : Server) :
    Except Explanation Unit × Server :=
  match server.serve rules ["SET", key, value] with
  | (.error cause, server) => (.error cause, server)
  | (.ok (), server) =>
    let kept := { server with keys := server.keys.set key value }
    (.ok (), if rules.dropsWrites then server else kept)

def get (rules : ServerRules) (key : String) (server : Server) :
    Except Explanation (Option String) × Server :=
  match server.serve rules ["GET", key] with
  | (.error cause, server) => (.error cause, server)
  | (.ok (), server) => (.ok (server.keys.get? key), server)

/-- The sessions of one target at a server. -/
def service (rules : ServerRules) (target : StoreLocation.Target) : StoreService Server :=
  ⟨connect rules target, set rules, get rules⟩

end Server
end LoadProbe
