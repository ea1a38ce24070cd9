import LoadProbe.KeyStore.Service
import LoadProbe.Workload

/-!
The load on a key-value store: a session writes numbered keys and reads each one back at once.
Values that are gone by then are only noted.
-/
namespace LoadProbe

structure CacheLoad (State : Type) where
  service : StoreService State
  /-- How many pairs of a write and a read one unit of rate takes. -/
  keysPerRate : UInt64

namespace CacheLoad

variable {State : Type}

/-- The pairs of a rate, at most as many as 64 bits count. -/
def pairsOf (keysPerRate rate : UInt64) : Nat :=
  min (rate.toNat * keysPerRate.toNat) (UInt64.size - 1)

def keyName (i : Nat) : String := "key_" ++ String.ofList (Numeral.digits i)

def valueName (i : Nat) : String := "value_" ++ String.ofList (Numeral.digits i)

/-- The event of a value that was gone when it was read back. -/
def vanished (key : String) : LogEvent where
  severity := .debug
  message := "key vanished before read-back"
  fields := [("key", key)]

/-- Writes and reads a number of pairs from a given one on; the first failure ends it. The events
before it come latest first. -/
def burst (service : StoreService State) (log : List LogEvent) (i : Nat) (state : State) :
    (pairs : Nat) → Except Explanation Unit × List LogEvent × State
  | 0 => (.ok (), log, state)
  | pairs + 1 =>
    match service.set (keyName i) (valueName i) state with
    | (.error cause, state) => (.error cause, log, state)
    | (.ok (), state) =>
      match service.get (keyName i) state with
      | (.error cause, state) => (.error cause, log, state)
      | (.ok none, state) => burst service (vanished (keyName i) :: log) (i + 1) state pairs
      | (.ok (some _), state) => burst service log (i + 1) state pairs

/-- Runs one job in a session of its own. -/
def run (load : CacheLoad State) (job : Job) (state : State) : WorkReport × State :=
  match load.service.connect state with
  | (.error cause, state) => ({ memory := .error cause }, state)
  | (.ok (), state) =>
    match burst load.service [] 0 state (pairsOf load.keysPerRate job.rate) with
    | (.error cause, log, state) => ({ memory := .error cause, log := log.reverse }, state)
    | (.ok (), log, state) => ({ memory := .ok 0, log := log.reverse }, state)

def workload (load : CacheLoad State) : Workload State where
  run := load.run

end CacheLoad
end LoadProbe
