import LoadProbe.CacheLoad
import LoadProbe.KeyStore.Basic

/-!
Sessions side by side: each one runs through its writes and reads in order, and their steps on the
shared store interleave in any way. A session may stop for good before any command.
-/
namespace LoadProbe.Sessions

/-- Where one session stands. -/
structure Progress where
  pairs : Nat
  /-- How many commands are done; a write comes before the read of its key. -/
  done : Nat := 0
  /-- What its reads answered, in order. -/
  answers : List (Option String) := []
  stopped : Bool := false
  deriving DecidableEq, Repr

/-- Sessions by number, and the store that they share. -/
structure Shared where
  sessions : List Progress
  store : KeyStore

/-- The number of writes that a session has done. -/
def Progress.writes (progress : Progress) : Nat := (progress.done + 1) / 2

/-- The session after a command, with the answer if it was a read. -/
def Progress.advance (progress : Progress) (answer : List (Option String)) : Progress :=
  { progress with done := progress.done + 1, answers := progress.answers ++ answer }

/-- One step of one session. -/
inductive Step : Shared → Shared → Prop where
  | write {shared : Shared} {n i : Nat} {progress : Progress}
      (found : shared.sessions[n]? = some progress) (running : progress.stopped = false)
      (place : progress.done = 2 * i) (more : i < progress.pairs) :
      Step shared ⟨shared.sessions.set n (progress.advance []),
        shared.store.set (CacheLoad.keyName i) (CacheLoad.valueName i)⟩
  | read {shared : Shared} {n i : Nat} {progress : Progress}
      (found : shared.sessions[n]? = some progress) (running : progress.stopped = false)
      (place : progress.done = 2 * i + 1) (more : i < progress.pairs) :
      Step shared ⟨shared.sessions.set n
        (progress.advance [shared.store.get? (CacheLoad.keyName i)]), shared.store⟩
  | stop {shared : Shared} {n : Nat} {progress : Progress}
      (found : shared.sessions[n]? = some progress) :
      Step shared ⟨shared.sessions.set n { progress with stopped := true }, shared.store⟩

/-- What any number of steps leads to. -/
inductive Reachable (start : Shared) : Shared → Prop where
  | refl : Reachable start start
  | step {middle last : Shared} (reached : Reachable start middle) (next : Step middle last) :
      Reachable start last

/-- The sessions of rates before their first command. -/
def start (rates : List (UInt64 × UInt64)) (store : KeyStore) : Shared :=
  ⟨rates.map fun (keysPerRate, rate) => { pairs := CacheLoad.pairsOf keysPerRate rate }, store⟩

end LoadProbe.Sessions
