import LoadProbe.KeyStore.Basic
import LoadProbe.KeyStore.Service

/-!
A store in memory with faults that are planned ahead, and a record of what was asked of it.
-/
namespace LoadProbe

inductive StoreCall where
  | set (key value : String)
  | get (key : String)
  deriving DecidableEq, Repr

/-- The faults of a store. -/
structure FaultPlan where
  /-- Keys that are lost just before they are read. -/
  vanishing : List String := []
  /-- How many commands are taken before all fail. -/
  commandLimit? : Option Nat := none
  /-- The numbers, from one on, of the connects that fail. -/
  refusedConnects : List Nat := []
  /-- How each failure is explained. -/
  cause : Explanation

structure FaultyStore where
  keys : KeyStore := {}
  /-- The commands that were taken, the latest first. -/
  calls : List StoreCall := []
  commands : Nat := 0
  connects : Nat := 0

namespace FaultyStore

/-- Whether the store takes no more commands. -/
def isSpent (store : FaultyStore) (plan : FaultPlan) : Bool :=
  plan.commandLimit?.any (· ≤ store.commands)

def record (store : FaultyStore) (call : StoreCall) : FaultyStore :=
  { store with calls := call :: store.calls, commands := store.commands + 1 }

def connect (plan : FaultPlan) (store : FaultyStore) : Except Explanation Unit × FaultyStore :=
  let store := { store with connects := store.connects + 1 }
  if plan.refusedConnects.contains store.connects then (.error plan.cause, store)
  else (.ok (), store)

def set (plan : FaultPlan) (key value : String) (store : FaultyStore) :
    Except Explanation Unit × FaultyStore :=
  if store.isSpent plan then (.error plan.cause, store)
  else (.ok (), { store.record (.set key value) with keys := store.keys.set key value })

def get (plan : FaultPlan) (key : String) (store : FaultyStore) :
    Except Explanation (Option String) × FaultyStore :=
  if store.isSpent plan then (.error plan.cause, store)
  else
    let keys := if plan.vanishing.contains key then store.keys.erase key else store.keys
    (.ok (keys.get? key), { store.record (.get key) with keys })

def service (plan : FaultPlan) : StoreService FaultyStore :=
  ⟨connect plan, set plan, get plan⟩

end FaultyStore
end LoadProbe
