import LoadProbe.KeyStore.Faulty

/-!
What is asked of a store, with what came of it. Demands that are made in order up to the first
failure are met in order, and nothing is asked after that failure. Main statements: `send_cases`,
`keys_send` for stores that nothing else changes, and `told_send` for stores that fail alike.
-/
namespace LoadProbe

/-- One thing that a session asks of a store. -/
inductive StoreDemand where
  | connect
  | command (call : StoreCall)
  deriving DecidableEq, Repr

/-- What a demand that is met makes of the keys. -/
def StoreDemand.applied (store : KeyStore) : StoreDemand → KeyStore
  | .connect | .command (.get _) => store
  | .command (.set key value) => store.set key value

/-- A demand with what came of it. -/
structure StoreAttempt (State : Type) where
  demand : StoreDemand
  /-- Why the demand was not met, if it was not. -/
  failure? : Option Explanation
  /-- The store right after it. -/
  after : State

/-- Why something failed, if it did. -/
def failureOf? {α : Type} : Except Explanation α → Option Explanation
  | .ok _ => none
  | .error cause => some cause

namespace StoreAttempt

variable {State : Type}

/-- What an attempt tells without the store behind it. -/
def told (attempt : StoreAttempt State) : StoreDemand × Option Explanation :=
  (attempt.demand, attempt.failure?)

/-- The demands that were met, in order. -/
def met (attempts : List (StoreAttempt State)) : List StoreDemand :=
  (attempts.filter (·.failure?.isNone)).map (·.demand)

/-- The first failure of all. -/
def firstFailure? (attempts : List (StoreAttempt State)) : Option Explanation :=
  attempts.findSome? (·.failure?)

/-- The store after attempts that began at a given one. -/
def endOf (state : State) (attempts : List (StoreAttempt State)) : State :=
  (attempts.getLast?.map (·.after)).getD state

@[simp] theorem endOf_nil (state : State) : endOf state [] = state := rfl

@[simp] theorem endOf_cons (state : State) (attempt : StoreAttempt State)
    (rest : List (StoreAttempt State)) :
    endOf state (attempt :: rest) = endOf attempt.after rest := by
  cases rest with
  | nil => rfl
  | cons next others => simp [endOf, List.getLast?_cons]

theorem met_cons (attempt : StoreAttempt State) (rest : List (StoreAttempt State)) :
    met (attempt :: rest) =
      if attempt.failure? = none then attempt.demand :: met rest else met rest := by
  cases failed : attempt.failure? <;> simp [met, failed]

theorem met_of_well {attempts : List (StoreAttempt State)}
    (well : ∀ attempt ∈ attempts, attempt.failure? = none) :
    met attempts = attempts.map (·.demand) := by
  have all : attempts.filter (·.failure?.isNone) = attempts :=
    List.filter_eq_self.mpr fun attempt member => by simp [well attempt member]
  rw [met, all]

theorem met_failed (earlier : List (StoreAttempt State)) {attempt : StoreAttempt State}
    {cause : Explanation} (failed : attempt.failure? = some cause) :
    met (earlier ++ [attempt]) = met earlier := by
  simp [met, List.filter_append, failed]

theorem firstFailure?_eq_none_iff {attempts : List (StoreAttempt State)} :
    firstFailure? attempts = none ↔ ∀ attempt ∈ attempts, attempt.failure? = none :=
  List.findSome?_eq_none_iff

theorem firstFailure?_failed {earlier : List (StoreAttempt State)} {attempt : StoreAttempt State}
    {cause : Explanation} (well : ∀ other ∈ earlier, other.failure? = none)
    (failed : attempt.failure? = some cause) :
    firstFailure? (earlier ++ [attempt]) = some cause := by
  have none := firstFailure?_eq_none_iff.mpr well
  rw [firstFailure?] at none ⊢
  simp [List.findSome?_append, none, failed]

theorem firstFailure?_of_told {Other : Type} {one : List (StoreAttempt State)}
    {other : List (StoreAttempt Other)} (same : one.map told = other.map told) :
    firstFailure? one = firstFailure? other := by
  have failures := congrArg (List.findSome? Prod.snd) same
  rwa [List.findSome?_map, List.findSome?_map] at failures

end StoreAttempt

namespace StoreService

variable {State : Type} (service : StoreService State)

/-- Asks one thing of a store. -/
def attempt (demand : StoreDemand) (state : State) : StoreAttempt State :=
  match demand with
  | .connect => ⟨demand, failureOf? (service.connect state).1, (service.connect state).2⟩
  | .command (.set key value) =>
    ⟨demand, failureOf? (service.set key value state).1, (service.set key value state).2⟩
  | .command (.get key) => ⟨demand, failureOf? (service.get key state).1, (service.get key state).2⟩

/-- The service with a note of every attempt, the latest last. -/
def noting : StoreService (List (StoreAttempt State) × State) where
  connect noted := ((service.connect noted.2).1, noted.1 ++ [service.attempt .connect noted.2],
    (service.connect noted.2).2)
  set key value noted := ((service.set key value noted.2).1,
    noted.1 ++ [service.attempt (.command (.set key value)) noted.2],
    (service.set key value noted.2).2)
  get key noted := ((service.get key noted.2).1,
    noted.1 ++ [service.attempt (.command (.get key)) noted.2], (service.get key noted.2).2)

section Noting

variable {service} {state after : State} (notes : List (StoreAttempt State))

theorem noting_connect {result : Except Explanation Unit}
    (came : service.connect state = (result, after)) :
    service.noting.connect (notes, state) =
      (result, notes ++ [⟨.connect, failureOf? result, after⟩], after) := by
  simp [noting, attempt, came]

theorem noting_set {key value : String} {result : Except Explanation Unit}
    (came : service.set key value state = (result, after)) :
    service.noting.set key value (notes, state) =
      (result, notes ++ [⟨.command (.set key value), failureOf? result, after⟩], after) := by
  simp [noting, attempt, came]

theorem noting_get {key : String} {result : Except Explanation (Option String)}
    (came : service.get key state = (result, after)) :
    service.noting.get key (notes, state) =
      (result, notes ++ [⟨.command (.get key), failureOf? result, after⟩], after) := by
  simp [noting, attempt, came]

end Noting

/-- Asks one thing after the other, up to and including the first that fails. -/
def send : List StoreDemand → State → List (StoreAttempt State)
  | [], _ => []
  | demand :: rest, state =>
    service.attempt demand state ::
      match (service.attempt demand state).failure? with
      | none => send rest (service.attempt demand state).after
      | some _ => []

@[simp] theorem attempt_demand (demand : StoreDemand) (state : State) :
    (service.attempt demand state).demand = demand := by
  rcases demand with _ | ⟨_ | _⟩ <;> rfl

theorem send_sent (demands : List StoreDemand) (state : State) :
    (service.send demands state).map (·.demand) <+: demands := by
  induction demands generalizing state with
  | nil => exact List.nil_prefix
  | cons demand rest ih =>
    rw [send, List.map_cons, attempt_demand, List.prefix_cons_inj]
    cases (service.attempt demand state).failure? with
    | none => exact ih _
    | some cause => exact List.nil_prefix

/-- All demands are met, or the last one that is made is the first to fail. -/
theorem send_cases (demands : List StoreDemand) (state : State) :
    ((∀ attempt ∈ service.send demands state, attempt.failure? = none) ∧
      (service.send demands state).map (·.demand) = demands) ∨
    ∃ earlier attempt cause, service.send demands state = earlier ++ [attempt] ∧
      (∀ other ∈ earlier, other.failure? = none) ∧ attempt.failure? = some cause := by
  induction demands generalizing state with
  | nil => exact .inl ⟨fun _ member => absurd member List.not_mem_nil, rfl⟩
  | cons demand rest ih =>
    rw [send]
    cases failed : (service.attempt demand state).failure? with
    | none =>
      rcases ih (service.attempt demand state).after with
        ⟨well, all⟩ | ⟨earlier, attempt, cause, made, well, first⟩
      · refine .inl ⟨List.forall_mem_cons.mpr ⟨failed, well⟩, ?_⟩
        rw [List.map_cons, attempt_demand, all]
      · refine .inr ⟨service.attempt demand state :: earlier, attempt, cause, ?_,
          List.forall_mem_cons.mpr ⟨failed, well⟩, first⟩
        rw [made, List.cons_append]
    | some cause =>
      exact .inr ⟨[], service.attempt demand state, cause, rfl,
        fun _ member => absurd member List.not_mem_nil, failed⟩

/-- What is met are the first ones of the demands. -/
theorem met_send (demands : List StoreDemand) (state : State) :
    StoreAttempt.met (service.send demands state) <+: demands := by
  have sent := service.send_sent demands state
  rcases service.send_cases demands state with
    ⟨well, -⟩ | ⟨earlier, attempt, cause, made, well, failed⟩
  · rwa [StoreAttempt.met_of_well well]
  · rw [made, List.map_append] at sent
    rw [made, StoreAttempt.met_failed earlier failed, StoreAttempt.met_of_well well]
    exact (List.prefix_append _ _).trans sent

/-- A store on which a demand that is met does what it says and nothing else. -/
def Keeps (keys : State → KeyStore) : Prop :=
  ∀ demand state, (service.attempt demand state).failure? = none →
    ∀ key, (keys (service.attempt demand state).after).get? key =
      (demand.applied (keys state)).get? key

/-- A store on which a demand that fails changes nothing. -/
def Spares (keys : State → KeyStore) : Prop :=
  ∀ demand state, (service.attempt demand state).failure? ≠ none →
    ∀ key, (keys (service.attempt demand state).after).get? key = (keys state).get? key

/-- Stores that fail at the same demands, whatever else is in them and whatever they answer. -/
structure FailAlike {Other : Type} (twin : StoreService Other) (alike : State → Other → Prop) :
    Prop where
  failure? (demand : StoreDemand) {state : State} {other : Other} : alike state other →
    (service.attempt demand state).failure? = (twin.attempt demand other).failure?
  after (demand : StoreDemand) {state : State} {other : Other} : alike state other →
    alike (service.attempt demand state).after (twin.attempt demand other).after

variable {service}

/-- Stores with the same values stay so under the same demands. -/
theorem foldl_applied {one other : KeyStore} (same : ∀ key, one.get? key = other.get? key)
    (demands : List StoreDemand) (key : String) :
    (demands.foldl StoreDemand.applied one).get? key =
      (demands.foldl StoreDemand.applied other).get? key := by
  induction demands generalizing one other with
  | nil => exact same key
  | cons demand rest ih =>
    refine ih fun key => ?_
    rcases demand with _ | ⟨name, value⟩ | name
    · exact same key
    · rw [StoreDemand.applied, StoreDemand.applied, KeyStore.get?_set, KeyStore.get?_set, same]
    · exact same key

/-- After each attempt the keys are those at the start under the demands that were met so far; after
one that failed only if that changes nothing. -/
theorem keys_send {keys : State → KeyStore} (keeps : service.Keeps keys)
    (demands : List StoreDemand) {state : State} {n : Nat} {attempt : StoreAttempt State}
    (found : (service.send demands state)[n]? = some attempt)
    (spared : attempt.failure? = none ∨ service.Spares keys) (key : String) :
    (keys attempt.after).get? key =
      ((StoreAttempt.met ((service.send demands state).take (n + 1))).foldl StoreDemand.applied
        (keys state)).get? key := by
  induction demands generalizing state n with
  | nil => simp [send] at found
  | cons demand rest ih =>
    rw [send] at found ⊢
    cases failed : (service.attempt demand state).failure? with
    | some cause =>
      rw [failed, List.getElem?_singleton] at found
      obtain ⟨-, rfl⟩ : n = 0 ∧ service.attempt demand state = attempt := by
        simpa using found
      have left := (spared.resolve_left (by simp [failed])) demand state (by simp [failed])
      simp [StoreAttempt.met, failed, left]
    | none =>
      have done := keeps demand state failed
      rw [failed] at found
      rw [List.take_succ_cons, StoreAttempt.met_cons, if_pos failed, attempt_demand,
        List.foldl_cons]
      cases n with
      | zero =>
        obtain rfl : service.attempt demand state = attempt := by simpa using found
        simp [StoreAttempt.met, done]
      | succ n =>
        rw [List.getElem?_cons_succ] at found
        rw [ih found]
        exact foldl_applied done _ key

/-- Of stores that fail alike, the same demands tell the same. -/
theorem told_send {Other : Type} {twin : StoreService Other} {alike : State → Other → Prop}
    (failing : service.FailAlike twin alike) (demands : List StoreDemand) {state : State}
    {other : Other} (same : alike state other) :
    (service.send demands state).map StoreAttempt.told =
        (twin.send demands other).map StoreAttempt.told ∧
      alike (StoreAttempt.endOf state (service.send demands state))
        (StoreAttempt.endOf other (twin.send demands other)) := by
  induction demands generalizing state other with
  | nil => exact ⟨rfl, same⟩
  | cons demand rest ih =>
    have failure := failing.failure? demand same
    have after := failing.after demand same
    rw [send, send, failure]
    cases failed : (twin.attempt demand other).failure? with
    | none =>
      obtain ⟨told, ends⟩ := ih after
      simp [StoreAttempt.told, failure, failed, told, ends]
    | some cause => simp [StoreAttempt.told, failure, failed, after]

end StoreService

namespace FaultyStore

variable (plan : FaultPlan)

/-- Where no keys vanish, what is met is all that happens. -/
theorem keeps_service (lasting : plan.vanishing = []) : (service plan).Keeps keys := by
  rintro (_ | ⟨name, value⟩ | name) store well key
  · simp only [StoreService.attempt, service, connect]
    split <;> rfl
  · by_cases spent : store.isSpent plan
    · simp [StoreService.attempt, service, set, spent, failureOf?] at well
    · simp [StoreService.attempt, service, set, spent, StoreDemand.applied, record]
  · by_cases spent : store.isSpent plan
    · simp [StoreService.attempt, service, get, spent, failureOf?] at well
    · simp [StoreService.attempt, service, get, spent, StoreDemand.applied, record, lasting]

theorem spares_service : (service plan).Spares keys := by
  rintro (_ | ⟨name, value⟩ | name) store failed key
  · simp only [StoreService.attempt, service, connect]
    split <;> rfl
  · by_cases spent : store.isSpent plan
    · simp [StoreService.attempt, service, set, spent]
    · simp [StoreService.attempt, service, set, spent, failureOf?] at failed
  · by_cases spent : store.isSpent plan
    · simp [StoreService.attempt, service, get, spent]
    · simp [StoreService.attempt, service, get, spent, failureOf?] at failed

/-- Keys that vanish make no store fail. -/
theorem failAlike_vanishing (vanishing : List String) :
    (service plan).FailAlike (service { plan with vanishing })
      fun one other => one.commands = other.commands ∧ one.connects = other.connects := by
  have spentToo {one other : FaultyStore} (commands : one.commands = other.commands) :
      other.isSpent { plan with vanishing } = one.isSpent plan := by
    rw [isSpent, isSpent, commands]
  constructor
  · rintro (_ | ⟨name, value⟩ | name) one other ⟨commands, connects⟩
    · simp only [StoreService.attempt, service, connect, connects]
      split <;> rfl
    · by_cases spent : one.isSpent plan <;>
        simp [StoreService.attempt, service, set, spentToo commands, spent, failureOf?]
    · by_cases spent : one.isSpent plan <;>
        simp [StoreService.attempt, service, get, spentToo commands, spent, failureOf?]
  · rintro (_ | ⟨name, value⟩ | name) one other ⟨commands, connects⟩
    · simp only [StoreService.attempt, service, connect, connects]
      split <;> exact ⟨commands, rfl⟩
    · by_cases spent : one.isSpent plan <;>
        simp [StoreService.attempt, service, set, spentToo commands, spent, record, commands,
          connects]
    · by_cases spent : one.isSpent plan <;>
        simp [StoreService.attempt, service, get, spentToo commands, spent, record, commands,
          connects]

end FaultyStore
end LoadProbe
