import LoadProbe.Proofs.KeyStore.Journal
import LoadProbe.Proofs.KeyStore.Pairs

/-!
Runs of a load on a store, one after the other. Whatever fails, each run connects once and then asks
for its writes and reads in order, up to the first failure, which it reports. Main statement:
`runAll_journaled`.
-/
namespace LoadProbe.CacheLoad

open StoreAttempt

variable {State : Type}

/-- The commands of numbered pairs, each one written and then read. -/
def commands (pairs : List Nat) : List StoreDemand :=
  pairs.flatMap fun i =>
    [.command (.set ("key_" ++ toString i) ("value_" ++ toString i)),
      .command (.get ("key_" ++ toString i))]

/-- What a run of a number of pairs asks for if nothing fails. -/
def demands (pairs : Nat) : List StoreDemand := .connect :: commands (List.range pairs)

/-- The load on the store with a note of every attempt. -/
def noting (load : CacheLoad State) : CacheLoad (List (StoreAttempt State) × State) :=
  ⟨load.service.noting, load.keysPerRate⟩

/-- Runs jobs one after the other. -/
def runAll (load : CacheLoad State) : List Job → State → List WorkReport × State
  | [], state => ([], state)
  | job :: rest, state =>
    let (report, state) := load.run job state
    let (reports, state) := runAll load rest state
    (report :: reports, state)

/-- What a run asks of the store. -/
def attempts (load : CacheLoad State) (job : Job) (state : State) : List (StoreAttempt State) :=
  load.service.send (demands (pairsOf load.keysPerRate job.rate)) state

theorem commands_cons (i : Nat) (rest : List Nat) :
    commands (i :: rest) =
      .command (.set (keyName i) (valueName i)) :: .command (.get (keyName i)) ::
        commands rest := by
  rw [keyName_eq, valueName_eq]
  rfl

theorem commands_range'_succ (i pairs : Nat) :
    commands (List.range' i (pairs + 1)) =
      .command (.set (keyName i) (valueName i)) :: .command (.get (keyName i)) ::
        commands (List.range' (i + 1) pairs) := by
  rw [List.range'_succ, commands_cons]

section Burst

variable {service : StoreService State} {i : Nat} {state middle after : State}

/-- A pair whose write fails is not read. -/
theorem send_unwritten {cause : Explanation} (pairs : Nat)
    (written : service.set (keyName i) (valueName i) state = (.error cause, middle)) :
    service.send (commands (List.range' i (pairs + 1))) state =
      [⟨.command (.set (keyName i) (valueName i)), some cause, middle⟩] := by
  rw [commands_range'_succ, StoreService.send, StoreService.attempt, written]
  rfl

theorem send_unread {cause : Explanation} (pairs : Nat)
    (written : service.set (keyName i) (valueName i) state = (.ok (), middle))
    (answered : service.get (keyName i) middle = (.error cause, after)) :
    service.send (commands (List.range' i (pairs + 1))) state =
      [⟨.command (.set (keyName i) (valueName i)), none, middle⟩,
        ⟨.command (.get (keyName i)), some cause, after⟩] := by
  rw [commands_range'_succ, StoreService.send, StoreService.attempt, written]
  simp only [failureOf?]
  rw [StoreService.send, StoreService.attempt, answered]
  rfl

/-- What a read answers does not matter to the rest. -/
theorem send_read {value? : Option String} (pairs : Nat)
    (written : service.set (keyName i) (valueName i) state = (.ok (), middle))
    (answered : service.get (keyName i) middle = (.ok value?, after)) :
    service.send (commands (List.range' i (pairs + 1))) state =
      ⟨.command (.set (keyName i) (valueName i)), none, middle⟩ ::
        ⟨.command (.get (keyName i)), none, after⟩ ::
          service.send (commands (List.range' (i + 1) pairs)) after := by
  rw [commands_range'_succ, StoreService.send, StoreService.attempt, written]
  simp only [failureOf?]
  rw [StoreService.send, StoreService.attempt, answered]
  rfl

theorem burst_read {value? : Option String} (pairs : Nat) (log : List LogEvent)
    (written : service.set (keyName i) (valueName i) state = (.ok (), middle))
    (answered : service.get (keyName i) middle = (.ok value?, after)) :
    burst service log i state (pairs + 1) =
      burst service (if value? = none then vanished (keyName i) :: log else log) (i + 1) after
        pairs := by
  cases value? <;> simp [burst, written, answered]

/-- What a burst asks for and what it comes to, with notes or without them. -/
structure Bursts (service : StoreService State) (log : List LogEvent) (i : Nat) (state : State)
    (pairs : Nat) : Prop where
  noted (notes : List (StoreAttempt State)) : burst service.noting log i (notes, state) pairs =
    ((burst service log i state pairs).1, (burst service log i state pairs).2.1,
      notes ++ service.send (commands (List.range' i pairs)) state,
      (burst service log i state pairs).2.2)
  result : (burst service log i state pairs).1 =
    (firstFailure? (service.send (commands (List.range' i pairs)) state)).elim (.ok ()) .error
  ends : (burst service log i state pairs).2.2 =
    endOf state (service.send (commands (List.range' i pairs)) state)

/-- The induction follows the pairs that are left. -/
theorem burst_bursts (service : StoreService State) (pairs : Nat) (log : List LogEvent) (i : Nat)
    (state : State) : Bursts service log i state pairs := by
  induction pairs generalizing log i state with
  | zero => exact ⟨fun notes => by simp [burst, commands, StoreService.send], rfl, rfl⟩
  | succ pairs ih =>
    rcases written : service.set (keyName i) (valueName i) state with ⟨cause | ⟨⟩, middle⟩
    · have sent := send_unwritten pairs written
      refine ⟨fun notes => ?_, ?_, ?_⟩
      · simp [burst, StoreService.noting_set notes written, written, sent, failureOf?]
      · simp [burst, written, sent, firstFailure?]
      · simp [burst, written, sent]
    · rcases answered : service.get (keyName i) middle with ⟨cause | value?, after⟩
      · have sent := send_unread pairs written answered
        refine ⟨fun notes => ?_, ?_, ?_⟩
        · simp [burst, StoreService.noting_set notes written, StoreService.noting_get _ answered,
            written, answered, sent, failureOf?]
        · simp [burst, written, answered, sent, firstFailure?]
        · simp [burst, written, answered, sent]
      · have sent := send_read pairs written answered
        have went := burst_read pairs log written answered
        have wentNoted (notes : List (StoreAttempt State)) :=
          burst_read pairs log (StoreService.noting_set notes written)
            (StoreService.noting_get _ answered)
        obtain ⟨noted, result, ends⟩ :=
          ih (if value? = none then vanished (keyName i) :: log else log) (i + 1) after
        refine ⟨fun notes => ?_, ?_, ?_⟩
        · rw [wentNoted, noted, went, sent]
          simp [failureOf?]
        · rw [went, result, sent]
          rfl
        · rw [went, ends, sent]
          simp

end Burst

section Run

variable {load : CacheLoad State} {job : Job} {state middle : State}

theorem attempts_refused {cause : Explanation}
    (refused : load.service.connect state = (.error cause, middle)) :
    load.attempts job state = [⟨.connect, some cause, middle⟩] := by
  rw [attempts, demands, StoreService.send, StoreService.attempt, refused]
  rfl

theorem attempts_opened (opened : load.service.connect state = (.ok (), middle)) :
    load.attempts job state = ⟨.connect, none, middle⟩ :: load.service.send
      (commands (List.range' 0 (pairsOf load.keysPerRate job.rate))) middle := by
  rw [attempts, demands, ← List.range_eq_range', StoreService.send, StoreService.attempt, opened]
  rfl

variable (load job state)

/-- Notes change nothing, and what is noted of a run are its attempts. Their first failure is what
the run reports, and they leave the store as the run does. -/
theorem run_sends :
    (∀ notes, load.noting.run job (notes, state) =
      ((load.run job state).1, notes ++ load.attempts job state, (load.run job state).2)) ∧
    (load.run job state).1.memory =
      (firstFailure? (load.attempts job state)).elim (.ok 0) .error ∧
    (load.run job state).2 = endOf state (load.attempts job state) := by
  rcases opened : load.service.connect state with ⟨cause | ⟨⟩, middle⟩
  · have refused : load.attempts job state = [⟨.connect, some cause, middle⟩] :=
      attempts_refused opened
    refine ⟨fun notes => ?_, ?_, ?_⟩
    · simp [run, noting, StoreService.noting_connect notes opened, opened, refused, failureOf?]
    · simp [run, opened, refused, firstFailure?]
    · simp [run, opened, refused]
  · have sent : load.attempts job state = ⟨.connect, none, middle⟩ :: load.service.send
        (commands (List.range' 0 (pairsOf load.keysPerRate job.rate))) middle :=
      attempts_opened opened
    obtain ⟨noted, result, ends⟩ :=
      burst_bursts load.service (pairsOf load.keysPerRate job.rate) [] 0 middle
    have first : firstFailure? (load.attempts job state) = firstFailure? (load.service.send
        (commands (List.range' 0 (pairsOf load.keysPerRate job.rate))) middle) := by
      rw [sent]
      rfl
    rw [← first] at result
    rcases came : burst load.service [] 0 middle (pairsOf load.keysPerRate job.rate) with
      ⟨outcome, log, after⟩
    simp only [came] at result ends
    refine ⟨fun notes => ?_, ?_, ?_⟩
    · cases outcome <;> simp [run, noting, StoreService.noting_connect notes opened, noted, came,
        opened, sent, failureOf?]
    · cases failed : firstFailure? (load.attempts job state) <;> rw [failed] at result <;>
        simp [run, opened, came, result]
    · cases outcome <;> simp [run, opened, came, sent, ends]

end Run

/-- The number of commands that were met, besides the connect. -/
def commandsDone (attempts : List (StoreAttempt State)) : Nat := (met attempts).length - 1

section Pairs

variable (store : KeyStore)

theorem length_commands (pairs : List Nat) : (commands pairs).length = 2 * pairs.length := by
  induction pairs with
  | nil => rfl
  | cons i rest ih =>
    rw [commands_cons, List.length_cons, List.length_cons, ih, List.length_cons]
    omega

theorem commands_range_succ (pairs : Nat) :
    commands (List.range (pairs + 1)) = commands (List.range pairs) ++
      [.command (.set (keyName pairs) (valueName pairs)), .command (.get (keyName pairs))] := by
  simp [commands, List.range_succ, keyName_eq, valueName_eq]

/-- The first commands write the pair of every second one of them. -/
theorem foldl_commands (pairs count : Nat) :
    ((commands (List.range pairs)).take count).foldl StoreDemand.applied store =
      store.withPairs ((min count (2 * pairs) + 1) / 2) := by
  induction pairs with
  | zero => simp [commands, KeyStore.withPairs]
  | succ pairs ih =>
    have length := length_commands (List.range pairs)
    rw [List.length_range] at length
    rw [commands_range_succ, List.take_append, List.foldl_append, ih, length]
    have split : count - 2 * pairs = 0 ∨ count - 2 * pairs = 1 ∨
        ∃ more, count - 2 * pairs = more + 2 := by
      rcases count - 2 * pairs with _ | _ | more
      · exact .inl rfl
      · exact .inr (.inl rfl)
      · exact .inr (.inr ⟨more, rfl⟩)
    rcases split with none | one | ⟨more, both⟩
    · have same : (min count (2 * pairs) + 1) / 2 = (min count (2 * (pairs + 1)) + 1) / 2 := by
        omega
      rw [none, List.take_zero, List.foldl_nil, same]
    · have before : (min count (2 * pairs) + 1) / 2 = pairs := by omega
      have after : (min count (2 * (pairs + 1)) + 1) / 2 = pairs + 1 := by omega
      rw [one, before, after]
      rfl
    · have before : (min count (2 * pairs) + 1) / 2 = pairs := by omega
      have after : (min count (2 * (pairs + 1)) + 1) / 2 = pairs + 1 := by omega
      rw [both, before, after, List.take_of_length_le (by simp)]
      rfl

/-- What the first demands of a run leave of a store. -/
theorem foldl_demands {pairs : Nat} {first : List StoreDemand} (within : first <+: demands pairs) :
    first.foldl StoreDemand.applied store = store.withPairs ((first.length - 1 + 1) / 2) := by
  cases first with
  | nil => rfl
  | cons demand rest =>
    obtain ⟨rfl, inner⟩ := List.cons_prefix_cons.mp within
    have few : rest.length ≤ 2 * pairs := by
      have bound := inner.length_le
      rwa [length_commands, List.length_range] at bound
    have done := foldl_commands store pairs rest.length
    rw [← List.prefix_iff_eq_take.mp inner, Nat.min_eq_left few] at done
    rw [List.foldl_cons, StoreDemand.applied, done, List.length_cons, Nat.add_sub_cancel]

end Pairs

/-- What one run asks of the store and reports. The pairs it has to go through are the product of its
rate and of what one unit of it takes, or `2^64 - 1` of them if the product is above that. -/
structure Journaled (load : CacheLoad State) (job : Job) (before : State)
    (attempts : List (StoreAttempt State)) (report : WorkReport) : Prop where
  /-- The run connects once, first of all, and asks for nothing more if that is refused. -/
  connects : ∃ first sent, attempts = first :: sent ∧ first.demand = .connect ∧
    (∀ attempt ∈ sent, attempt.demand ≠ .connect) ∧ (first.failure? ≠ none → sent = [])
  sent : attempts.map (·.demand) <+:
    demands (min (job.rate.toNat * load.keysPerRate.toNat) ((1 <<< 64) - 1))
  met : met attempts <+:
    demands (min (job.rate.toNat * load.keysPerRate.toNat) ((1 <<< 64) - 1))
  /-- All is met and the run succeeds just if nothing fails. -/
  succeeds_iff : (StoreAttempt.met attempts =
      demands (min (job.rate.toNat * load.keysPerRate.toNat) ((1 <<< 64) - 1)) ∧
    report.memory = .ok 0) ↔ ∀ attempt ∈ attempts, attempt.failure? = none
  /-- Nothing is asked after the first failure, and that is what the run reports. -/
  fails : (∃ attempt ∈ attempts, attempt.failure? ≠ none) → ∃ earlier attempt cause,
    attempts = earlier ++ [attempt] ∧ (∀ other ∈ earlier, other.failure? = none) ∧
    attempt.failure? = some cause ∧ report.memory = .error cause
  /-- After each command that is met, the keys are those before the run with the pairs written over
  them that the commands so far have come to; after one that failed as well, unless it changes
  something. -/
  contents (keys : State → KeyStore) : load.service.Keeps keys →
    ∀ n attempt, attempts[n]? = some attempt →
      attempt.failure? = none ∨ load.service.Spares keys → ∀ key,
      (keys attempt.after).get? key =
        ((keys before).withPairs ((commandsDone (attempts.take (n + 1)) + 1) / 2)).get? key

theorem ne_connect_of_mem_commands {pairs : List Nat} {demand : StoreDemand}
    (member : demand ∈ commands pairs) : demand ≠ .connect := by
  obtain ⟨i, -, pair⟩ := List.mem_flatMap.mp member
  rintro rfl
  simp at pair

/-- A connect is sent first, and none follows. -/
theorem exists_connect (load : CacheLoad State) (job : Job) (state : State) :
    ∃ first sent, load.attempts job state = first :: sent ∧ first.demand = .connect ∧
      (∀ attempt ∈ sent, attempt.demand ≠ .connect) ∧ (first.failure? ≠ none → sent = []) := by
  rcases opened : load.service.connect state with ⟨cause | ⟨⟩, middle⟩
  · exact ⟨_, [], attempts_refused opened, rfl, fun _ member => absurd member List.not_mem_nil,
      fun _ => rfl⟩
  · refine ⟨_, _, attempts_opened opened, rfl, fun attempt member => ?_,
      fun failed => absurd rfl failed⟩
    have sent := load.service.send_sent
      (commands (List.range' 0 (pairsOf load.keysPerRate job.rate))) middle
    exact ne_connect_of_mem_commands (sent.subset (List.mem_map_of_mem member))

theorem contents_attempts {load : CacheLoad State} {keys : State → KeyStore}
    (keeps : load.service.Keeps keys) (job : Job) (state : State) {n : Nat}
    {attempt : StoreAttempt State} (found : (load.attempts job state)[n]? = some attempt)
    (spared : attempt.failure? = none ∨ load.service.Spares keys) (key : String) :
    (keys attempt.after).get? key = ((keys state).withPairs
      ((commandsDone ((load.attempts job state).take (n + 1)) + 1) / 2)).get? key := by
  have within : met ((load.attempts job state).take (n + 1)) <+:
      demands (pairsOf load.keysPerRate job.rate) := by
    refine List.IsPrefix.trans ?_ (load.service.met_send _ state)
    exact ((List.take_prefix _ _).filter _).map _
  rw [commandsDone, ← foldl_demands _ within]
  exact StoreService.keys_send keeps _ found spared key

/-- A store that fails on plan but loses no key is left by a run with the pairs that its commands
have come to. -/
theorem keys_run_faulty {plan : FaultPlan} (lasting : plan.vanishing = []) (keysPerRate : UInt64)
    (job : Job) (store : FaultyStore) (key : String) :
    (run ⟨FaultyStore.service plan, keysPerRate⟩ job store).2.keys.get? key =
      (store.keys.withPairs
        ((commandsDone (attempts ⟨FaultyStore.service plan, keysPerRate⟩ job store) + 1) / 2)).get?
        key := by
  obtain ⟨first, sent, whole, -⟩ :=
    exists_connect ⟨FaultyStore.service plan, keysPerRate⟩ job store
  have last : (attempts ⟨FaultyStore.service plan, keysPerRate⟩ job store)[sent.length]? =
      some ((first :: sent).getLast (by simp)) := by
    rw [whole, ← List.getLast?_eq_some_getLast, List.getLast?_eq_getElem?]
    rfl
  have left := contents_attempts (FaultyStore.keeps_service plan lasting) job store last
    (.inr (FaultyStore.spares_service plan)) key
  rw [List.take_of_length_le (by rw [whole]; exact Nat.le_refl _)] at left
  rw [← left, (run_sends _ job store).2.2, whole, endOf, List.getLast?_eq_some_getLast (by simp)]
  rfl

theorem run_journaled (load : CacheLoad State) (job : Job) (state : State) :
    load.Journaled job state (load.attempts job state) (load.run job state).1 := by
  have memory := (run_sends load job state).2.1
  have cases := load.service.send_cases (demands (pairsOf load.keysPerRate job.rate)) state
  have pairs := pairsOf_eq load.keysPerRate job.rate
  refine ⟨load.exists_connect job state, pairs ▸ load.service.send_sent _ state,
    pairs ▸ load.service.met_send _ state, ⟨fun ⟨_, succeeded⟩ => ?_, fun well => ?_⟩,
    fun ⟨attempt, member, failed⟩ => ?_,
    fun keys keeps n attempt found => contents_attempts keeps job state found⟩
  · apply firstFailure?_eq_none_iff.mp
    rw [memory] at succeeded
    cases first : firstFailure? (load.attempts job state) with
    | none => rfl
    | some cause => simp [first] at succeeded
  · rw [firstFailure?_eq_none_iff.mpr well] at memory
    refine ⟨?_, memory⟩
    rcases cases with ⟨-, all⟩ | ⟨earlier, attempt, cause, made, -, failed⟩
    · rw [met_of_well well, ← pairs]
      exact all
    · have none := well attempt (by rw [attempts, made]; simp)
      rw [none] at failed
      cases failed
  · rcases cases with ⟨well, -⟩ | ⟨earlier, last, cause, made, well, first⟩
    · exact absurd (well attempt member) failed
    · refine ⟨earlier, last, cause, made, well, first, ?_⟩
      rw [memory, attempts, made, firstFailure?_failed well first]
      rfl

/-- Runs that are journaled one after the other, each from the store that the one before left. -/
inductive Journal (load : CacheLoad State) :
    List Job → State → List (List (StoreAttempt State)) → List WorkReport → State → Prop where
  | done {state : State} : Journal load [] state [] [] state
  | next {job : Job} {rest : List Job} {before after : State} {attempts : List (StoreAttempt State)}
      {report : WorkReport} {journals : List (List (StoreAttempt State))}
      {reports : List WorkReport} (first : load.Journaled job before attempts report)
      (others : Journal load rest (endOf before attempts) journals reports after) :
      Journal load (job :: rest) before (attempts :: journals) (report :: reports) after

/-- What runs one after the other ask of the store, run by run. -/
def journals (load : CacheLoad State) : List Job → State → List (List (StoreAttempt State))
  | [], _ => []
  | job :: rest, state => load.attempts job state :: journals load rest (load.run job state).2

theorem runAll_noting (load : CacheLoad State) (jobs : List Job) (state : State)
    (notes : List (StoreAttempt State)) :
    load.noting.runAll jobs (notes, state) =
      ((load.runAll jobs state).1, notes ++ (load.journals jobs state).flatten,
        (load.runAll jobs state).2) := by
  induction jobs generalizing state notes with
  | nil => simp [runAll, journals]
  | cons job rest ih => simp [runAll, journals, (run_sends load job state).1, ih]

theorem runAll_journal (load : CacheLoad State) (jobs : List Job) (state : State) :
    load.Journal jobs state (load.journals jobs state) (load.runAll jobs state).1
      (load.runAll jobs state).2 := by
  induction jobs generalizing state with
  | nil => exact .done
  | cons job rest ih =>
    refine .next (load.run_journaled job state) ?_
    rw [← (run_sends load job state).2.2]
    exact ih (load.run job state).2

/-- The induction follows the runs; stores that fail alike are still alike after each of them. -/
theorem runAll_alike (load : CacheLoad State) {Other : Type} {twin : StoreService Other}
    {alike : State → Other → Prop} (failing : load.service.FailAlike twin alike) (jobs : List Job)
    {state : State} {other : Other} (same : alike state other) :
    (runAll ⟨twin, load.keysPerRate⟩ jobs other).1.map (·.memory) =
        (load.runAll jobs state).1.map (·.memory) ∧
      (journals ⟨twin, load.keysPerRate⟩ jobs other).map (List.map told) =
        (load.journals jobs state).map (List.map told) := by
  induction jobs generalizing state other with
  | nil => exact ⟨rfl, rfl⟩
  | cons job rest ih =>
    obtain ⟨-, memory, ends⟩ := run_sends load job state
    obtain ⟨-, memoryToo, endsToo⟩ := run_sends ⟨twin, load.keysPerRate⟩ job other
    obtain ⟨sent, after⟩ :=
      StoreService.told_send failing (demands (pairsOf load.keysPerRate job.rate)) same
    have first : (run ⟨twin, load.keysPerRate⟩ job other).1.memory =
        (load.run job state).1.memory := by
      rw [memory, memoryToo, attempts, attempts, firstFailure?_of_told sent]
    have again : alike (load.run job state).2 (run ⟨twin, load.keysPerRate⟩ job other).2 := by
      rw [ends, endsToo]
      exact after
    obtain ⟨reports, told⟩ := ih again
    constructor
    · simp only [runAll, List.map_cons, first, reports]
    · simp only [journals, List.map_cons, attempts, sent, told]

/-- Whatever the store holds, and whichever connects and commands it fails, runs one after the other
ask of it exactly what is journaled, and notes of it change nothing. Each run connects once and asks
for the writes and reads of its own pairs in order, up to the first failure, which it reports; it
succeeds just if there is none, and on a store that nothing else changes its commands leave the
pairs written that they have come to. Runs on stores that fail alike ask for the same and report the
same, whatever is read there, so a key that is gone when it is read makes no difference. -/
theorem runAll_journaled (load : CacheLoad State) (jobs : List Job) (state : State) :
    load.noting.runAll jobs ([], state) =
      ((load.runAll jobs state).1, (load.journals jobs state).flatten, (load.runAll jobs state).2) ∧
    load.Journal jobs state (load.journals jobs state) (load.runAll jobs state).1
      (load.runAll jobs state).2 ∧
    ∀ (Other : Type) (twin : StoreService Other) (alike : State → Other → Prop),
      load.service.FailAlike twin alike → ∀ other, alike state other →
      (runAll ⟨twin, load.keysPerRate⟩ jobs other).1.map (·.memory) =
          (load.runAll jobs state).1.map (·.memory) ∧
        (journals ⟨twin, load.keysPerRate⟩ jobs other).map (List.map told) =
          (load.journals jobs state).map (List.map told) :=
  ⟨load.runAll_noting jobs state [], load.runAll_journal jobs state,
    fun _ _ _ failing _ same => load.runAll_alike failing jobs same⟩

/-- Each unit of rate takes two pairs, five commands are taken and the second connect is refused: of
three runs, the first is well, the second asks for nothing, and the third fails as it reads its
first key. Nothing else comes of it if that key is gone. -/
theorem runAll_journaled_faulty :
    let cause : Explanation := ⟨"connection reset by peer", []⟩
    let plan : FaultPlan := { commandLimit? := some 5, refusedConnects := [2], cause }
    let jobs : List Job := [1, 1, 2].map fun rate => .sampled [] rate (.zero false)
    let load : CacheLoad FaultyStore := ⟨FaultyStore.service plan, 2⟩
    let losing : CacheLoad FaultyStore :=
      ⟨FaultyStore.service { plan with vanishing := ["key_0"] }, 2⟩
    (load.runAll jobs {}).1.map (fun report => failureOf? report.memory) =
      [none, some cause, some cause] ∧
    (load.journals jobs {}).map (List.map told) =
      [[(.connect, none), (.command (.set "key_0" "value_0"), none),
          (.command (.get "key_0"), none), (.command (.set "key_1" "value_1"), none),
          (.command (.get "key_1"), none)],
        [(.connect, some cause)],
        [(.connect, none), (.command (.set "key_0" "value_0"), none),
          (.command (.get "key_0"), some cause)]] ∧
    (losing.runAll jobs {}).1.map (·.memory) = (load.runAll jobs {}).1.map (·.memory) ∧
    (losing.journals jobs {}).map (List.map told) =
      (load.journals jobs {}).map (List.map told) := by
  intro cause plan jobs load losing
  obtain ⟨-, -, alike⟩ := load.runAll_journaled jobs {}
  obtain ⟨reports, told⟩ := alike FaultyStore
    (FaultyStore.service { plan with vanishing := ["key_0"] }) _
    (FaultyStore.failAlike_vanishing plan ["key_0"]) {} ⟨rfl, rfl⟩
  exact ⟨by decide +kernel, by decide +kernel, reports, told⟩

end LoadProbe.CacheLoad
