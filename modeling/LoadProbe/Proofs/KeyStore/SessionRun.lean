import LoadProbe.KeyStore.Sessions

/-!
The run of a load as a session among others. Whatever other sessions do before each of its commands,
and whichever command fails, a run makes the steps of its session and no others. Main statement:
`run_reachable`.
-/
namespace LoadProbe.Sessions

/-- Steps none of which moves session `n`. -/
inductive Meanwhile (n : Nat) (start : Shared) : Shared → Prop where
  | refl : Meanwhile n start start
  | step {middle last : Shared} (before : Meanwhile n start middle) (next : Step middle last)
      (still : last.sessions[n]? = middle.sessions[n]?) : Meanwhile n start last

/-- A command of session `n` that takes place, with the answer if it is a read. -/
def Shared.act (shared : Shared) (n : Nat) (answer : List (Option String)) (store : KeyStore) :
    Shared :=
  ⟨shared.sessions.modify n (·.advance answer), store⟩

/-- A command of session `n` that fails without effect. -/
def Shared.stop (shared : Shared) (n : Nat) : Shared :=
  ⟨shared.sessions.modify n ({ · with stopped := true }), shared.store⟩

/-- A service through which session `n` acts: other sessions step before each command, which then
takes place at once or fails. -/
structure Serves (n : Nat) (service : StoreService Shared) : Prop where
  connect (shared : Shared) : ∃ middle, Meanwhile n shared middle ∧
    (service.connect shared = (.ok (), middle) ∨
      ∃ cause, service.connect shared = (.error cause, middle.stop n))
  set (key value : String) (shared : Shared) : ∃ middle, Meanwhile n shared middle ∧
    (service.set key value shared = (.ok (), middle.act n [] (middle.store.set key value)) ∨
      ∃ cause, service.set key value shared = (.error cause, middle.stop n))
  get (key : String) (shared : Shared) : ∃ middle, Meanwhile n shared middle ∧
    (service.get key shared =
        (.ok (middle.store.get? key), middle.act n [middle.store.get? key] middle.store) ∨
      ∃ cause, service.get key shared = (.error cause, middle.stop n))

/-- The service of a session that nothing disturbs. -/
def undisturbed (n : Nat) : StoreService Shared where
  connect shared := (.ok (), shared)
  set key value shared := (.ok (), shared.act n [] (shared.store.set key value))
  get key shared :=
    (.ok (shared.store.get? key), shared.act n [shared.store.get? key] shared.store)

theorem serves_undisturbed (n : Nat) : Serves n (undisturbed n) :=
  ⟨fun shared => ⟨shared, .refl, .inl rfl⟩, fun _ _ shared => ⟨shared, .refl, .inl rfl⟩,
    fun _ shared => ⟨shared, .refl, .inl rfl⟩⟩

theorem Reachable.trans {start middle last : Shared} (first : Reachable start middle)
    (second : Reachable middle last) : Reachable start last := by
  induction second with
  | refl => exact first
  | step _ next ih => exact .step ih next

theorem Meanwhile.reachable {n : Nat} {start last : Shared} (steps : Meanwhile n start last) :
    Reachable start last := by
  induction steps with
  | refl => exact .refl
  | step _ next _ ih => exact .step ih next

theorem Meanwhile.still {n : Nat} {start last : Shared} (steps : Meanwhile n start last) :
    last.sessions[n]? = start.sessions[n]? := by
  induction steps with
  | refl => rfl
  | step _ _ same ih => rw [same, ih]

private theorem modify_eq_set {sessions : List Progress} {n : Nat} {progress : Progress}
    (found : sessions[n]? = some progress) (change : Progress → Progress) :
    sessions.modify n change = sessions.set n (change progress) := by
  apply List.ext_getElem?
  intro m
  rw [List.getElem?_modify, List.getElem?_set]
  by_cases same : n = m
  · subst m
    obtain ⟨inRange, present⟩ := List.getElem?_eq_some_iff.mp found
    simp [inRange, present]
  · simp [same]

theorem stop_step {shared : Shared} {n : Nat} {progress : Progress}
    (found : shared.sessions[n]? = some progress) : Step shared (shared.stop n) := by
  rw [Shared.stop, modify_eq_set found]
  exact .stop found

theorem write_step {shared : Shared} {n i : Nat} {progress : Progress}
    (found : shared.sessions[n]? = some progress) (running : progress.stopped = false)
    (place : progress.done = 2 * i) (more : i < progress.pairs) :
    Step shared (shared.act n []
      (shared.store.set (CacheLoad.keyName i) (CacheLoad.valueName i))) := by
  rw [Shared.act, modify_eq_set found]
  exact .write found running place more

theorem read_step {shared : Shared} {n i : Nat} {progress : Progress}
    (found : shared.sessions[n]? = some progress) (running : progress.stopped = false)
    (place : progress.done = 2 * i + 1) (more : i < progress.pairs) :
    Step shared (shared.act n [shared.store.get? (CacheLoad.keyName i)] shared.store) := by
  rw [Shared.act, modify_eq_set found]
  exact .read found running place more

theorem getElem?_act {shared : Shared} {n : Nat} {progress : Progress}
    (found : shared.sessions[n]? = some progress) (answer : List (Option String))
    (store : KeyStore) :
    (shared.act n answer store).sessions[n]? = some (progress.advance answer) := by
  simp [Shared.act, found]

theorem getElem?_stop {shared : Shared} {n : Nat} {progress : Progress}
    (found : shared.sessions[n]? = some progress) :
    (shared.stop n).sessions[n]? = some { progress with stopped := true } := by
  simp [Shared.stop, found]

/-- Where session `n` stands when its run is over: after its last pair, or stopped by a failure. -/
def Ended (n pairs : Nat) (result : Except Explanation Unit) (shared : Shared) : Prop :=
  ∃ progress, shared.sessions[n]? = some progress ∧ progress.pairs = pairs ∧
    match result with
    | .ok () => progress.done = 2 * pairs ∧ progress.stopped = false
    | .error _ => progress.stopped = true

theorem ended_stop {n : Nat} {shared : Shared} {progress : Progress}
    (found : shared.sessions[n]? = some progress) (cause : Explanation) :
    Ended n progress.pairs (.error cause) (shared.stop n) :=
  ⟨_, getElem?_stop found, rfl, rfl⟩

/-- The induction follows the pairs that are left; the session stands before the write of pair `i`. -/
theorem burst_reachable {n : Nat} {service : StoreService Shared} (serves : Serves n service)
    (pairs : Nat) : ∀ (log : List LogEvent) (i : Nat) (shared : Shared) (progress : Progress),
      shared.sessions[n]? = some progress → progress.stopped = false →
      progress.done = 2 * i → progress.pairs = i + pairs →
      Reachable shared (CacheLoad.burst service log i shared pairs).2.2 ∧
        Ended n progress.pairs (CacheLoad.burst service log i shared pairs).1
          (CacheLoad.burst service log i shared pairs).2.2 := by
  induction pairs with
  | zero =>
    intro log i shared progress found running place count
    exact ⟨.refl, progress, found, rfl, by rw [place, count, Nat.add_zero], running⟩
  | succ pairs ih =>
    intro log i shared progress found running place count
    obtain ⟨middle, meanwhile, written | ⟨cause, failed⟩⟩ :=
      serves.set (CacheLoad.keyName i) (CacheLoad.valueName i) shared
    · have here := meanwhile.still.trans found
      have write := Reachable.step meanwhile.reachable
        (write_step here running place (by omega))
      have atRead := getElem?_act here []
        (middle.store.set (CacheLoad.keyName i) (CacheLoad.valueName i))
      have odd : (progress.advance []).done = 2 * i + 1 := by simp [Progress.advance, place]
      obtain ⟨later, others, answered | ⟨cause, failed⟩⟩ := serves.get (CacheLoad.keyName i)
        (middle.act n [] (middle.store.set (CacheLoad.keyName i) (CacheLoad.valueName i)))
      · have there := others.still.trans atRead
        have read := (write.trans others.reachable).step
          (read_step there running odd (by simp only [Progress.advance]; omega))
        have next (log : List LogEvent) := ih log (i + 1) _ _ (getElem?_act there
          [later.store.get? (CacheLoad.keyName i)] later.store) running
          (by simp only [Progress.advance]; omega) (by simp only [Progress.advance]; omega)
        cases value : later.store.get? (CacheLoad.keyName i) with
        | none =>
          rw [value] at answered read next
          simp only [CacheLoad.burst, written, answered]
          obtain ⟨reached, ended⟩ := next (CacheLoad.vanished (CacheLoad.keyName i) :: log)
          exact ⟨read.trans reached, ended⟩
        | some text =>
          rw [value] at answered read next
          simp only [CacheLoad.burst, written, answered]
          obtain ⟨reached, ended⟩ := next log
          exact ⟨read.trans reached, ended⟩
      · have there := others.still.trans atRead
        simp only [CacheLoad.burst, written, failed]
        exact ⟨(write.trans others.reachable).step (stop_step there), ended_stop there cause⟩
    · have here := meanwhile.still.trans found
      simp only [CacheLoad.burst, failed]
      exact ⟨.step meanwhile.reachable (stop_step here), ended_stop here cause⟩

/-- A run of a load, through a service that lets other sessions step in between, is made of steps of
sessions, and it ends its own session as its result says. -/
theorem run_reachable {n : Nat} {load : CacheLoad Shared} (serves : Serves n load.service)
    (job : Job) (shared : Shared) (fresh : shared.sessions[n]? =
      some { pairs := CacheLoad.pairsOf load.keysPerRate job.rate }) :
    Reachable shared (load.run job shared).2 ∧
      Ended n (CacheLoad.pairsOf load.keysPerRate job.rate)
        ((load.run job shared).1.memory.map fun _ => ()) (load.run job shared).2 := by
  obtain ⟨middle, meanwhile, opened | ⟨cause, refused⟩⟩ := serves.connect shared
  · have here := meanwhile.still.trans fresh
    have done := burst_reachable serves (CacheLoad.pairsOf load.keysPerRate job.rate) [] 0 middle
      _ here rfl rfl (by simp)
    rcases came : CacheLoad.burst load.service [] 0 middle
      (CacheLoad.pairsOf load.keysPerRate job.rate) with ⟨_ | _, log, after⟩
    · rw [came] at done
      simp only [CacheLoad.run, opened, came]
      exact ⟨meanwhile.reachable.trans done.1, done.2⟩
    · rw [came] at done
      simp only [CacheLoad.run, opened, came]
      exact ⟨meanwhile.reachable.trans done.1, done.2⟩
  · have here := meanwhile.still.trans fresh
    simp only [CacheLoad.run, refused]
    exact ⟨.step meanwhile.reachable (stop_step here), ended_stop here cause⟩

end LoadProbe.Sessions
