import LoadProbe.KeyStore.Sessions
import LoadProbe.Proofs.KeyStore.Pairs

/-!
Sessions side by side on one store. However their steps interleave and wherever they stop, every read
answers what its own session wrote, and the store holds the pairs of the session that wrote most.
Main statement: `Reachable.store_eq`.
-/
namespace LoadProbe.Sessions

/-- The largest number of writes that one session has done. -/
def Shared.written (shared : Shared) : Nat := (shared.sessions.map Progress.writes).foldr max 0

/-- The value of every pair that a session has read back. -/
def Progress.readBack (progress : Progress) : List (Option String) :=
  (List.range (progress.done / 2)).map fun i => some (CacheLoad.valueName i)

/-- What holds of sessions and their store after any number of steps. -/
structure Sound (initial : KeyStore) (shared : Shared) : Prop where
  bounded : ∀ progress ∈ shared.sessions, progress.done ≤ 2 * progress.pairs
  answers : ∀ progress ∈ shared.sessions, progress.answers = progress.readBack
  pairs : ∀ progress ∈ shared.sessions, ∀ i < progress.writes,
    shared.store.get? (CacheLoad.keyName i) = some (CacheLoad.valueName i)
  others : ∀ key,
    (∀ progress ∈ shared.sessions, ∀ i < progress.writes, key ≠ CacheLoad.keyName i) →
      shared.store.get? key = initial.get? key

theorem lt_written_iff {shared : Shared} {i : Nat} :
    i < shared.written ↔ ∃ progress ∈ shared.sessions, i < progress.writes := by
  obtain ⟨sessions, store⟩ := shared
  simp only [Shared.written]
  induction sessions with
  | nil => simp
  | cons first rest ih =>
    simp only [List.map_cons, List.foldr_cons, List.mem_cons, exists_eq_or_imp, ← ih]
    omega

/-- A session that goes on leaves none behind: every old count of writes is still reached. -/
theorem exists_writes_of_set {sessions : List Progress} {n : Nat} {progress later old : Progress}
    (found : sessions[n]? = some progress) (grown : progress.writes ≤ later.writes)
    (member : old ∈ sessions) : ∃ now ∈ sessions.set n later, old.writes ≤ now.writes := by
  obtain ⟨m, place⟩ := List.mem_iff_getElem?.mp member
  have inRange : n < sessions.length := by
    rw [List.getElem?_eq_some_iff] at found
    exact found.1
  by_cases same : m = n
  · subst m
    obtain rfl : progress = old := Option.some.inj (found.symm.trans place)
    exact ⟨later, List.mem_set inRange later, grown⟩
  · refine ⟨old, List.mem_iff_getElem?.mpr ⟨m, ?_⟩, Nat.le_refl _⟩
    rw [List.getElem?_set_ne (Ne.symm same)]
    exact place

theorem sound_start (rates : List (UInt64 × UInt64)) (initial : KeyStore) :
    Sound initial (start rates initial) := by
  have fresh : ∀ progress ∈ (start rates initial).sessions,
      progress.done = 0 ∧ progress.answers = [] := by
    intro progress member
    obtain ⟨rate, _, rfl⟩ := List.mem_map.mp member
    exact ⟨rfl, rfl⟩
  refine ⟨?_, ?_, ?_, ?_⟩
  · intro progress member
    rw [(fresh progress member).1]
    omega
  · intro progress member
    simp [Progress.readBack, fresh progress member]
  · intro progress member i below
    simp [Progress.writes, (fresh progress member).1] at below
  · intro key _
    rfl

/-- A session that steps without writing keeps all that holds. -/
theorem Sound.advance {initial : KeyStore} {shared : Shared} {n : Nat} {progress later : Progress}
    (sound : Sound initial shared) (found : shared.sessions[n]? = some progress)
    (same : later.writes = progress.writes) (bounded : later.done ≤ 2 * later.pairs)
    (answers : later.answers = later.readBack) :
    Sound initial ⟨shared.sessions.set n later, shared.store⟩ := by
  have member := List.mem_of_getElem? found
  refine ⟨?_, ?_, ?_, ?_⟩
  · intro now place
    rcases List.mem_or_eq_of_mem_set place with old | rfl
    · exact sound.bounded now old
    · exact bounded
  · intro now place
    rcases List.mem_or_eq_of_mem_set place with old | rfl
    · exact sound.answers now old
    · exact answers
  · intro now place i below
    rcases List.mem_or_eq_of_mem_set place with old | rfl
    · exact sound.pairs now old i below
    · exact sound.pairs progress member i (same ▸ below)
  · intro key other
    apply sound.others key
    intro old place i below
    obtain ⟨now, present, grown⟩ := exists_writes_of_set found (Nat.le_of_eq same.symm) place
    exact other now present i (Nat.lt_of_lt_of_le below grown)

/-- A write adds the one pair that its session comes to. -/
theorem Sound.write {initial : KeyStore} {shared : Shared} {n i : Nat} {progress : Progress}
    (sound : Sound initial shared) (found : shared.sessions[n]? = some progress)
    (place : progress.done = 2 * i) (more : i < progress.pairs) :
    Sound initial ⟨shared.sessions.set n (progress.advance []),
      shared.store.set (CacheLoad.keyName i) (CacheLoad.valueName i)⟩ := by
  have member := List.mem_of_getElem? found
  have before : progress.writes = i := by simp only [Progress.writes]; omega
  have after : (progress.advance []).writes = i + 1 := by
    simp only [Progress.writes, Progress.advance]
    omega
  -- Another session may have written this pair before: it was the same one.
  have pair {m : Nat} (known : m ≠ i →
      shared.store.get? (CacheLoad.keyName m) = some (CacheLoad.valueName m)) :
      (shared.store.set (CacheLoad.keyName i) (CacheLoad.valueName i)).get? (CacheLoad.keyName m) =
        some (CacheLoad.valueName m) := by
    rw [KeyStore.get?_set]
    by_cases same : m = i
    · rw [if_pos (by rw [same]), same]
    · rw [if_neg fun equal => same (CacheLoad.keyName_injective equal)]
      exact known same
  refine ⟨?_, ?_, ?_, ?_⟩
  · intro now place
    rcases List.mem_or_eq_of_mem_set place with old | rfl
    · exact sound.bounded now old
    · simp only [Progress.advance]
      omega
  · intro now present
    rcases List.mem_or_eq_of_mem_set present with old | rfl
    · exact sound.answers now old
    · have kept : (progress.done + 1) / 2 = progress.done / 2 := by omega
      simp [Progress.advance, Progress.readBack, kept, sound.answers progress member]
  · intro now present m below
    apply pair
    intro different
    rcases List.mem_or_eq_of_mem_set present with old | rfl
    · exact sound.pairs now old m below
    · exact sound.pairs progress member m (by omega)
  · intro key other
    have grows : progress.writes ≤ (progress.advance []).writes := by omega
    have fresh : key ≠ CacheLoad.keyName i := by
      have inRange : n < shared.sessions.length := (List.getElem?_eq_some_iff.mp found).1
      exact other (progress.advance []) (List.mem_set inRange _) i (by omega)
    rw [KeyStore.get?_set, if_neg fresh]
    apply sound.others key
    intro old place m below
    obtain ⟨now, present, grown⟩ := exists_writes_of_set found grows place
    exact other now present m (Nat.lt_of_lt_of_le below grown)

/-- Every step keeps what holds: a write adds the pair of its number, a read finds its own. -/
theorem Sound.step {initial : KeyStore} {shared next : Shared} (sound : Sound initial shared)
    (step : Step shared next) : Sound initial next := by
  cases step with
  | write found running place more => exact sound.write found place more
  | @read n i progress found running place more =>
    have member := List.mem_of_getElem? found
    have own := sound.pairs progress member i (by simp only [Progress.writes]; omega)
    rw [own]
    apply sound.advance found
    · simp only [Progress.writes, Progress.advance]
      omega
    · simp only [Progress.advance]
      omega
    · have reads : (progress.done + 1) / 2 = progress.done / 2 + 1 := by omega
      have number : progress.done / 2 = i := by omega
      simp [Progress.advance, Progress.readBack, reads, List.range_succ, number,
        sound.answers progress member]
  | @stop n progress found =>
    have member := List.mem_of_getElem? found
    exact sound.advance found rfl (sound.bounded progress member) (sound.answers progress member)

theorem Reachable.sound {rates : List (UInt64 × UInt64)} {initial : KeyStore} {shared : Shared}
    (reached : Reachable (start rates initial) shared) : Sound initial shared := by
  induction reached with
  | refl => exact sound_start rates initial
  | step _ next ih => exact ih.step next

theorem Sound.get?_eq {initial : KeyStore} {shared : Shared} (sound : Sound initial shared)
    (key : String) : shared.store.get? key = (initial.withPairs shared.written).get? key := by
  apply KeyStore.get?_eq_withPairs
  · intro i below
    obtain ⟨progress, member, written⟩ := lt_written_iff.mp below
    exact sound.pairs progress member i written
  · intro other distinct
    apply sound.others other
    intro progress member i written
    exact distinct i (lt_written_iff.mpr ⟨progress, member, written⟩)

/-- Sessions of any number and any rates start on a store of any contents, and step in any order. Then
each session was answered every pair that it read back, in order and without exception. The store is
the one at the start with the pairs written over it that the furthest session wrote, and so it is
the same whatever the order of the steps was. -/
theorem Reachable.store_eq {rates : List (UInt64 × UInt64)} {initial : KeyStore} {shared : Shared}
    (reached : Reachable (start rates initial) shared) :
    (∀ progress ∈ shared.sessions, progress.answers =
      (List.range (progress.done / 2)).map fun i => some (CacheLoad.valueName i)) ∧
    (∀ key, shared.store.get? key = (initial.withPairs shared.written).get? key) ∧
    ∀ other, Reachable (start rates initial) other → other.written = shared.written →
      ∀ key, other.store.get? key = shared.store.get? key := by
  refine ⟨reached.sound.answers, reached.sound.get?_eq, ?_⟩
  intro other elsewhere same key
  rw [elsewhere.sound.get?_eq, reached.sound.get?_eq, same]

/-- A session of one pair overtakes one of two and stops before it reads. -/
theorem Reachable.store_eq_overtaken :
    ∃ shared, Reachable (start [(1, 1), (1, 2)] {}) shared ∧ shared.written = 2 ∧
      (∀ progress ∈ shared.sessions, progress.answers =
        (List.range (progress.done / 2)).map fun i => some (CacheLoad.valueName i)) ∧
      ∀ key, shared.store.get? key = (({} : KeyStore).withPairs 2).get? key := by
  have written : Reachable (start [(1, 1), (1, 2)] {}) _ :=
    .step (.step .refl (.write (n := 1) (i := 0) rfl rfl rfl (by decide)))
      (.write (n := 0) (i := 0) rfl rfl rfl (by decide))
  have stopped := Reachable.step (.step written (.read (n := 1) (i := 0) rfl rfl rfl (by decide)))
    (.stop (n := 0) rfl)
  have reached := Reachable.step stopped (.write (n := 1) (i := 1) rfl rfl rfl (by decide))
  obtain ⟨answers, contents, -⟩ := reached.store_eq
  exact ⟨_, reached, rfl, answers, contents⟩

end LoadProbe.Sessions
