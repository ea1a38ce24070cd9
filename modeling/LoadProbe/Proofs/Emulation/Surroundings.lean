import LoadProbe.Emulation
import LoadProbe.Proofs.Binary64.Whole
import LoadProbe.Proofs.Emulation.Allocation

/-!
Runs of an emulation in surroundings of any kind. A run asks for memory exactly once, and computes
only if it gets it; whether the memory comes from a helper or from the service makes no difference.
Main statement: `helper_inProcess`.
-/
namespace LoadProbe.Emulation

/-- What a run finds around it: samples, a stopwatch, memory and the arithmetic cycle. -/
structure Surroundings (World : Type) where
  sample : World → Binary64 × World
  reading : World → Nat × World
  allocate : UInt64 → World → Except Explanation Unit × World
  compute : Nat → World → Except Explanation Unit × World

/-- What a run asks for of its own. -/
inductive Demand where
  | memory (mib : UInt64)
  | cycle (budget : Nat)
  deriving DecidableEq, Repr

namespace Surroundings

variable {World : Type}

/-- Surroundings that take down what is asked of them, the latest last. -/
def noting (around : Surroundings World) : Surroundings (List Demand × World) where
  sample world := ((around.sample world.2).1, world.1, (around.sample world.2).2)
  reading world := ((around.reading world.2).1, world.1, (around.reading world.2).2)
  allocate mib world :=
    ((around.allocate mib world.2).1, world.1 ++ [.memory mib], (around.allocate mib world.2).2)
  compute budget world :=
    ((around.compute budget world.2).1, world.1 ++ [.cycle budget],
      (around.compute budget world.2).2)

/-- What follows once the memory is there: the rest of the target time is filled. -/
def fill (around : Surroundings World) (size : Int64) (target before : Nat) (world : World) :
    WorkReport × World :=
  let (after, world) := around.reading world
  let left := budget target (after - before)
  if left = 0 then ({ memory := .ok size, log := [memoryDone size] }, world)
  else
    match around.compute left world with
    | (.error cause, world) => ({ memory := .error cause, log := [memoryDone size] }, world)
    | (.ok (), world) => ({ memory := .ok size, log := [memoryDone size] }, world)

/-- The run of a job in surroundings. -/
def run (around : Surroundings World) (bias : Binary64) (job : Job) (world : World) :
    WorkReport × World :=
  let (sample, world) := around.sample world
  let size := sizeOf sample bias
  let (before, world) := around.reading world
  match around.allocate (mibOf size) world with
  | (.error cause, world) => ({ memory := .error cause }, world)
  | (.ok (), world) => around.fill size (targetOf job) before world

section Fill

variable {around : Surroundings World} {target before : Nat} {world : World}

theorem fill_spent (spent : budget target ((around.reading world).1 - before) = 0) (size : Int64) :
    around.fill size target before world =
      ({ memory := .ok size, log := [memoryDone size] }, (around.reading world).2) :=
  if_pos spent

theorem fill_failed {cause : Explanation} {after : World}
    (left : budget target ((around.reading world).1 - before) ≠ 0)
    (failed : around.compute (budget target ((around.reading world).1 - before))
      (around.reading world).2 = (.error cause, after)) (size : Int64) :
    around.fill size target before world =
      ({ memory := .error cause, log := [memoryDone size] }, after) := by
  rw [fill]
  exact (if_neg left).trans (by rw [failed])

theorem fill_done {after : World} (left : budget target ((around.reading world).1 - before) ≠ 0)
    (done : around.compute (budget target ((around.reading world).1 - before))
      (around.reading world).2 = (.ok (), after)) (size : Int64) :
    around.fill size target before world =
      ({ memory := .ok size, log := [memoryDone size] }, after) := by
  rw [fill]
  exact (if_neg left).trans (by rw [done])

end Fill

/-- The cycle is asked for at most once. -/
theorem fill_noting (around : Surroundings World) (size : Int64) (target before : Nat)
    (world : World) (noted : List Demand) :
    ∃ budget? : Option Nat, around.noting.fill size target before (noted, world) =
      ((around.fill size target before world).1, noted ++ budget?.toList.map .cycle,
        (around.fill size target before world).2) := by
  by_cases spent : budget target ((around.reading world).1 - before) = 0
  · refine ⟨none, ?_⟩
    simp [fill, noting, spent]
  · refine ⟨some (budget target ((around.reading world).1 - before)), ?_⟩
    rcases came : around.compute (budget target ((around.reading world).1 - before))
        (around.reading world).2 with ⟨cause | ⟨⟩, after⟩
    · simp [fill, noting, spent, came]
    · simp [fill, noting, spent, came]

/-- The memory is asked for once, for as much as the sample says, and only then the cycle. -/
theorem run_noting (around : Surroundings World) (bias : Binary64) (job : Job) (world : World)
    (noted : List Demand) :
    ∃ budget? : Option Nat,
      around.noting.run bias job (noted, world) =
        ((around.run bias job world).1,
          noted ++ .memory (mibOf (sizeOf (around.sample world).1 bias)) ::
            budget?.toList.map .cycle,
          (around.run bias job world).2) ∧
      ((∃ cause, (around.allocate (mibOf (sizeOf (around.sample world).1 bias))
        (around.reading (around.sample world).2).2).1 = .error cause) → budget? = none) := by
  rcases came : around.allocate (mibOf (sizeOf (around.sample world).1 bias))
      (around.reading (around.sample world).2).2 with ⟨cause | ⟨⟩, after⟩
  · refine ⟨none, ?_, fun _ => rfl⟩
    simp [run, noting, came]
  · obtain ⟨budget?, filled⟩ := around.fill_noting (sizeOf (around.sample world).1 bias)
      (targetOf job) (around.reading (around.sample world).2).1 after
      (noted ++ [.memory (mibOf (sizeOf (around.sample world).1 bias))])
    refine ⟨budget?, ?_, by simp⟩
    simpa [run, noting, came] using filled

end Surroundings

/-- The surroundings of an emulation. -/
def surroundings (emulation : Emulation) : Surroundings State where
  sample state :=
    ((emulation.memory.sample state.draws).1,
      { state with draws := (emulation.memory.sample state.draws).2 })
  reading state := (state.watch.reading 0, { state with watch := state.watch.take 1 })
  allocate mib state :=
    ((emulation.allocator.allocate mib state.tree).1,
      { state with tree := (emulation.allocator.allocate mib state.tree).2 })
  compute := compute

/-- Readings are taken one by one, where `run` counts them from its start. -/
theorem run_eq_surroundings (emulation : Emulation) (job : Job) (state : State) :
    emulation.run job state = emulation.surroundings.run emulation.bias job state := by
  rcases came : emulation.allocator.allocate
      (mibOf (sizeOf (emulation.memory.sample state.draws).1 emulation.bias)) state.tree with
    ⟨cause | ⟨⟩, tree⟩
  · simp only [run, Surroundings.run, surroundings, came]
  · have filled : emulation.surroundings.run emulation.bias job state =
        emulation.surroundings.fill (sizeOf (emulation.memory.sample state.draws).1 emulation.bias)
          (targetOf job) (state.watch.reading 0)
          ⟨tree, (emulation.memory.sample state.draws).2, state.watch.take 1⟩ := by
      simp only [Surroundings.run, surroundings, came]
    rw [filled]
    by_cases spent : budget (targetOf job) (state.watch.reading 1 - state.watch.reading 0) = 0
    · rw [Surroundings.fill_spent spent]
      simp only [run, came]
      rw [if_pos spent]
      rfl
    · rcases done : compute (budget (targetOf job) (state.watch.reading 1 - state.watch.reading 0))
        ⟨tree, (emulation.memory.sample state.draws).2, state.watch.take 2⟩ with
        ⟨cause | ⟨⟩, after⟩
      · rw [Surroundings.fill_failed spent done]
        simp only [run, came]
        rw [if_neg spent, done]
      · rw [Surroundings.fill_done spent done]
        simp only [run, came]
        rw [if_neg spent, done]

/-- The size that the run of a job takes memory for. -/
def sizeIn (emulation : Emulation) (state : State) : Int64 :=
  sizeOf (emulation.memory.sample state.draws).1 emulation.bias

theorem countsAs_sizeIn (emulation : Emulation) (state : State) :
    Binary64.CountsAs (-Numeral.largestSigned - 1) Numeral.largestSigned
      ((emulation.memory.sample state.draws).1 - emulation.bias)
      (emulation.sizeIn state).toInt := by
  have most : (Numeral.largestSigned : Int) = 9223372036854775807 := by decide
  have count := Binary64.countsAs_round (-Numeral.largestSigned - 1) Numeral.largestSigned
    ((emulation.memory.sample state.draws).1 - emulation.bias)
  have low : (-Numeral.largestSigned - 1 : Int) ≤ 0 := by omega
  have high : (0 : Int) ≤ Numeral.largestSigned := by omega
  have bounds := Binary64.toIntWithin_bounds low high
    ((emulation.memory.sample state.draws).1 - emulation.bias).round
  rwa [sizeIn, sizeOf, Int64.toInt_ofInt_of_le (by omega) (by omega)]

/-- Only what is above zero is asked for. -/
theorem toNat_mibOf (size : Int64) : ((mibOf size).toNat : Int) = max size.toInt 0 := by
  have bound := size.toInt_lt
  have fits : size.toInt.toNat < UInt64.size := by
    have words : UInt64.size = 1 <<< 64 := by decide
    omega
  rw [mibOf, UInt64.toNat_ofNat_of_lt' fits]
  omega

/-- A run that succeeds reports its size. -/
theorem run_memory (emulation : Emulation) (job : Job) (state : State) :
    (emulation.run job state).1.memory = .ok (emulation.sizeIn state) ∨
      ∃ cause, (emulation.run job state).1.memory = .error cause := by
  unfold run sizeIn
  dsimp only
  split
  · exact .inr ⟨_, rfl⟩
  · split
    · exact .inl rfl
    · split
      · exact .inr ⟨_, rfl⟩
      · exact .inl rfl

/-- A run that gets no memory ends at once. -/
theorem run_refused {emulation : Emulation} {state : State} {cause : Explanation} {tree : FileTree}
    (refused : emulation.allocator.allocate (mibOf (emulation.sizeIn state)) state.tree =
      (.error cause, tree)) (job : Job) :
    emulation.run job state = ({ memory := .error cause },
      ⟨tree, (emulation.memory.sample state.draws).2, state.watch.take 1⟩) := by
  rw [sizeIn] at refused
  simp only [run, refused]

/-- A run that gets its memory has no more use for the allocator. -/
theorem run_taken {emulation : Emulation} {allocator other : Allocator} {state : State}
    {tree : FileTree}
    (taken : allocator.allocate (mibOf (emulation.sizeIn state)) state.tree = (.ok (), tree))
    (takenToo : other.allocate (mibOf (emulation.sizeIn state)) state.tree = (.ok (), tree))
    (job : Job) :
    run { emulation with allocator } job state =
      run { emulation with allocator := other } job state := by
  rw [sizeIn] at taken takenToo
  simp only [run, taken, takenToo]

/-- Two emulations that the run of a job cannot tell apart, unless it fails with both. -/
structure Agree (one other : Emulation) (job : Job) (state : State) : Prop where
  after : (one.run job state).2 = (other.run job state).2
  report : ((one.run job state).1 = (other.run job state).1 ∧
      (one.run job state).1.memory = .ok (one.sizeIn state)) ∨
    ((∃ cause, (one.run job state).1.memory = .error cause) ∧
      ∃ cause, (other.run job state).1.memory = .error cause)

theorem Agree.of_eq {one other : Emulation} {job : Job} {state : State}
    (same : one.run job state = other.run job state) : Agree one other job state := by
  refine ⟨congrArg Prod.snd same, ?_⟩
  rcases one.run_memory job state with succeeded | failed
  · exact .inl ⟨congrArg Prod.fst same, succeeded⟩
  · exact .inr ⟨failed, same ▸ failed⟩

/-- What an allocator does to a run is to take the memory or not. -/
theorem agree_of_serves (emulation : Emulation) (job : Job) {state : State}
    {allocator other : Allocator} (serves : allocator.Serves state.tree)
    (servesToo : other.Serves state.tree) :
    Agree { emulation with allocator } { emulation with allocator := other } job state := by
  rcases Allocator.allocate_of_serves serves (mibOf (emulation.sizeIn state)) with
    ⟨⟨bytes, buffer⟩, taken⟩ | ⟨absent, cause, refused⟩
  · rcases Allocator.allocate_of_serves servesToo (mibOf (emulation.sizeIn state)) with
      ⟨-, takenToo⟩ | ⟨absent, -⟩
    · exact .of_eq (run_taken taken takenToo job)
    · cases absent.symm.trans buffer
  · rcases Allocator.allocate_of_serves servesToo (mibOf (emulation.sizeIn state)) with
      ⟨⟨bytes, buffer⟩, -⟩ | ⟨-, causeToo, refusedToo⟩
    · cases absent.symm.trans buffer
    · have ended : run { emulation with allocator } job state = _ := run_refused refused job
      have endedToo : run { emulation with allocator := other } job state = _ :=
        run_refused refusedToo job
      refine ⟨?_, .inr ⟨⟨cause, ?_⟩, causeToo, ?_⟩⟩
      · rw [ended, endedToo]
      · rw [ended]
      · rw [endedToo]

/-- Where the memory helper stands at a path, it and the service allocate alike: up to `2^43 - 1` MiB
and no more, as many bytes as asked for, and without a trace in the files. So the runs of a job with
either of them come to the same, with the nearest whole number to the sample less the bias for a
size, or fail with both. Each run asks for memory once, for its size or for none if that is below
zero, and it asks for the arithmetic cycle at most once, and never after the memory was refused. -/
theorem helper_inProcess {tree : FileTree} {path : String}
    (present : tree.findProgram path = .ok (.program .memoryHelper)) :
    (∀ mib : UInt64, ∀ allocator ∈ [Allocator.helper path, .inProcess],
      ((allocator.allocate mib tree).1 = .ok () ↔ mib.toNat ≤ (1 <<< 43) - 1) ∧
      ((allocator.allocate mib tree).1 = .ok () →
        ∀ bytes, allocator.Makes tree mib bytes ↔ bytes = mib.toNat * (1 <<< 20)) ∧
      (allocator.allocate mib tree).2 = tree) ∧
    ∀ (emulation : Emulation) (job : Job) (state : State), state.tree = tree →
      Binary64.CountsAs (-Numeral.largestSigned - 1) Numeral.largestSigned
        ((emulation.memory.sample state.draws).1 - emulation.bias)
        (emulation.sizeIn state).toInt ∧
      Agree { emulation with allocator := .helper path } { emulation with allocator := .inProcess }
        job state ∧
      ∃ mib : UInt64, (mib.toNat : Int) = max (emulation.sizeIn state).toInt 0 ∧
        ∀ allocator, ∃ budget? : Option Nat,
          (surroundings { emulation with allocator }).noting.run emulation.bias job ([], state) =
            ((run { emulation with allocator } job state).1,
              .memory mib :: budget?.toList.map .cycle,
              (run { emulation with allocator } job state).2) ∧
          ((∃ cause, (allocator.allocate mib state.tree).1 = .error cause) → budget? = none) := by
  have serves : ∀ allocator ∈ [Allocator.helper path, .inProcess], allocator.Serves tree := by
    intro allocator member
    rw [List.mem_cons, List.mem_singleton] at member
    rcases member with rfl | rfl
    · exact present
    · trivial
  refine ⟨fun mib allocator member => ?_, ?_⟩
  · rcases Allocator.allocate_of_serves (serves allocator member) mib with
      ⟨⟨most, buffer⟩, taken⟩ | ⟨absent, cause, refused⟩
    · have few := (Footprint.allocate?_eq_some_iff.mp buffer).1
      refine ⟨?_, fun _ bytes => ?_, by rw [taken]⟩
      · rw [taken]
        exact iff_of_true rfl few
      · rw [Allocator.makes_iff (serves allocator member), Footprint.allocate?_eq_some_iff]
        exact and_iff_right few
    · rw [refused]
      refine ⟨iff_of_false nofun fun few => ?_, nofun, rfl⟩
      cases absent.symm.trans (Footprint.allocate?_eq_some_iff.mpr ⟨few, rfl⟩)
  · rintro emulation job state rfl
    refine ⟨emulation.countsAs_sizeIn state,
      emulation.agree_of_serves job (serves _ List.mem_cons_self) trivial,
      mibOf (emulation.sizeIn state), toNat_mibOf _, fun allocator => ?_⟩
    rw [run_eq_surroundings]
    exact (surroundings { emulation with allocator }).run_noting emulation.bias job state []

/-- A machine with the memory helper at its root. -/
def helperMachine : FileTree := ⟨[(["mem-alloc"], .program .memoryHelper)], []⟩

/-- An emulation of a single size that the bias exceeds. -/
def overbiased : Emulation where
  memory := ⟨[(.ofInt 128, .ofInt 1)], by simp⟩
  bias := .ofInt 200
  allocator := .inProcess

/-- The helper takes the largest size that there is and not the next one, and a size below zero goes
through with either allocator. -/
theorem helper_inProcess_overbiased :
    ((Allocator.helper "/mem-alloc").allocate 0x7ffffffffff helperMachine).1 = .ok () ∧
    ((Allocator.helper "/mem-alloc").allocate 0x80000000000 helperMachine).1 ≠ .ok () ∧
    (overbiased.sizeIn ⟨helperMachine, ⟨[]⟩, .ticking 1000⟩).toInt = -72 ∧
    Agree { overbiased with allocator := .helper "/mem-alloc" }
      { overbiased with allocator := .inProcess } (.sampled [] 7 (.ofInt 0))
      ⟨helperMachine, ⟨[]⟩, .ticking 1000⟩ := by
  have present : helperMachine.findProgram "/mem-alloc" = .ok (.program .memoryHelper) := rfl
  obtain ⟨allocates, runs⟩ := helper_inProcess present
  refine ⟨(allocates _ _ List.mem_cons_self).1.mpr (by decide),
    mt (allocates _ _ List.mem_cons_self).1.mp (by decide), by decide +kernel, ?_⟩
  obtain ⟨-, agree, -⟩ := runs overbiased (.sampled [] 7 (.ofInt 0))
    ⟨helperMachine, ⟨[]⟩, .ticking 1000⟩ rfl
  exact agree

end LoadProbe.Emulation
