import LoadProbe.Proofs.Endpoint.Accounting
import LoadProbe.Proofs.Job.Grammar
import LoadProbe.Proofs.SizeTable
import LoadProbe.Service

/-!
Rates of zero. Headers and the usual table give none to a service whose jobs must have a size, but a
table of the single size zero does. Main statement: `one_le_rate_iff`, for every service of sized jobs
that starts.
-/
namespace LoadProbe

variable {State : Type}

theorem SizeTable.exists_fixed (size : UInt64) : ∃ table, SizeTable.fixed size = .ok table := by
  have weighed : (Binary64.zero false).le (.ofInt 1) = true := by decide +kernel
  have some : (Binary64.zero false + .ofInt 1).same (.zero false) = false := by decide +kernel
  have finite : (Binary64.zero false + .ofInt 1).isFinite = true := by decide +kernel
  simp [fixed, ofWeights, runningSums, weighed, some, finite]

theorem one_le_of_ne_zero {size : UInt64} (nonzero : size ≠ 0) : 1 ≤ size := by
  rw [UInt64.le_iff_toNat_le]
  have some : size.toNat ≠ 0 := fun zero => nonzero (UInt64.toNat_inj.mp zero)
  exact Nat.one_le_iff_ne_zero.mpr some

/-- Tables of settings have no size zero, unless it is the single one that is asked for. -/
theorem SizeTable.one_le_of_mem {taskSize? : Option UInt64} {size : UInt64}
    (member : size ∈ taskSize?.elim usualSizes (fun asked => [asked]))
    (other : taskSize? ≠ some 0) : 1 ≤ size := by
  cases taskSize? with
  | none =>
    simp only [Option.elim_none, usualSizes, List.mem_cons, List.not_mem_nil, or_false] at member
    rcases member with rfl | rfl | rfl | rfl | rfl <;> decide
  | some asked =>
    obtain rfl : size = asked := by simpa using member
    exact one_le_of_ne_zero fun zero => other (congrArg some zero)

theorem Job.one_le_rate_of_ofHeaders {headers : Headers} {policy : JobPolicy} {job : Job}
    (strict : policy.allowZeroRate = false) (made : ofHeaders headers policy = .ok job) :
    1 ≤ job.rate := by
  obtain ⟨text, -, -, taken⟩ := (described_iff.mpr made).rate
  have positive : 0 < job.rate := taken.resolve_right (by simp [strict])
  exact one_le_of_ne_zero (UInt64.pos_iff_ne_zero.mp positive)

/-- The sizes that a source of rates draws from, if it does not read the headers. -/
def RateSource.sizes : RateSource → List UInt64
  | .headers => []
  | .table choices => choices.sizes

namespace Endpoint

/-- An endpoint whose jobs must have a size, and whose workload leaves the rate to the source. -/
structure Sized (endpoint : Endpoint State) : Prop where
  strict : endpoint.policy.allowZeroRate = false
  unchosen (state : State) : (endpoint.workload.chooseRate state).1 = none

/-- A job that the workload is given in some run, on whatever scene. -/
def Gives (endpoint : Endpoint State) (job : Job) : Prop :=
  ∃ requests scene exchange, exchange ∈ (endpoint.handleAll requests scene).1 ∧
    exchange.job? = some job

/-- Jobs of sized endpoints come from headers with a positive rate, or have a size of the table. -/
theorem rate_of_job {endpoint : Endpoint State} (sized : endpoint.Sized) {headers : Headers}
    {scene ready : Scene State} {job : Job}
    (made : endpoint.job headers scene = (.ok job, ready)) :
    (endpoint.rates = .headers ∧ 1 ≤ job.rate) ∨ job.rate ∈ endpoint.rates.sizes := by
  obtain ⟨state, chosen⟩ : ∃ state, endpoint.workload.chooseRate scene.state = (none, state) :=
    ⟨_, Prod.ext (sized.unchosen scene.state) rfl⟩
  unfold Endpoint.job at made
  rw [chosen] at made
  cases source : endpoint.rates with
  | headers =>
    left
    rw [source] at made
    exact ⟨rfl, Job.one_le_rate_of_ofHeaders sized.strict (Prod.mk.inj made).1⟩
  | table table =>
    right
    rw [source] at made
    have same := Except.ok.inj (Prod.mk.inj made).1
    rw [← same]
    exact table.pick_mem_sizes scene.draws.next.1

/-- Every job of a run was made of some request. -/
theorem exists_job_of_mem_handleAll {endpoint : Endpoint State} {requests : List Headers}
    {scene : Scene State} {exchange : Exchange} {job : Job}
    (member : exchange ∈ (endpoint.handleAll requests scene).1) (given : exchange.job? = some job) :
    ∃ headers before ready, endpoint.job headers before = (.ok job, ready) := by
  induction requests generalizing scene with
  | nil => simp [handleAll] at member
  | cons headers rest ih =>
    have whole : (endpoint.handleAll (headers :: rest) scene).1 =
        (endpoint.handle headers scene).1 ::
          (endpoint.handleAll rest (endpoint.handle headers scene).2).1 := rfl
    rw [whole, List.mem_cons] at member
    rcases member with same | later
    · have told := (endpoint.handle_accounted headers scene).job?
      rw [← same, given, eq_comm, Job.toOption_eq_some_iff] at told
      exact ⟨headers, scene, _, Prod.ext told rfl⟩
    · exact ih later

/-- A request that becomes a job gives it to the workload. -/
theorem gives_of_job {endpoint : Endpoint State} {headers : Headers} {scene ready : Scene State}
    {job : Job} (made : endpoint.job headers scene = (.ok job, ready)) : endpoint.Gives job := by
  refine ⟨[headers], scene, (endpoint.handle headers scene).1, by simp [handleAll], ?_⟩
  rw [(endpoint.handle_accounted headers scene).job?, made]
  rfl

end Endpoint

namespace Setup

/-- Common settings are accepted with the headers as the source of rates, or with a table of the size
that they ask for or of the usual ones. -/
theorem sizes_of_ratesOf {settings : CommonSettings} {rates : RateSource}
    (accepted : ratesOf settings = .ok rates) :
    (settings.rateKind = .header ∧ rates = .headers) ∨
      settings.rateKind = .weighted ∧ (∃ table, rates = .table table) ∧
        rates.sizes = settings.taskSize?.elim SizeTable.usualSizes (fun size => [size]) := by
  unfold ratesOf at accepted
  cases kind : settings.rateKind with
  | header =>
    rw [kind] at accepted
    exact .inl ⟨rfl, (Except.ok.inj accepted).symm⟩
  | weighted =>
    rw [kind] at accepted
    simp only at accepted
    split at accepted
    · next table built =>
      obtain rfl := Except.ok.inj accepted
      refine .inr ⟨rfl, ⟨table, rfl⟩, ?_⟩
      cases asked : settings.taskSize? with
      | none =>
        rw [asked, Option.elim_none] at built
        rw [Option.elim_none]
        exact SizeTable.sizes_usual built
      | some size =>
        rw [asked, Option.elim_some] at built
        rw [Option.elim_some]
        exact SizeTable.sizes_fixed built
    · cases accepted
  | cdf =>
    rw [kind] at accepted
    cases accepted

theorem ratesOf_of_ofSettings {way? : Url → Option IpAddress} {settings : CommonSettings}
    {setup : Setup} {log : List LogEvent} (accepted : ofSettings way? settings = (.ok setup, log)) :
    ratesOf settings = .ok setup.rates := by
  unfold ofSettings at accepted
  split at accepted
  · cases (Prod.mk.inj accepted).1
  · cases (Prod.mk.inj accepted).1
  · next rates made _ =>
    rw [made, ← Except.ok.inj (Prod.mk.inj accepted).1]
  · next rates _ made _ =>
    rw [made, ← Except.ok.inj (Prod.mk.inj accepted).1]

end Setup

namespace Endpoint

/-- With a table of sizes, every request becomes a job. -/
theorem exists_job_of_table {endpoint : Endpoint State} {table : SizeTable}
    (source : endpoint.rates = .table table) (headers : Headers) (scene : Scene State) :
    ∃ job ready, endpoint.job headers scene = (.ok job, ready) := by
  rcases endpoint.job_cases headers scene with ⟨-, -, told, -⟩ | ⟨-, -, rate, draws, made⟩
  · rw [source] at told
    cases told
  · exact ⟨_, _, made⟩

/-- Of a table of the size zero, every request becomes a job of that size. -/
theorem exists_idle_job {endpoint : Endpoint State} (sized : endpoint.Sized) {table : SizeTable}
    (source : endpoint.rates = .table table) (zero : table.sizes = [0]) (headers : Headers)
    (scene : Scene State) :
    ∃ job ready, endpoint.job headers scene = (.ok job, ready) ∧ job.rate = 0 := by
  obtain ⟨job, ready, made⟩ := exists_job_of_table source headers scene
  refine ⟨job, ready, made, ?_⟩
  rcases rate_of_job sized made with ⟨told, -⟩ | member
  · rw [source] at told
    cases told
  · rw [source, RateSource.sizes, zero] at member
    simpa using member

/-- A sized endpoint with the rates of some settings gives no job of size zero, unless the settings
ask for that size. -/
theorem one_le_gives_iff {endpoint : Endpoint State} (sized : endpoint.Sized)
    {settings : CommonSettings} (accepted : Setup.ratesOf settings = .ok endpoint.rates)
    (scene : Scene State) :
    (∀ job, endpoint.Gives job → 1 ≤ job.rate) ↔
      ¬ (settings.rateKind = .weighted ∧ settings.taskSize? = some 0) := by
  constructor
  · rintro positive ⟨weighted, zero⟩
    rcases Setup.sizes_of_ratesOf accepted with ⟨header, -⟩ | ⟨-, ⟨table, source⟩, sizes⟩
    · rw [weighted] at header
      cases header
    · rw [source, zero] at sizes
      obtain ⟨job, ready, made, none⟩ := exists_idle_job sized source sizes [] scene
      have some := positive job (gives_of_job made)
      rw [none] at some
      exact absurd some (by decide)
  · rintro other job ⟨requests, before, exchange, member, given⟩
    obtain ⟨headers, scene, ready, made⟩ := exists_job_of_mem_handleAll member given
    rcases rate_of_job sized made with ⟨-, positive⟩ | member
    · exact positive
    · rcases Setup.sizes_of_ratesOf accepted with ⟨-, source⟩ | ⟨weighted, -, sizes⟩
      · simp [source, RateSource.sizes] at member
      · rw [sizes] at member
        exact SizeTable.one_le_of_mem member fun asked => other ⟨weighted, asked⟩

end Endpoint

/-- A job that a service's workload is given in some run. -/
def Assembly.Gives : Assembly → Job → Prop
  | .arithmetic endpoint, job => endpoint.Gives job
  | .store endpoint, job => endpoint.Gives job
  | .emulation endpoint, job => endpoint.Gives job

namespace Service

theorem withSetup_ok {machine : Machine} {common : CommonSettings} {finish : Setup → Started}
    {started : Started} {log : List LogEvent}
    (starts : setUp.withSetup machine common finish = (.ok started, log)) :
    ∃ setup, Setup.ratesOf common = .ok setup.rates ∧ started = finish setup := by
  unfold setUp.withSetup at starts
  split at starts
  · cases (Prod.mk.inj starts).1
  · next setup events accepted =>
    exact ⟨setup, Setup.ratesOf_of_ofSettings accepted,
      (Except.ok.inj (Prod.mk.inj starts).1).symm⟩

/-- In whatever run, the services of sized jobs give their workloads jobs of a size of at least one,
if and only if they are not set up with a table of the single size zero: the header of a rate and the
usual table leave no zero, and that size is accepted as it is. -/
theorem one_le_rate_iff {service : Service} (sized : service ≠ .emulation) {machine : Machine}
    {settings : Settings} {started : Started} {log : List LogEvent}
    (starts : service.setUp machine settings = (.ok started, log)) :
    (∀ job, started.assembly.Gives job → 1 ≤ job.rate) ↔
      ¬ (settings.common.rateKind = .weighted ∧ settings.common.taskSize? = some 0) := by
  cases service with
  | arithmetic =>
    obtain ⟨setup, accepted, rfl⟩ := withSetup_ok starts
    exact Endpoint.one_le_gives_iff ⟨rfl, fun _ => rfl⟩ accepted
      ⟨.ticking 0 0, ⟨[]⟩, .ofCodes [], ⟨[]⟩⟩
  | store =>
    unfold setUp at starts
    simp only at starts
    split at starts
    · cases (Prod.mk.inj starts).1
    · obtain ⟨setup, accepted, rfl⟩ := withSetup_ok starts
      exact Endpoint.one_le_gives_iff ⟨rfl, fun _ => rfl⟩ accepted
        ⟨.ticking 0 0, ⟨[]⟩, .ofCodes [], {}⟩
  | emulation => exact absurd rfl sized

/-- A machine without files and ways. -/
def bareMachine : Machine where
  tree := ⟨[], []⟩
  way? _ := none
  owns _ := true
  store := {}

/-- Settings that ask for a table of a single size. -/
def sizedSettings (size : UInt64) : Settings where
  common := { rateKind := .weighted, taskSize? := some size }

/-- The load on the processor starts with any single size. -/
theorem exists_setUp_sized (size : UInt64) : ∃ endpoint started log,
    Service.arithmetic.setUp bareMachine (sizedSettings size) = (.ok started, log) ∧
      started.assembly = .arithmetic endpoint ∧ endpoint.Sized ∧
      ∃ table, endpoint.rates = .table table ∧ table.sizes = [size] := by
  obtain ⟨table, built⟩ := SizeTable.exists_fixed size
  have accepted : Setup.ofSettings bareMachine.way? (sizedSettings size).common =
      (.ok ⟨(sizedSettings size).common.listen, .table table, none⟩, []) := by
    simp [Setup.ofSettings, Setup.ratesOf, Setup.locate, Collector.locate, sizedSettings, built]
  refine ⟨{ workload := ArithmeticLoad.workload, rates := .table table, layout := .timing },
    { listen := (sizedSettings size).common.listen, event := starting .arithmetic "ALU" []
      assembly := .arithmetic _ }, [], ?_, rfl, ⟨rfl, fun _ => rfl⟩, table, rfl,
    SizeTable.sizes_fixed built⟩
  simp only [setUp, setUp.withSetup, accepted]

/-- With jobs of size 7000 the load on the processor has no job of size zero. -/
theorem one_le_rate_sized : ∃ started log,
    Service.arithmetic.setUp bareMachine (sizedSettings 7000) = (.ok started, log) ∧
      ∀ job, started.assembly.Gives job → 1 ≤ job.rate := by
  obtain ⟨endpoint, started, log, starts, -⟩ := exists_setUp_sized 7000
  have other : ¬ ((sizedSettings 7000).common.rateKind = .weighted ∧
      (sizedSettings 7000).common.taskSize? = some 0) := by
    rintro ⟨-, zero⟩
    cases zero
  exact ⟨started, log, starts, (one_le_rate_iff (by decide) starts).mpr other⟩

/-- The load on the processor starts with jobs of size zero and works on one. -/
theorem idle_job_given : ∃ started log,
    Service.arithmetic.setUp bareMachine (sizedSettings 0) = (.ok started, log) ∧
      ∃ job, started.assembly.Gives job ∧ job.rate = 0 := by
  obtain ⟨endpoint, started, log, starts, assembled, sized, table, source, zero⟩ :=
    exists_setUp_sized 0
  obtain ⟨job, ready, made, none⟩ := Endpoint.exists_idle_job sized source zero []
    ⟨.ticking 0 0, ⟨[]⟩, .ofCodes [], ⟨[]⟩⟩
  refine ⟨started, log, starts, job, ?_, none⟩
  rw [assembled]
  exact Endpoint.gives_of_job made

end Service
end LoadProbe
