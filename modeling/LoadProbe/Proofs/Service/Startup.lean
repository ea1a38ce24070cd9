import LoadProbe.Proofs.Binary64.Whole
import LoadProbe.Proofs.Endpoint.Bodies
import LoadProbe.Proofs.Service.Rates

/-!
Which settings a service starts with, and what it can answer once it runs. The emulation takes rates
that are drawn from a distribution as its own before the common setup sees them, and no other
service knows such rates. Main statement: `setUp_decided`.
-/
namespace LoadProbe

namespace Emulation

/-- Whatever number a distribution holds, the time sampled from it is at least a millisecond. -/
theorem one_le_millisOf (sample : Binary64) : 1 ≤ millisOf sample := by
  have size : (UInt64.size : Int) = 18446744073709551616 := rfl
  have finite : (Binary64.ofInt 1).isFinite = true := by decide +kernel
  have low : 1 ≤ (sample.round.max (.ofInt 1)).toIntWithin 0 (UInt64.size - 1) :=
    Binary64.one_le_toIntWithin (by omega) (Binary64.le_max_right _ finite)
  have high := (Binary64.toIntWithin_bounds (Int.le_refl 0)
    (show (0 : Int) ≤ UInt64.size - 1 by omega) (sample.round.max (.ofInt 1))).2
  have fits : ((sample.round.max (.ofInt 1)).toIntWithin 0 (UInt64.size - 1)).toNat <
      UInt64.size := by omega
  rw [UInt64.le_iff_toNat_le, millisOf, UInt64.toNat_ofNat_of_lt' fits]
  exact Int.le_toNat (by omega) |>.mpr low

/-- An emulation with times of its own chooses a rate of at least one. -/
theorem exists_chosen {emulation : Emulation} {duration : Distribution}
    (own : emulation.duration? = some duration) (state : State) :
    ∃ rate after, emulation.chooseRate state = (some rate, after) ∧ 1 ≤ rate := by
  simp only [chooseRate, own]
  exact ⟨_, _, rfl, one_le_millisOf _⟩

end Emulation

theorem exists_of_isOk {ε α : Type} {result : Except ε α} (good : result.isOk = true) :
    ∃ value, result = .ok value := by
  cases result with
  | error cause => cases good
  | ok value => exact ⟨value, rfl⟩

theorem SizeTable.exists_usual : ∃ table, SizeTable.usual = .ok table :=
  exists_of_isOk (by decide +kernel)

namespace Endpoint

variable {State : Type}

/-- A rate that the workload chooses is the rate of the job, whatever the headers are. -/
theorem exists_job_of_chosen {endpoint : Endpoint State} {scene : Scene State} {rate : UInt64}
    {state : State} (chosen : endpoint.workload.chooseRate scene.state = (some rate, state))
    (headers : Headers) :
    ∃ job ready, endpoint.job headers scene = (.ok job, ready) ∧ job.rate = rate := by
  simp only [job, chosen]
  exact ⟨_, _, rfl, rfl⟩

end Endpoint

/-- The common settings that the emulation goes on with: times of its own leave the rate to the
headers. -/
def CommonSettings.deferring (settings : CommonSettings) : CommonSettings :=
  if settings.rateKind = .cdf then { settings with rateKind := .header } else settings

namespace Setup

theorem deferring_of_ne {settings : CommonSettings} (other : settings.rateKind ≠ .cdf) :
    settings.deferring = settings := if_neg other

theorem rateKind_deferring (settings : CommonSettings) : settings.deferring.rateKind ≠ .cdf := by
  unfold CommonSettings.deferring
  split
  · exact nofun
  · next other => exact other

theorem locate_deferring (settings : CommonSettings) :
    locate settings.deferring = locate settings := by
  unfold CommonSettings.deferring
  split <;> rfl

theorem exists_ratesOf {settings : CommonSettings} (known : settings.rateKind ≠ .cdf) :
    ∃ rates, ratesOf settings = .ok rates := by
  unfold ratesOf
  cases kind : settings.rateKind with
  | header => exact ⟨_, rfl⟩
  | weighted =>
    obtain ⟨table, built⟩ :
        ∃ table, settings.taskSize?.elim SizeTable.usual SizeTable.fixed = .ok table := by
      cases settings.taskSize? with
      | none =>
        rw [Option.elim_none]
        exact SizeTable.exists_usual
      | some size =>
        rw [Option.elim_some]
        exact SizeTable.exists_fixed size
    simp only [built]
    exact ⟨_, rfl⟩
  | cdf => exact absurd kind known

/-- Rates of a distribution are refused before anything else is looked at. -/
theorem ofSettings_cdf (way? : Url → Option IpAddress) {settings : CommonSettings}
    (kind : settings.rateKind = .cdf) :
    ofSettings way? settings = (.error (.unsupportedRates .cdf), []) := by
  have refused : ratesOf settings = .error (.unsupportedRates .cdf) := by simp only [ratesOf, kind]
  simp only [ofSettings, refused]

/-- Any other settings fail only by the address of the collector. -/
theorem ofSettings_cases (way? : Url → Option IpAddress) {settings : CommonSettings}
    (known : settings.rateKind ≠ .cdf) :
    (∃ cause, locate settings = .error cause ∧
      ofSettings way? settings = (.error (.badCollector cause), [])) ∨
    ∃ url? setup log, locate settings = .ok url? ∧ ofSettings way? settings = (.ok setup, log) := by
  obtain ⟨rates, accepted⟩ := exists_ratesOf known
  rcases place : locate settings with cause | _ | url
  · exact .inl ⟨cause, rfl, by simp only [ofSettings, accepted, place]⟩
  · exact .inr ⟨none, _, _, rfl, by simp only [ofSettings, accepted, place]; rfl⟩
  · exact .inr ⟨some url, _, _, rfl, by simp only [ofSettings, accepted, place]; rfl⟩

/-- An emulation with the distributions that its settings name; it has times if they are asked for. -/
structure Loaded (tree : FileTree) (settings : Settings) (emulation : Emulation) : Prop where
  memory : Distribution.load tree settings.emulation.memoryPath = .ok emulation.memory
  duration : settings.common.rateKind = .cdf → ∃ duration,
    Distribution.load tree settings.emulation.durationPath = .ok duration ∧
      emulation.duration? = some duration

/-- Either a distribution that is asked for does not load, or all do. -/
theorem emulation_cases (tree : FileTree) (settings : Settings) :
    (∃ cause after, emulation tree settings = (.error cause, after) ∧
      (Distribution.load tree settings.emulation.memoryPath = .error cause ∨
        settings.common.rateKind = .cdf ∧
          Distribution.load tree settings.emulation.durationPath = .error cause)) ∨
    ∃ loaded after, emulation tree settings = (.ok loaded, after) ∧ Loaded tree settings loaded ∧
      after.common = settings.common.deferring := by
  cases memory : Distribution.load tree settings.emulation.memoryPath with
  | error cause => exact .inl ⟨cause, settings, by simp only [emulation, memory], .inl rfl⟩
  | ok sizes =>
    by_cases kind : settings.common.rateKind = .cdf
    · have deferred : settings.common.deferring = { settings.common with rateKind := .header } :=
        if_pos kind
      cases duration : Distribution.load tree settings.emulation.durationPath with
      | error cause =>
        refine .inl ⟨cause, { settings with common := settings.common.deferring }, ?_,
          .inr ⟨kind, rfl⟩⟩
        simp only [emulation, memory, kind, duration, deferred, ne_eq, not_true, if_false]
      | ok times =>
        refine .inr ⟨⟨sizes, settings.emulation.bias, settings.allocator, some times⟩,
          { settings with common := settings.common.deferring }, ?_,
          ⟨memory, fun _ => ⟨times, duration, rfl⟩⟩, rfl⟩
        simp only [emulation, memory, kind, duration, deferred, ne_eq, not_true, if_false]
    · refine .inr ⟨⟨sizes, settings.emulation.bias, settings.allocator, none⟩, settings, ?_,
        ⟨memory, fun asked => absurd asked kind⟩, (deferring_of_ne kind).symm⟩
      simp only [emulation, memory, ne_eq, kind, not_false_eq_true, if_true]

/-- With rates that are sampled, the emulation that was loaded makes a job of every request. -/
theorem Loaded.exists_job {tree : FileTree} {settings : Settings} {loaded : Emulation}
    (holds : Loaded tree settings loaded) {endpoint : Endpoint Emulation.State}
    (works : endpoint.workload = loaded.workload)
    (accepted : ratesOf settings.common.deferring = .ok endpoint.rates)
    (sampled : settings.common.rateKind ≠ .header) (headers : Headers)
    (scene : Scene Emulation.State) :
    ∃ job ready, endpoint.job headers scene = (.ok job, ready) ∧
      (settings.common.rateKind = .cdf → 1 ≤ job.rate) := by
  by_cases kind : settings.common.rateKind = .cdf
  · obtain ⟨duration, -, own⟩ := holds.duration kind
    obtain ⟨rate, after, chosen, positive⟩ := Emulation.exists_chosen own scene.state
    have chooses : endpoint.workload.chooseRate scene.state = (some rate, after) := by
      rw [works]
      exact chosen
    obtain ⟨job, ready, made, same⟩ := Endpoint.exists_job_of_chosen chooses headers
    exact ⟨job, ready, made, fun _ => same ▸ positive⟩
  · rw [deferring_of_ne kind] at accepted
    rcases sizes_of_ratesOf accepted with ⟨header, -⟩ | ⟨-, ⟨table, source⟩, -⟩
    · exact absurd header sampled
    · obtain ⟨job, ready, made⟩ := Endpoint.exists_job_of_table source headers scene
      exact ⟨job, ready, made, fun asked => absurd asked kind⟩

end Setup

namespace Service

theorem withSetup_cases (machine : Machine) {common : CommonSettings} (finish : Setup → Started)
    (known : common.rateKind ≠ .cdf) :
    (∃ cause, Setup.locate common = .error cause ∧
      setUp.withSetup machine common finish = (.error (.setup (.badCollector cause)), [])) ∨
    ∃ url? setup log, Setup.locate common = .ok url? ∧ Setup.ratesOf common = .ok setup.rates ∧
      setUp.withSetup machine common finish = (.ok (finish setup), log) := by
  rcases Setup.ofSettings_cases machine.way? known with
    ⟨cause, place, refused⟩ | ⟨url?, setup, log, place, accepted⟩
  · exact .inl ⟨cause, place, by simp only [setUp.withSetup, refused]⟩
  · exact .inr ⟨url?, setup, log, place, Setup.ratesOf_of_ofSettings accepted,
      by simp only [setUp.withSetup, accepted]⟩

theorem withSetup_cdf (machine : Machine) {common : CommonSettings} (finish : Setup → Started)
    (kind : common.rateKind = .cdf) :
    setUp.withSetup machine common finish = (.error (.setup (.unsupportedRates .cdf)), []) := by
  simp only [setUp.withSetup, Setup.ofSettings_cdf machine.way? kind]

/-- All that a start of the emulation can come to: a distribution that is asked for does not load,
the collector has a bad address, or the service works with what was loaded. -/
theorem emulation_setUp_cases (machine : Machine) (settings : Settings) :
    (∃ cause, emulation.setUp machine settings = (.error (.trace cause), []) ∧
      (Distribution.load machine.tree settings.emulation.memoryPath = .error cause ∨
        settings.common.rateKind = .cdf ∧
          Distribution.load machine.tree settings.emulation.durationPath = .error cause)) ∨
    ∃ loaded, Setup.Loaded machine.tree settings loaded ∧
      ((∃ cause, Setup.locate settings.common = .error cause ∧
        emulation.setUp machine settings = (.error (.setup (.badCollector cause)), [])) ∨
      ∃ url? endpoint started log, Setup.locate settings.common = .ok url? ∧
        emulation.setUp machine settings = (.ok started, log) ∧
        started.assembly = .emulation endpoint ∧ endpoint.workload = loaded.workload ∧
        Setup.ratesOf settings.common.deferring = .ok endpoint.rates) := by
  rcases Setup.emulation_cases machine.tree settings with
    ⟨cause, after, refused, missing⟩ | ⟨loaded, after, made, holds, deferred⟩
  · exact .inl ⟨cause, by simp only [setUp, refused], missing⟩
  · right
    refine ⟨loaded, holds, ?_⟩
    have known : after.common.rateKind ≠ .cdf := by
      rw [deferred]
      exact Setup.rateKind_deferring settings.common
    simp only [setUp, made]
    -- The common setup sees deferred settings, whose collector is that of the given ones.
    rw [← Setup.locate_deferring, ← deferred]
    rcases withSetup_cases machine _ known with
      ⟨cause, place, refused⟩ | ⟨url?, setup, log, place, accepted, started⟩
    · exact .inl ⟨cause, place, refused⟩
    · exact .inr ⟨url?, _, _, log, place, started, rfl, rfl, accepted⟩

/-- The emulation starts if and only if what it is asked to load and to report to is there. -/
theorem emulation_starts_iff (machine : Machine) (settings : Settings) :
    (∃ started log, emulation.setUp machine settings = (.ok started, log)) ↔
      (∃ memory, Distribution.load machine.tree settings.emulation.memoryPath = .ok memory) ∧
      (settings.common.rateKind = .cdf → ∃ duration,
        Distribution.load machine.tree settings.emulation.durationPath = .ok duration) ∧
      ∃ url?, Setup.locate settings.common = .ok url? := by
  rcases emulation_setUp_cases machine settings with
    ⟨cause, failed, missing⟩ | ⟨loaded, holds, ⟨cause, place, failed⟩ |
      ⟨url?, endpoint, started, log, place, starts, -⟩⟩
  · refine iff_of_false ?_ ?_
    · rintro ⟨started, log, starts⟩
      cases failed.symm.trans starts
    · rintro ⟨⟨memory, sizes⟩, times, -⟩
      rcases missing with absent | ⟨kind, absent⟩
      · cases sizes.symm.trans absent
      · obtain ⟨duration, loads⟩ := times kind
        cases loads.symm.trans absent
  · refine iff_of_false ?_ ?_
    · rintro ⟨started, log, starts⟩
      cases failed.symm.trans starts
    · rintro ⟨-, -, url?, located⟩
      cases place.symm.trans located
  · refine iff_of_true ⟨started, log, starts⟩ ⟨⟨_, holds.memory⟩, fun kind => ?_, url?, place⟩
    obtain ⟨duration, loads, -⟩ := holds.duration kind
    exact ⟨duration, loads⟩

theorem emulation_error_ne {machine : Machine} {settings : Settings} {failure : StartFailure}
    {log : List LogEvent} (failed : emulation.setUp machine settings = (.error failure, log))
    (kind : RateKind) : failure ≠ .setup (.unsupportedRates kind) := by
  rintro rfl
  rcases emulation_setUp_cases machine settings with
    ⟨cause, other, -⟩ | ⟨loaded, -, ⟨cause, -, other⟩ | ⟨url?, endpoint, started, log, -, other, -⟩⟩
  · cases failed.symm.trans other
  · cases failed.symm.trans other
  · cases failed.symm.trans other

/-- An emulation that runs with sampled rates works on every request. -/
theorem emulation_works {machine : Machine} {settings : Settings} {started : Started}
    {log : List LogEvent} (starts : emulation.setUp machine settings = (.ok started, log))
    (sampled : settings.common.rateKind ≠ .header) :
    ∃ endpoint, started.assembly = .emulation endpoint ∧ ∀ headers scene,
      (endpoint.handle headers scene).1.outcome.body ≠ "lack headers" ∧
      ∃ job, (endpoint.handle headers scene).1.job? = some job ∧
        (settings.common.rateKind = .cdf → 1 ≤ job.rate) := by
  rcases emulation_setUp_cases machine settings with
    ⟨cause, other, -⟩ | ⟨loaded, holds, ⟨cause, -, other⟩ |
      ⟨url?, endpoint, same, events, -, other, assembled, works, accepted⟩⟩
  · cases starts.symm.trans other
  · cases starts.symm.trans other
  · obtain rfl : started = same := by
      injection starts.symm.trans other with result
      exact Except.ok.inj result
    refine ⟨endpoint, assembled, fun headers scene => ?_⟩
    obtain ⟨job, ready, made, positive⟩ := holds.exists_job works accepted sampled headers scene
    refine ⟨Endpoint.body_ne_rejection made, job, ?_, positive⟩
    rw [(endpoint.handle_accounted headers scene).job?, made]
    rfl

/-- Whatever the settings and the files are, the emulation starts if and only if the sizes load, the
times load if they are asked for, and the collector is given no address or a good one. No start of
it fails for its source of rates. Once it runs with rates that are sampled, it makes a job of every
request, whatever the headers, the draws and the rest of the scene are, and so never answers that
headers are lacking; rates of a distribution are at least one, whatever numbers it holds. The other
services have no use for those: their common settings are refused, and they do not start. -/
theorem setUp_decided (machine : Machine) (settings : Settings) :
    ((∃ started log, emulation.setUp machine settings = (.ok started, log)) ↔
      (∃ memory, Distribution.load machine.tree settings.emulation.memoryPath = .ok memory) ∧
      (settings.common.rateKind = .cdf → ∃ duration,
        Distribution.load machine.tree settings.emulation.durationPath = .ok duration) ∧
      ∃ url?, Setup.locate settings.common = .ok url?) ∧
    (∀ failure log, emulation.setUp machine settings = (.error failure, log) →
      ∀ kind, failure ≠ .setup (.unsupportedRates kind)) ∧
    (∀ started log, emulation.setUp machine settings = (.ok started, log) →
      settings.common.rateKind ≠ .header →
      ∃ endpoint, started.assembly = .emulation endpoint ∧ ∀ headers scene,
        (endpoint.handle headers scene).1.outcome.body ≠ "lack headers" ∧
        ∃ job, (endpoint.handle headers scene).1.job? = some job ∧
          (settings.common.rateKind = .cdf → 1 ≤ job.rate)) ∧
    (settings.common.rateKind = .cdf →
      (∀ way?, Setup.ofSettings way? settings.common = (.error (.unsupportedRates .cdf), [])) ∧
      arithmetic.setUp machine settings = (.error (.setup (.unsupportedRates .cdf)), []) ∧
      ∃ failure, store.setUp machine settings = (.error failure, []) ∧
        ∀ target, settings.location.target = .ok target →
          failure = .setup (.unsupportedRates .cdf)) := by
  refine ⟨emulation_starts_iff machine settings, fun _ _ => emulation_error_ne,
    fun _ _ => emulation_works, fun kind => ?_⟩
  refine ⟨fun way? => Setup.ofSettings_cdf way? kind, withSetup_cdf machine _ kind, ?_⟩
  cases reached : settings.location.target with
  | error refusal => exact ⟨.store refusal, by simp only [setUp, reached], nofun⟩
  | ok target =>
    refine ⟨.setup (.unsupportedRates .cdf), ?_, fun _ _ => rfl⟩
    simp only [setUp, reached]
    exact withSetup_cdf machine _ kind

/-- A machine with one size and with times that are no number or below zero. -/
def timedMachine : Machine :=
  { bareMachine with
    tree := ⟨[(["sizes"], .file (Text.encode "40,1\n".toList) false),
      (["times"], .file (Text.encode "NaN,0.5\n-3,1\n".toList) false)], []⟩ }

/-- Settings that ask for the times of that machine. -/
def timedSettings : Settings where
  common := { rateKind := .cdf }
  emulation := { memoryPath := "sizes", durationPath := "times" }

/-- With those times the emulation starts, and without any headers its jobs have a rate. -/
theorem setUp_decided_timed : ∃ started log endpoint,
    emulation.setUp timedMachine timedSettings = (.ok started, log) ∧
      started.assembly = .emulation endpoint ∧ ∀ scene,
        (endpoint.handle [] scene).1.outcome.body ≠ "lack headers" ∧
        ∃ job, (endpoint.handle [] scene).1.job? = some job ∧ 1 ≤ job.rate := by
  obtain ⟨starts_iff, -, works, -⟩ := setUp_decided timedMachine timedSettings
  have sizes : ∃ memory, Distribution.load timedMachine.tree "sizes" = .ok memory :=
    exists_of_isOk (by decide +kernel)
  have times : ∃ duration, Distribution.load timedMachine.tree "times" = .ok duration :=
    exists_of_isOk (by decide +kernel)
  obtain ⟨started, log, starts⟩ := starts_iff.mpr ⟨sizes, fun _ => times, none, rfl⟩
  obtain ⟨endpoint, assembled, answers⟩ := works started log starts (by decide)
  refine ⟨started, log, endpoint, starts, assembled, fun scene => ?_⟩
  obtain ⟨body, job, given, positive⟩ := answers [] scene
  exact ⟨body, job, given, positive rfl⟩

end Service
end LoadProbe
