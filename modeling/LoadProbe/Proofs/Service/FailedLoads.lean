import LoadProbe.Proofs.Service.Startup

/-!
What is left of settings when an emulation does not load. The rate is handed over to the headers after
the sizes are loaded and before the times are, so that times that do not load leave it there. Main
statement: `emulation_restores_iff`, for all settings on every machine.
-/
namespace LoadProbe.Setup

variable {tree : FileTree} {settings after : Settings} {cause : Distribution.LoadFailure}

/-- The sizes load, and the times do not, though they are asked for. -/
structure HalfLoaded (tree : FileTree) (settings : Settings) : Prop where
  asked : settings.common.rateKind = .cdf
  memory : ∃ memory, Distribution.load tree settings.emulation.memoryPath = .ok memory
  duration : ∃ cause, Distribution.load tree settings.emulation.durationPath = .error cause

/-- An emulation that does not load leaves its settings as they were, and the common setup after it is
the one without it. -/
def Restores (tree : FileTree) (settings : Settings) : Prop :=
  ∀ cause after, emulation tree settings = (.error cause, after) →
    after = settings ∧
      ∀ way?, ofSettings way? after.common = ofSettings way? settings.common

/-- Settings after an emulation that did not load: the headers tell the rate, and a common setup that
refuses the settings as they were takes these, unless the collector has a bad address. -/
structure Misled (tree : FileTree) (settings : Settings) (cause : Distribution.LoadFailure)
    (after : Settings) : Prop where
  failed : emulation tree settings = (.error cause, after)
  changed : after = { settings with common := { settings.common with rateKind := .header } }
  refused (way? : Url → Option IpAddress) :
    ofSettings way? settings.common = (.error (.unsupportedRates .cdf), [])
  accepted (way? : Url → Option IpAddress) :
    (∃ cause, locate settings.common = .error cause ∧
      ofSettings way? after.common = (.error (.badCollector cause), [])) ∨
    ∃ url? setup log, locate settings.common = .ok url? ∧
      ofSettings way? after.common = (.ok setup, log) ∧ setup.rates = .headers

/-- An emulation fails by its sizes, with its settings untouched, or by its times, with the rate handed
over to the headers. -/
theorem emulation_eq_error_iff :
    emulation tree settings = (.error cause, after) ↔
      (Distribution.load tree settings.emulation.memoryPath = .error cause ∧ after = settings) ∨
      ((∃ memory, Distribution.load tree settings.emulation.memoryPath = .ok memory) ∧
        settings.common.rateKind = .cdf ∧
        Distribution.load tree settings.emulation.durationPath = .error cause ∧
        after = { settings with common := { settings.common with rateKind := .header } }) := by
  unfold emulation
  cases Distribution.load tree settings.emulation.memoryPath with
  | error other => simp [eq_comm]
  | ok memory =>
    by_cases asked : settings.common.rateKind = .cdf
    · cases Distribution.load tree settings.emulation.durationPath with
      | error other => simp [asked, eq_comm]
      | ok duration => simp [asked]
    · simp [asked]

/-- Times that do not load leave settings that the common setup takes for those of the headers. -/
theorem misled_of_headers (failed : emulation tree settings = (.error cause, after))
    (asked : settings.common.rateKind = .cdf)
    (changed : after = { settings with common := { settings.common with rateKind := .header } }) :
    Misled tree settings cause after := by
  refine ⟨failed, changed, fun way? => ofSettings_cdf way? asked, fun way? => ?_⟩
  subst changed
  have known : { settings.common with rateKind := .header }.rateKind ≠ .cdf := nofun
  rcases ofSettings_cases way? known with
    ⟨cause, place, refused⟩ | ⟨url?, setup, log, place, accepted⟩
  · exact .inl ⟨cause, place, refused⟩
  · exact .inr ⟨url?, setup, log, place, accepted,
      (Except.ok.inj (ratesOf_of_ofSettings accepted)).symm⟩

theorem HalfLoaded.exists_misled (half : HalfLoaded tree settings) :
    ∃ cause after, Misled tree settings cause after := by
  obtain ⟨cause, missing⟩ := half.duration
  have failed := emulation_eq_error_iff.mpr (.inr ⟨half.memory, half.asked, missing, rfl⟩)
  exact ⟨cause, _, misled_of_headers failed half.asked rfl⟩

theorem Misled.not_restores (misled : Misled tree settings cause after)
    (asked : settings.common.rateKind = .cdf) : ¬ Restores tree settings := by
  intro restores
  have same := (restores cause after misled.failed).1
  have kept : after.common.rateKind = .cdf := same ▸ asked
  rw [misled.changed] at kept
  cases kept

/-- Only a load of the times leaves settings that mislead. -/
theorem Misled.halfLoaded (misled : Misled tree settings cause after) :
    HalfLoaded tree settings := by
  rcases emulation_eq_error_iff.mp misled.failed with ⟨-, same⟩ | ⟨memory, asked, missing, -⟩
  · -- With the rate of headers the settings would not be refused as they were.
    have known : settings.common.rateKind ≠ .cdf := by
      rw [← same, misled.changed]
      exact nofun
    rcases ofSettings_cases (fun _ => none) known with
      ⟨cause, -, other⟩ | ⟨url?, setup, log, -, other⟩
    · cases (misled.refused _).symm.trans other
    · cases (misled.refused _).symm.trans other
  · exact ⟨asked, memory, cause, missing⟩

theorem restores_of_not_halfLoaded (whole : ¬ HalfLoaded tree settings) :
    Restores tree settings := by
  intro cause after failed
  rcases emulation_eq_error_iff.mp failed with ⟨-, rfl⟩ | ⟨memory, asked, missing, -⟩
  · exact ⟨rfl, fun _ => rfl⟩
  · exact absurd ⟨asked, memory, cause, missing⟩ whole

/-- On every machine and with all settings, an emulation that does not load leaves the settings as they
were if and only if it does not fail between its sizes and its times. Where it does, the settings ask
for the rates of headers from then on, and the common setup takes them, which it refuses as they were.
The service itself goes no further, whichever load failed. -/
theorem emulation_restores_iff (machine : Machine) (settings : Settings) :
    (Restores machine.tree settings ↔ ¬ HalfLoaded machine.tree settings) ∧
    (HalfLoaded machine.tree settings ↔
      ∃ cause after, Misled machine.tree settings cause after) ∧
    (∀ cause after, emulation machine.tree settings = (.error cause, after) →
      Service.emulation.setUp machine settings = (.error (.trace cause), [])) := by
  refine ⟨⟨?_, restores_of_not_halfLoaded⟩, ⟨HalfLoaded.exists_misled, ?_⟩, ?_⟩
  · intro restores half
    obtain ⟨cause, after, misled⟩ := half.exists_misled
    exact misled.not_restores half.asked restores
  · rintro ⟨cause, after, misled⟩
    exact misled.halfLoaded
  · intro cause after failed
    simp only [Service.setUp, failed]

/-- A machine with sizes and without times. -/
def sizesMachine : Machine :=
  { Service.bareMachine with
    tree := ⟨[(["sizes"], .file (Text.encode "40,1\n".toList) false)], []⟩ }

/-- Settings that ask for rates of a distribution. -/
def untimedSettings : Settings where
  common := { rateKind := .cdf }
  emulation := { memoryPath := "sizes", durationPath := "times" }

/-- Without its times the emulation does not load, and the common setup, which refuses the settings as
they were, takes those that are left with the rates of headers. -/
theorem missing_times_mislead : ∃ cause after setup,
    emulation sizesMachine.tree untimedSettings = (.error cause, after) ∧
      after.common.rateKind = .header ∧
      (ofSettings sizesMachine.way? untimedSettings.common).1 =
        .error (.unsupportedRates .cdf) ∧
      (ofSettings sizesMachine.way? after.common).1 = .ok setup ∧ setup.rates = .headers ∧
      ¬ Restores sizesMachine.tree untimedSettings := by
  have sizes : ∃ memory, Distribution.load sizesMachine.tree "sizes" = .ok memory :=
    exists_of_isOk (by decide +kernel)
  have times : ∃ cause, Distribution.load sizesMachine.tree "times" = .error cause :=
    ⟨_, rfl⟩
  have half : HalfLoaded sizesMachine.tree untimedSettings := ⟨rfl, sizes, times⟩
  obtain ⟨cause, after, misled⟩ := half.exists_misled
  have spoilt := misled.not_restores half.asked
  obtain rfl := misled.changed
  rcases misled.accepted sizesMachine.way? with
    ⟨_, refused, -⟩ | ⟨_, setup, _, -, accepted, headers⟩
  · cases refused
  · refine ⟨cause, _, setup, misled.failed, rfl, ?_, ?_, headers, spoilt⟩
    · rw [misled.refused]
    · rw [accepted]

end LoadProbe.Setup
