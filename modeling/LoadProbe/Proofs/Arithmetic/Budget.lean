import LoadProbe.Proofs.Arithmetic.Loop

/-!
Where the loop of a time budget ends. The first check that finds the budget spent decides how many
chunks there were, and these come to one run of the cycle; more of them than the counter of steps
has room for make the loop fail. Main statement: `sustain_decided`.
-/
namespace LoadProbe.Arithmetic

/-- A check, counted from one, is the first that finds the budget spent. -/
structure FirstSpent (readings : Nat → Nat) (budget check : Nat) : Prop where
  counted : 1 ≤ check
  spent : budget ≤ readings check - readings 0
  before : ∀ earlier, 1 ≤ earlier → earlier < check → readings earlier - readings 0 < budget

/-- The loop goes on for as long as the counter of steps has room, finds time left, and fails in
adding the steps of one chunk more. -/
structure CounterFull (a b : Int64) (readings : Nat → Nat) (budget : Nat) : Prop where
  fails : sustain a b readings budget = .error .adding
  counts : ∃ total part, Loop a b readings budget chunkRoom total ∧
    readings (chunkRoom + 1) - readings 0 < budget ∧ run a b chunk = .ok part ∧
    UInt64.size ≤ total.iterations + part.iterations

/-- The counter has room for the chunks whose steps it can count. -/
theorem le_chunkRoom_iff {chunks : Nat} : chunks ≤ chunkRoom ↔ 25000 * chunks < UInt64.size := by
  have size : 0 < UInt64.size := by decide
  rw [chunkRoom, Nat.le_div_iff_mul_le (by decide), chunk]
  omega

/-- On a clock that goes on by the same time with every reading, the check that ends the loop is
known in advance. -/
theorem firstSpent_ticking {readings : Nat → Nat} {origin tick : Nat} (positive : 0 < tick)
    (ticks : ∀ n, readings n = origin + n * tick) (budget : Nat) :
    FirstSpent readings budget (max 1 ((budget + tick - 1) / tick)) := by
  have passed (n : Nat) : readings n - readings 0 = n * tick := by
    rw [ticks, ticks, Nat.zero_mul, Nat.add_zero, Nat.add_sub_cancel_left]
  refine ⟨Nat.le_max_left _ _, ?_, ?_⟩
  · have rounded := Nat.lt_div_mul_add positive (a := budget + tick - 1)
    have most : (budget + tick - 1) / tick * tick ≤ max 1 ((budget + tick - 1) / tick) * tick :=
      Nat.mul_le_mul_right tick (Nat.le_max_right _ _)
    rw [passed]
    omega
  · intro earlier counted less
    have within : earlier + 1 ≤ (budget + tick - 1) / tick := by omega
    rw [Nat.le_div_iff_mul_le positive, Nat.succ_mul] at within
    rw [passed]
    omega

section Ending

variable {a b : Int64} (first : Drawn a) (second : Drawn b) {readings : Nat → Nat} {budget : Nat}
include first second

/-- The chunks in front of the first check that finds the budget spent make one run. -/
theorem FirstSpent.sustain_eq {check : Nat} (deciding : FirstSpent readings budget check)
    (room : 25000 * (check - 1) < UInt64.size) :
    ∃ outcome, Loop a b readings budget (check - 1) outcome ∧
      outcome.iterations = 25000 * (check - 1) ∧ sustain a b readings budget = .ok outcome ∧
      run a b (25000 * (check - 1)) = .ok outcome ∧
      stepwise a b 0 (.zero false) (25000 * (check - 1)) = .ok outcome.last := by
  obtain ⟨counted, spent, before⟩ := deciding
  obtain ⟨outcome, loop⟩ := exists_loop first second (le_chunkRoom_iff.mpr room)
    fun turn less => before (turn + 1) (by omega) (by omega)
  obtain ⟨whole, steps⟩ := loop.run_eq first second
  rw [Nat.mul_comm, chunk] at whole steps
  have ended : budget ≤ readings (check - 1 + 1) - readings 0 := by
    rwa [Nat.sub_add_cancel counted]
  have fits := fits_drawn first second (25000 * (check - 1))
  have last : lastOf a b (25000 * (check - 1)) = outcome.last :=
    congrArg Outcome.last (Except.ok.inj ((run_of_fits fits).symm.trans whole))
  exact ⟨outcome, loop, steps, (sustain_eq_ok_iff first second).mpr ⟨_, loop, ended⟩, whole,
    last ▸ stepwise_of_fits fits⟩

/-- Time left at every check that the counter has room for is too much time. -/
theorem counterFull (left : ∀ check, 1 ≤ check → check ≤ chunkRoom + 1 →
    readings check - readings 0 < budget) : CounterFull a b readings budget := by
  obtain ⟨total, loop⟩ := exists_loop first second (Nat.le_refl chunkRoom)
    fun turn less => left (turn + 1) (by omega) (by omega)
  have last := left (chunkRoom + 1) (by omega) (Nat.le_refl _)
  have worked := run_chunks first second 0
  rw [Nat.zero_add, Nat.one_mul] at worked
  have full : UInt64.size ≤ total.iterations + chunk := by
    rw [(loop.run_eq first second).2]
    decide
  exact ⟨(sustain_eq_error_iff first second).mpr ⟨rfl, ⟨total, loop⟩, last⟩,
    total, _, loop, last, worked, full⟩

/-- The turns of the loop are bounded, whatever the readings and the budget are. -/
theorem exists_last_turn (readings : Nat → Nat) (budget : Nat) :
    ∃ done total, Loop a b readings budget done total ∧
      ∀ later other, Loop a b readings budget later other → later ≤ done := by
  cases ended : sustain a b readings budget with
  | ok outcome =>
    obtain ⟨done, loop, spent⟩ := (sustain_eq_ok_iff first second).mp ended
    refine ⟨done, outcome, loop, fun later other longer => ?_⟩
    rcases Nat.lt_or_ge done later with beyond | within
    · have time := longer.begins done beyond
      omega
    · exact within
  | error overflow =>
    obtain ⟨-, ⟨total, loop⟩, -⟩ := (sustain_eq_error_iff first second).mp ended
    exact ⟨chunkRoom, total, loop, fun later other longer => longer.done_le first second⟩

/-- However the readings of the clock go on, the loop of a budget does the chunks in front of the
first check that finds the budget spent, and they come to one uninterrupted run of all their steps,
taken one by one. Where there is no such check, or the steps in front of it do not fit the counter,
the loop fails in counting them; so it always ends. On a clock that ticks evenly the deciding check
is the budget in ticks, rounded up, but never less than the first one, and without a budget there is
no step. -/
theorem sustain_decided (readings : Nat → Nat) (budget : Nat) :
    (∀ check, FirstSpent readings budget check →
      (25000 * (check - 1) < UInt64.size →
        ∃ outcome, Loop a b readings budget (check - 1) outcome ∧
          outcome.iterations = 25000 * (check - 1) ∧ sustain a b readings budget = .ok outcome ∧
          run a b (25000 * (check - 1)) = .ok outcome ∧
          stepwise a b 0 (.zero false) (25000 * (check - 1)) = .ok outcome.last) ∧
      (UInt64.size ≤ 25000 * (check - 1) → CounterFull a b readings budget)) ∧
    ((∀ check, 1 ≤ check → readings check - readings 0 < budget) →
      CounterFull a b readings budget) ∧
    (∀ origin tick, 0 < tick → (∀ n, readings n = origin + n * tick) →
      FirstSpent readings budget (max 1 ((budget + tick - 1) / tick))) ∧
    (budget = 0 → sustain a b readings budget = .ok ⟨0, .zero false⟩) ∧
    ∃ done total, Loop a b readings budget done total ∧
      ∀ later other, Loop a b readings budget later other → later ≤ done := by
  refine ⟨fun check deciding => ⟨deciding.sustain_eq first second, fun many => ?_⟩, fun left => ?_,
    fun origin tick positive ticks => firstSpent_ticking positive ticks budget, ?_,
    exists_last_turn first second readings budget⟩
  · have beyond : ¬ check - 1 ≤ chunkRoom := fun within =>
      Nat.not_lt_of_le many (le_chunkRoom_iff.mp within)
    exact counterFull first second fun turn counted less => deciding.before turn counted (by omega)
  · exact counterFull first second fun check counted _ => left check counted
  · rintro rfl
    exact (sustain_eq_ok_iff first second).mpr ⟨0, .start, Nat.zero_le _⟩

end Ending

/-- Seven nanoseconds on a clock that goes on by three: the third check finds them spent, after two
chunks. -/
theorem sustain_decided_ticking :
    Drawn 20 ∧ Drawn 10 ∧ FirstSpent (fun n => 5 + n * 3) 7 3 ∧
    ∃ outcome, outcome.iterations = 50000 ∧ sustain 20 10 (fun n => 5 + n * 3) 7 = .ok outcome ∧
      run 20 10 50000 = .ok outcome := by
  have first : Drawn 20 := ⟨by decide, by decide⟩
  have second : Drawn 10 := ⟨by decide, by decide⟩
  obtain ⟨ends, -, ticks, -⟩ := sustain_decided first second (fun n => 5 + n * 3) 7
  have third : FirstSpent (fun n => 5 + n * 3) 7 3 := ticks 5 3 (by decide) fun _ => rfl
  obtain ⟨outcome, -, steps, sustained, whole, -⟩ := (ends 3 third).1 (by decide)
  exact ⟨first, second, third, outcome, steps, sustained, whole⟩

end LoadProbe.Arithmetic
