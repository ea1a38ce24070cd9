import LoadProbe.Proofs.Arithmetic.Steps

/-!
The loop that keeps a time budget, turn by turn: a check, then a chunk whose steps are counted. Main
statements: `sustain_eq_ok_iff` and `sustain_eq_error_iff`, counting the turns first comes to the same
as taking them.
-/
namespace LoadProbe.Arithmetic

section Steps

variable {a b : Int64}

theorem run_zero (a b : Int64) : run a b 0 = .ok ⟨0, .zero false⟩ := rfl

/-- Chunks end on a quotient, since the four operations take turns in whole chunks. -/
theorem run_chunks (first : Drawn a) (second : Drawn b) (chunks : Nat) :
    run a b ((chunks + 1) * chunk) =
      .ok ⟨(chunks + 1) * chunk, .ofInt a.toInt / .ofInt b.toInt⟩ := by
  have unit : chunk = 25000 := rfl
  have steps : (chunks + 1) * chunk = 4 * (6250 * chunks + 6249) + 3 + 1 := by
    rw [unit]
    omega
  rw [run_of_fits (fits_drawn first second _), lastOf_quotient (by omega) (by omega)]

end Steps

section Checks

variable {elapsed : Nat → Nat} {budget : Nat}

/-- The chunks are counted up to the first check that finds the budget spent. -/
theorem chunksWithin_eq_find? (done room : Nat) :
    chunksWithin elapsed budget done room =
      (List.range' done (room + 1)).find? fun check => budget ≤ elapsed check := by
  induction room generalizing done with
  | zero =>
    rw [chunksWithin, Nat.zero_add, List.range'_one, List.find?_singleton]
    simp only [decide_eq_true_eq]
  | succ room ih =>
    rw [chunksWithin, List.range'_succ, List.find?_cons, ih]
    by_cases spent : budget ≤ elapsed done
    · rw [if_pos spent, decide_eq_true spent]
    · rw [if_neg spent, decide_eq_false spent]

theorem chunksWithin_eq_some_iff {done room chunks : Nat} :
    chunksWithin elapsed budget done room = some chunks ↔
      done ≤ chunks ∧ chunks ≤ done + room ∧ budget ≤ elapsed chunks ∧
        ∀ check, done ≤ check → check < chunks → elapsed check < budget := by
  rw [chunksWithin_eq_find?, List.find?_range'_eq_some]
  simp only [List.mem_range'_1, decide_eq_true_eq, Bool.not_eq_true', decide_eq_false_iff_not,
    Nat.not_le, ← Nat.add_assoc, Nat.lt_add_one_iff]
  exact ⟨fun ⟨spent, ⟨least, most⟩, before⟩ => ⟨least, most, spent, before⟩,
    fun ⟨least, most, spent, before⟩ => ⟨spent, ⟨least, most⟩, before⟩⟩

theorem chunksWithin_eq_none_iff {done room : Nat} :
    chunksWithin elapsed budget done room = none ↔
      ∀ check, done ≤ check → check ≤ done + room → elapsed check < budget := by
  rw [chunksWithin_eq_find?, List.find?_range'_eq_none]
  simp only [Bool.not_eq_true', decide_eq_false_iff_not, Nat.not_le, ← Nat.add_assoc,
    Nat.lt_add_one_iff]

end Checks

/-- The loop as it goes: how many chunks it has done and what they come to. A chunk is done behind a
check that finds time left, and its steps have to fit the counter. The loop starts at the first
reading, and each check takes the next one. -/
inductive Loop (a b : Int64) (readings : Nat → Nat) (budget : Nat) : Nat → Outcome → Prop where
  | start : Loop a b readings budget 0 ⟨0, .zero false⟩
  | turn {done : Nat} {total part : Outcome} (before : Loop a b readings budget done total)
      (time : readings (done + 1) - readings 0 < budget) (worked : run a b chunk = .ok part)
      (fits : total.iterations + part.iterations < UInt64.size) :
      Loop a b readings budget (done + 1) ⟨total.iterations + part.iterations, part.last⟩

section Loop

variable {a b : Int64} {readings : Nat → Nat} {budget done : Nat} {total : Outcome}

/-- Every chunk begins while there is time left. -/
theorem Loop.begins (loop : Loop a b readings budget done total) :
    ∀ check < done, readings (check + 1) - readings 0 < budget := by
  induction loop with
  | start => exact fun check less => absurd less (Nat.not_lt_zero check)
  | @turn done total part before time worked fits ih =>
    intro check less
    by_cases last : check = done
    · subst last
      exact time
    · exact ih check (by omega)

/-- The turns of the loop come to one uninterrupted run of all their steps. -/
theorem Loop.run_eq (first : Drawn a) (second : Drawn b) (loop : Loop a b readings budget done total) :
    run a b (done * chunk) = .ok total ∧ total.iterations = done * chunk := by
  induction loop with
  | start => exact ⟨by rw [Nat.zero_mul, run_zero], (Nat.zero_mul chunk).symm⟩
  | @turn done total part before time worked fits ih =>
    have single := run_chunks first second 0
    rw [Nat.zero_add, Nat.one_mul, worked] at single
    obtain rfl := Except.ok.inj single
    have steps : total.iterations + chunk = (done + 1) * chunk := by
      rw [ih.2, Nat.succ_mul]
    simp only [steps, and_true]
    exact run_chunks first second done

theorem Loop.done_le (first : Drawn a) (second : Drawn b) (loop : Loop a b readings budget done total) :
    done ≤ chunkRoom := by
  have fits : total.iterations ≤ UInt64.size - 1 := by
    cases loop with
    | start => exact Nat.zero_le _
    | turn before time worked fits => exact Nat.le_sub_one_of_lt fits
  rw [(loop.run_eq first second).2] at fits
  exact (Nat.le_div_iff_mul_le (by decide)).mpr fits

/-- As long as the checks find time left and the counter has room, the loop goes on. -/
theorem exists_loop (first : Drawn a) (second : Drawn b) (room : done ≤ chunkRoom)
    (before : ∀ check < done, readings (check + 1) - readings 0 < budget) :
    ∃ total, Loop a b readings budget done total := by
  induction done with
  | zero => exact ⟨_, .start⟩
  | succ done ih =>
    obtain ⟨total, loop⟩ := ih (by omega) fun check less => before check (by omega)
    have worked := run_chunks first second 0
    rw [Nat.zero_add, Nat.one_mul] at worked
    have most : (done + 1) * chunk ≤ UInt64.size - 1 := (Nat.le_div_iff_mul_le (by decide)).mp room
    have size : 0 < UInt64.size := by decide
    have fits : total.iterations + chunk < UInt64.size := by
      rw [(loop.run_eq first second).2, ← Nat.succ_mul]
      exact Nat.lt_of_le_of_lt most (Nat.sub_lt size Nat.one_pos)
    exact ⟨_, .turn loop (before done (Nat.lt_succ_self done)) worked fits⟩

/-- The work ends well where the loop gets to a check that finds the budget spent. -/
theorem sustain_eq_ok_iff (first : Drawn a) (second : Drawn b) {outcome : Outcome} :
    sustain a b readings budget = .ok outcome ↔
      ∃ done, Loop a b readings budget done outcome ∧ budget ≤ readings (done + 1) - readings 0 := by
  rw [sustain]
  constructor
  · intro ended
    split at ended
    · cases ended
    · next chunks counted =>
      obtain ⟨-, most, spent, before⟩ := chunksWithin_eq_some_iff.mp counted
      obtain ⟨total, loop⟩ := exists_loop first second (by omega)
        fun check less => before check (Nat.zero_le _) less
      rw [(loop.run_eq first second).1] at ended
      obtain rfl := Except.ok.inj ended
      exact ⟨chunks, loop, spent⟩
  · intro ended
    obtain ⟨done, loop, spent⟩ := ended
    have room := loop.done_le first second
    have counted : chunksWithin (fun done => readings (done + 1) - readings 0) budget 0 chunkRoom =
        some done :=
      chunksWithin_eq_some_iff.mpr
        ⟨Nat.zero_le done, by omega, spent, fun check _ less => loop.begins check less⟩
    rw [counted]
    exact (loop.run_eq first second).1

/-- The work fails only where the counter of steps is full and there is still time left. -/
theorem sustain_eq_error_iff (first : Drawn a) (second : Drawn b) {overflow : Overflow} :
    sustain a b readings budget = .error overflow ↔
      overflow = .adding ∧ (∃ total, Loop a b readings budget chunkRoom total) ∧
        readings (chunkRoom + 1) - readings 0 < budget := by
  rw [sustain]
  constructor
  · intro failed
    split at failed
    · next counted =>
      have before := chunksWithin_eq_none_iff.mp counted
      have loop : ∃ total, Loop a b readings budget chunkRoom total :=
        exists_loop first second (Nat.le_refl chunkRoom)
          fun check less => before check (Nat.zero_le _) (by omega)
      exact ⟨(Except.error.inj failed).symm, loop, before chunkRoom (Nat.zero_le _) (by omega)⟩
    · next chunks counted =>
      obtain ⟨-, most, -, before⟩ := chunksWithin_eq_some_iff.mp counted
      obtain ⟨total, loop⟩ : ∃ total, Loop a b readings budget chunks total :=
        exists_loop first second (by omega) fun check less => before check (Nat.zero_le _) less
      rw [(loop.run_eq first second).1] at failed
      cases failed
  · intro failed
    obtain ⟨rfl, ⟨total, loop⟩, time⟩ := failed
    have counted : chunksWithin (fun done => readings (done + 1) - readings 0) budget 0 chunkRoom =
        none := by
      apply chunksWithin_eq_none_iff.mpr
      intro check _ most
      by_cases last : check = chunkRoom
      · rw [last]
        exact time
      · exact loop.begins check (by omega)
    rw [counted]

end Loop

end LoadProbe.Arithmetic
