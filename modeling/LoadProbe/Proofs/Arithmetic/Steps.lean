import LoadProbe.Arithmetic

/-!
Runs of the arithmetic cycle in closed form. A run fails at the first sum, difference or product
that it comes to and that is no 64-bit number; else its last step alone decides what is left of it.
Main statements: `stepwise_of_fits` and `stepwise_of_overflow` by induction on the steps, and
`run_decided`.
-/
namespace LoadProbe

/-- A number that is drawn is one of those it is drawn from. -/
theorem Draws.below_lt {count : Nat} (positive : 0 < count) (upcoming : List UInt64) :
    (below count upcoming).1 < count := by
  induction upcoming with
  | nil => exact positive
  | cons draw rest ih =>
    rw [below]
    split
    · have bound : draw.toNat < UInt64.size := draw.toNat_lt_size
      have less : draw.toNat * count < UInt64.size * count :=
        Nat.mul_lt_mul_of_pos_right bound positive
      exact Nat.div_lt_of_lt_mul less
    · exact ih

namespace Arithmetic

/-- Whether a number may have been drawn as an operand. -/
def Drawn (operand : Int64) : Prop := 10 ≤ operand.toInt ∧ operand.toInt ≤ 100

theorem drawn_ofNat {n : Nat} (small : n < 91) : Drawn (Int64.ofNat (10 + n)) := by
  have whole : (Int64.ofNat (10 + n)).toInt = (10 + n : Nat) := Int64.toInt_ofNat_of_lt (by omega)
  unfold Drawn
  omega

theorem drawn_operands (draws : Draws) :
    Drawn (operands draws).1.1 ∧ Drawn (operands draws).1.2 :=
  ⟨drawn_ofNat (Draws.below_lt (by decide) _), drawn_ofNat (Draws.below_lt (by decide) _)⟩

/-- A whole number that is none of 64 bits with a sign. -/
def Leaves (result : Int) : Prop :=
  result < Int64.minValue.toInt ∨ Int64.maxValue.toInt < result

instance (result : Int) : Decidable (Leaves result) :=
  inferInstanceAs (Decidable (_ ∨ _))

theorem whole_eq (overflow : Overflow) (result : Int) :
    whole overflow result = if Leaves result then .error overflow else .ok (.ofInt result) := by
  have least : Int64.minValue.toInt = -9223372036854775808 := by decide
  have most : Int64.maxValue.toInt = 9223372036854775807 := by decide
  have largest : (Numeral.largestSigned : Int) = 9223372036854775807 := by decide
  unfold whole
  by_cases leaves : Leaves result
  · rw [if_pos leaves]
    unfold Leaves at leaves
    exact if_neg (by omega)
  · rw [if_neg leaves]
    unfold Leaves at leaves
    exact if_pos (by omega)

/-- The step that an overflow can first come from. -/
def Overflow.turn : Overflow → Nat
  | .adding => 0
  | .subtracting => 1
  | .multiplying => 2

/-- The whole number that an overflow is about. -/
def Overflow.result (a b : Int64) : Overflow → Int
  | .adding => a.toInt + b.toInt
  | .subtracting => a.toInt - b.toInt
  | .multiplying => a.toInt * b.toInt

/-- No step of a run comes to a number that does not fit. -/
def Fits (a b : Int64) (iterations : Nat) : Prop :=
  ∀ overflow : Overflow, overflow.turn < iterations → ¬ Leaves (overflow.result a b)

/-- An overflow is the first one that a run comes to. -/
structure FirstOverflow (a b : Int64) (iterations : Nat) (overflow : Overflow) : Prop where
  reached : overflow.turn < iterations
  leaves : Leaves (overflow.result a b)
  before : Fits a b overflow.turn

/-- What a run that fits is left with: the result of its last step, zero without one. -/
def lastOf (a b : Int64) : (iterations : Nat) → Binary64
  | 0 => .zero false
  | step + 1 =>
    match step % 4 with
    | 0 => .ofInt (a.toInt + b.toInt)
    | 1 => .ofInt (a.toInt - b.toInt)
    | 2 => .ofInt (a.toInt * b.toInt)
    | _ => .ofInt a.toInt / .ofInt b.toInt

section Runs

variable {a b : Int64} {iterations : Nat} {overflow : Overflow}

theorem Fits.of_le {more : Nat} (fits : Fits a b more) (fewer : iterations ≤ more) :
    Fits a b iterations :=
  fun overflow reached => fits overflow (Nat.lt_of_lt_of_le reached fewer)

/-- A step yields what a run up to it is left with, if no number of that run is too large. -/
theorem apply_of_fits {step : Nat} (fits : Fits a b (step + 1)) :
    (Operation.atStep step).apply a b = .ok (lastOf a b (step + 1)) := by
  have turns : step % 4 = 0 ∨ step % 4 = 1 ∨ step % 4 = 2 ∨ step % 4 = 3 := by omega
  rcases turns with turn | turn | turn | turn
  · have sum : ¬ Leaves (a.toInt + b.toInt) := fits .adding (Nat.succ_pos step)
    simp only [Operation.atStep, lastOf, turn, Operation.apply, whole_eq, if_neg sum]
  · have difference : ¬ Leaves (a.toInt - b.toInt) :=
      fits .subtracting (by simp only [Overflow.turn]; omega)
    simp only [Operation.atStep, lastOf, turn, Operation.apply, whole_eq, if_neg difference]
  · have product : ¬ Leaves (a.toInt * b.toInt) :=
      fits .multiplying (by simp only [Overflow.turn]; omega)
    simp only [Operation.atStep, lastOf, turn, Operation.apply, whole_eq, if_neg product]
  · simp only [Operation.atStep, lastOf, turn, Operation.apply]

theorem apply_of_leaves (leaves : Leaves (overflow.result a b)) :
    (Operation.atStep overflow.turn).apply a b = .error overflow := by
  cases overflow with
  | adding => exact (whole_eq _ _).trans (if_pos leaves)
  | subtracting => exact (whole_eq _ _).trans (if_pos leaves)
  | multiplying => exact (whole_eq _ _).trans (if_pos leaves)

/-- One step more is taken after the others. -/
theorem stepwise_succ (step count : Nat) (last : Binary64) :
    stepwise a b step last (count + 1) =
      (stepwise a b step last count).bind fun _ => (Operation.atStep (step + count)).apply a b := by
  induction count generalizing step last with
  | zero =>
    cases applied : (Operation.atStep step).apply a b <;> simp [stepwise, applied, Except.bind]
  | succ count ih =>
    rw [stepwise]
    cases applied : (Operation.atStep step).apply a b with
    | error overflow => simp only [stepwise, applied, Except.bind]
    | ok result =>
      have once : stepwise a b step last (count + 1) = stepwise a b (step + 1) result count := by
        rw [stepwise, applied]
      simp only [once, ih, Nat.add_right_comm step 1 count, Nat.add_assoc]

/-- The induction follows the steps; the last one decides what is left of a run that fits. -/
theorem stepwise_of_fits (fits : Fits a b iterations) :
    stepwise a b 0 (.zero false) iterations = .ok (lastOf a b iterations) := by
  induction iterations with
  | zero => rfl
  | succ step ih =>
    rw [stepwise_succ, ih (fits.of_le (Nat.le_succ step)), Nat.zero_add]
    exact apply_of_fits fits

/-- A run fails where it comes to its first overflow, and stays so however long it is. -/
theorem stepwise_of_overflow (first : FirstOverflow a b iterations overflow) :
    stepwise a b 0 (.zero false) iterations = .error overflow := by
  induction iterations with
  | zero => exact absurd first.reached (Nat.not_lt_zero _)
  | succ step ih =>
    rw [stepwise_succ, Nat.zero_add]
    by_cases here : overflow.turn = step
    · rw [stepwise_of_fits (here ▸ first.before), ← here]
      exact apply_of_leaves first.leaves
    · have reached := first.reached
      rw [ih ⟨by omega, first.leaves, first.before⟩]
      rfl

/-- A run that does not fit has a first overflow. -/
theorem fits_or_overflow (a b : Int64) (iterations : Nat) :
    Fits a b iterations ∨ ∃ overflow, FirstOverflow a b iterations overflow := by
  induction iterations with
  | zero => exact .inl fun _ reached => absurd reached (Nat.not_lt_zero _)
  | succ step ih =>
    rcases ih with fits | ⟨overflow, first⟩
    · by_cases here : ∃ overflow : Overflow, overflow.turn = step ∧ Leaves (overflow.result a b)
      · obtain ⟨overflow, rfl, leaves⟩ := here
        exact .inr ⟨overflow, Nat.lt_succ_self _, leaves, fits⟩
      · refine .inl fun overflow reached leaves => ?_
        rcases Nat.lt_succ_iff_lt_or_eq.mp reached with earlier | same
        · exact fits overflow earlier leaves
        · exact here ⟨overflow, same, leaves⟩
    · exact .inr ⟨overflow, Nat.lt_succ_of_lt first.reached, first.leaves, first.before⟩

theorem FirstOverflow.not_fits (first : FirstOverflow a b iterations overflow) :
    ¬ Fits a b iterations :=
  fun fits => fits overflow first.reached first.leaves

/-- All that can fail does so within the first three steps. -/
theorem FirstOverflow.within (first : FirstOverflow a b iterations overflow) :
    FirstOverflow a b (min iterations 4) overflow := by
  have reached := first.reached
  have few : overflow.turn < 4 := by cases overflow <;> decide
  exact ⟨by omega, first.leaves, first.before⟩

theorem run_of_fits (fits : Fits a b iterations) :
    run a b iterations = .ok ⟨iterations, lastOf a b iterations⟩ := by
  rw [run, stepwise_of_fits (fits.of_le (Nat.min_le_left _ _))]
  cases iterations with
  | zero => rfl
  | succ step =>
    simp only [bind, Except.bind, if_neg (Nat.succ_ne_zero step), Nat.add_sub_cancel,
      apply_of_fits fits]
    rfl

theorem run_of_overflow (first : FirstOverflow a b iterations overflow) :
    run a b iterations = .error overflow := by
  rw [run, stepwise_of_overflow first.within]
  rfl

/-- Counting the steps and taking the last one by its number is the same as taking them all. -/
theorem run_eq_stepwise (a b : Int64) (iterations : Nat) :
    run a b iterations =
      (stepwise a b 0 (.zero false) iterations).map fun last => ⟨iterations, last⟩ := by
  rcases fits_or_overflow a b iterations with fits | ⟨overflow, first⟩
  · rw [run_of_fits fits, stepwise_of_fits fits]
    rfl
  · rw [run_of_overflow first, stepwise_of_overflow first]
    rfl

/-- Where a run has to fail, if a sum, a difference or a product leaves the 64-bit numbers: as soon
as it comes to one of them. -/
def Overflows (a b : Int64) (iterations : Nat) : Prop :=
  (1 ≤ iterations ∧ Leaves (a.toInt + b.toInt)) ∨ (2 ≤ iterations ∧ Leaves (a.toInt - b.toInt)) ∨
    (3 ≤ iterations ∧ Leaves (a.toInt * b.toInt))

theorem fits_iff : Fits a b iterations ↔ ¬ Overflows a b iterations := by
  constructor
  · rintro fits (⟨reached, leaves⟩ | ⟨reached, leaves⟩ | ⟨reached, leaves⟩)
    · exact fits .adding reached leaves
    · exact fits .subtracting reached leaves
    · exact fits .multiplying reached leaves
  · rintro none (_ | _ | _) reached leaves
    · exact none (.inl ⟨reached, leaves⟩)
    · exact none (.inr (.inl ⟨reached, leaves⟩))
    · exact none (.inr (.inr ⟨reached, leaves⟩))

theorem exists_run_error_iff :
    (∃ overflow, run a b iterations = .error overflow) ↔ Overflows a b iterations := by
  rcases fits_or_overflow a b iterations with fits | ⟨overflow, first⟩
  · have none := fits_iff.mp fits
    simp only [run_of_fits fits, reduceCtorEq, exists_false, none]
  · have some : Overflows a b iterations :=
      Classical.not_not.mp fun none => first.not_fits (fits_iff.mpr none)
    simp only [run_of_overflow first, Except.error.injEq, exists_eq', some]

end Runs

section Drawn

variable {a b : Int64}

/-- Drawn operands are far from the ends of the 64-bit numbers. -/
theorem fits_drawn (first : Drawn a) (second : Drawn b) (iterations : Nat) :
    Fits a b iterations := by
  obtain ⟨leastA, mostA⟩ := first
  obtain ⟨leastB, mostB⟩ := second
  have least : Int64.minValue.toInt = -9223372036854775808 := by decide
  have most : Int64.maxValue.toInt = 9223372036854775807 := by decide
  have low : 0 ≤ a.toInt * b.toInt := Int.mul_nonneg (by omega) (by omega)
  have high : a.toInt * b.toInt ≤ 100 * 100 := Int.mul_le_mul mostA mostB (by omega) (by omega)
  rintro (_ | _ | _) - leaves <;> simp only [Leaves, Overflow.result] at leaves <;> omega

theorem lastOf_quotient {iterations : Nat} (some : iterations ≠ 0)
    (turn : (iterations - 1) % 4 = 3) :
    lastOf a b iterations = .ofInt a.toInt / .ofInt b.toInt := by
  obtain ⟨step, rfl⟩ := Nat.exists_eq_succ_of_ne_zero some
  rw [Nat.succ_eq_add_one, Nat.add_sub_cancel] at turn
  simp only [lastOf, turn]

theorem lastOf_product {iterations : Nat} (some : iterations ≠ 0)
    (turn : (iterations - 1) % 4 = 2) :
    lastOf a b iterations = .ofInt (a.toInt * b.toInt) := by
  obtain ⟨step, rfl⟩ := Nat.exists_eq_succ_of_ne_zero some
  rw [Nat.succ_eq_add_one, Nat.add_sub_cancel] at turn
  simp only [lastOf, turn]

/-- What the work of a rate comes to: chunks end on a quotient, since the four operations take turns
in whole chunks, but the largest count of steps ends on a product. -/
structure WorkEnds (a b : Int64) (rate : UInt64) (outcome : Outcome) : Prop where
  iterations : outcome.iterations = min (25000 * rate.toNat) (UInt64.size - 1)
  quotient : 0 < 25000 * rate.toNat → 25000 * rate.toNat < UInt64.size →
    outcome.last = .ofInt a.toInt / .ofInt b.toInt
  product : UInt64.size ≤ 25000 * rate.toNat → outcome.last = .ofInt (a.toInt * b.toInt)

theorem exists_workEnds (first : Drawn a) (second : Drawn b) (rate : UInt64) :
    ∃ outcome, run a b (stepsOf rate) = .ok outcome ∧ WorkEnds a b rate outcome := by
  have size : UInt64.size = 18446744073709551616 := rfl
  have steps : stepsOf rate = min (25000 * rate.toNat) (UInt64.size - 1) := by
    rw [stepsOf, chunk, Nat.mul_comm]
  refine ⟨_, run_of_fits (fits_drawn first second _), steps, ?_, ?_⟩
  · intro some fewer
    exact lastOf_quotient (by omega) (by omega)
  · intro many
    exact lastOf_product (by omega) (by omega)

/-- The work of a rate is a run on two drawn operands. -/
theorem exists_work (rate : UInt64) (draws : Draws) :
    ∃ a b after, Drawn a ∧ Drawn b ∧ work rate draws = (run a b (stepsOf rate), after) :=
  ⟨_, _, _, (drawn_operands draws).1, (drawn_operands draws).2, rfl⟩

end Drawn

/-- On whatever operands, a run of any number of steps comes to what the steps come to one by one.
It fails just if it gets to a sum, a difference or a product that leaves the 64-bit numbers, and
else the last of its steps decides. On drawn operands the work of no rate fails: it takes the steps
of the rate, as many as 64 bits count, and ends on a quotient, unless that bound stops it at a
product. -/
theorem run_decided :
    (∀ (a b : Int64) (iterations : Nat),
      run a b iterations =
        (stepwise a b 0 (.zero false) iterations).map (fun last => ⟨iterations, last⟩) ∧
      ((∃ overflow, run a b iterations = .error overflow) ↔ Overflows a b iterations) ∧
      (¬ Overflows a b iterations → run a b iterations = .ok ⟨iterations, lastOf a b iterations⟩)) ∧
    ∀ rate : UInt64,
      (∀ a b, Drawn a → Drawn b →
        ∃ outcome, run a b (stepsOf rate) = .ok outcome ∧ WorkEnds a b rate outcome) ∧
      ∀ draws, ∃ a b after, Drawn a ∧ Drawn b ∧
        work rate draws = (run a b (stepsOf rate), after) := by
  refine ⟨fun a b iterations => ?_, fun rate => ⟨?_, exists_work rate⟩⟩
  · exact ⟨run_eq_stepwise a b iterations, exists_run_error_iff,
      fun none => run_of_fits (fits_iff.mpr none)⟩
  · exact fun a b first second => exists_workEnds first second rate

end Arithmetic
end LoadProbe
