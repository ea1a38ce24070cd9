import LoadProbe.Proofs.Binary64.Written

/-!
Binary64 numbers as whole numbers. Rounding a finite number to a whole one is exact, since the whole
ones are either few or all that there are. Main statement: `countsAs_round`.
-/
namespace LoadProbe.Binary64

/-- What a number counts as between two bounds: nothing if it is no number, else the nearest whole
number, of which a half goes away from zero, or the bound that it is beyond. -/
structure CountsAs (low high : Int) (number : Binary64) (count : Int) : Prop where
  nan : number = .nan → count = 0
  infinite (negative : Bool) : number = .infinite negative → count = if negative then low else high
  finite (negative : Bool) (units : Nat) (fits : units < limit ∧ Aligned units) :
    number = .finite negative units fits →
    ∃ whole, 2 * whole * one ≤ 2 * units + one ∧ 2 * units < (2 * whole + 1) * one ∧
      count = Max.max low (Min.min high (signed negative whole))

theorem mul_shiftLeft (n exponent : Nat) : n * (1 <<< exponent) = n <<< exponent := by
  rw [Nat.one_shiftLeft, Nat.shiftLeft_eq]

theorem one_pos : 0 < one := by decide +kernel

/-- A spacing of at least that of `2^exponent` is a multiple of it. -/
theorem shiftLeft_dvd_spacing {units exponent : Nat} (large : 1 <<< (exponent + 52) ≤ units) :
    1 <<< exponent ∣ spacing units := by
  rw [Nat.one_shiftLeft] at large
  have positive : units ≠ 0 := Nat.ne_of_gt (Nat.lt_of_lt_of_le (Nat.two_pow_pos _) large)
  have top := (Nat.le_log2 positive).mpr large
  rw [spacing, Nat.one_shiftLeft, Nat.one_shiftLeft]
  exact Nat.pow_dvd_pow 2 (by omega)

/-- Beyond `2^52` all numbers are whole. -/
theorem one_dvd {units : Nat} (aligned : Aligned units) (large : (1 <<< 52) * one ≤ units) :
    one ∣ units := by
  have top : (1 <<< 52) * one = 1 <<< (1074 + 52) := by decide +kernel
  rw [top] at large
  exact Nat.dvd_trans (shiftLeft_dvd_spacing large) aligned

/-- The nearest whole number of ones, a half counted up, in units. -/
def roundUnits (units : Nat) : Nat := (units + one / 2) / one * one

theorem roundUnits_mul (whole : Nat) : roundUnits (one * whole) = one * whole := by
  have half : one / 2 < one := Nat.div_lt_self one_pos (by decide)
  rw [roundUnits, Nat.mul_add_div one_pos, Nat.div_eq_of_lt half, Nat.add_zero, Nat.mul_comm]

/-- What is rounded to a whole number needs no other rounding. -/
theorem fits_roundUnits {units : Nat} (fits : units < limit ∧ Aligned units) :
    roundUnits units < limit ∧ Aligned (roundUnits units) := by
  rcases Nat.lt_or_ge units ((1 <<< 52) * one) with small | large
  · have few : (units + one / 2) / one ≤ 1 <<< 52 := by
      have half : one / 2 < one := Nat.div_lt_self one_pos (by decide)
      rw [← Nat.lt_succ_iff, Nat.div_lt_iff_lt_mul one_pos, Nat.succ_mul]
      exact Nat.add_lt_add small half
    have room : (1 <<< 52) * one < limit := by decide +kernel
    refine ⟨Nat.lt_of_le_of_lt (Nat.mul_le_mul_right one few) room, ?_⟩
    rw [roundUnits, show one = 1 <<< 1074 from rfl, mul_shiftLeft]
    exact aligned_shiftLeft 1074 (Nat.le_trans few (by decide))
  · obtain ⟨whole, rfl⟩ := one_dvd fits.2 large
    rwa [roundUnits_mul]

theorem round_finite {negative : Bool} {units : Nat} (fits : units < limit ∧ Aligned units) :
    (finite negative units fits).round =
      .finite negative (roundUnits units) (fits_roundUnits fits) := by
  rw [round, ofQuotient_eq_withSign]
  exact congrArg (withSign negative) (ofQuotient_one (fits_roundUnits fits))

theorem toIntWithin_bounds {low high : Int} (below : low ≤ 0) (above : 0 ≤ high)
    (number : Binary64) :
    low ≤ number.toIntWithin low high ∧ number.toIntWithin low high ≤ high := by
  cases number with
  | nan => exact ⟨below, above⟩
  | infinite negative => cases negative <;> simp [toIntWithin] <;> omega
  | finite negative units fits =>
    rw [toIntWithin]
    omega

theorem place?_ofInt_one : (ofInt 1).place? = some (one : Int) := by decide +kernel

/-- A number that is at least one counts as one or more, wherever the upper bound is. -/
theorem one_le_toIntWithin {low high : Int} {number : Binary64} (room : 1 ≤ high)
    (large : (ofInt 1).le number = true) : 1 ≤ number.toIntWithin low high := by
  obtain ⟨unit, place, isOne, stands, above⟩ := le_iff.mp large
  obtain rfl : (one : Int) = unit := Option.some.inj (place?_ofInt_one.symm.trans isOne)
  have positive := one_pos
  cases number with
  | nan => cases stands
  | infinite negative =>
    cases negative with
    | true =>
      obtain rfl : -(limit : Int) = place := Option.some.inj stands
      omega
    | false => exact room
  | finite negative units fits =>
    cases negative with
    | true =>
      obtain rfl : -(units : Int) = place := Option.some.inj stands
      omega
    | false =>
      obtain rfl : (units : Int) = place := Option.some.inj stands
      have some : 1 ≤ units / one := (Nat.one_le_div_iff one_pos).mpr (Int.ofNat_le.mp above)
      simp only [toIntWithin, signed, Bool.false_eq_true, if_false]
      omega

/-- Rounding before counting is what makes the count the nearest whole number. -/
theorem countsAs_round (low high : Int) (number : Binary64) :
    CountsAs low high number (number.round.toIntWithin low high) := by
  cases number with
  | nan => exact ⟨fun _ => rfl, by simp, by simp⟩
  | infinite negative =>
    refine ⟨by simp, fun other same => ?_, by simp⟩
    obtain rfl : negative = other := by simpa using same
    rfl
  | finite negative units fits =>
    refine ⟨by simp, by simp, fun other others _ same => ?_⟩
    obtain ⟨rfl, rfl⟩ : negative = other ∧ units = others := by simpa using same
    have halves : one / 2 * 2 = one := by decide +kernel
    refine ⟨(units + one / 2) / one, ?_, ?_, ?_⟩
    · have below := Nat.div_mul_le_self (units + one / 2) one
      rw [Nat.mul_assoc]
      omega
    · have above := Nat.lt_div_mul_add one_pos (a := units + one / 2)
      rw [Nat.add_mul, Nat.mul_assoc]
      omega
    · rw [round_finite, toIntWithin, roundUnits, Nat.mul_div_cancel _ one_pos]

end LoadProbe.Binary64
