/-!
Magnitudes of binary64 numbers, counted in units of the least positive one, `2^-1074`. Main
statements: what `nearest` and `below` yield has at most 53 significant bits.
-/
namespace LoadProbe.Binary64

/-- The distance from a magnitude to the next one above it. -/
def spacing (units : Nat) : Nat := 1 <<< (units.log2 - 52)

/-- A magnitude of at most 53 significant bits. -/
def Aligned (units : Nat) : Prop := spacing units ∣ units

instance (units : Nat) : Decidable (Aligned units) :=
  inferInstanceAs (Decidable (spacing units ∣ units))

/-- The whole number nearest to `num / den`; a tie goes to the even neighbour. -/
def roundDiv (num den : Nat) : Nat :=
  if 2 * (num % den) < den ∨ (2 * (num % den) = den ∧ num / den % 2 = 0) then num / den
  else num / den + 1

/-- The aligned magnitude nearest to `num / den` units; a tie goes to the even significand. -/
def nearest (num den : Nat) : Nat :=
  roundDiv num (den * spacing (num / den)) * spacing (num / den)

/-- The largest aligned magnitude below `units`. -/
def below (units : Nat) : Nat :=
  (units - 1) / spacing (units - 1) * spacing (units - 1)

theorem spacing_pos (units : Nat) : 0 < spacing units := by
  rw [spacing, Nat.one_shiftLeft]
  exact Nat.two_pow_pos _

theorem le_roundDiv (num den : Nat) : num / den ≤ roundDiv num den := by
  unfold roundDiv; split <;> omega

theorem roundDiv_le (num den : Nat) : roundDiv num den ≤ num / den + 1 := by
  unfold roundDiv; split <;> omega

/-- A significand of 53 bits, or the power of two above them, is aligned on its grid. -/
theorem aligned_shiftLeft {significand : Nat} (exponent : Nat) (small : significand ≤ 1 <<< 53) :
    Aligned (significand <<< exponent) := by
  unfold Aligned spacing
  simp only [Nat.shiftLeft_eq, Nat.one_mul] at *
  rcases Nat.eq_zero_or_pos significand with none | some
  · simp [none]
  have nonzero : significand * 2 ^ exponent ≠ 0 :=
    Nat.ne_of_gt (Nat.mul_pos some (Nat.two_pow_pos _))
  rcases Nat.lt_or_ge significand (2 ^ 53) with fits | top
  · refine Nat.dvd_trans (Nat.pow_dvd_pow 2 ?_) (Nat.dvd_mul_left _ _)
    have bound : (significand * 2 ^ exponent).log2 < 53 + exponent := by
      rw [Nat.log2_lt nonzero, Nat.pow_add]
      exact Nat.mul_lt_mul_of_pos_right fits (Nat.two_pow_pos _)
    omega
  · have exact53 : significand = 2 ^ 53 := Nat.le_antisymm small top
    subst exact53
    rw [← Nat.pow_add] at nonzero ⊢
    refine Nat.pow_dvd_pow 2 ?_
    have bound : (2 ^ (53 + exponent)).log2 < 53 + exponent + 1 := by
      rw [Nat.log2_lt nonzero]
      exact Nat.pow_lt_pow_right (by decide) (Nat.lt_succ_self _)
    omega

/-- A magnitude divided by its spacing has at most 53 bits, and all 53 unless it is small. -/
theorem div_spacing (units : Nat) :
    (units.log2 - 52 = 0 ∨ 1 <<< 52 ≤ units / spacing units) ∧
      units / spacing units < 1 <<< 53 := by
  unfold spacing
  simp only [Nat.shiftLeft_eq, Nat.one_mul]
  have upper : units < 2 ^ (units.log2 + 1) := Nat.lt_log2_self
  rcases Nat.lt_or_ge units.log2 53 with small | large
  · have none : units.log2 - 52 = 0 := by omega
    refine ⟨.inl none, ?_⟩
    rw [none, Nat.pow_zero, Nat.div_one]
    exact Nat.lt_of_lt_of_le upper (Nat.pow_le_pow_right (by decide) (by omega))
  · have split : units.log2 = 52 + (units.log2 - 52) := by omega
    have nonzero : units ≠ 0 := by rintro rfl; simp at large
    refine ⟨.inr ?_, ?_⟩
    · rw [Nat.le_div_iff_mul_le (Nat.two_pow_pos _), ← Nat.pow_add, ← split]
      exact Nat.log2_self_le nonzero
    · rw [Nat.div_lt_iff_lt_mul (Nat.two_pow_pos _), ← Nat.pow_add]
      exact Nat.lt_of_lt_of_le upper (Nat.pow_le_pow_right (by decide) (by omega))

theorem mul_spacing (significand units : Nat) :
    significand * spacing units = significand <<< (units.log2 - 52) := by
  simp [spacing, Nat.shiftLeft_eq]

theorem aligned_nearest (num den : Nat) : Aligned (nearest num den) := by
  have ⟨_, small⟩ := div_spacing (num / den)
  have upper := roundDiv_le num (den * spacing (num / den))
  rw [← Nat.div_div_eq_div_mul] at upper
  unfold nearest
  rw [mul_spacing]
  exact aligned_shiftLeft _ (by omega)

theorem aligned_below (units : Nat) : Aligned (below units) := by
  have ⟨_, small⟩ := div_spacing (units - 1)
  unfold below
  rw [mul_spacing]
  exact aligned_shiftLeft _ (by omega)

theorem below_lt {units : Nat} (positive : 0 < units) : below units < units := by
  have bound := Nat.div_mul_le_self (units - 1) (spacing (units - 1))
  unfold below
  omega

end LoadProbe.Binary64
