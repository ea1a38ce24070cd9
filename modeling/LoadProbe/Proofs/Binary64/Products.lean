import LoadProbe.Proofs.Binary64.Order

/-!
Products of binary64 numbers. A product stands where the exact product is rounded to, so that a factor
that is not negative keeps the order of what it multiplies. Main statement: `mul_le_mul_right`.
-/
namespace LoadProbe.Binary64

theorem signed_mul_signed (left right : Bool) (a b : Nat) :
    signed (left != right) (a * b) = signed left a * signed right b := by
  cases right with
  | false =>
    rw [Bool.bne_false]
    exact signed_mul left a b
  | true =>
    have turned : signed (!left) a = -signed left a := by cases left <;> simp [signed]
    rw [Bool.bne_true, signed_mul, turned]
    exact Int.neg_mul_comm _ _

theorem mul_comm (left right : Binary64) : left * right = right * left := by
  change mul left right = mul right left
  cases left with
  | nan => cases right <;> rfl
  | infinite leftSign | finite leftSign =>
    cases right with
    | nan => rfl
    | infinite rightSign | finite rightSign => simp only [mul, bne_comm, Nat.mul_comm]

/-- A product of finite numbers stands where the exact product is rounded to. -/
theorem place?_mul {left right : Binary64} {a b : Int} (leftFinite : left.isFinite = true)
    (rightFinite : right.isFinite = true) (leftPlace : left.place? = some a)
    (rightPlace : right.place? = some b) :
    (left * right).place? = some (roundedPlace (a * b) one) := by
  cases left with
  | nan | infinite => cases leftFinite
  | finite leftSign leftUnits leftFits =>
    cases right with
    | nan | infinite => cases rightFinite
    | finite rightSign rightUnits rightFits =>
      obtain rfl : signed leftSign leftUnits = a := Option.some.inj leftPlace
      obtain rfl : signed rightSign rightUnits = b := Option.some.inj rightPlace
      rw [← signed_mul_signed]
      exact place?_ofQuotient _ _ _

/-- A product grows with its first factor, unless the second one is negative. -/
theorem mul_le_mul_right {a b factor : Binary64} (aFinite : a.isFinite = true)
    (bFinite : b.isFinite = true) (factorFinite : factor.isFinite = true)
    (nonnegative : (zero false).le factor = true) (le : a.le b = true) :
    (a * factor).le (b * factor) = true := by
  obtain ⟨placeA, placeB, atA, atB, order⟩ := le_iff.mp le
  obtain ⟨place, stands, above⟩ := zero_le_iff.mp nonnegative
  exact le_iff.mpr ⟨_, _, place?_mul aFinite factorFinite atA stands,
    place?_mul bFinite factorFinite atB stands,
    roundedPlace_mono one (Int.mul_le_mul_of_nonneg_right order above)⟩

theorem zero_le_mul {number factor : Binary64} (finite : number.isFinite = true)
    (factorFinite : factor.isFinite = true) (first : (zero false).le number = true)
    (second : (zero false).le factor = true) : (zero false).le (number * factor) = true := by
  obtain ⟨place, stands, above⟩ := zero_le_iff.mp first
  obtain ⟨scale, factorPlace, positive⟩ := zero_le_iff.mp second
  have product := place?_mul finite factorFinite stands factorPlace
  refine zero_le_iff.mpr ⟨_, product, ?_⟩
  calc 0 = roundedPlace 0 one := (roundedPlace_zero one).symm
    _ ≤ roundedPlace (place * scale) one := roundedPlace_mono one (Int.mul_nonneg above positive)

end LoadProbe.Binary64
