import LoadProbe.Binary64.Basic

/-!
The order of binary64 numbers. Rounding to nearest never swaps two magnitudes, so that differences
and quotients keep the order of their terms. Main statements: `sub_le_sub` and `div_le_div_right`.
-/
namespace LoadProbe.Binary64

theorem roundDiv_mono {a b : Nat} (den : Nat) (le : a ≤ b) : roundDiv a den ≤ roundDiv b den := by
  rcases Nat.lt_or_eq_of_le (Nat.div_le_div_right (c := den) le) with less | same
  · calc roundDiv a den ≤ a / den + 1 := roundDiv_le a den
      _ ≤ b / den := less
      _ ≤ roundDiv b den := le_roundDiv b den
  · have rest : a % den ≤ b % den := by
      have left := Nat.div_add_mod a den
      have right := Nat.div_add_mod b den
      rw [same] at left
      omega
    unfold roundDiv
    rw [same]
    split <;> split <;> omega

/-- The significand of a rounded magnitude has 53 bits, or is the power of two above them. -/
theorem nearest_le_shift (num den : Nat) :
    nearest num den ≤ (1 <<< 53) * spacing (num / den) := by
  have ⟨_, small⟩ := div_spacing (num / den)
  have upper := roundDiv_le num (den * spacing (num / den))
  rw [← Nat.div_div_eq_div_mul] at upper
  exact Nat.mul_le_mul_right _ (by omega)

/-- The significand of a rounded magnitude uses all of its bits, unless the magnitude is small. -/
theorem shift_le_nearest {num den : Nat} (large : (num / den).log2 - 52 ≠ 0) :
    (1 <<< 52) * spacing (num / den) ≤ nearest num den := by
  have ⟨normal, _⟩ := div_spacing (num / den)
  have lower := le_roundDiv num (den * spacing (num / den))
  rw [← Nat.div_div_eq_div_mul] at lower
  exact Nat.mul_le_mul_right _ (Nat.le_trans (normal.resolve_left large) lower)

theorem log2_mono {a b : Nat} (le : a ≤ b) : a.log2 ≤ b.log2 := by
  rcases Nat.eq_zero_or_pos a with none | some
  · simp [none]
  · rw [Nat.le_log2 (by omega)]
    exact Nat.le_trans (Nat.log2_self_le (by omega)) le

/-- Rounding keeps the order. Magnitudes of one spacing are rounded on one grid; of two spacings, the
power of two between them separates what they are rounded to. -/
theorem nearest_mono {a b : Nat} (den : Nat) (le : a ≤ b) : nearest a den ≤ nearest b den := by
  have quotients : a / den ≤ b / den := Nat.div_le_div_right le
  have exponents : (a / den).log2 - 52 ≤ (b / den).log2 - 52 :=
    Nat.sub_le_sub_right (log2_mono quotients) 52
  rcases Nat.lt_or_eq_of_le exponents with finer | same
  · have doubled : 2 * spacing (a / den) ≤ spacing (b / den) := by
      unfold spacing
      rw [Nat.one_shiftLeft, Nat.one_shiftLeft, Nat.mul_comm, ← Nat.pow_succ]
      exact Nat.pow_le_pow_right (by decide) finer
    calc nearest a den ≤ (1 <<< 53) * spacing (a / den) := nearest_le_shift a den
      _ = (1 <<< 52) * (2 * spacing (a / den)) := by rw [← Nat.mul_assoc]; rfl
      _ ≤ (1 <<< 52) * spacing (b / den) := Nat.mul_le_mul_left _ doubled
      _ ≤ nearest b den := shift_le_nearest (by omega)
  · have grid : spacing (a / den) = spacing (b / den) := by rw [spacing, same, spacing]
    unfold nearest
    rw [grid]
    exact Nat.mul_le_mul_right _ (roundDiv_mono _ le)

theorem spacing_le (units : Nat) : spacing units ≤ units + 1 := by
  rw [spacing, Nat.one_shiftLeft]
  rcases Nat.eq_zero_or_pos units with none | some
  · simp [none]
  · calc 2 ^ (units.log2 - 52) ≤ 2 ^ units.log2 := Nat.pow_le_pow_right (by decide) (by omega)
      _ ≤ units := Nat.log2_self_le (by omega)
      _ ≤ units + 1 := Nat.le_succ units

/-- Rounding at most doubles. -/
theorem nearest_le (num den : Nat) : nearest num den ≤ 2 * (num / den) + 1 := by
  have upper := roundDiv_le num (den * spacing (num / den))
  rw [← Nat.div_div_eq_div_mul] at upper
  have whole := Nat.div_mul_le_self (num / den) (spacing (num / den))
  have fine := spacing_le (num / den)
  calc nearest num den
      ≤ (num / den / spacing (num / den) + 1) * spacing (num / den) := Nat.mul_le_mul_right _ upper
    _ = num / den / spacing (num / den) * spacing (num / den) + spacing (num / den) := by
      rw [Nat.add_mul, Nat.one_mul]
    _ ≤ 2 * (num / den) + 1 := by omega

@[simp] theorem nearest_zero (den : Nat) : nearest 0 den = 0 := by
  have none : ∀ grid, roundDiv 0 grid = 0 := by
    intro grid
    rw [roundDiv, if_pos (by simp; omega), Nat.zero_div]
  rw [nearest, none, Nat.zero_mul]

theorem signed_natAbs (exact : Int) : signed (exact < 0) exact.natAbs = exact := by
  by_cases below : exact < 0
  · simp only [signed, below, decide_true, if_true]
    omega
  · simp only [signed, below, decide_false, Bool.false_eq_true, if_false]
    omega

theorem signed_mul (negative : Bool) (units scale : Nat) :
    signed negative (units * scale) = signed negative units * scale := by
  cases negative with
  | false => exact Int.natCast_mul units scale
  | true =>
    change -((units * scale : Nat) : Int) = -(units : Int) * scale
    rw [Int.natCast_mul, Int.neg_mul]

/-- Where the number nearest to `exact / den` units stands. -/
def roundedPlace (exact : Int) (den : Nat) : Int :=
  signed (exact < 0) (min (nearest exact.natAbs den) limit)

theorem roundedPlace_zero (den : Nat) : roundedPlace 0 den = 0 := by
  simp [roundedPlace, signed]

theorem roundedPlace_mono {a b : Int} (den : Nat) (le : a ≤ b) :
    roundedPlace a den ≤ roundedPlace b den := by
  unfold roundedPlace signed
  by_cases left : a < 0
  · by_cases right : b < 0
    · have magnitudes := nearest_mono den (show b.natAbs ≤ a.natAbs by omega)
      simp only [left, right, decide_true, if_true]
      omega
    · simp only [left, right, decide_true, decide_false, if_true, Bool.false_eq_true, if_false]
      omega
  · have right : ¬ b < 0 := by omega
    have magnitudes := nearest_mono den (show a.natAbs ≤ b.natAbs by omega)
    simp only [left, right, decide_false, Bool.false_eq_true, if_false]
    omega

theorem roundedPlace_signed (negative : Bool) (num den : Nat) :
    roundedPlace (signed negative num) den = signed negative (min (nearest num den) limit) := by
  rcases Nat.eq_zero_or_pos num with none | some
  · subst none
    cases negative <;> simp [roundedPlace, signed]
  · cases negative with
    | false =>
      have above : ¬ (num : Int) < 0 := by omega
      simp [roundedPlace, signed, above]
    | true =>
      have below : -(num : Int) < 0 := by omega
      simp only [roundedPlace, signed, if_true, below, decide_true, Int.natAbs_neg, Int.natAbs_natCast]

theorem place?_ofQuotient (negative : Bool) (num den : Nat) :
    (ofQuotient negative num den).place? = some (roundedPlace (signed negative num) den) := by
  rw [roundedPlace_signed, ofQuotient, ofAligned]
  split
  · next bounded => simp [place?, Nat.min_eq_left (Nat.le_of_lt bounded)]
  · next unbounded => simp [place?, Nat.min_eq_right (Nat.le_of_not_lt unbounded)]

theorem isFinite_ofQuotient {negative : Bool} {num den : Nat}
    (bounded : nearest num den < limit) : (ofQuotient negative num den).isFinite = true := by
  simp [ofQuotient, ofAligned, bounded, isFinite]

theorem le_iff {left right : Binary64} :
    left.le right = true ↔
      ∃ a b, left.place? = some a ∧ right.place? = some b ∧ a ≤ b := by
  unfold le
  cases left.place? with
  | none => simp
  | some a =>
    cases right.place? with
    | none => simp
    | some b => simp

theorem lt_iff {left right : Binary64} :
    left.lt right = true ↔
      ∃ a b, left.place? = some a ∧ right.place? = some b ∧ a < b := by
  unfold lt
  cases left.place? with
  | none => simp
  | some a =>
    cases right.place? with
    | none => simp
    | some b => simp

theorem place?_of_isFinite {number : Binary64} (finite : number.isFinite = true) :
    ∃ place, number.place? = some place := by
  cases number with
  | nan | infinite => simp [isFinite] at finite
  | finite negative units fits => exact ⟨_, rfl⟩

@[simp] theorem place?_zero (negative : Bool) : (zero negative).place? = some 0 := by
  rw [zero, place?_ofQuotient]
  cases negative <;> rfl

theorem zero_le_iff {number : Binary64} :
    (zero false).le number = true ↔ ∃ place, number.place? = some place ∧ 0 ≤ place := by
  simp only [le_iff, place?_zero, Option.some.injEq, exists_and_left, exists_eq_left']

theorem zero_lt_iff {number : Binary64} :
    (zero false).lt number = true ↔ ∃ place, number.place? = some place ∧ 0 < place := by
  simp only [lt_iff, place?_zero, Option.some.injEq, exists_and_left, exists_eq_left']

theorem zero_eq_finite (negative : Bool) (fits : 0 < limit ∧ Aligned 0) :
    zero negative = .finite negative 0 fits := by
  simp [zero, ofQuotient, ofAligned, fits.1]

theorem same_iff {left right : Binary64} :
    left.same right = true ↔ ∃ place, left.place? = some place ∧ right.place? = some place := by
  unfold same le
  cases left.place? with
  | none => simp
  | some a =>
    cases right.place? with
    | none => simp
    | some b =>
      simp only [Bool.and_eq_true, decide_eq_true_eq, Option.some.injEq, exists_eq_left']
      omega

/-- The numbers that stand at zero are the two zeros. -/
theorem same_zero_iff {number : Binary64} :
    number.same (zero false) = true ↔ number = zero false ∨ number = zero true := by
  simp only [same_iff, place?_zero, Option.some.injEq, exists_eq_right']
  constructor
  · intro nowhere
    cases number with
    | nan => cases nowhere
    | infinite negative => cases negative <;> simp [place?, signed, limit] at nowhere
    | finite negative units fits =>
      obtain rfl : units = 0 := by
        cases negative <;> simpa [place?, signed] using nowhere
      cases negative
      · exact .inl (zero_eq_finite false fits).symm
      · exact .inr (zero_eq_finite true fits).symm
  · rintro (rfl | rfl) <;> simp

/-- A sum of finite numbers stands where the exact sum is rounded to. -/
theorem place?_add {left right : Binary64} {a b : Int} (leftFinite : left.isFinite = true)
    (rightFinite : right.isFinite = true) (leftPlace : left.place? = some a)
    (rightPlace : right.place? = some b) :
    (left + right).place? = some (roundedPlace (a + b) 1) := by
  cases left with
  | nan | infinite => simp [isFinite] at leftFinite
  | finite leftSign leftUnits leftFits =>
    cases right with
    | nan | infinite => simp [isFinite] at rightFinite
    | finite rightSign rightUnits rightFits =>
      obtain rfl : signed leftSign leftUnits = a := by simpa [place?] using leftPlace
      obtain rfl : signed rightSign rightUnits = b := by simpa [place?] using rightPlace
      change place? (if signed leftSign leftUnits + signed rightSign rightUnits = 0 then _
        else ofQuotient _ _ 1) = _
      split
      · next none =>
        rw [place?_zero, none, roundedPlace]
        simp [signed]
      · rw [place?_ofQuotient, signed_natAbs]

theorem isFinite_neg (number : Binary64) : number.neg.isFinite = number.isFinite := by
  cases number <;> rfl

theorem place?_neg (number : Binary64) : number.neg.place? = number.place?.map (- ·) := by
  cases number with
  | nan => rfl
  | infinite negative | finite negative units fits => cases negative <;> simp [neg, place?, signed]

/-- A difference of finite numbers stands where the exact difference is rounded to. -/
theorem place?_sub {left right : Binary64} {a b : Int} (leftFinite : left.isFinite = true)
    (rightFinite : right.isFinite = true) (leftPlace : left.place? = some a)
    (rightPlace : right.place? = some b) :
    (left - right).place? = some (roundedPlace (a - b) 1) := by
  rw [Int.sub_eq_add_neg]
  exact place?_add leftFinite (by rwa [isFinite_neg]) leftPlace (by rw [place?_neg, rightPlace]; rfl)

/-- A difference grows with its first term and falls with its second. -/
theorem sub_le_sub {a b c d : Binary64} (aFinite : a.isFinite = true) (bFinite : b.isFinite = true)
    (cFinite : c.isFinite = true) (dFinite : d.isFinite = true) (more : a.le b = true)
    (less : d.le c = true) : (a - c).le (b - d) = true := by
  obtain ⟨placeA, placeB, atA, atB, first⟩ := le_iff.mp more
  obtain ⟨placeD, placeC, atD, atC, second⟩ := le_iff.mp less
  rw [le_iff]
  exact ⟨_, _, place?_sub aFinite cFinite atA atC, place?_sub bFinite dFinite atB atD,
    roundedPlace_mono 1 (Int.sub_le_sub first second)⟩

theorem zero_le_sub {a b : Binary64} (aFinite : a.isFinite = true) (bFinite : b.isFinite = true)
    (le : b.le a = true) : (zero false).le (a - b) = true := by
  obtain ⟨placeB, placeA, atB, atA, order⟩ := le_iff.mp le
  have above := roundedPlace_mono 1 (show 0 ≤ placeA - placeB by omega)
  rw [roundedPlace_zero] at above
  exact zero_le_iff.mpr ⟨_, place?_sub aFinite bFinite atA atB, above⟩

theorem place?_of_ne_nan {number : Binary64} (known : number ≠ nan) :
    ∃ place, number.place? = some place := by
  cases number with
  | nan => exact absurd rfl known
  | infinite negative | finite negative units fits => exact ⟨_, rfl⟩

theorem le_refl {number : Binary64} (known : number ≠ nan) : number.le number = true := by
  obtain ⟨place, stands⟩ := place?_of_ne_nan known
  exact le_iff.mpr ⟨place, place, stands, stands, Int.le_refl place⟩

theorem le_refl_of_isFinite {number : Binary64} (finite : number.isFinite = true) :
    number.le number = true := by
  refine le_refl ?_
  rintro rfl
  cases finite

theorem le_trans {a b c : Binary64} (first : a.le b = true) (second : b.le c = true) :
    a.le c = true := by
  obtain ⟨placeA, placeB, atA, atB, le⟩ := le_iff.mp first
  obtain ⟨place, placeC, same, atC, more⟩ := le_iff.mp second
  obtain rfl : placeB = place := Option.some.inj (atB.symm.trans same)
  exact le_iff.mpr ⟨placeA, placeC, atA, atC, Int.le_trans le more⟩

theorem lt_of_le_of_lt {a b c : Binary64} (first : a.le b = true) (second : b.lt c = true) :
    a.lt c = true := by
  obtain ⟨placeA, placeB, atA, atB, le⟩ := le_iff.mp first
  obtain ⟨place, placeC, same, atC, less⟩ := lt_iff.mp second
  obtain rfl : placeB = place := Option.some.inj (atB.symm.trans same)
  exact lt_iff.mpr ⟨placeA, placeC, atA, atC, Int.lt_of_le_of_lt le less⟩

/-- Of two numbers, the one is below the other just if that one is not at most it. -/
theorem lt_iff_not_le {left right : Binary64} (one : left ≠ nan) (other : right ≠ nan) :
    left.lt right = true ↔ ¬ right.le left = true := by
  obtain ⟨a, leftPlace⟩ := place?_of_ne_nan one
  obtain ⟨b, rightPlace⟩ := place?_of_ne_nan other
  simp [lt, le, leftPlace, rightPlace]

theorem le_total {left right : Binary64} (one : left ≠ nan) (other : right ≠ nan) :
    left.le right = true ∨ right.le left = true := by
  obtain ⟨a, leftPlace⟩ := place?_of_ne_nan one
  obtain ⟨b, rightPlace⟩ := place?_of_ne_nan other
  simpa [le, leftPlace, rightPlace] using Int.le_total a b

theorem lt_irrefl (number : Binary64) : ¬ number.lt number = true := by
  cases place : number.place? <;> simp [lt, place]

theorem not_le_of_lt {left right : Binary64} (less : left.lt right = true) :
    ¬ right.le left = true := by
  intro le
  obtain ⟨b, a, atRight, atLeft, order⟩ := le_iff.mp le
  simp only [lt, atLeft, atRight, decide_eq_true_eq] at less
  omega

/-- What compares with nothing is no bound. -/
theorem not_nan_le (number : Binary64) : ¬ nan.le number = true := by
  simp [le, place?]

theorem not_le_nan (number : Binary64) : ¬ number.le nan = true := by
  simp [le, place?]

theorem le_of_not_lt {left right : Binary64} {a b : Int} (leftPlace : left.place? = some a)
    (rightPlace : right.place? = some b) (above : ¬ left.lt right = true) :
    right.le left = true := by
  simp only [lt, leftPlace, rightPlace, decide_eq_true_eq] at above
  exact le_iff.mpr ⟨b, a, rightPlace, leftPlace, Int.not_lt.mp above⟩

/-- The larger of two numbers is at least the second one, also where the first is no number. -/
theorem le_max_right (left : Binary64) {right : Binary64} (finite : right.isFinite = true) :
    right.le (left.max right) = true := by
  have self : right.le right = true := le_refl_of_isFinite finite
  cases left with
  | nan => exact self
  | infinite negative | finite negative units fits =>
    cases right with
    | nan | infinite => cases finite
    | finite other others fitsToo =>
      simp only [max]
      split
      · exact self
      · next above => exact le_of_not_lt rfl rfl above

theorem place?_ofInt (value : Int) :
    (ofInt value).place? = some (roundedPlace (value * one) 1) := by
  rw [ofInt, place?_ofQuotient, signed_mul, signed_natAbs]

theorem ofInt_le_ofInt {m n : Int} (le : m ≤ n) : (ofInt m).le (ofInt n) = true :=
  le_iff.mpr ⟨_, _, place?_ofInt m, place?_ofInt n,
    roundedPlace_mono 1 (Int.mul_le_mul_of_nonneg_right le (Int.natCast_nonneg one))⟩

/-- A quotient of finite numbers stands where the exact quotient is rounded to. -/
theorem place?_div {number divisor : Binary64} {place : Int} {units : Nat}
    (finite : number.isFinite = true) (stands : number.place? = some place)
    (divides : divisor.isFinite = true) (divisorPlace : divisor.place? = some (units : Int))
    (positive : 0 < units) :
    (number / divisor).place? = some (roundedPlace (place * one) units) := by
  cases number with
  | nan | infinite => simp [isFinite] at finite
  | finite sign magnitude fits =>
    cases divisor with
    | nan | infinite => simp [isFinite] at divides
    | finite divisorSign divisorUnits divisorFits =>
      obtain rfl : signed sign magnitude = place := by simpa [place?] using stands
      have told : signed divisorSign divisorUnits = units := by simpa [place?] using divisorPlace
      obtain ⟨rfl, rfl⟩ : divisorSign = false ∧ divisorUnits = units := by
        cases divisorSign <;> simp [signed] at told ⊢ <;> omega
      change place? (if divisorUnits = 0 then _ else ofQuotient (sign != false) _ _) = _
      rw [if_neg (Nat.ne_of_gt positive), place?_ofQuotient, Bool.bne_false, signed_mul]

/-- A quotient by a positive number grows with its dividend. -/
theorem div_le_div_right {a b divisor : Binary64} (aFinite : a.isFinite = true)
    (bFinite : b.isFinite = true) (divides : divisor.isFinite = true)
    (positive : (zero false).lt divisor = true) (le : a.le b = true) :
    (a / divisor).le (b / divisor) = true := by
  obtain ⟨placeA, placeB, atA, atB, order⟩ := le_iff.mp le
  obtain ⟨place, stands⟩ := place?_of_isFinite divides
  have above : 0 < place := by simpa [lt, stands] using positive
  obtain ⟨units, rfl⟩ := Int.eq_ofNat_of_zero_le (Int.le_of_lt above)
  have some : 0 < units := Int.natCast_pos.mp above
  exact le_iff.mpr ⟨_, _, place?_div aFinite atA divides stands some,
    place?_div bFinite atB divides stands some,
    roundedPlace_mono units (Int.mul_le_mul_of_nonneg_right order (Int.natCast_nonneg one))⟩

/-- What fits a word of 64 bits is finite, and so is its quotient by one or more. -/
theorem isFinite_ofInt_div {value : Int} {divisor : Binary64} {negative : Bool} {units : Nat}
    {fits : units < limit ∧ Aligned units} (small : value.natAbs ≤ UInt64.size)
    (divides : divisor = .finite negative units fits) (large : one ≤ units) :
    (ofInt value).isFinite = true ∧ (ofInt value / divisor).isFinite = true := by
  have room : 2 * (2 * (UInt64.size * one) + 1) + 1 < limit := by decide +kernel
  have rounded := nearest_le (value.natAbs * one) 1
  rw [Nat.div_one] at rounded
  have exact := Nat.mul_le_mul_right one small
  have bounded : nearest (value.natAbs * one) 1 < limit := by omega
  have made : ofInt value = .finite (value < 0) (nearest (value.natAbs * one) 1)
      ⟨bounded, aligned_nearest _ _⟩ := by
    rw [ofInt, ofQuotient, ofAligned, dif_pos bounded]
  refine ⟨by rw [made]; rfl, ?_⟩
  have nonzero : units ≠ 0 := by
    have unit : 0 < one := by decide +kernel
    omega
  rw [made, divides]
  change isFinite (if units = 0 then _ else ofQuotient _ _ _) = true
  rw [if_neg nonzero]
  refine isFinite_ofQuotient ?_
  have quotient : nearest (value.natAbs * one) 1 * one / units ≤ nearest (value.natAbs * one) 1 :=
    Nat.div_le_of_le_mul (by rw [Nat.mul_comm]; exact Nat.mul_le_mul_right _ large)
  have again := nearest_le (nearest (value.natAbs * one) 1 * one) units
  omega

end LoadProbe.Binary64
