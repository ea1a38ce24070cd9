import LoadProbe.Proofs.Binary64.Written

/-!
Sums of numbers that are not negative. Rounding never takes a sum below one of its terms. Main
statement: `le_add_right`.
-/
namespace LoadProbe.Binary64

/-- The place of a number is not rounded. -/
theorem roundedPlace_place {number : Binary64} {place : Int} (finite : number.isFinite = true)
    (stands : number.place? = some place) : roundedPlace place 1 = place := by
  cases number with
  | nan | infinite => simp [isFinite] at finite
  | finite negative units fits =>
    obtain rfl : signed negative units = place := Option.some.inj stands
    have exact := nearest_mul fits.2 Nat.one_pos
    rw [Nat.mul_one] at exact
    rw [roundedPlace_signed, exact, Nat.min_eq_left (Nat.le_of_lt fits.1)]

/-- A number that is not negative is finite or positive infinity. -/
theorem infinite_or_isFinite {number : Binary64} (nonnegative : (zero false).le number = true) :
    number = .infinite false ∨ number.isFinite = true := by
  cases number with
  | nan => simp [le, place?] at nonnegative
  | infinite negative =>
    cases negative with
    | true => exact absurd nonnegative (by decide +kernel)
    | false => exact .inl rfl
  | finite negative units fits => exact .inr rfl

theorem ne_nan_of_nonneg {number : Binary64} (nonnegative : (zero false).le number = true) :
    number ≠ nan :=
  fun none => not_le_nan _ (none ▸ nonnegative)

theorem le_infinite {number : Binary64} (known : number ≠ nan) :
    number.le (.infinite false) = true := by
  cases number with
  | nan => exact absurd rfl known
  | infinite negative => cases negative <;> decide +kernel
  | finite negative units fits =>
    have bounded := fits.1
    refine le_iff.mpr ⟨_, _, rfl, rfl, ?_⟩
    cases negative with
    | false => exact Int.ofNat_le.mpr (Nat.le_of_lt bounded)
    | true =>
      change -(units : Int) ≤ limit
      omega

/-- With a term of positive infinity, a sum of terms that are not negative is infinite. -/
theorem add_eq_infinite {left right : Binary64} (first : (zero false).le left = true)
    (second : (zero false).le right = true)
    (unbounded : left = .infinite false ∨ right = .infinite false) :
    left + right = .infinite false := by
  rcases infinite_or_isFinite first with rfl | leftFinite <;>
    rcases infinite_or_isFinite second with rfl | rightFinite
  · rfl
  · cases right with
    | nan | infinite => simp [isFinite] at rightFinite
    | finite negative units fits => rfl
  · cases left with
    | nan | infinite => simp [isFinite] at leftFinite
    | finite negative units fits => rfl
  · rcases unbounded with rfl | rfl
    · cases leftFinite
    · cases rightFinite

theorem le_add_right {left right : Binary64} (first : (zero false).le left = true)
    (second : (zero false).le right = true) : left.le (left + right) = true := by
  have known := ne_nan_of_nonneg first
  rcases infinite_or_isFinite first with unbounded | leftFinite
  · rw [add_eq_infinite first second (.inl unbounded)]
    exact le_infinite known
  rcases infinite_or_isFinite second with unbounded | rightFinite
  · rw [add_eq_infinite first second (.inr unbounded)]
    exact le_infinite known
  obtain ⟨a, leftPlace⟩ := place?_of_isFinite leftFinite
  obtain ⟨b, rightPlace, above⟩ := zero_le_iff.mp second
  refine le_iff.mpr ⟨a, _, leftPlace, place?_add leftFinite rightFinite leftPlace rightPlace, ?_⟩
  calc a = roundedPlace a 1 := (roundedPlace_place leftFinite leftPlace).symm
    _ ≤ roundedPlace (a + b) 1 := roundedPlace_mono 1 (by omega)

/-- What adds nothing leaves a sum where it is. -/
theorem place?_add_of_zero {left right : Binary64} (nothing : right.place? = some 0) :
    (left + right).place? = left.place? := by
  have zeros : right = zero false ∨ right = zero true :=
    same_zero_iff.mp (same_iff.mpr ⟨0, nothing, place?_zero false⟩)
  have rightFinite : right.isFinite = true := by
    rcases zeros with rfl | rfl <;> rfl
  cases left with
  | nan => rfl
  | infinite negative => rcases zeros with rfl | rfl <;> rfl
  | finite negative units fits =>
    have stands : (finite negative units fits).place? = some (signed negative units) := rfl
    rw [place?_add rfl rightFinite stands nothing, Int.add_zero, roundedPlace_place rfl stands,
      stands]

/-- What takes a sum further is positive. -/
theorem zero_lt_of_lt_add {left right : Binary64} (nonnegative : (zero false).le right = true)
    (grown : left.lt (left + right) = true) : (zero false).lt right = true := by
  obtain ⟨place, stands, above⟩ := zero_le_iff.mp nonnegative
  rcases Int.lt_or_eq_of_le above with positive | rfl
  · exact zero_lt_iff.mpr ⟨place, stands, positive⟩
  · obtain ⟨before, after, leftPlace, sumPlace, less⟩ := lt_iff.mp grown
    obtain rfl : before = after :=
      Option.some.inj (leftPlace.symm.trans ((place?_add_of_zero stands).symm.trans sumPlace))
    exact absurd less (Int.lt_irrefl before)

/-- What is added up from a number that is not negative stays at least as large. -/
theorem le_foldl_add {terms : List Binary64} {sum : Binary64}
    (first : (zero false).le sum = true) (nonnegative : ∀ term ∈ terms, (zero false).le term = true) :
    sum.le (terms.foldl (· + ·) sum) = true := by
  induction terms generalizing sum with
  | nil => exact le_refl (ne_nan_of_nonneg first)
  | cons term rest ih =>
    have grown := le_add_right first (nonnegative term List.mem_cons_self)
    exact le_trans grown
      (ih (le_trans first grown) fun other later => nonnegative other (List.mem_cons_of_mem _ later))

end LoadProbe.Binary64
