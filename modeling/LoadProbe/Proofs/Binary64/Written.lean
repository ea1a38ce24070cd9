import LoadProbe.Binary64.Decimal
import LoadProbe.Proofs.Binary64.Order
import LoadProbe.Proofs.Numeral.Written
import Mathlib.Data.List.TakeWhile

/-!
Binary64 numbers as they are written. Of what characters they are made, and that each of them reads
back: a grid is taken only if its decimal reads back, and the decimal that ends the search is exact.
Main statement: `read?_chars`.
-/
namespace LoadProbe.Binary64

open Numeral (digits value tenTo isDigit)

/-- The number with the given sign. -/
def withSign (negative : Bool) : Binary64 → Binary64
  | .nan => .nan
  | .infinite _ => .infinite negative
  | .finite _ units fits => .finite negative units fits

theorem ofQuotient_eq_withSign (negative : Bool) (num den : Nat) :
    ofQuotient negative num den = (ofQuotient false num den).withSign negative := by
  unfold ofQuotient ofAligned
  split
  · rfl
  · rfl

/-- Rounding does not look at the sign. -/
theorem ofDecimal_eq_withSign (negative : Bool) (significand : Nat) (exponent : Int) :
    ofDecimal negative significand exponent =
      (ofDecimal false significand exponent).withSign negative := by
  simp only [ofDecimal, zero]
  split
  · exact ofQuotient_eq_withSign ..
  split
  · rfl
  split
  · exact ofQuotient_eq_withSign ..
  · exact ofQuotient_eq_withSign ..

/-- What is aligned is not rounded. -/
theorem nearest_mul {units den : Nat} (aligned : Aligned units) (positive : 0 < den) :
    nearest (units * den) den = units := by
  have whole : units * den / den = units := Nat.mul_div_cancel _ positive
  obtain ⟨significand, split⟩ := aligned
  have grid : 0 < den * spacing units := Nat.mul_pos positive (spacing_pos units)
  have exact : units * den = significand * (den * spacing units) := by
    calc units * den = spacing units * significand * den := by rw [← split]
      _ = significand * (den * spacing units) := by ac_rfl
  rw [nearest, whole, exact, roundDiv, Nat.mul_mod_left, Nat.mul_div_cancel _ grid,
    if_pos (.inl (by omega)), Nat.mul_comm, ← split]

theorem ofQuotient_mul {units den : Nat} (fits : units < limit ∧ Aligned units)
    (positive : 0 < den) : ofQuotient false (units * den) den = .finite false units fits := by
  unfold ofQuotient ofAligned
  simp only [nearest_mul fits.2 positive, dif_pos fits.1]

theorem ofQuotient_one {units : Nat} (fits : units < limit ∧ Aligned units) :
    ofQuotient false units 1 = .finite false units fits := by
  have same := ofQuotient_mul fits Nat.one_pos
  rwa [Nat.mul_one] at same

/-- Zeros behind the digits stand for the places of a positive exponent. -/
theorem ofDecimal_mul_tenTo (negative : Bool) (significand zeros : Nat) :
    ofDecimal negative (significand * tenTo zeros) 0 = ofDecimal negative significand zeros := by
  rcases Nat.eq_zero_or_pos significand with none | positive
  · simp [ofDecimal, none]
  · have nonzero : significand ≠ 0 := Nat.ne_of_gt positive
    have shifted : significand * tenTo zeros ≠ 0 :=
      Nat.mul_ne_zero nonzero (Nat.ne_of_gt (Numeral.tenTo_pos zeros))
    have one : tenTo 0 = 1 := rfl
    simp [ofDecimal, nonzero, shifted, Numeral.length_digits_mul_tenTo positive, one]

/-- The digits of a number of units as an exact decimal. There are 1074 places behind the point. -/
theorem places_exact (units : Nat) (positive : 0 < units) (small : units < limit) :
    750 < (digits (units * Nat.pow 5 1074)).length ∧
      (digits (units * Nat.pow 5 1074)).length ≤ 1383 := by
  have fives : 0 < Nat.pow 5 1074 := by decide +kernel
  have low : tenTo 750 ≤ Nat.pow 5 1074 := by decide +kernel
  have high : limit * Nat.pow 5 1074 < tenTo 1383 := by decide +kernel
  constructor
  · rw [← Nat.not_le]
    intro short
    have below := (Numeral.length_digits_le_iff (by decide)).mp short
    have least := Nat.mul_le_mul_right (Nat.pow 5 1074) positive
    omega
  · rw [Numeral.length_digits_le_iff (by decide)]
    exact Nat.lt_trans (Nat.mul_lt_mul_of_pos_right small fives) high

/-- The decimal that ends the search for the shortest one is exact. -/
theorem ofDecimal_exact {units : Nat} (fits : units < limit ∧ Aligned units) :
    ofDecimal false (units * Nat.pow 5 1074) (-1074) = .finite false units fits := by
  have fives : 0 < Nat.pow 5 1074 := by decide +kernel
  have tens : tenTo 1074 = Nat.pow 5 1074 * one := by decide +kernel
  have places := places_exact units
  generalize Nat.pow 5 1074 = scale at *
  rcases Nat.eq_zero_or_pos units with none | positive
  · subst none
    simp [ofDecimal, zero_eq_finite false fits]
  · obtain ⟨low, high⟩ := places positive fits.1
    have nonzero : units * scale ≠ 0 := Nat.ne_of_gt (Nat.mul_pos positive fives)
    simp only [ofDecimal]
    rw [if_neg (by omega), if_neg (by omega), if_neg (by decide), Nat.mul_assoc, ← tens]
    exact ofQuotient_mul fits (Numeral.tenTo_pos 1074)

/-- A grid offers a decimal only if it reads back. -/
theorem ofDecimal_multiple? {units significand : Nat} {exponent : Int}
    (offered : multiple? units exponent = some significand) :
    ofDecimal false significand exponent = ofQuotient false units 1 := by
  simp only [multiple?] at offered
  split at offered
  · next lowReads =>
    split at offered
    · next highReads =>
      rw [← Option.some.inj offered]
      exact highReads.1
    · rw [← Option.some.inj offered]
      exact lowReads
  · split at offered
    · next highReads =>
      rw [← Option.some.inj offered]
      exact highReads
    · cases offered

theorem ofDecimal_shortestFrom {units : Nat} (fits : units < limit ∧ Aligned units) (steps : Nat)
    (exponent : Int) :
    ofDecimal false (shortestFrom units exponent steps).1 (shortestFrom units exponent steps).2 =
      .finite false units fits := by
  induction steps generalizing exponent with
  | zero => exact ofDecimal_exact fits
  | succ steps ih =>
    unfold shortestFrom
    cases offered : multiple? units exponent with
    | none => exact ih (exponent - 1)
    | some significand =>
      rw [← ofQuotient_one fits]
      exact ofDecimal_multiple? offered

theorem ofDecimal_shortest (negative : Bool) {units : Nat}
    (fits : units < limit ∧ Aligned units) :
    ofDecimal negative (shortest units).1 (shortest units).2 = .finite negative units fits := by
  rw [ofDecimal_eq_withSign, shortest, ofDecimal_shortestFrom fits]
  rfl

theorem readNumeral?_digits (negative : Bool) {ds : List Char} (nonempty : ds ≠ [])
    (digit : ∀ c ∈ ds, isDigit c = true) :
    readNumeral? negative ds = some (ofDecimal negative (value ds) 0) := by
  have all : ds.takeWhile isDigit = ds := List.takeWhile_eq_self_iff.mpr digit
  have rest : ds.dropWhile isDigit = [] := List.dropWhile_eq_nil_iff.mpr digit
  simp [readNumeral?, all, rest, nonempty, readExponent?]

theorem readNumeral?_point (negative : Bool) {whole fraction : List Char} (nonempty : whole ≠ [])
    (wholeDigit : ∀ c ∈ whole, isDigit c = true) (digit : ∀ c ∈ fraction, isDigit c = true) :
    readNumeral? negative (whole ++ '.' :: fraction) =
      some (ofDecimal negative (value (whole ++ fraction)) (-fraction.length)) := by
  have point : isDigit '.' = false := rfl
  have before : (whole ++ '.' :: fraction).takeWhile isDigit = whole := by
    rw [List.takeWhile_append_of_pos wholeDigit, List.takeWhile_cons, point]
    simp
  have behind : (whole ++ '.' :: fraction).dropWhile isDigit = '.' :: fraction := by
    rw [List.dropWhile_append_of_pos wholeDigit, List.dropWhile_cons, point]
    simp
  have all : fraction.takeWhile isDigit = fraction := List.takeWhile_eq_self_iff.mpr digit
  have rest : fraction.dropWhile isDigit = [] := List.dropWhile_eq_nil_iff.mpr digit
  simp [readNumeral?, before, behind, all, rest, nonempty, readExponent?]

/-- A decimal written in full is read as the same decimal. -/
theorem readNumeral?_positional (negative : Bool) (significand : Nat) (exponent : Int) :
    readNumeral? negative (positional significand exponent) =
      some (ofDecimal negative significand exponent) := by
  unfold positional
  split
  · next whole =>
    rw [readNumeral?_digits negative (Numeral.digits_ne_nil _)
      (fun _ => Numeral.isDigit_of_mem_digits), Numeral.value_digits, ofDecimal_mul_tenTo,
      Int.toNat_of_nonneg whole]
  · next fraction =>
    have some : 0 < (-exponent).toNat := by omega
    have small := Nat.mod_lt significand (Numeral.tenTo_pos (-exponent).toNat)
    simp only
    rw [readNumeral?_point negative (Numeral.digits_ne_nil _)
      (fun _ => Numeral.isDigit_of_mem_digits) (fun _ => Numeral.isDigit_of_mem_padded),
      Numeral.value_append, Numeral.value_digits, Numeral.value_padded,
      Numeral.length_padded some small, Nat.div_add_mod']
    congr 2
    omega

theorem positional_ne_nil (significand : Nat) (exponent : Int) :
    positional significand exponent ≠ [] := by
  unfold positional
  split
  · exact Numeral.digits_ne_nil _
  · simp

theorem head_positional {significand : Nat} {exponent : Int} {c : Char}
    (first : c ∈ (positional significand exponent).head?) : isDigit c = true := by
  unfold positional at first
  split at first
  · exact Numeral.isDigit_of_mem_digits (List.mem_of_head? first)
  · obtain ⟨digit, rest, whole⟩ := List.exists_cons_of_ne_nil (Numeral.digits_ne_nil
      (significand / tenTo (-exponent).toNat))
    have same : digit = c := by simpa [whole] using first
    rw [← same]
    exact Numeral.isDigit_of_mem_digits (whole ▸ List.mem_cons_self)

theorem mem_positional {significand : Nat} {exponent : Int} {c : Char}
    (member : c ∈ positional significand exponent) : isDigit c = true ∨ c = '.' := by
  unfold positional at member
  split at member
  · exact .inl (Numeral.isDigit_of_mem_digits member)
  · rcases List.mem_append.mp member with whole | rest
    · exact .inl (Numeral.isDigit_of_mem_digits whole)
    rcases List.mem_cons.mp rest with point | fraction
    · exact .inr point
    · exact .inl (Numeral.isDigit_of_mem_padded fraction)

/-- The written form of a finite number: a minus sign if it is negative, and a decimal. -/
theorem chars_finite (negative : Bool) {units : Nat} (fits : units < limit ∧ Aligned units) :
    (finite negative units fits).chars =
      (if negative then ['-'] else []) ++ positional (shortest units).1 (shortest units).2 :=
  rfl

theorem chars_ne_nil (number : Binary64) : number.chars ≠ [] := by
  cases number with
  | nan => decide
  | infinite negative => cases negative <;> decide
  | finite negative units fits =>
    rw [chars_finite]
    exact List.append_ne_nil_of_right_ne_nil _ (positional_ne_nil _ _)

theorem mem_alphabet_of_mem_chars {number : Binary64} {c : Char} (member : c ∈ number.chars) :
    c ∈ Numeral.alphabet := by
  cases number with
  | nan =>
    have all : nan.chars ⊆ Numeral.alphabet := by decide
    exact all member
  | infinite negative =>
    have all : (infinite negative).chars ⊆ Numeral.alphabet := by cases negative <;> decide
    exact all member
  | finite negative units fits =>
    rw [chars_finite] at member
    rcases List.mem_append.mp member with sign | decimal
    · obtain ⟨-, rfl⟩ : negative = true ∧ c = '-' := by simpa using sign
      decide
    rcases mem_positional decimal with digit | point
    · exact Numeral.mem_alphabet_of_isDigit digit
    · rw [point]
      decide

/-- A text that begins with a digit is no name of what is no decimal. -/
theorem read?_of_splitSign {text body : List Char} {negative : Bool}
    (cut : splitSign text = (negative, body)) (nonempty : body ≠ [])
    (first : ∀ c ∈ body.head?, isDigit c = true) :
    read? text = readNumeral? negative body := by
  obtain ⟨c, rest, rfl⟩ := List.exists_cons_of_ne_nil nonempty
  have digit : isDigit c = true := first c rfl
  obtain ⟨notI, notN⟩ := Numeral.of_mem_alphabet
    (fun c => isDigit c = true → c.toLower ≠ 'i' ∧ c.toLower ≠ 'n') (by decide)
    (Numeral.mem_alphabet_of_isDigit digit) digit
  have unnamed (name : String) (letter : name.toList.head? = some 'i' ∨ name.toList.head? = some 'n') :
      String.ofList ((c :: rest).map Char.toLower) ≠ name := by
    rintro rfl
    rw [String.toList_ofList] at letter
    simp [notI, notN] at letter
  simp only [read?, cut]
  split
  · next same => exact absurd same (unnamed _ (.inl rfl))
  · next same => exact absurd same (unnamed _ (.inl rfl))
  · next same => exact absurd same (unnamed _ (.inr rfl))
  · rfl

/-- A written number reads back. -/
theorem read?_chars (number : Binary64) : read? number.chars = some number := by
  cases number with
  | nan => decide +kernel
  | infinite negative => cases negative <;> decide +kernel
  | finite negative units fits =>
    have cut : splitSign (finite negative units fits).chars =
        (negative, positional (shortest units).1 (shortest units).2) := by
      rw [chars_finite]
      cases negative with
      | true => rfl
      | false =>
        obtain ⟨c, rest, whole⟩ := List.exists_cons_of_ne_nil
          (positional_ne_nil (shortest units).1 (shortest units).2)
        have digit : isDigit c = true := head_positional (by rw [whole]; rfl)
        have minus : c ≠ '-' := by rintro rfl; cases digit
        have plus : c ≠ '+' := by rintro rfl; cases digit
        simp [whole, splitSign, minus, plus]
    rw [read?_of_splitSign cut (positional_ne_nil _ _) (fun _ => head_positional),
      readNumeral?_positional, ofDecimal_shortest negative fits]

end LoadProbe.Binary64
