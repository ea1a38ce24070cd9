import LoadProbe.Numeral

/-!
The numbers that the bounded readers take: runs of decimal digits behind an optional sign, up to the
bound. Main statements: `readUInt64_eq_ok_iff` and `readInt64_eq_ok_iff`.
-/
namespace LoadProbe.Numeral

/-- A text of decimal digits, at least one, that stands for a number. -/
structure Decimal (text : List Char) (n : Nat) : Prop where
  nonempty : text ≠ []
  digits : ∀ c ∈ text, isDigit c = true
  stands : value text = n

/-- Digits behind a plus sign or none. -/
def UnsignedDecimal (text : List Char) (n : Nat) : Prop :=
  Decimal text n ∨ ∃ ds, text = '+' :: ds ∧ Decimal ds n

/-- Digits behind a sign or none. -/
def SignedDecimal (text : List Char) (z : Int) : Prop :=
  (∃ n : Nat, z = n ∧ UnsignedDecimal text n) ∨
    ∃ ds, ∃ n : Nat, text = '-' :: ds ∧ z = -n ∧ Decimal ds n

theorem digit?_ten (c : Char) :
    digit? 10 c = if isDigit c = true then some (c.toNat - '0'.toNat) else none := by
  unfold digit? isDigit
  by_cases digit : '0' ≤ c ∧ c ≤ '9'
  · have low : c.toNat ≤ '9'.toNat := digit.2
    have nine : '9'.toNat = 57 := rfl
    have zero : '0'.toNat = 48 := rfl
    rw [if_pos digit, if_pos (by omega), if_pos (by simpa using digit)]
  · have none : ¬ ('0' ≤ c && c ≤ '9') = true := by simpa using digit
    rw [if_neg digit, if_neg none]
    split
    · rw [if_neg (by omega)]
    · split
      · rw [if_neg (by omega)]
      · rw [if_neg (by omega)]

/-- Reading on from a total. -/
def valueFrom (total : Nat) (ds : List Char) : Nat :=
  ds.foldl (fun total c => total * 10 + (c.toNat - '0'.toNat)) total

theorem le_valueFrom (total : Nat) (ds : List Char) : total ≤ valueFrom total ds := by
  induction ds generalizing total with
  | nil => exact Nat.le_refl total
  | cons c rest ih =>
    have grown := ih (total * 10 + (c.toNat - '0'.toNat))
    rw [valueFrom, List.foldl_cons]
    exact Nat.le_trans (by omega) grown

/-- Totals only grow, so that one within the bound at the end was within it all along. -/
theorem accumulate_eq_ok_iff {bound total n : Nat} {overflow : Failure} {ds : List Char}
    (within : total ≤ bound) :
    accumulate bound overflow total ds = .ok n ↔
      (∀ c ∈ ds, isDigit c = true) ∧ valueFrom total ds = n ∧ n ≤ bound := by
  induction ds generalizing total with
  | nil =>
    simp only [accumulate, valueFrom, List.foldl_nil, Except.ok.injEq, List.not_mem_nil]
    constructor
    · rintro rfl
      exact ⟨by simp, rfl, within⟩
    · exact fun told => told.2.1
  | cons c rest ih =>
    rw [accumulate, digit?_ten]
    by_cases digit : isDigit c = true
    · rw [if_pos digit]
      have next : valueFrom total (c :: rest) =
        valueFrom (total * 10 + (c.toNat - '0'.toNat)) rest := rfl
      by_cases fits : total * 10 + (c.toNat - '0'.toNat) ≤ bound
      · simp only [if_pos fits, ih fits, List.mem_cons, forall_eq_or_imp, digit, true_and, next]
      · have grown := le_valueFrom (total * 10 + (c.toNat - '0'.toNat)) rest
        simp only [if_neg fits, next, reduceCtorEq, false_iff]
        rintro ⟨-, reached, small⟩
        omega
    · rw [if_neg digit]
      simp only [reduceCtorEq, List.mem_cons, forall_eq_or_imp, digit, false_and]

theorem accumulate_zero {bound n : Nat} {overflow : Failure} {ds : List Char} (nonempty : ds ≠ []) :
    accumulate bound overflow 0 ds = .ok n ↔ Decimal ds n ∧ n ≤ bound := by
  rw [accumulate_eq_ok_iff (Nat.zero_le bound)]
  constructor
  · exact fun told => ⟨⟨nonempty, told.1, told.2.1⟩, told.2.2⟩
  · exact fun told => ⟨told.1.digits, told.1.stands, told.2⟩

theorem not_decimal_sign {c : Char} (sign : isDigit c = false) (rest : List Char) (n : Nat) :
    ¬ Decimal (c :: rest) n := by
  intro decimal
  have digit := decimal.digits c (by simp)
  simp [sign] at digit

theorem readUnsigned_eq_ok_iff {bound n : Nat} {text : List Char} :
    readUnsigned bound text = .ok n ↔ UnsignedDecimal text n ∧ n ≤ bound := by
  unfold readUnsigned UnsignedDecimal
  split
  · simp only [reduceCtorEq, false_iff]
    rintro ⟨decimal | ⟨ds, same, -⟩, -⟩
    · exact decimal.nonempty rfl
    · simp at same
  · simp only [reduceCtorEq, false_iff]
    rintro ⟨decimal | ⟨ds, same, decimal⟩, -⟩
    · exact not_decimal_sign rfl [] n decimal
    · obtain rfl : [] = ds := by simpa using same
      exact decimal.nonempty rfl
  · next rest nonempty =>
    rw [accumulate_zero (by rintro rfl; exact nonempty rfl)]
    constructor
    · exact fun told => ⟨.inr ⟨rest, rfl, told.1⟩, told.2⟩
    · rintro ⟨decimal | ⟨ds, same, decimal⟩, small⟩
      · exact absurd decimal (not_decimal_sign rfl rest n)
      · obtain rfl : rest = ds := by simpa using same
        exact ⟨decimal, small⟩
  · next nonempty _ unsigned =>
    rw [accumulate_zero nonempty]
    constructor
    · exact fun told => ⟨.inl told.1, told.2⟩
    · rintro ⟨decimal | ⟨ds, same, -⟩, small⟩
      · exact ⟨decimal, small⟩
      · exact absurd same (unsigned ds)

theorem map_eq_ok_iff {Cause α β : Type} {result : Except Cause α} {change : α → β} {b : β} :
    result.map change = .ok b ↔ ∃ a, result = .ok a ∧ change a = b := by
  cases result with
  | error cause => simp [Except.map]
  | ok a => simp [Except.map]

/-- A number that is read is taken for a whole one before its sign counts. -/
theorem map_cast_eq_ok_iff {Cause : Type} {result : Except Cause Nat} {change : Int → Int}
    {z : Int} : (Except.map change do let n ← result; pure (n : Int)) = .ok z ↔
      ∃ n : Nat, result = .ok n ∧ change n = z := by
  cases result with
  | error cause => simp [Except.map, bind, Except.bind]
  | ok n => simp [Except.map, bind, Except.bind, pure, Except.pure]

theorem readSigned_eq_ok_iff {bound : Nat} {z : Int} {text : List Char} :
    readSigned bound text = .ok z ↔
      SignedDecimal text z ∧ -((bound : Int) + 1) ≤ z ∧ z ≤ bound := by
  unfold readSigned SignedDecimal UnsignedDecimal
  split
  · simp only [reduceCtorEq, false_iff]
    rintro ⟨⟨n, -, decimal | ⟨ds, same, -⟩⟩ | ⟨ds, n, same, -⟩, -⟩
    · exact decimal.nonempty rfl
    · simp at same
    · simp at same
  · simp only [reduceCtorEq, false_iff]
    rintro ⟨⟨n, -, decimal | ⟨ds, same, decimal⟩⟩ | ⟨ds, n, same, -⟩, -⟩
    · exact not_decimal_sign rfl [] n decimal
    · obtain rfl : [] = ds := by simpa using same
      exact decimal.nonempty rfl
    · simp at same
  · simp only [reduceCtorEq, false_iff]
    rintro ⟨⟨n, -, decimal | ⟨ds, same, -⟩⟩ | ⟨ds, n, same, -, decimal⟩, -⟩
    · exact not_decimal_sign rfl [] n decimal
    · simp at same
    · obtain rfl : [] = ds := by simpa using same
      exact decimal.nonempty rfl
  · next rest nonempty =>
    simp only [map_cast_eq_ok_iff, accumulate_zero (show rest ≠ [] by rintro rfl; exact nonempty rfl)]
    constructor
    · rintro ⟨n, ⟨decimal, small⟩, rfl⟩
      exact ⟨.inr ⟨rest, n, rfl, rfl, decimal⟩, by omega, by omega⟩
    · rintro ⟨⟨n, -, decimal | ⟨ds, same, -⟩⟩ | ⟨ds, n, same, rfl, decimal⟩, low, -⟩
      · exact absurd decimal (not_decimal_sign rfl rest n)
      · simp at same
      · obtain rfl : rest = ds := by simpa using same
        exact ⟨n, ⟨decimal, by omega⟩, rfl⟩
  · next rest nonempty =>
    simp only [map_cast_eq_ok_iff, accumulate_zero (show rest ≠ [] by rintro rfl; exact nonempty rfl)]
    constructor
    · rintro ⟨n, ⟨decimal, small⟩, rfl⟩
      exact ⟨.inl ⟨n, rfl, .inr ⟨rest, rfl, decimal⟩⟩, by omega, by omega⟩
    · rintro ⟨⟨n, rfl, decimal | ⟨ds, same, decimal⟩⟩ | ⟨ds, n, same, -⟩, -, small⟩
      · exact absurd decimal (not_decimal_sign rfl rest n)
      · obtain rfl : rest = ds := by simpa using same
        exact ⟨n, ⟨decimal, by omega⟩, rfl⟩
      · simp at same
  · next nonempty _ _ minus plus =>
    simp only [map_cast_eq_ok_iff, accumulate_zero nonempty]
    constructor
    · rintro ⟨n, ⟨decimal, small⟩, rfl⟩
      exact ⟨.inl ⟨n, rfl, .inl decimal⟩, by omega, by omega⟩
    · rintro ⟨⟨n, rfl, decimal | ⟨ds, same, -⟩⟩ | ⟨ds, n, same, -⟩, -, small⟩
      · exact ⟨n, ⟨decimal, by omega⟩, rfl⟩
      · exact absurd same (plus ds)
      · exact absurd same (minus ds)

/-- A text reads as a 64-bit number without a sign exactly if it is a numeral of that number. -/
theorem readUInt64_eq_ok_iff {text : List Char} {number : UInt64} :
    readUInt64 text = .ok number ↔ UnsignedDecimal text number.toNat := by
  rw [readUInt64, map_eq_ok_iff]
  constructor
  · rintro ⟨n, read, rfl⟩
    obtain ⟨decimal, small⟩ := readUnsigned_eq_ok_iff.mp read
    have fits : n < UInt64.size := by
      have some : 0 < UInt64.size := by decide
      omega
    rwa [UInt64.toNat_ofNat_of_lt' fits]
  · intro decimal
    have fits := number.toNat_lt_size
    exact ⟨number.toNat, readUnsigned_eq_ok_iff.mpr ⟨decimal, by omega⟩, UInt64.ofNat_toNat⟩

/-- A text reads as a 64-bit number with a sign exactly if it is a numeral of that number. -/
theorem readInt64_eq_ok_iff {text : List Char} {number : Int64} :
    readInt64 text = .ok number ↔ SignedDecimal text number.toInt := by
  have bound : (largestSigned : Int) = 9223372036854775807 := by decide
  rw [readInt64, map_eq_ok_iff]
  constructor
  · rintro ⟨z, read, rfl⟩
    obtain ⟨decimal, low, high⟩ := readSigned_eq_ok_iff.mp read
    rwa [Int64.toInt_ofInt_of_le (by omega) (by omega)]
  · intro decimal
    have low := number.le_toInt
    have high := number.toInt_lt
    exact ⟨number.toInt, readSigned_eq_ok_iff.mpr ⟨decimal, by omega, by omega⟩,
      Int64.ofInt_toInt number⟩

end LoadProbe.Numeral
