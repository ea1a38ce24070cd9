import LoadProbe.Proofs.Numeral

/-!
Whole numbers as they are written. A written number reads back, and the count of its digits tells
between which powers of ten it lies. Main statements: `readUInt64_digits`, `readInt64_signedDigits`
and `length_digits_le_iff`.
-/
namespace LoadProbe.Numeral

theorem decimal_digits (n : Nat) : Decimal (digits n) n :=
  ⟨digits_ne_nil n, fun _ member => isDigit_of_mem_digits member, value_digits n⟩

theorem readUInt64_digits (number : UInt64) : readUInt64 (digits number.toNat) = .ok number :=
  readUInt64_eq_ok_iff.mpr (.inl (decimal_digits number.toNat))

theorem signedDecimal_signedDigits (z : Int) : SignedDecimal (signedDigits z) z := by
  unfold signedDigits
  split
  · exact .inr ⟨digits z.natAbs, z.natAbs, rfl, by omega, decimal_digits z.natAbs⟩
  · exact .inl ⟨z.natAbs, by omega, .inl (decimal_digits z.natAbs)⟩

theorem readInt64_signedDigits (number : Int64) :
    readInt64 (signedDigits number.toInt) = .ok number :=
  readInt64_eq_ok_iff.mpr (signedDecimal_signedDigits number.toInt)

/-- A number written without a sign stands for itself only. -/
theorem signedDecimal_digits_iff {n : Nat} {z : Int} : SignedDecimal (digits n) z ↔ z = n := by
  have signless {c : Char} (sign : isDigit c = false) (ds : List Char) : digits n ≠ c :: ds := by
    intro same
    have digit := isDigit_of_mem_digits (n := n) (same ▸ List.mem_cons_self)
    rw [sign] at digit
    cases digit
  constructor
  · rintro (⟨m, rfl, decimal | ⟨ds, same, -⟩⟩ | ⟨ds, m, same, -⟩)
    · rw [← decimal.stands, value_digits]
    · exact absurd same (signless rfl ds)
    · exact absurd same (signless rfl ds)
  · rintro rfl
    exact .inl ⟨n, rfl, .inl (decimal_digits n)⟩

/-- A written number reads as a number with a sign if there is one that it is. -/
theorem readInt64_digits_eq_ok_iff {n : Nat} {number : Int64} :
    readInt64 (digits n) = .ok number ↔ number.toInt = n :=
  readInt64_eq_ok_iff.trans signedDecimal_digits_iff

theorem signedDigits_ne_nil (z : Int) : signedDigits z ≠ [] := by
  unfold signedDigits
  split
  · exact List.cons_ne_nil _ _
  · exact digits_ne_nil z.natAbs

theorem tenTo_pos (zeros : Nat) : 0 < tenTo zeros := Nat.pow_pos (by decide)

theorem tenTo_succ (zeros : Nat) : tenTo (zeros + 1) = tenTo zeros * 10 := rfl

/-- The digits of a number of two digits or more, the last one apart. -/
theorem digits_of_ten_le {n : Nat} (large : 10 ≤ n) :
    digits n = digits (n / 10) ++ [digitChar (n % 10)] := by
  rw [digits, if_neg (by omega)]

theorem length_digits_of_lt_ten {n : Nat} (small : n < 10) : (digits n).length = 1 := by
  rw [digits, if_pos small, List.length_singleton]

theorem length_digits_pos (n : Nat) : 0 < (digits n).length :=
  List.length_pos_iff.mpr (digits_ne_nil n)

/-- A number has at most so many digits exactly if it is below that power of ten. -/
theorem length_digits_le_iff {n places : Nat} (some : 0 < places) :
    (digits n).length ≤ places ↔ n < tenTo places := by
  induction places generalizing n with
  | zero => exact absurd some (Nat.lt_irrefl 0)
  | succ places ih =>
    have first := tenTo_pos places
    rw [tenTo_succ]
    rcases Nat.lt_or_ge n 10 with small | large
    · rw [length_digits_of_lt_ten small]
      omega
    · rw [digits_of_ten_le large, List.length_append, List.length_singleton,
        Nat.add_le_add_iff_right, ← Nat.div_lt_iff_lt_mul (by decide)]
      rcases Nat.eq_zero_or_pos places with none | more
      · subst none
        have front := length_digits_pos (n / 10)
        have one : tenTo 0 = 1 := rfl
        omega
      · exact ih more

/-- Each factor of ten is one more digit. -/
theorem length_digits_mul_tenTo {n : Nat} (positive : 0 < n) (zeros : Nat) :
    (digits (n * tenTo zeros)).length = (digits n).length + zeros := by
  induction zeros with
  | zero => rw [show tenTo 0 = 1 from rfl, Nat.mul_one, Nat.add_zero]
  | succ zeros ih =>
    have nonzero := Nat.mul_pos positive (tenTo_pos zeros)
    rw [tenTo_succ, ← Nat.mul_assoc, digits_of_ten_le (by omega), List.length_append,
      Nat.mul_div_cancel _ (by decide), ih, List.length_singleton, Nat.add_assoc]

theorem valueFrom_eq (total : Nat) (ds : List Char) :
    valueFrom total ds = total * tenTo ds.length + value ds := by
  -- The digits that follow shift the total by one place each.
  induction ds generalizing total with
  | nil => simp [valueFrom, value, tenTo]
  | cons c rest ih =>
    have front := ih (total * 10 + (c.toNat - '0'.toNat))
    have alone := ih (0 * 10 + (c.toNat - '0'.toNat))
    rw [Nat.zero_mul, Nat.zero_add] at alone
    calc valueFrom total (c :: rest)
        = valueFrom (total * 10 + (c.toNat - '0'.toNat)) rest := rfl
      _ = total * tenTo (c :: rest).length +
          ((c.toNat - '0'.toNat) * tenTo rest.length + value rest) := by
        rw [front, List.length_cons, tenTo_succ, Nat.add_mul, Nat.mul_right_comm, Nat.mul_assoc,
          Nat.add_assoc]
      _ = total * tenTo (c :: rest).length + valueFrom (c.toNat - '0'.toNat) rest := by rw [alone]
      _ = total * tenTo (c :: rest).length + value (c :: rest) := by
        simp [value, valueFrom]

theorem value_append (front back : List Char) :
    value (front ++ back) = value front * tenTo back.length + value back := by
  rw [← valueFrom_eq, value, List.foldl_append]
  rfl

theorem value_replicate_zero (zeros : Nat) : value (List.replicate zeros '0') = 0 := by
  induction zeros with
  | zero => rfl
  | succ zeros ih => simpa [value, List.replicate_succ] using ih

/-- Zeros in front do not count. -/
theorem value_padded (width n : Nat) : value (padded width n) = n := by
  rw [padded, value_append, value_replicate_zero, Nat.zero_mul, Nat.zero_add, value_digits]

theorem length_padded {width n : Nat} (some : 0 < width) (fits : n < tenTo width) :
    (padded width n).length = width := by
  have short := (length_digits_le_iff some).mpr fits
  rw [padded, List.length_append, List.length_replicate]
  omega

theorem isDigit_of_mem_padded {width n : Nat} {c : Char} (member : c ∈ padded width n) :
    isDigit c = true := by
  rcases List.mem_append.mp member with zero | digit
  · rw [List.eq_of_mem_replicate zero]
    rfl
  · exact isDigit_of_mem_digits digit

/-- The characters of written numbers: of decimals, and of the names of what is no decimal. -/
def alphabet : List Char :=
  ['0', '1', '2', '3', '4', '5', '6', '7', '8', '9', '-', '.', 'N', 'a', 'i', 'n', 'f']

/-- What is checked of the alphabet letter by letter holds of each letter of it. -/
theorem of_mem_alphabet (p : Char → Prop) [DecidablePred p]
    (checked : (alphabet.all fun c => decide (p c)) = true) {c : Char} (member : c ∈ alphabet) :
    p c :=
  of_decide_eq_true (List.all_eq_true.mp checked c member)

theorem mem_alphabet_of_isDigit {c : Char} (digit : isDigit c = true) : c ∈ alphabet := by
  have zero : '0'.toNat = 48 := rfl
  have nine : '9'.toNat = 57 := rfl
  simp only [isDigit, Bool.and_eq_true, decide_eq_true_eq, Char.le_def, UInt32.le_iff_toNat_le] at digit
  have range : 48 ≤ c.toNat ∧ c.toNat < 58 := ⟨digit.1, Nat.lt_succ_of_le digit.2⟩
  have all : ∀ n ∈ List.range 58, 48 ≤ n → Char.ofNat n ∈ alphabet := by decide
  have found := all c.toNat (List.mem_range.mpr range.2) range.1
  rwa [Char.ofNat_toNat] at found

theorem mem_alphabet_of_mem_signedDigits {z : Int} {c : Char} (member : c ∈ signedDigits z) :
    c ∈ alphabet := by
  unfold signedDigits at member
  split at member
  · rcases List.mem_cons.mp member with rfl | digit
    · decide
    · exact mem_alphabet_of_isDigit (isDigit_of_mem_digits digit)
  · exact mem_alphabet_of_isDigit (isDigit_of_mem_digits member)

end LoadProbe.Numeral
