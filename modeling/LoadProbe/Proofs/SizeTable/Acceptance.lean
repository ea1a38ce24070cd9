import LoadProbe.Proofs.Binary64.Sums
import LoadProbe.SizeTable

/-!
Which weights make a table. All that is wrong with weights is reported, but for a total that is not
finite, which stops the program. Main statement: `ofWeights_reports_iff`, for every list of entries.
-/
namespace LoadProbe.SizeTable

variable {entries : List (UInt64 × Binary64)}

/-- The weights added from the left. -/
def total (entries : List (UInt64 × Binary64)) : Binary64 :=
  (entries.map Prod.snd).foldl (· + ·) (.zero false)

/-- No weight is negative or no number. -/
def Weighed (entries : List (UInt64 × Binary64)) : Prop :=
  ∀ entry ∈ entries, (Binary64.zero false).le entry.2 = true

/-- Entries with weights of a positive and finite total. -/
structure Usable (entries : List (UInt64 × Binary64)) : Prop where
  nonempty : entries ≠ []
  weighed : Weighed entries
  positive : (Binary64.zero false).lt (total entries) = true
  finite : (total entries).isFinite = true

/-- Entries with proper weights whose total is infinite, be it by one of them or by their sum. -/
structure Overflowing (entries : List (UInt64 × Binary64)) : Prop where
  weighed : Weighed entries
  infinite : total entries = .infinite false

/-- Building ends with an error, and the program goes on. -/
def Reported (outcome : Except Failure SizeTable) : Prop :=
  ∃ failure, outcome = .error failure ∧ failure.isFatal = false

theorem any_not_weighed :
    (entries.any fun entry => !(Binary64.zero false).le entry.2) = true ↔ ¬ Weighed entries := by
  simp [Weighed]

/-- The last running sum is the sum of all weights. -/
theorem getLast_runningSums (sum : Binary64) (nonempty : runningSums sum entries ≠ []) :
    ((runningSums sum entries).getLast nonempty).2 =
      (entries.map Prod.snd).foldl (· + ·) sum := by
  induction entries generalizing sum with
  | nil => exact absurd rfl nonempty
  | cons entry rest ih =>
    cases rest with
    | nil => rfl
    | cons second later =>
      have more : runningSums (sum + entry.2) (second :: later) ≠ [] := List.cons_ne_nil _ _
      have behind := ih (sum + entry.2) more
      simp only [runningSums, List.map_cons, List.foldl_cons] at behind ⊢
      rw [← behind, List.getLast_cons_cons]

theorem Weighed.zero_le_total (weighed : Weighed entries) :
    (Binary64.zero false).le (total entries) = true := by
  refine Binary64.le_foldl_add (by decide +kernel) ?_
  intro weight member
  obtain ⟨entry, listed, rfl⟩ := List.mem_map.mp member
  exact weighed entry listed

theorem Weighed.zero_lt_total (weighed : Weighed entries)
    (some : (total entries).same (.zero false) = false) :
    (Binary64.zero false).lt (total entries) = true := by
  have above := weighed.zero_le_total
  rw [Binary64.lt_iff_not_le (by decide +kernel) (Binary64.ne_nan_of_nonneg above)]
  intro below
  simp [Binary64.same, above, below] at some

/-- Every list of entries has one of five outcomes, in the order in which they are looked for. -/
theorem ofWeights_cases (entries : List (UInt64 × Binary64)) :
    (entries = [] ∧ ofWeights entries = .error .empty) ∨
    (¬ Weighed entries ∧ ofWeights entries = .error .invalidWeight) ∨
    ((total entries).same (.zero false) = true ∧ ofWeights entries = .error .allZero) ∨
    (Overflowing entries ∧ ofWeights entries = .error .infiniteTotal) ∨
    (Usable entries ∧ ∃ table, ofWeights entries = .ok table) := by
  unfold ofWeights
  split
  · next none =>
    refine .inl ⟨?_, rfl⟩
    cases entries with
    | nil => rfl
    | cons entry rest => cases none
  · next first rest sums =>
    have nonempty : entries ≠ [] := by
      rintro rfl
      cases sums
    have last : ((first :: rest).getLast (List.cons_ne_nil _ _)).2 = total entries := by
      have some : runningSums (.zero false) entries ≠ [] := by simp [sums]
      have whole := getLast_runningSums (.zero false) some
      simpa only [sums, total] using whole
    simp only [last]
    split
    · next improper => exact .inr (.inl ⟨any_not_weighed.mp improper, rfl⟩)
    next proper =>
    have weighed : Weighed entries := Classical.not_not.mp (proper ∘ any_not_weighed.mpr)
    split
    · next zero => exact .inr (.inr (.inl ⟨zero, rfl⟩))
    next some =>
    have positive := weighed.zero_lt_total (Bool.not_eq_true _ ▸ some)
    split
    · next infinite =>
      have unbounded := (Binary64.infinite_or_isFinite weighed.zero_le_total).resolve_right
        (by simpa using infinite)
      exact .inr (.inr (.inr (.inl ⟨⟨weighed, unbounded⟩, rfl⟩)))
    · next finite =>
      have usable : Usable entries := ⟨nonempty, weighed, positive, by simpa using finite⟩
      exact .inr (.inr (.inr (.inr ⟨usable, _, rfl⟩)))

theorem Usable.not_overflowing (usable : Usable entries) : ¬ Overflowing entries := by
  intro overflowing
  have finite := usable.finite
  rw [overflowing.infinite] at finite
  cases finite

theorem neither_of_zero (zero : (total entries).same (.zero false) = true) :
    ¬ Usable entries ∧ ¬ Overflowing entries := by
  obtain ⟨below, -⟩ := Bool.and_eq_true_iff.mp zero
  constructor
  · intro usable
    exact Binary64.not_le_of_lt usable.positive below
  · intro overflowing
    rw [overflowing.infinite] at below
    exact absurd below (by decide +kernel)

/-- Entries overflow, are usable, or are neither and their failure is reported. -/
theorem ofWeights_verdict (entries : List (UInt64 × Binary64)) :
    (Overflowing entries ∧ ofWeights entries = .error .infiniteTotal) ∨
    (Usable entries ∧ ∃ table, ofWeights entries = .ok table) ∨
    ((¬ Usable entries ∧ ¬ Overflowing entries) ∧ Reported (ofWeights entries)) := by
  rcases ofWeights_cases entries with
    ⟨rfl, failed⟩ | ⟨improper, failed⟩ | ⟨zero, failed⟩ | overflow | built
  · exact .inr (.inr ⟨neither_of_zero (by decide +kernel), _, failed, rfl⟩)
  · exact .inr (.inr ⟨⟨improper ∘ Usable.weighed, improper ∘ Overflowing.weighed⟩, _, failed, rfl⟩)
  · exact .inr (.inr ⟨neither_of_zero zero, _, failed, rfl⟩)
  · exact .inl overflow
  · exact .inr (.inl built)

theorem Usable.exists_table (usable : Usable entries) :
    ∃ table, ofWeights entries = .ok table := by
  rcases ofWeights_verdict entries with ⟨overflowing, -⟩ | ⟨-, built⟩ | ⟨⟨unusable, -⟩, -⟩
  · exact absurd overflowing usable.not_overflowing
  · exact built
  · exact absurd usable unusable

/-- Only usable entries make a table. -/
theorem usable_of_ofWeights {table : SizeTable} (built : ofWeights entries = .ok table) :
    Usable entries := by
  rcases ofWeights_verdict entries with ⟨-, stopped⟩ | ⟨usable, -⟩ | ⟨-, failure, failed, -⟩
  · cases built.symm.trans stopped
  · exact usable
  · cases built.symm.trans failed

/-- What is asked for entries: usable ones make a table, and all others are reported. -/
def Judged (entries : List (UInt64 × Binary64)) : Prop :=
  ((∃ table, ofWeights entries = .ok table) ↔ Usable entries) ∧
  (¬ Usable entries → Reported (ofWeights entries))

theorem not_judged_of_infiniteTotal (stopped : ofWeights entries = .error .infiniteTotal) :
    ¬ Judged entries := by
  rintro ⟨accepted, reported⟩
  have unusable : ¬ Usable entries := by
    rw [← accepted, stopped]
    simp
  obtain ⟨failure, failed, goesOn⟩ := reported unusable
  obtain rfl : .infiniteTotal = failure := Except.error.inj (stopped.symm.trans failed)
  cases goesOn

/-- Entries are judged as they should be just if their weights do not add up to infinity. A table is
made of the usable ones and of no others, and what adds up to infinity stops the program. -/
theorem ofWeights_reports_iff (entries : List (UInt64 × Binary64)) :
    (Judged entries ↔ ¬ Overflowing entries) ∧
    ((∃ table, ofWeights entries = .ok table) ↔ Usable entries) ∧
    (ofWeights entries = .error .infiniteTotal ↔ Overflowing entries) := by
  rcases ofWeights_verdict entries with
    ⟨overflowing, stopped⟩ | ⟨usable, built⟩ | ⟨⟨unusable, bounded⟩, reported⟩
  · have unusable : ¬ Usable entries := fun usable => usable.not_overflowing overflowing
    refine ⟨?_, ?_, ?_⟩
    · exact iff_of_false (not_judged_of_infiniteTotal stopped) (not_not_intro overflowing)
    · exact iff_of_false (by simp [stopped]) unusable
    · exact iff_of_true stopped overflowing
  · have bounded := usable.not_overflowing
    refine ⟨?_, ?_, ?_⟩
    · exact iff_of_true ⟨iff_of_true built usable, absurd usable⟩ bounded
    · exact iff_of_true built usable
    · obtain ⟨table, built⟩ := built
      exact iff_of_false (by simp [built]) bounded
  · obtain ⟨failure, failed, goesOn⟩ := reported
    have refused : ¬ ∃ table, ofWeights entries = .ok table := by simp [failed]
    refine ⟨?_, ?_, ?_⟩
    · exact iff_of_true ⟨iff_of_false refused unusable, fun _ => ⟨failure, failed, goesOn⟩⟩ bounded
    · exact iff_of_false refused unusable
    · refine iff_of_false ?_ bounded
      rw [failed]
      rintro ⟨⟩
      cases goesOn

/-- Two sizes with weights that are finite, and whose sum is not. -/
def heavy : List (UInt64 × Binary64) :=
  [(1, .ofInt (Numeral.tenTo 308)), (2, .ofInt (Numeral.tenTo 308))]

theorem heavy_stops :
    (∀ entry ∈ heavy, entry.2.isFinite = true) ∧ ¬ Usable heavy ∧
      ofWeights heavy = .error .infiniteTotal ∧ ¬ Judged heavy := by
  have weighed : Weighed heavy := by unfold Weighed; decide +kernel
  have unbounded : total heavy = .infinite false := by decide +kernel
  have overflowing : Overflowing heavy := ⟨weighed, unbounded⟩
  have unusable : ¬ Usable heavy := fun usable => usable.not_overflowing overflowing
  obtain ⟨-, stopped⟩ | ⟨usable, -⟩ | ⟨⟨-, bounded⟩, -⟩ := ofWeights_verdict heavy
  · exact ⟨by decide +kernel, unusable, stopped, not_judged_of_infiniteTotal stopped⟩
  · exact absurd usable unusable
  · exact absurd overflowing bounded

end LoadProbe.SizeTable
