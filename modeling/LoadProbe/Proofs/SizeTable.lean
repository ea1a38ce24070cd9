import LoadProbe.SizeTable

/-!
The sizes of weighted tables. A table keeps the sizes that it was built of, and a draw picks one of
them. Main statements: `sizes_of_ofWeights` and `pick_mem_sizes`.
-/
namespace LoadProbe.SizeTable

theorem map_fst_runningSums (sum : Binary64) (entries : List (UInt64 × Binary64)) :
    (runningSums sum entries).map Prod.fst = entries.map Prod.fst := by
  induction entries generalizing sum with
  | nil => rfl
  | cons entry rest ih => simp [runningSums, ih]

/-- A table is made of its entries with their running sums, and of the last sum lowered. -/
theorem parts_of_ofWeights {entries : List (UInt64 × Binary64)} {table : SizeTable}
    (built : ofWeights entries = .ok table) :
    table.steps = runningSums (.zero false) entries ∧
      table.scale = lowered (table.steps.getLast table.nonempty).2
        (table.steps.getLast table.nonempty).2 := by
  unfold ofWeights at built
  split at built
  · cases built
  · next first rest sums =>
    simp only at built
    split at built
    · cases built
    split at built
    · cases built
    split at built
    · cases built
    obtain rfl := Except.ok.inj built
    exact ⟨sums.symm, rfl⟩

theorem steps_of_ofWeights {entries : List (UInt64 × Binary64)} {table : SizeTable}
    (built : ofWeights entries = .ok table) : table.steps = runningSums (.zero false) entries :=
  (parts_of_ofWeights built).1

theorem sizes_of_ofWeights {entries : List (UInt64 × Binary64)} {table : SizeTable}
    (built : ofWeights entries = .ok table) : table.sizes = entries.map Prod.fst := by
  rw [sizes, steps_of_ofWeights built, map_fst_runningSums]

/-- Whether a step is found or the last one stands in, it is a step of the table. -/
theorem pick_mem_sizes (table : SizeTable) (draw : UInt64) : table.pick draw ∈ table.sizes := by
  unfold pick sizes
  simp only
  split
  · next step found => exact List.mem_map_of_mem (List.mem_of_find?_eq_some found)
  · exact List.mem_map_of_mem (List.getLast_mem table.nonempty)

theorem sizes_fixed {size : UInt64} {table : SizeTable} (built : fixed size = .ok table) :
    table.sizes = [size] :=
  sizes_of_ofWeights built

theorem sizes_usual {table : SizeTable} (built : usual = .ok table) : table.sizes = usualSizes :=
  sizes_of_ofWeights built

end LoadProbe.SizeTable
