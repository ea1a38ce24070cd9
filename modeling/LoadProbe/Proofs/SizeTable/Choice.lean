import LoadProbe.Proofs.Binary64.Products
import LoadProbe.Proofs.SizeTable
import LoadProbe.Proofs.SizeTable.Acceptance

/-!
Which entry of a table a draw picks. A draw is scaled to a number below the total weight, and that
number falls to the one entry whose own weight takes the running sum past it. Main statement:
`pick_decided`, for every table that is made of weights.
-/
namespace LoadProbe

namespace Draws

theorem place?_fraction52 (draw : UInt64) :
    (fraction52 draw).place? = some (Binary64.roundedPlace
      (((draw.toNat >>> 12) * Binary64.one : Nat) : Int) (1 <<< 52)) :=
  Binary64.place?_ofQuotient false _ _

theorem isFinite_fraction52 (draw : UInt64) : (fraction52 draw).isFinite = true := by
  have room : 2 * (UInt64.size * Binary64.one) + 1 < Binary64.limit := by decide +kernel
  refine Binary64.isFinite_ofQuotient ?_
  have shifted : draw.toNat >>> 12 ≤ UInt64.size := by
    rw [Nat.shiftRight_eq_div_pow]
    exact Nat.le_trans (Nat.div_le_self _ _) (Nat.le_of_lt draw.toNat_lt_size)
  have rounded := Binary64.nearest_le ((draw.toNat >>> 12) * Binary64.one) (1 <<< 52)
  have quotient := Nat.div_le_self ((draw.toNat >>> 12) * Binary64.one) (1 <<< 52)
  have units := Nat.mul_le_mul_right Binary64.one shifted
  omega

theorem fraction52_mono {draw later : UInt64} (le : draw ≤ later) :
    (fraction52 draw).le (fraction52 later) = true := by
  refine Binary64.le_iff.mpr ⟨_, _, place?_fraction52 draw, place?_fraction52 later, ?_⟩
  have shifted : draw.toNat >>> 12 ≤ later.toNat >>> 12 := by
    rw [Nat.shiftRight_eq_div_pow, Nat.shiftRight_eq_div_pow]
    exact Nat.div_le_div_right (UInt64.le_iff_toNat_le.mp le)
  exact Binary64.roundedPlace_mono _ (Int.ofNat_le.mpr (Nat.mul_le_mul_right _ shifted))

theorem zero_le_fraction52 (draw : UInt64) :
    (Binary64.zero false).le (fraction52 draw) = true := by
  have least : fraction52 0 = .zero false := by decide +kernel
  rw [← least]
  exact fraction52_mono (UInt64.le_iff_toNat_le.mpr (Nat.zero_le _))

end Draws

namespace SizeTable

variable {entries : List (UInt64 × Binary64)} {table : SizeTable}

/-- The number that a draw is scaled to. -/
def chosen (table : SizeTable) (draw : UInt64) : Binary64 := Draws.fraction52 draw * table.scale

/-- The weights of all entries before an index, added from the left. -/
def sumBefore (entries : List (UInt64 × Binary64)) (index : Nat) : Binary64 :=
  total (entries.take index)

/-- A number falls to an entry if it lies between the running sum before that entry, which it may
equal, and the one with it, which it may not. -/
structure FallsTo (entries : List (UInt64 × Binary64)) (index : Nat) (number : Binary64) :
    Prop where
  inside : index < entries.length
  reached : (sumBefore entries index).le number = true
  below : number.lt (sumBefore entries (index + 1)) = true

/-- The first step whose running sum lies above the number of a draw. -/
def rank (table : SizeTable) (draw : UInt64) : Nat :=
  table.steps.findIdx fun step => (table.chosen draw).lt step.2

/-- What a draw picks: the entry that its number falls to, which is the only such entry, with the size
that stands at its index and a weight above zero. -/
structure Picks (entries : List (UInt64 × Binary64)) (table : SizeTable) (draw : UInt64)
    (index : Nat) : Prop where
  falls : FallsTo entries index (table.chosen draw)
  only (other : Nat) : FallsTo entries other (table.chosen draw) → other = index
  size : table.sizes[index]? = some (table.pick draw)
  weighs : ∃ weight, entries[index]? = some (table.pick draw, weight) ∧
    (Binary64.zero false).lt weight = true

theorem shrink_nonneg {number : Binary64} (finite : number.isFinite = true)
    (nonnegative : (Binary64.zero false).le number = true) :
    number.shrink.isFinite = true ∧ (Binary64.zero false).le number.shrink = true := by
  cases number with
  | nan | infinite => cases finite
  | finite negative units fits =>
    obtain ⟨place, stands, above⟩ := Binary64.zero_le_iff.mp nonnegative
    obtain rfl : Binary64.signed negative units = place := Option.some.inj stands
    have smaller : Binary64.below units ≤ units := by
      rcases Nat.eq_zero_or_pos units with rfl | positive
      · decide
      · exact Nat.le_of_lt (Binary64.below_lt positive)
    have bounded : Binary64.below units < Binary64.limit := Nat.lt_of_le_of_lt smaller fits.1
    rw [Binary64.shrink, Binary64.ofAligned, dif_pos bounded]
    refine ⟨rfl, Binary64.zero_le_iff.mpr ⟨_, rfl, ?_⟩⟩
    cases negative with
    | false => exact Int.natCast_nonneg _
    | true =>
      simp only [Binary64.signed, if_true] at above ⊢
      omega

/-- A number without magnitude stands at zero. -/
theorem place_of_magnitude {number : Binary64} {place : Int} (stands : number.place? = some place)
    (none : magnitude number = 0) (finite : number.isFinite = true) : place = 0 := by
  cases number with
  | nan | infinite => cases finite
  | finite negative units fits =>
    obtain rfl : Binary64.signed negative units = place := Option.some.inj stands
    obtain rfl : units = 0 := none
    cases negative <;> rfl

/-- Lowering ends below the total. Where nothing is left to lower, the product is zero. -/
theorem lowered_spec {total scale : Binary64} (positive : (Binary64.zero false).lt total = true)
    (finite : scale.isFinite = true) (nonnegative : (Binary64.zero false).le scale = true) :
    (lowered total scale).isFinite = true ∧
      (Binary64.zero false).le (lowered total scale) = true ∧
      (lowered total scale * largestFraction).lt total = true := by
  induction scale using lowered.induct total with
  | case1 scale lowers ih =>
    rw [lowered, if_pos lowers]
    obtain ⟨stillFinite, above⟩ := shrink_nonneg finite nonnegative
    exact ih stillFinite above
  | case2 scale ends =>
    rw [lowered, if_neg ends]
    refine ⟨finite, nonnegative, ?_⟩
    obtain ⟨most, totalPlace, above⟩ := Binary64.zero_lt_iff.mp positive
    have fractionFinite : largestFraction.isFinite = true := Draws.isFinite_fraction52 _
    obtain ⟨place, stands⟩ := Binary64.place?_of_isFinite finite
    obtain ⟨fraction, fractionPlace⟩ := Binary64.place?_of_isFinite fractionFinite
    have product := Binary64.place?_mul finite fractionFinite stands fractionPlace
    refine Binary64.lt_iff.mpr ⟨_, _, product, totalPlace, ?_⟩
    -- Lowering stops at zero, too, so the bound is not always what ended it.
    rcases Nat.eq_zero_or_pos (magnitude scale) with none | some
    · obtain rfl : place = 0 := place_of_magnitude stands none finite
      rwa [Int.zero_mul, Binary64.roundedPlace_zero]
    · rw [← Int.not_le]
      exact fun reached => ends ⟨some, Binary64.le_iff.mpr ⟨_, _, totalPlace, product, reached⟩⟩

theorem getLast_steps (built : ofWeights entries = .ok table) :
    (table.steps.getLast table.nonempty).2 = total entries := by
  have steps := steps_of_ofWeights built
  have some : runningSums (.zero false) entries ≠ [] := steps ▸ table.nonempty
  simp only [steps]
  exact getLast_runningSums (.zero false) some

/-- What draws are scaled by. -/
theorem scale_spec (built : ofWeights entries = .ok table) :
    table.scale.isFinite = true ∧ (Binary64.zero false).le table.scale = true ∧
      (table.scale * largestFraction).lt (total entries) = true := by
  have usable := usable_of_ofWeights built
  rw [(parts_of_ofWeights built).2, getLast_steps built]
  exact lowered_spec usable.positive usable.finite usable.weighed.zero_le_total

theorem chosen_mono (built : ofWeights entries = .ok table) {draw later : UInt64}
    (le : draw ≤ later) : (table.chosen draw).le (table.chosen later) = true := by
  obtain ⟨finite, nonnegative, -⟩ := scale_spec built
  exact Binary64.mul_le_mul_right (Draws.isFinite_fraction52 draw) (Draws.isFinite_fraction52 later)
    finite nonnegative (Draws.fraction52_mono le)

/-- Draws are scaled to numbers from zero up to, not including, the total. -/
theorem chosen_within (built : ofWeights entries = .ok table) (draw : UInt64) :
    (Binary64.zero false).le (table.chosen draw) = true ∧
      (table.chosen draw).lt (total entries) = true := by
  obtain ⟨finite, nonnegative, below⟩ := scale_spec built
  refine ⟨Binary64.zero_le_mul (Draws.isFinite_fraction52 draw) finite
    (Draws.zero_le_fraction52 draw) nonnegative, ?_⟩
  have largest : draw ≤ UInt64.ofNat (UInt64.size - 1) := by
    rw [UInt64.le_iff_toNat_le]
    exact Nat.le_sub_one_of_lt draw.toNat_lt_size
  rw [Binary64.mul_comm] at below
  exact Binary64.lt_of_le_of_lt (chosen_mono built largest) below

theorem total_append (front rest : List (UInt64 × Binary64)) :
    total (front ++ rest) = (rest.map Prod.snd).foldl (· + ·) (total front) := by
  simp only [total, List.map_append, List.foldl_append]

theorem sumBefore_succ {index : Nat} (inside : index < entries.length) :
    sumBefore entries (index + 1) = sumBefore entries index + entries[index].2 := by
  rw [sumBefore, List.take_succ_eq_append_getElem inside, total_append]
  rfl

/-- Running sums never fall, however their terms are rounded. -/
theorem Weighed.sumBefore_le (weighed : Weighed entries) {index later : Nat} (le : index ≤ later) :
    (sumBefore entries index).le (sumBefore entries later) = true := by
  obtain ⟨further, rfl⟩ := Nat.exists_eq_add_of_le le
  have front : Weighed (entries.take index) := fun entry member =>
    weighed entry (List.mem_of_mem_take member)
  rw [sumBefore, sumBefore, List.take_add, total_append]
  refine Binary64.le_foldl_add front.zero_le_total ?_
  intro weight member
  obtain ⟨entry, listed, rfl⟩ := List.mem_map.mp member
  exact weighed entry (List.mem_of_mem_drop (List.mem_of_mem_take listed))

/-- Larger numbers fall to later entries, or to the same one. -/
theorem FallsTo.le_of_le (weighed : Weighed entries) {index place : Nat}
    {number larger : Binary64} (falls : FallsTo entries index number)
    (behind : FallsTo entries place larger) (le : number.le larger = true) : index ≤ place := by
  rw [← Nat.not_lt]
  intro before
  have apart : (sumBefore entries (place + 1)).le larger = true :=
    Binary64.le_trans (weighed.sumBefore_le before) (Binary64.le_trans falls.reached le)
  exact Binary64.not_le_of_lt behind.below apart

theorem FallsTo.unique (weighed : Weighed entries) {index place : Nat} {number : Binary64}
    (one : FallsTo entries index number) (other : FallsTo entries place number) :
    index = place := by
  have self : number.le number = true :=
    Binary64.le_refl fun none => Binary64.not_le_nan _ (none ▸ one.reached)
  exact Nat.le_antisymm (one.le_of_le weighed other self) (other.le_of_le weighed one self)

/-- An entry that a number falls to has a weight that takes the sum further. -/
theorem FallsTo.weight_pos (weighed : Weighed entries) {index : Nat} {number : Binary64}
    (falls : FallsTo entries index number) (inside : index < entries.length) :
    (Binary64.zero false).lt entries[index].2 = true := by
  have grown := Binary64.lt_of_le_of_lt falls.reached falls.below
  rw [sumBefore_succ inside] at grown
  exact Binary64.zero_lt_of_lt_add (weighed _ (List.getElem_mem inside)) grown

theorem length_runningSums (sum : Binary64) (entries : List (UInt64 × Binary64)) :
    (runningSums sum entries).length = entries.length := by
  rw [← List.length_map Prod.fst, map_fst_runningSums, List.length_map]

theorem getElem_runningSums (sum : Binary64) (entries : List (UInt64 × Binary64)) {index : Nat}
    (inside : index < (runningSums sum entries).length) :
    (runningSums sum entries)[index].2 =
      ((entries.take (index + 1)).map Prod.snd).foldl (· + ·) sum := by
  induction entries generalizing sum index with
  | nil => cases inside
  | cons entry rest ih =>
    cases index with
    | zero => rfl
    | succ before => exact ih (sum + entry.2) (Nat.lt_of_succ_lt_succ inside)

/-- The step of an entry holds the sum of all weights up to its own. -/
theorem getElem_steps (built : ofWeights entries = .ok table) {index : Nat}
    (inside : index < table.steps.length) :
    table.steps[index].2 = sumBefore entries (index + 1) := by
  have steps := steps_of_ofWeights built
  simp only [steps] at inside ⊢
  exact getElem_runningSums _ _ inside

/-- Some running sum lies above the number of a draw, since the last one does. -/
theorem rank_lt (built : ofWeights entries = .ok table) (draw : UInt64) :
    table.rank draw < table.steps.length := by
  refine List.findIdx_lt_length_of_exists ?_
  refine ⟨_, List.getLast_mem table.nonempty, ?_⟩
  rw [getLast_steps built]
  exact (chosen_within built draw).2

/-- A draw picks the size in the step that its number is looked up in; the last step never stands in
for it. -/
theorem getElem?_sizes_rank (built : ofWeights entries = .ok table) (draw : UInt64) :
    table.sizes[table.rank draw]? = some (table.pick draw) := by
  have inside := rank_lt built draw
  have first : (table.steps.find? fun step => (table.chosen draw).lt step.2) =
      table.steps[table.rank draw]? := List.find?_eq_getElem?_findIdx
  have picked : table.pick draw = table.steps[table.rank draw].1 := by
    unfold chosen at first
    simp only [pick, first, List.getElem?_eq_getElem inside]
  rw [picked, sizes, List.getElem?_map, List.getElem?_eq_getElem inside, Option.map_some]

/-- The number of a draw falls to the entry that it picks. -/
theorem rank_falls (built : ofWeights entries = .ok table) (draw : UInt64) :
    FallsTo entries (table.rank draw) (table.chosen draw) := by
  have inside := rank_lt built draw
  have length : table.steps.length = entries.length := by
    rw [steps_of_ofWeights built, length_runningSums]
  refine ⟨length ▸ inside, ?_, ?_⟩
  · cases rank : table.rank draw with
    | zero => exact (chosen_within built draw).1
    | succ before =>
      -- The step before the found one is passed over, so its sum is not above the number.
      have passed : before < table.rank draw := by omega
      have bound : before < table.steps.length := Nat.lt_trans passed inside
      have notAbove := List.not_of_lt_findIdx passed
      rw [getElem_steps built bound] at notAbove
      have sumAbove : (Binary64.zero false).le (sumBefore entries (before + 1)) = true :=
        (usable_of_ofWeights built).weighed.sumBefore_le (Nat.zero_le (before + 1))
      obtain ⟨number, stands, -⟩ := Binary64.zero_le_iff.mp (chosen_within built draw).1
      obtain ⟨sum, sumPlace, -⟩ := Binary64.zero_le_iff.mp sumAbove
      exact Binary64.le_of_not_lt stands sumPlace (by simpa using notAbove)
  · have above : (table.chosen draw).lt table.steps[table.rank draw].2 = true :=
      List.findIdx_getElem (p := fun step : UInt64 × Binary64 => (table.chosen draw).lt step.2)
    rwa [getElem_steps built] at above

theorem rank_picks (built : ofWeights entries = .ok table) (draw : UInt64) :
    Picks entries table draw (table.rank draw) := by
  have weighed := (usable_of_ofWeights built).weighed
  have falls := rank_falls built draw
  have size := getElem?_sizes_rank built draw
  refine ⟨falls, fun other too => too.unique weighed falls, size, _, ?_,
    falls.weight_pos weighed falls.inside⟩
  rw [sizes_of_ofWeights built, List.getElem?_map, List.getElem?_eq_getElem falls.inside,
    Option.map_some, Option.some.injEq] at size
  rw [List.getElem?_eq_getElem falls.inside, ← size]

/-- Whatever the weights of a table are, each draw is scaled to a number from zero up to, not
including, their total, and picks the one entry that this number falls to. So no entry without weight
is picked, wherever it stands, and a larger draw picks no earlier entry. -/
theorem pick_decided (built : ofWeights entries = .ok table) :
    (∀ draw, (Binary64.zero false).le (table.chosen draw) = true ∧
      (table.chosen draw).lt (total entries) = true) ∧
    (∀ draw, ∃ index, Picks entries table draw index) ∧
    (∀ draw later, draw ≤ later → ∀ index place, Picks entries table draw index →
      Picks entries table later place → index ≤ place) := by
  have weighed := (usable_of_ofWeights built).weighed
  refine ⟨chosen_within built, fun draw => ⟨_, rank_picks built draw⟩, ?_⟩
  intro draw later le index place one other
  exact one.falls.le_of_le weighed other.falls (chosen_mono built le)

/-- Two sizes with weights, and others without any before, between and behind them. -/
def scattered : List (UInt64 × Binary64) :=
  [(1, .zero false), (3, .ofInt 1 / .ofInt 4), (9, .zero true), (9, .zero false),
    (25, .ofInt 1 / .ofInt 2), (7, .zero false)]

/-- Every draw picks one of the two sizes with weights. -/
theorem pick_decided_scattered : ∃ table, ofWeights scattered = .ok table ∧
    ∀ draw, table.pick draw = 3 ∨ table.pick draw = 25 := by
  have usable : Usable scattered :=
    ⟨List.cons_ne_nil _ _, by unfold Weighed; decide +kernel, by decide +kernel, by decide +kernel⟩
  obtain ⟨table, built⟩ := usable.exists_table
  refine ⟨table, built, fun draw => ?_⟩
  obtain ⟨index, picks⟩ := (pick_decided built).2.1 draw
  obtain ⟨weight, found, positive⟩ := picks.weighs
  have heavy : ∀ entry ∈ scattered, (Binary64.zero false).lt entry.2 = true →
      entry.1 = 3 ∨ entry.1 = 25 := by decide +kernel
  exact heavy _ (List.mem_of_getElem? found) positive

end SizeTable
end LoadProbe
