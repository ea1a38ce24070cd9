import LoadProbe.Distribution
import LoadProbe.Proofs.Binary64.Order

/-!
Quantiles as the inverse of a distribution. A share is looked up by the place of the first point that
reaches it, and all that is said of values follows from that place. Main statement:
`quantile_inverts`, for every distribution of ascending values.
-/
namespace LoadProbe.Distribution

variable {distribution : Distribution}

/-- Points of numbers, with their values in ascending order. -/
structure Ascending (distribution : Distribution) : Prop where
  numbers : ∀ point ∈ distribution.points, point.1 ≠ .nan ∧ point.2 ≠ .nan
  values : distribution.points.Pairwise fun point later => point.1.le later.1 = true

/-- Points with their shares in ascending order. -/
def Cumulative (distribution : Distribution) : Prop :=
  distribution.points.Pairwise fun point later => point.2.le later.2 = true

/-- No value stands in two points, and they grow from each point to the next. -/
def Strict (distribution : Distribution) : Prop :=
  distribution.points.Pairwise fun point later => point.1.lt later.1 = true

def last (distribution : Distribution) : Point :=
  distribution.points.getLast distribution.nonempty

/-- The share of cases up to a value: the largest one of the points whose value is not above it. -/
structure ShareUpTo (distribution : Distribution) (value most : Binary64) : Prop where
  reached : ∃ point ∈ distribution.points, point.1.le value = true ∧ point.2 = most
  largest : ∀ point ∈ distribution.points, point.1.le value = true → point.2.le most = true

/-- The shares that fall to the point at an index: those above the share of the point before it, up to
its own share. The first point has no lower bound, and the last one no upper bound. -/
structure FallsTo (distribution : Distribution) (index : Nat) (share : Binary64) : Prop where
  above : ∀ before, index = before + 1 →
    ∀ point, distribution.points[before]? = some point → point.2.lt share = true
  upTo : index + 1 < distribution.size →
    ∀ point, distribution.points[index]? = some point → share.le point.2 = true

/-- The index of the first point that reaches a share, or of the last point. -/
def rank (distribution : Distribution) (share : Binary64) : Nat :=
  min (distribution.points.findIdx fun point => share.le point.2) (distribution.size - 1)

theorem length_pos (distribution : Distribution) : 0 < distribution.points.length :=
  List.length_pos_iff.mpr distribution.nonempty

@[simp] theorem rank_lt (distribution : Distribution) (share : Binary64) :
    distribution.rank share < distribution.points.length :=
  Nat.lt_of_le_of_lt (Nat.min_le_right _ _) (Nat.sub_one_lt_of_lt distribution.length_pos)

/-- The point that a share is looked up in. -/
def pick (distribution : Distribution) (share : Binary64) : Point :=
  distribution.points[distribution.rank share]

theorem quantile_eq_pick (distribution : Distribution) (share : Binary64) :
    distribution.quantile share = (distribution.pick share).1 := by
  have first : distribution.points.find? (fun point => share.le point.2) =
      distribution.points[distribution.points.findIdx fun point => share.le point.2]? :=
    List.find?_eq_getElem?_findIdx
  have some := distribution.length_pos
  unfold quantile pick
  rcases Nat.lt_or_ge (distribution.points.findIdx fun point => share.le point.2)
    distribution.points.length with found | beyond
  · have rank : distribution.rank share =
        distribution.points.findIdx fun point => share.le point.2 := by
      unfold rank size
      omega
    simp only [first, rank, List.getElem?_eq_getElem found]
  · have rank : distribution.rank share = distribution.points.length - 1 := by
      unfold rank size
      omega
    simp only [first, rank, List.getElem?_eq_none beyond, List.getLast_eq_getElem]

/-- A larger share is reached no earlier. -/
theorem rank_mono (distribution : Distribution) {share larger : Binary64}
    (le : share.le larger = true) : distribution.rank share ≤ distribution.rank larger := by
  have later := List.findIdx_le_findIdx (l := distribution.points)
    (p := fun point => larger.le point.2) (q := fun point => share.le point.2)
    fun point _ reached => Binary64.le_trans le reached
  unfold rank
  omega

/-- The points before the looked up one do not reach the share. -/
theorem not_le_of_lt_rank {share : Binary64} {index : Nat} (bound : index < distribution.points.length)
    (before : index < distribution.rank share) :
    ¬ share.le distribution.points[index].2 = true := by
  have first : index < distribution.points.findIdx fun point => share.le point.2 :=
    Nat.lt_of_lt_of_le before (Nat.min_le_left _ _)
  simpa using List.not_of_lt_findIdx first

/-- The looked up point reaches the share, unless it is the last one. -/
theorem le_pick {share : Binary64} (inside : distribution.rank share + 1 < distribution.size) :
    share.le (distribution.pick share).2 = true := by
  have rank : distribution.rank share =
      distribution.points.findIdx fun point => share.le point.2 := by
    unfold rank at inside ⊢
    omega
  simp only [pick, rank]
  exact List.findIdx_getElem (p := fun point : Point => share.le point.2)

theorem rank_le_of_le {share : Binary64} {index : Nat} (bound : index < distribution.points.length)
    (reached : share.le distribution.points[index].2 = true) : distribution.rank share ≤ index := by
  rw [← Nat.not_lt]
  exact fun before => not_le_of_lt_rank bound before reached

theorem last_eq {index : Nat} (atEnd : index + 1 = distribution.points.length) :
    distribution.last = distribution.points[index] := by
  obtain rfl : index = distribution.points.length - 1 := by omega
  exact List.getLast_eq_getElem distribution.nonempty

/-- A share is looked up in the last point, or in one that reaches it. -/
theorem pick_cases (distribution : Distribution) (share : Binary64) :
    share.le (distribution.pick share).2 = true ∨ distribution.pick share = distribution.last := by
  have bound := distribution.rank_lt share
  rcases Nat.lt_or_ge (distribution.rank share + 1) distribution.points.length with inside | atEnd
  · exact .inl (le_pick inside)
  · exact .inr (last_eq (by omega)).symm

/-- A column in order is in order from any index to any later one. -/
theorem column_le {points : List Point} {column : Point → Binary64}
    (order : points.Pairwise fun point later => (column point).le (column later) = true)
    (known : ∀ point ∈ points, column point ≠ .nan) {index later : Nat} (le : index ≤ later)
    (bound : later < points.length) :
    (column points[index]).le (column points[later]) = true := by
  rcases Nat.lt_or_eq_of_le le with before | same
  · exact List.pairwise_iff_getElem.mp order _ _ _ _ before
  · subst same
    exact Binary64.le_refl (known _ (List.getElem_mem bound))

theorem Ascending.value_le (ascending : distribution.Ascending) {index later : Nat}
    (le : index ≤ later) (bound : later < distribution.points.length) :
    distribution.points[index].1.le distribution.points[later].1 = true :=
  column_le ascending.values (fun point member => (ascending.numbers point member).1) le bound

theorem Ascending.share_le (ascending : distribution.Ascending)
    (cumulative : distribution.Cumulative) {index later : Nat} (le : index ≤ later)
    (bound : later < distribution.points.length) :
    distribution.points[index].2.le distribution.points[later].2 = true :=
  column_le cumulative (fun point member => (ascending.numbers point member).2) le bound

theorem Ascending.quantile_mono (ascending : distribution.Ascending) {share larger : Binary64}
    (le : share.le larger = true) :
    (distribution.quantile share).le (distribution.quantile larger) = true := by
  rw [quantile_eq_pick, quantile_eq_pick]
  exact ascending.value_le (distribution.rank_mono le) (distribution.rank_lt larger)

/-- A share that some point reaches has a value that is at most the value of such a point, and is one. -/
theorem Ascending.quantile_le_iff (ascending : distribution.Ascending) {share : Binary64}
    (within : share.le distribution.last.2 = true) (value : Binary64) :
    (distribution.quantile share).le value = true ↔
      ∃ point ∈ distribution.points, point.1.le value = true ∧ share.le point.2 = true := by
  rw [quantile_eq_pick]
  constructor
  · intro le
    refine ⟨distribution.pick share, List.getElem_mem _, le, ?_⟩
    rcases distribution.pick_cases share with reached | atEnd
    · exact reached
    · rwa [atEnd]
  · rintro ⟨point, member, le, reached⟩
    obtain ⟨index, bound, rfl⟩ := List.mem_iff_getElem.mp member
    exact Binary64.le_trans (ascending.value_le (rank_le_of_le bound reached) bound) le

theorem exists_largest {numbers : List Binary64} (some : numbers ≠ [])
    (known : ∀ number ∈ numbers, number ≠ .nan) :
    ∃ most ∈ numbers, ∀ number ∈ numbers, number.le most = true := by
  induction numbers with
  | nil => exact absurd rfl some
  | cons first rest ih =>
    have firstKnown := known first List.mem_cons_self
    by_cases empty : rest = []
    · subst empty
      exact ⟨first, List.mem_cons_self, by simpa using Binary64.le_refl firstKnown⟩
    · obtain ⟨most, member, largest⟩ :=
        ih empty fun number later => known number (List.mem_cons_of_mem first later)
      have mostKnown := known most (List.mem_cons_of_mem first member)
      rcases Binary64.le_total firstKnown mostKnown with below | above
      · exact ⟨most, List.mem_cons_of_mem first member, List.forall_mem_cons.mpr ⟨below, largest⟩⟩
      · refine ⟨first, List.mem_cons_self, List.forall_mem_cons.mpr
          ⟨Binary64.le_refl firstKnown, fun number later => ?_⟩⟩
        exact Binary64.le_trans (largest number later) above

/-- Some point up to a value reaches a share just if the share of cases up to the value does. -/
theorem Ascending.reached_iff (ascending : distribution.Ascending) (share value : Binary64) :
    (∃ point ∈ distribution.points, point.1.le value = true ∧ share.le point.2 = true) ↔
      ∃ most, distribution.ShareUpTo value most ∧ share.le most = true := by
  constructor
  · rintro ⟨point, member, le, reached⟩
    let upTo := distribution.points.filter fun point => point.1.le value
    have listed {other : Point} :
        other ∈ upTo ↔ other ∈ distribution.points ∧ other.1.le value = true := by
      simp [upTo]
    have some : upTo.map Prod.snd ≠ [] :=
      List.ne_nil_of_mem (List.mem_map_of_mem (listed.mpr ⟨member, le⟩))
    obtain ⟨most, found, largest⟩ := exists_largest some fun number shown => by
      obtain ⟨other, inside, rfl⟩ := List.mem_map.mp shown
      exact (ascending.numbers other (listed.mp inside).1).2
    have bounds : ∀ other ∈ distribution.points, other.1.le value = true →
        other.2.le most = true := fun other inside below =>
      largest other.2 (List.mem_map_of_mem (listed.mpr ⟨inside, below⟩))
    obtain ⟨largestPoint, inside, rfl⟩ := List.mem_map.mp found
    exact ⟨largestPoint.2,
      ⟨⟨largestPoint, (listed.mp inside).1, (listed.mp inside).2, rfl⟩, bounds⟩,
      Binary64.le_trans reached (bounds point member le)⟩
  · rintro ⟨most, ⟨⟨point, member, le, rfl⟩, -⟩, reached⟩
    exact ⟨point, member, le, reached⟩

/-- A share that the last point does not reach is reached by none. -/
theorem Ascending.quantile_beyond (ascending : distribution.Ascending)
    (cumulative : distribution.Cumulative) {share : Binary64}
    (beyond : ¬ share.le distribution.last.2 = true) :
    distribution.quantile share = distribution.last.1 := by
  rw [quantile_eq_pick]
  rcases distribution.pick_cases share with reached | atEnd
  · refine absurd (Binary64.le_trans reached ?_) beyond
    have some := distribution.length_pos
    rw [last_eq (Nat.sub_add_cancel some)]
    exact ascending.share_le cumulative (Nat.le_sub_one_of_lt (distribution.rank_lt share)) _
  · rw [atEnd]

/-- A share falls to the point that it is looked up in. -/
theorem Ascending.rank_eq_iff (ascending : distribution.Ascending)
    (cumulative : distribution.Cumulative) {share : Binary64} (known : share ≠ .nan) {index : Nat}
    (bound : index < distribution.points.length) :
    distribution.rank share = index ↔ distribution.FallsTo index share := by
  have shareKnown {index : Nat} (bound : index < distribution.points.length) :
      distribution.points[index].2 ≠ .nan := (ascending.numbers _ (List.getElem_mem bound)).2
  constructor
  · rintro rfl
    constructor
    · intro before next point found
      obtain ⟨inside, rfl⟩ := List.getElem?_eq_some_iff.mp found
      rw [Binary64.lt_iff_not_le (shareKnown inside) known]
      exact not_le_of_lt_rank inside (by omega)
    · intro inside point found
      obtain ⟨_, rfl⟩ := List.getElem?_eq_some_iff.mp found
      exact le_pick inside
  · intro falls
    refine Nat.le_antisymm ?_ ?_
    · rcases Nat.lt_or_ge (index + 1) distribution.points.length with inside | atEnd
      · exact rank_le_of_le bound
          (falls.upTo inside _ (List.getElem?_eq_getElem bound))
      · have lookedUp := distribution.rank_lt share
        omega
    · rw [← Nat.not_lt]
      intro earlier
      obtain ⟨before, rfl⟩ := Nat.exists_eq_succ_of_ne_zero (Nat.ne_zero_of_lt earlier)
      have inside : before < distribution.points.length := Nat.lt_of_succ_lt bound
      have above := falls.above before rfl _ (List.getElem?_eq_getElem inside)
      rw [Binary64.lt_iff_not_le (shareKnown inside) known] at above
      have reached : share.le (distribution.pick share).2 = true :=
        le_pick (Nat.lt_of_le_of_lt earlier bound)
      exact above (Binary64.le_trans reached
        (ascending.share_le cumulative (Nat.le_of_lt_succ earlier) inside))

theorem Strict.value_ne (strict : distribution.Strict) {index later : Nat} (before : index < later)
    (bound : later < distribution.points.length) :
    distribution.points[index].1 ≠ distribution.points[later].1 := by
  intro same
  have inside := Nat.lt_trans before bound
  have less := List.pairwise_iff_getElem.mp strict index later inside bound before
  rw [same] at less
  exact Binary64.lt_irrefl _ less

/-- Where all values differ, a value tells the point that it was looked up in. -/
theorem Strict.quantile_eq_iff (strict : distribution.Strict) (share : Binary64) {index : Nat}
    (bound : index < distribution.points.length) :
    distribution.quantile share = distribution.points[index].1 ↔ distribution.rank share = index := by
  rw [quantile_eq_pick]
  constructor
  · intro same
    rcases Nat.lt_trichotomy (distribution.rank share) index with before | equal | behind
    · exact absurd same (strict.value_ne before bound)
    · exact equal
    · exact absurd same.symm (strict.value_ne behind (distribution.rank_lt share))
  · rintro rfl
    rfl

/-- A drawn share is a number. -/
theorem fraction53_ne_nan (draw : UInt64) : Draws.fraction53 draw ≠ .nan := by
  intro nan
  have stands := Binary64.place?_ofQuotient false ((draw.toNat >>> 11) * Binary64.one) (1 <<< 53)
  rw [Draws.fraction53] at nan
  rw [nan] at stands
  cases stands

/-- Of ascending values, a larger share never has the smaller one. If the shares ascend too, a share
that is reached has a value of at most `value` just if some point up to `value` reaches it, that is, if
the share of cases up to `value` does; a share above the last one, or what is no share, has the last
value. And where no value stands twice, a drawn value is that of the point to which the draw falls. -/
theorem quantile_inverts (ascending : distribution.Ascending) :
    (∀ share larger, share.le larger = true →
      (distribution.quantile share).le (distribution.quantile larger) = true) ∧
    (distribution.Cumulative →
      (∀ share, share.le distribution.last.2 = true → ∀ value,
        ((distribution.quantile share).le value = true ↔
          ∃ point ∈ distribution.points, point.1.le value = true ∧ share.le point.2 = true) ∧
        ((distribution.quantile share).le value = true ↔
          ∃ most, distribution.ShareUpTo value most ∧ share.le most = true)) ∧
      (∀ share, distribution.last.2.lt share = true ∨ share = .nan →
        distribution.quantile share = distribution.last.1) ∧
      (distribution.Strict →
        ∀ draws index, ∀ bound : index < distribution.points.length,
          (distribution.sample draws).1 = distribution.points[index].1 ↔
            distribution.FallsTo index (Draws.fraction53 draws.next.1))) := by
  refine ⟨fun _ _ le => ascending.quantile_mono le, fun cumulative => ⟨?_, ?_, ?_⟩⟩
  · intro share within value
    have reached := ascending.quantile_le_iff within value
    exact ⟨reached, reached.trans (ascending.reached_iff share value)⟩
  · intro share outside
    refine ascending.quantile_beyond cumulative ?_
    rcases outside with above | rfl
    · exact Binary64.not_le_of_lt above
    · exact Binary64.not_nan_le _
  · intro strict draws index bound
    rw [sample, strict.quantile_eq_iff _ bound]
    exact ascending.rank_eq_iff cumulative (fraction53_ne_nan _) bound

/-- Three values, up to each of which a quarter of the cases more is told. -/
def quarters : Distribution where
  points := [(.ofInt 64, .ofInt 1 / .ofInt 4), (.ofInt 128, .ofInt 1 / .ofInt 2),
    (.ofInt 256, .ofInt 3 / .ofInt 4)]
  nonempty := List.cons_ne_nil _ _

/-- The middle one of three values is drawn by the shares above a quarter, up to a half. -/
theorem quantile_inverts_quarters :
    quarters.Ascending ∧ quarters.Cumulative ∧ quarters.Strict ∧
      ∀ draws, (quarters.sample draws).1 = quarters.points[1].1 ↔
        quarters.FallsTo 1 (Draws.fraction53 draws.next.1) := by
  have ascending : quarters.Ascending := ⟨by decide +kernel, by decide +kernel⟩
  have cumulative : quarters.Cumulative := by unfold Cumulative; decide +kernel
  have strict : quarters.Strict := by unfold Strict; decide +kernel
  refine ⟨ascending, cumulative, strict, fun draws => ?_⟩
  exact ((quantile_inverts ascending).2 cumulative).2.2 strict draws 1 _

end LoadProbe.Distribution
