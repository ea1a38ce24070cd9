import LoadProbe.Emulation.Allocator

/-!
Buffers and their pages. There is a buffer for every number of MiB whose bytes a signed word counts,
and its pages are written at their starts, all within it and none twice. Main statement:
`allocate?_decided`, for every number of MiB.
-/
namespace LoadProbe.Footprint

/-- The offsets from one on, a page apart, that are below the size of a buffer. -/
def offsetsFrom (bytes offset : Nat) : List Nat :=
  if offset < bytes then offset :: offsetsFrom bytes (offset + page) else []
termination_by bytes - offset
decreasing_by
  have unit : page = 4096 := rfl
  omega

/-- A buffer is made of pages, and each one is written at its start and at no other place. -/
structure Swept (bytes pages : Nat) : Prop where
  whole : bytes = pages * 4096
  /-- What is written is what steps of a page meet from the first byte on. -/
  steps : touched bytes = offsetsFrom bytes 0
  starts : touched bytes = (List.range pages).map (4096 * ·)
  inside : ∀ offset ∈ touched bytes, offset < bytes
  once : ∀ number < pages, (touched bytes).countP (fun offset => offset / 4096 = number) = 1
  /-- All writes succeed, and the buffer keeps its size. -/
  filled : ∃ buffer, sweep? bytes = some buffer ∧ buffer.length = bytes ∧
    ∀ place < bytes, buffer[place]? = some (if place % 4096 = 0 then 1 else 0)

/-- There is a buffer for less than `2^43` MiB, and it has all of their bytes. -/
theorem allocate?_eq_some_iff {mib : UInt64} {bytes : Nat} :
    allocate? mib = some bytes ↔
      mib.toNat ≤ (1 <<< 43) - 1 ∧ bytes = mib.toNat * (1 <<< 20) := by
  have bound := mib.toNat_lt_size
  have words : UInt64.size = 1 <<< 64 := by decide
  have most : largest = (1 <<< 63) - 1 := by decide
  have unit : mebibyte = 1 <<< 20 := by decide
  unfold allocate? bytesOf
  rw [words] at *
  rw [most, unit, Option.ite_none_right_eq_some, Option.some.injEq]
  omega

/-- There is no buffer for more, and none of a smaller size stands in for it. -/
theorem allocate?_eq_none_iff {mib : UInt64} : allocate? mib = none ↔ 1 <<< 43 ≤ mib.toNat := by
  rw [Option.eq_none_iff_forall_ne_some]
  constructor
  · intro none
    rw [← Nat.not_lt]
    intro few
    exact none _ (allocate?_eq_some_iff.mpr ⟨by omega, rfl⟩)
  · intro many bytes made
    have few := (allocate?_eq_some_iff.mp made).1
    omega

/-- The steps that are left from an offset on are as many as pages begin from there on. -/
theorem offsetsFrom_eq (bytes offset : Nat) :
    offsetsFrom bytes offset =
      (List.range ((bytes - offset + (page - 1)) / page)).map (offset + · * page) := by
  have unit : page = 4096 := rfl
  induction offset using offsetsFrom.induct bytes with
  | case1 offset before ih =>
    have pages : (bytes - offset + (page - 1)) / page =
        (bytes - (offset + page) + (page - 1)) / page + 1 := by
      rw [unit]
      omega
    have later (count : Nat) : offset + page + count * page = offset + (count + 1) * page := by
      rw [Nat.succ_mul]
      omega
    rw [offsetsFrom, if_pos before, ih, pages, List.range_succ_eq_map, List.map_cons, List.map_map]
    simp only [Nat.zero_mul, Nat.add_zero, later, Function.comp_def]
  | case2 offset beyond =>
    have none : (bytes - offset + (page - 1)) / page = 0 := by
      rw [unit]
      omega
    rw [offsetsFrom, if_neg beyond, none]
    rfl

theorem touched_eq_offsetsFrom (bytes : Nat) : touched bytes = offsetsFrom bytes 0 := by
  simp only [offsetsFrom_eq, touched, Nat.sub_zero, Nat.zero_add]

theorem mem_touched_iff {bytes offset : Nat} :
    offset ∈ touched bytes ↔ offset < bytes ∧ offset % 4096 = 0 := by
  have unit : page = 4096 := rfl
  simp only [touched, unit, List.mem_map, List.mem_range]
  constructor
  · rintro ⟨number, before, rfl⟩
    omega
  · rintro ⟨inside, start⟩
    exact ⟨offset / 4096, by omega, by omega⟩

/-- Where a buffer is all pages, each of them is written at its start. -/
theorem touched_mul (pages : Nat) :
    touched (pages * 4096) = (List.range pages).map (4096 * ·) := by
  have unit : page = 4096 := rfl
  have whole : (pages * 4096 + (4096 - 1)) / 4096 = pages := by omega
  simp only [touched, unit, whole, Nat.mul_comm]

/-- Writes within a buffer all succeed. They keep its size and every byte but those that they write. -/
theorem foldlM_write? {offsets : List Nat} {buffer : List UInt8}
    (inside : ∀ offset ∈ offsets, offset < buffer.length) :
    ∃ written, offsets.foldlM write? buffer = some written ∧ written.length = buffer.length ∧
      ∀ place < buffer.length,
        written[place]? = if place ∈ offsets then some 1 else buffer[place]? := by
  induction offsets generalizing buffer with
  | nil => exact ⟨buffer, rfl, rfl, fun place _ => by simp⟩
  | cons first rest ih =>
    have here : write? buffer first = some (buffer.set first 1) :=
      if_pos (inside first List.mem_cons_self)
    have later : ∀ offset ∈ rest, offset < (buffer.set first 1).length := by
      intro offset member
      rw [List.length_set]
      exact inside offset (List.mem_cons_of_mem first member)
    obtain ⟨written, wrote, length, bytes⟩ := ih later
    rw [List.length_set] at length bytes
    refine ⟨written, ?_, length, fun place bound => ?_⟩
    · rw [List.foldlM_cons, here]
      exact wrote
    · rw [bytes place bound]
      -- A byte that is written again later is a one as well.
      by_cases again : place ∈ rest
      · simp [again]
      · by_cases same : place = first
        · subst same
          simp [bound]
        · simp [again, same, List.getElem?_set_ne (Ne.symm same)]

/-- The buffer that is swept has a one at the start of each page, and zeros elsewhere. -/
theorem sweep?_eq (bytes : Nat) :
    ∃ buffer, sweep? bytes = some buffer ∧ buffer.length = bytes ∧
      ∀ place < bytes, buffer[place]? = some (if place % 4096 = 0 then 1 else 0) := by
  have inside : ∀ offset ∈ touched bytes, offset < (List.replicate bytes (0 : UInt8)).length :=
    fun offset member => List.length_replicate ▸ (mem_touched_iff.mp member).1
  obtain ⟨buffer, swept, length, written⟩ := foldlM_write? inside
  rw [List.length_replicate] at length written
  refine ⟨buffer, swept, length, fun place bound => ?_⟩
  rw [written place bound]
  by_cases start : place % 4096 = 0 <;>
    simp [mem_touched_iff, bound, start]

theorem countP_touched {pages number : Nat} (before : number < pages) :
    (touched (pages * 4096)).countP (fun offset => offset / 4096 = number) = 1 := by
  have same : ((fun offset => decide (offset / 4096 = number)) ∘ fun count => 4096 * count) =
      (· == number) := by
    funext count
    rw [Function.comp_apply, Nat.mul_div_cancel_left count (by decide)]
    rfl
  rw [touched_mul, List.countP_map, same]
  exact List.count_range.trans (if_pos before)

theorem swept_pages (pages : Nat) : Swept (pages * 4096) pages where
  whole := rfl
  steps := touched_eq_offsetsFrom _
  starts := touched_mul pages
  inside _ member := (mem_touched_iff.mp member).1
  once _ before := countP_touched before
  filled := sweep?_eq _

/-- Memory that is taken within the service fails with a message of its own where it has no buffer. -/
theorem allocate_refused {allocator : Allocator} {mib : UInt64} (own : allocator = .inProcess)
    (none : allocate? mib = none) (tree : FileTree) :
    allocator.allocate mib tree = (.error (taskFailure "capacity overflow"), tree) := by
  unfold Allocator.allocate
  -- The buffers stay closed here, or their bytes would be counted one by one.
  obtain ⟨allocate?, closed⟩ : ∃ allocate?, Footprint.allocate? = allocate? := ⟨_, rfl⟩
  rw [closed] at none ⊢
  subst own
  simp only [none]
  rfl

/-- A number of MiB from `2^43` on has no buffer, and who asks for one is told that it would be too
large. Any smaller number has a buffer of exactly its bytes, of which every page is written once. -/
theorem allocate?_decided (mib : UInt64) :
    (1 <<< 43 ≤ mib.toNat ∧ allocate? mib = none ∧ ∀ tree,
      Allocator.inProcess.allocate mib tree = (.error (taskFailure "capacity overflow"), tree)) ∨
    (mib.toNat < 1 <<< 43 ∧ allocate? mib = some (mib.toNat * (1 <<< 20)) ∧
      Swept (mib.toNat * (1 <<< 20)) (mib.toNat * 256)) := by
  rcases Nat.lt_or_ge mib.toNat (1 <<< 43) with few | many
  · have bytes : mib.toNat * (1 <<< 20) = mib.toNat * 256 * 4096 := by omega
    refine .inr ⟨few, allocate?_eq_some_iff.mpr ⟨by omega, rfl⟩, ?_⟩
    rw [bytes]
    exact swept_pages _
  · have none := allocate?_eq_none_iff.mpr many
    exact .inl ⟨many, none, fun tree => allocate_refused rfl none tree⟩

end LoadProbe.Footprint
